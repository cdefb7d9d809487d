/-
**The order of numbers.**

Two binary numbers are ordered unless one of them is undefined, and turning them round turns their
order round.  The undefined number comes from nowhere but itself: no integer and no decimal has it
as its binary number, so two numbers fail to be ordered only where one of them is undefined
already.

Main definitions:

* `Numeric.isNaN` — the number is the undefined one.

Main results:

* `Binary.compare?_swap`, `Numeric.cmp?_swap` — the order the other way round;
* `Binary.compare?_eq_none_iff`, `Numeric.cmp?_eq_none_iff` — **only the undefined number has no
  order**;
* `Binary.isNaN_ofRatio`, `Decimal.isNaN_toFloat` — roundings of numbers are defined.
-/

import Mathlib
import EventQuery.Value.Coercion

set_option relaxedAutoImplicit false
set_option autoImplicit false

namespace EventQuery

-- Powers are those of the core library, whatever other instances are in scope.
attribute [local instance (2000)] instPowNat

open Float.Model (UnpackedFloat Format)

namespace Binary

/-! ### Order -/

section Unpacked

variable (x y : UnpackedFloat)

theorem compare_swap_sign (s t : UnpackedFloat.Sign) : (compare s t).swap = compare t s := by
  cases s <;> cases t <;> rfl

/-- Numbers taken apart have the opposite order the other way round. -/
theorem compare_swap_unpacked : (x.compare y).map Ordering.swap = y.compare x := by
  rcases x with (_ | _) | - | (_ | _) | ⟨_ | _, m, e, hm⟩ <;>
    rcases y with (_ | _) | - | (_ | _) | ⟨_ | _, n, f, hn⟩ <;>
    simp [UnpackedFloat.compare, compare_swap_sign, Ordering.swap_then, Int.compare_swap,
      Nat.compare_swap]

theorem compare_eq_none_iff_unpacked :
    x.compare y = none ↔ x.isNaN = true ∨ y.isNaN = true := by
  rcases x with (_ | _) | - | (_ | _) | ⟨_ | _, m, e, hm⟩ <;>
    rcases y with (_ | _) | - | (_ | _) | ⟨_ | _, n, f, hn⟩ <;>
    simp [UnpackedFloat.compare, UnpackedFloat.isNaN]

end Unpacked

theorem beq_iff_compare {x y : Float} :
    (x == y) = true ↔ x.toModel.unpack.compare y.toModel.unpack = some .eq := by
  change (x.toModel.unpack.compare y.toModel.unpack == some .eq) = true ↔ _
  exact beq_iff_eq

/-- The three tests together are the comparison of the numbers taken apart. -/
theorem compare?_eq (x y : Float) :
    compare? x y = x.toModel.unpack.compare y.toModel.unpack := by
  have hlt : ∀ x y : Float, x < y ↔ x.toModel.unpack.compare y.toModel.unpack = some .lt := by
    intro x y
    change decide (x.toModel < y.toModel) = true ↔ _
    rw [decide_eq_true_iff]
    exact beq_iff_eq
  have hswap := compare_swap_unpacked x.toModel.unpack y.toModel.unpack
  simp only [compare?, hlt, beq_iff_compare, ← hswap]
  cases x.toModel.unpack.compare y.toModel.unpack with
  | none => rfl
  | some o => cases o <;> rfl

theorem compare?_swap (x y : Float) : (compare? x y).map Ordering.swap = compare? y x := by
  rw [compare?_eq, compare?_eq, compare_swap_unpacked]

/-- **Only the undefined number has no order** with another one. -/
theorem compare?_eq_none_iff {x y : Float} :
    compare? x y = none ↔ x.isNaN = true ∨ y.isNaN = true := by
  rw [compare?_eq]
  exact compare_eq_none_iff_unpacked _ _

/-! ### The undefined number -/

/-- Whether a number is undefined is seen from its bits. -/
theorem isNaN_unpack (b : BitVec Format.binary64.numBits) :
    (UnpackedFloat.unpack .binary64 b).isNaN = UnpackedFloat.isNaNBits b := by
  rw [UnpackedFloat.unpack, UnpackedFloat.isNaNBits]
  by_cases he : UnpackedFloat.unpackExponent b = -1#_
  · by_cases hm : UnpackedFloat.unpackMantissa b = 0#_ <;> simp [he, hm, UnpackedFloat.isNaN]
  · rw [if_neg he, decide_eq_false fun h => he h.1]
    split
    · split <;> rfl
    · rfl

/-- A number that is stored is undefined only if it was so before. -/
theorem isNaN_pack (f : UnpackedFloat) : (Float.Model.pack f).isNaN = f.isNaN := by
  change (UnpackedFloat.unpack .binary64 (UnpackedFloat.pack .binary64 f)).isNaN = f.isNaN
  rw [isNaN_unpack]
  fun_cases UnpackedFloat.pack .binary64 f with
  | case1 => exact UnpackedFloat.isNaNBits_packedNaN
  | case2 s => simp [UnpackedFloat.isNaNBits, UnpackedFloat.packedInfinity, UnpackedFloat.isNaN]
  | case3 s => simp [UnpackedFloat.isNaNBits, UnpackedFloat.packedZero, UnpackedFloat.isNaN]
  | case4 s m e hm biased h =>
      simp [UnpackedFloat.isNaNBits, UnpackedFloat.packedInfinity, UnpackedFloat.isNaN]
  | case5 s m e hm bits biased hlt hbits =>
      -- the exponent of a finite number stays below the greatest one
      have hlt : biased + 1 < 2048 := Nat.lt_of_not_le hlt
      have hexp : BitVec.ofNat 11 biased ≠ 2047#11 := by
        intro h
        have := congrArg BitVec.toNat h
        simp only [BitVec.toNat_ofNat] at this
        omega
      rw [UnpackedFloat.isNaNBits, UnpackedFloat.unpackExponent_packComponents]
      exact decide_eq_false fun h => hexp h.1
  | case6 s m e hm bits biased hlt hbits => simp [UnpackedFloat.isNaNBits, UnpackedFloat.isNaN]

theorem isNaN_neg (x : Float) : (-x).isNaN = x.isNaN := by
  change (Float.Model.pack x.toModel.unpack.neg).isNaN = x.toModel.unpack.isNaN
  rw [isNaN_pack]
  cases x.toModel.unpack <;> rfl

/-- Bits up to those of the infinite number are not those of the undefined one, with either sign. -/
theorem isNaN_ofBits_of_le (negative : Bool) {bits : Nat} (h : bits ≤ 2047 * leadingBit) :
    (Float.ofBits (UInt64.ofNat (if negative then signBit + bits else bits))).isNaN = false := by
  change (Float.Model.pack _).isNaN = false
  rw [isNaN_pack, isNaN_unpack]
  refine decide_eq_false ?_
  rintro ⟨hexp, hmant⟩
  replace hexp := congrArg BitVec.toNat hexp
  replace hmant := fun h => hmant (BitVec.eq_of_toNat_eq h)
  simp [UnpackedFloat.unpackExponent, UnpackedFloat.unpackMantissa, Nat.shiftRight_eq_div_pow]
    at hexp hmant
  simp only [leadingBit, signBit] at *
  cases negative <;> simp at hexp hmant <;> omega

theorem magnitudeBits_le (num den : Nat) : magnitudeBits num den ≤ 2047 * leadingBit := by
  have hcap : ∀ bits cap : Nat, (if bits < cap then bits else cap) ≤ cap := by
    intro bits cap
    split
    · exact Nat.le_of_lt ‹_›
    · exact Nat.le_refl cap
  unfold magnitudeBits
  split
  · exact Nat.zero_le _
  · exact hcap _ _

/-- **The number nearest to a ratio is defined.** -/
theorem isNaN_ofRatio (negative : Bool) (num den : Nat) :
    (ofRatio negative num den).isNaN = false :=
  isNaN_ofBits_of_le negative (magnitudeBits_le num den)

/-- A quotient by a finite number other than zero is defined if the dividend is. -/
theorem isNaN_div {x y : Float} (hx : x.isNaN = false) {s : UnpackedFloat.Sign} {m : Nat} {e : Int}
    {hm : 0 < m} (hy : y.toModel.unpack = .finite s m e hm) : (x / y).isNaN = false := by
  change (Float.Model.pack (UnpackedFloat.div .binary64 x.toModel.unpack y.toModel.unpack)).isNaN
    = false
  replace hx : x.toModel.unpack.isNaN = false := hx
  rw [isNaN_pack, hy]
  cases hu : x.toModel.unpack with
  | infinity t => rfl
  | notANumber => rw [hu] at hx; exact hx
  | zero t => rfl
  | finite t n f hn =>
      simp only [UnpackedFloat.div, UnpackedFloat.roundWithAccuracy]
      split <;> rfl

end Binary

namespace Decimal

/-- The powers of ten by which decimals are scaled are finite and not zero. -/
theorem exists_power_finite {scale : Nat} (h : scale ≤ 28) :
    ∃ (s : UnpackedFloat.Sign) (m : Nat) (e : Int) (hm : 0 < m),
      (Binary.ofRatio false (10 ^ scale) 1).toModel.unpack = .finite s m e hm := by
  have hall : ∀ scale ≤ 28,
      (Binary.ofRatio false (10 ^ scale) 1).toModel.unpack.compare (.zero .positive) = some .gt ∧
      (Binary.ofRatio false (10 ^ scale) 1).toModel.unpack.isInf = false := by
    decide
  obtain ⟨hpos, hinf⟩ := hall scale h
  cases hu : (Binary.ofRatio false (10 ^ scale) 1).toModel.unpack with
  | infinity s => simp [hu, UnpackedFloat.isInf] at hinf
  | notANumber => simp [hu, UnpackedFloat.compare] at hpos
  | zero s => simp [hu, UnpackedFloat.compare] at hpos
  | finite s m e hm => exact ⟨s, m, e, hm, rfl⟩

/-- **The binary number of a decimal is defined.** -/
theorem isNaN_toFloat (d : Decimal) : d.toFloat.isNaN = false := by
  have hflip : ∀ x : Float, x.isNaN = false → (if d.negative then -x else x).isNaN = false := by
    intro x hx
    split
    · rw [Binary.isNaN_neg, hx]
    · exact hx
  unfold toFloat
  dsimp only
  split
  · exact Binary.isNaN_ofRatio _ _ _
  · split
    · exact hflip _ (Binary.isNaN_ofRatio _ _ _)
    · obtain ⟨s, m, e, hm, hfinite⟩ := exists_power_finite d.scale_le
      exact hflip _ (Binary.isNaN_div (Binary.isNaN_ofRatio _ _ _) hfinite)

end Decimal

/-! ### Numbers of the three kinds -/

namespace Numeric

/-- **The undefined number.** -/
def isNaN : Numeric → Bool
  | .real x => x.isNaN
  | _ => false

theorem isNaN_toFloat (n : Numeric) : n.toFloat.isNaN = n.isNaN := by
  cases n with
  | long n => exact Binary.isNaN_ofRatio _ _ _
  | real x => rfl
  | decimal d => exact d.isNaN_toFloat

theorem cmp?_swap (m n : Numeric) : (m.cmp? n).map Ordering.swap = n.cmp? m := by
  cases m <;> cases n <;>
    simp [cmp?, toFloat, Binary.compare?_swap, Decimal.cmp_swap, Int.compare_swap]

/-- **Only the undefined number has no order** with another one. -/
theorem cmp?_eq_none_iff {m n : Numeric} :
    m.cmp? n = none ↔ m.isNaN = true ∨ n.isNaN = true := by
  cases m <;> cases n <;>
    simp only [cmp?, Binary.compare?_eq_none_iff, isNaN_toFloat, isNaN, reduceCtorEq,
      Bool.false_eq_true, or_false]

end Numeric

end EventQuery
