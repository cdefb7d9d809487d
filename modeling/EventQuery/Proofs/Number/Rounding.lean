/-
**Natural numbers as binary numbers.**

A natural number of 53 significant bits is a binary number exactly.  Any other one becomes the
nearest of these when it is converted, and so does a product when it is taken.

Main definitions:

* `Binary.Holds` — **a binary number is a natural number**.

Main results:

* `Binary.holds_ofRatio` — converting gives the nearest number;
* `Binary.Holds.mul` — **a product is the number nearest to the product**;
* `Binary.Holds.roundHalfAway?`, `Binary.Holds.lt_iff` — rounding to an integer, and the order.
-/

import EventQuery.Proofs.Number.Nearest
import Mathlib

set_option relaxedAutoImplicit false
set_option autoImplicit false

namespace EventQuery

-- Powers are those of the core library, whatever other instances are in scope.
attribute [local instance (2000)] instPowNat

open Float.Model (UnpackedFloat Format)

namespace Binary

/-! ### Bits that are shifted out -/

section Shift

open Float.Model.UnpackedFloat (ExtendedMantissa Accuracy)

/-- **What is left of a number** without its last bits, and what the two bits behind tell of these:
whether they come to half a unit, and whether they are something else than nothing and a half. -/
structure Shifted (n k : Nat) (em : ExtendedMantissa) : Prop where
  mantissa : em.mantissa = n / 2 ^ k
  round : em.roundBit = decide (2 ^ k ≤ 2 * (n % 2 ^ k))
  sticky : em.stickyBit = decide (n % 2 ^ k ≠ 0 ∧ 2 * (n % 2 ^ k) ≠ 2 ^ k)

theorem shifted_zero (n : Nat) : Shifted n 0 (ExtendedMantissa.ofMantissaAndAccuracy n .exact) := by
  refine ⟨?_, ?_, ?_⟩ <;> simp [ExtendedMantissa.ofMantissaAndAccuracy, Nat.mod_one]

theorem Shifted.succ {n k : Nat} {em : ExtendedMantissa} (h : Shifted n k em) :
    Shifted n (k + 1) em.shiftRightOne := by
  have hpos := Nat.two_pow_pos k
  have hrest : n % 2 ^ k < 2 ^ k := Nat.mod_lt _ hpos
  have hmod : n % 2 ^ (k + 1) = 2 ^ k * (n / 2 ^ k % 2) + n % 2 ^ k := by
    rw [Nat.pow_succ, Nat.mod_mul, Nat.add_comm]
  have hbit : n / 2 ^ k % 2 = 0 ∨ n / 2 ^ k % 2 = 1 := Nat.mod_two_eq_zero_or_one _
  refine ⟨?_, ?_, ?_⟩
  · rw [ExtendedMantissa.shiftRightOne, h.mantissa, Nat.pow_succ, Nat.div_div_eq_div_mul]
  · rw [ExtendedMantissa.shiftRightOne, h.mantissa, hmod, Nat.pow_succ]
    generalize 2 ^ k = p at *
    rcases hbit with hbit | hbit <;> rw [hbit]
    · simp
      omega
    · simp
      omega
  · rw [ExtendedMantissa.shiftRightOne, h.round, h.sticky, hmod, Nat.pow_succ]
    generalize 2 ^ k = p at *
    rw [← Bool.decide_or, decide_eq_decide]
    rcases hbit with hbit | hbit <;> rw [hbit] <;> omega

theorem shifted_shiftRight (n k : Nat) :
    Shifted n k (ExtendedMantissa.ofMantissaAndAccuracy n .exact >>> k) := by
  change Shifted n k (k.repeat ExtendedMantissa.shiftRightOne _)
  induction k with
  | zero => exact shifted_zero n
  | succ k ih => exact ih.succ

/-- **Rounding by the two bits** gives the nearest integer. -/
theorem Shifted.roundedMantissa {n k : Nat} {em : ExtendedMantissa} (h : Shifted n k em) :
    em.roundedMantissa = nearestEven n (2 ^ k) := by
  obtain ⟨mantissa, round, sticky⟩ := em
  obtain ⟨hm, hr, hs⟩ := h
  dsimp only at hm hr hs
  subst hm
  have hpos := Nat.two_pow_pos k
  have hrest : n % 2 ^ k < 2 ^ k := Nat.mod_lt _ hpos
  rw [nearestEven]
  generalize 2 ^ k = p at *
  cases round <;> cases sticky <;>
    simp only [eq_comm (a := false), eq_comm (a := true), decide_eq_true_eq,
      decide_eq_false_iff_not] at hr hs <;>
    simp only [ExtendedMantissa.roundedMantissa, ExtendedMantissa.accuracy,
      Accuracy.roundToNearestEven]
  · rw [if_pos (by omega)]
  · rw [if_pos (by omega)]
  · rw [if_neg (by omega), if_neg (by omega)]
  · rw [if_neg (by omega), if_pos (by omega)]

end Shift

/-! ### Rounding in the model of binary numbers -/

theorem log2_of_53_bits {m : Nat} (hlow : 2 ^ 52 ≤ m) (hhigh : m < 2 ^ 53) : m.log2 = 52 :=
  (Nat.log2_eq_iff (by omega)).2 ⟨hlow, hhigh⟩

/-- Powers of two make nothing of nothing. -/
theorem pos_of_mul_two_pow_eq {a n u v : Nat} (ha : 0 < a) (h : a * 2 ^ u = n * 2 ^ v) : 0 < n := by
  have hproduct : 0 < a * 2 ^ u := Nat.mul_pos ha (Nat.two_pow_pos u)
  rw [h] at hproduct
  exact Nat.pos_of_mul_pos_right hproduct

/-- **A mantissa of 53 bits with a carry**: the nearest number of `n` as a mantissa below `2 ^ 53`
and a power of two. -/
theorem exists_canonical {n : Nat} (h : 0 < n) : ∃ m j, 2 ^ 52 ≤ m ∧ m < 2 ^ 53 ∧ j ≤ n.log2 + 1
    ∧ m * 2 ^ j = nearest n * 2 ^ 52 ∧ j * 2 ^ 52 + m = n.log2 * 2 ^ 52 + mantissa n
    ∧ (mantissa n = m ∧ j = n.log2 ∨ mantissa n = 2 ^ 53 ∧ m = 2 ^ 52 ∧ j = n.log2 + 1) := by
  obtain ⟨hlow, hhigh⟩ := mantissa_bounds h
  have hmul := mantissa_mul n
  rcases Nat.lt_or_eq_of_le hhigh with hlt | heq
  · exact ⟨mantissa n, n.log2, hlow, hlt, by omega, hmul, rfl, .inl ⟨rfl, rfl⟩⟩
  · refine ⟨2 ^ 52, n.log2 + 1, by omega, by omega, by omega, ?_, by omega, .inr ⟨heq, rfl, rfl⟩⟩
    rw [← hmul, heq, Nat.pow_succ 2 n.log2, Nat.pow_succ 2 52]
    omega

section Round

open Float.Model (totalExponent)
open Float.Model.UnpackedFloat (shiftToTargetExponent shiftToExponent roundWithAccuracy)

/-- The exponent for 53 bits, where it is not a least one. -/
theorem targetExponent_eq {m : Nat} {e : Int} (h : -1000 ≤ e) :
    Format.binary64.targetExponent (totalExponent m e) = (m.log2 : Int) - 52 + e := by
  have hmin : Format.binary64.minExponent = -1074 := by decide
  have hbits : Format.binary64.mantissaBits = 53 := rfl
  rw [Format.targetExponent, totalExponent, hmin, hbits]
  omega

/-- Shifting a number to 53 bits rounds it to the nearest one of them. -/
theorem shiftToTargetExponent_eq {m : Nat} {e : Int} (hm : 2 ^ 52 ≤ m) (he : -1000 ≤ e) :
    (shiftToTargetExponent .binary64 m e .exact).1.roundedMantissa
      = nearestEven m (2 ^ (m.log2 - 52))
    ∧ (shiftToTargetExponent .binary64 m e .exact).1.mantissa = m / 2 ^ (m.log2 - 52)
    ∧ (shiftToTargetExponent .binary64 m e .exact).2 = e + (m.log2 - 52 : Nat) := by
  have hlog : 52 ≤ m.log2 := (Nat.le_log2 (by omega)).2 hm
  have hamount : ((m.log2 : Int) - 52 + e - e).toNat = m.log2 - 52 := by omega
  have hshift := shifted_shiftRight m (m.log2 - 52)
  simp only [shiftToTargetExponent, shiftToExponent, targetExponent_eq he, hamount]
  exact ⟨hshift.roundedMantissa, hshift.mantissa, trivial⟩

/-- A power of two moves the first bit. -/
theorem log2_mul_two_pow {n : Nat} (hn : 0 < n) (k : Nat) : (n * 2 ^ k).log2 = n.log2 + k := by
  have hpos := Nat.two_pow_pos k
  have hne : n * 2 ^ k ≠ 0 := Nat.mul_ne_zero (by omega) (by omega)
  rw [Nat.log2_eq_iff hne]
  refine ⟨?_, ?_⟩
  · rw [Nat.pow_add]
    exact Nat.mul_le_mul_right _ (Nat.log2_self_le (by omega))
  · rw [Nat.add_right_comm, Nat.pow_add]
    exact (Nat.mul_lt_mul_right hpos).2 Nat.lt_log2_self

/-- Numbers that differ by a power of two have one mantissa. -/
theorem nearestEven_eq_mantissa {a n u v : Nat} (ha : 2 ^ 52 ≤ a) (hv : 52 ≤ v)
    (h : a * 2 ^ u = n * 2 ^ v) :
    nearestEven a (2 ^ (a.log2 - 52)) = mantissa n ∧ a.log2 + u = n.log2 + v := by
  have hu := Nat.two_pow_pos u
  have hn : 0 < n := pos_of_mul_two_pow_eq (by omega) h
  have hlog : a.log2 + u = n.log2 + v := by
    rw [← log2_mul_two_pow (by omega), ← log2_mul_two_pow hn, h]
  have hfirst : 52 ≤ a.log2 := (Nat.le_log2 (by omega)).2 ha
  have hsplit : n * 2 ^ v = n * 2 ^ 52 * 2 ^ (v - 52) := by
    rw [Nat.mul_assoc, ← Nat.pow_add, Nat.add_sub_cancel' hv]
  have hshift : a.log2 - 52 + u = n.log2 + (v - 52) := by omega
  refine ⟨?_, hlog⟩
  rw [← nearestEven_mul a _ hu, h, ← Nat.pow_add, hshift, hsplit, Nat.pow_add,
    nearestEven_mul _ _ (Nat.two_pow_pos _), mantissa]

/-- **Rounding in the model** gives the nearest number, whatever power of two comes with it. -/
theorem roundWithAccuracy_eq {a n u v : Nat} (ha : 2 ^ 52 ≤ a) (hv : 52 ≤ v) (hv' : v ≤ 500)
    (h : a * 2 ^ u = n * 2 ^ v) : ∃ m j hm, 2 ^ 52 ≤ m ∧ m < 2 ^ 53 ∧ j ≤ n.log2 + 1
      ∧ m * 2 ^ j = nearest n * 2 ^ 52
      ∧ roundWithAccuracy .binary64 .positive a ((u : Int) - v) .exact
        = .finite .positive m ((j : Int) - 52) hm := by
  obtain ⟨hround, hlog⟩ := nearestEven_eq_mantissa ha hv h
  have hfirst : 52 ≤ a.log2 := (Nat.le_log2 (by omega)).2 ha
  have hn : 0 < n := pos_of_mul_two_pow_eq (by omega) h
  obtain ⟨m, j, hlow, hhigh, hj, hvalue, -, hcarry⟩ := exists_canonical hn
  obtain ⟨hlow', hhigh'⟩ := mantissa_bounds hn
  obtain ⟨hfirstRound, -, hfirstExp⟩ :=
    shiftToTargetExponent_eq (e := (u : Int) - v) ha (by omega)
  rw [hround] at hfirstRound
  -- The second shift takes the carry, if there is one.
  obtain ⟨-, hsecond, hsecondExp⟩ := shiftToTargetExponent_eq (m := mantissa n)
    (e := (u : Int) - v + (a.log2 - 52 : Nat)) hlow' (by omega)
  have hmantissa : mantissa n / 2 ^ ((mantissa n).log2 - 52) = m := by
    rcases hcarry with ⟨rfl, -⟩ | ⟨heq, rfl, -⟩
    · rw [log2_of_53_bits hlow' hhigh, Nat.sub_self, Nat.pow_zero, Nat.div_one]
    · rw [heq, Nat.log2_two_pow]
      rfl
  have hexponent : (u : Int) - v + (a.log2 - 52 : Nat) + ((mantissa n).log2 - 52 : Nat)
      = (j : Int) - 52 := by
    rcases hcarry with ⟨rfl, rfl⟩ | ⟨heq, rfl, rfl⟩
    · have hbits := log2_of_53_bits hlow' hhigh
      omega
    · rw [heq, Nat.log2_two_pow]
      omega
  refine ⟨m, j, by omega, hlow, hhigh, hj, hvalue, ?_⟩
  rw [hmantissa] at hsecond
  rw [hexponent] at hsecondExp
  simp only [roundWithAccuracy, hfirstRound, hfirstExp, hsecond, hsecondExp,
    dif_neg (show ¬ m = 0 by omega)]

end Round

/-! ### The bits of a number -/

section Bits

variable {m j : Nat} (hlow : 2 ^ 52 ≤ m) (hhigh : m < 2 ^ 53) (hj : j ≤ 1000)

include hlow hhigh hj

/-- A mantissa of 53 bits is stored without its first bit. -/
theorem toNat_pack (hm : 0 < m) :
    (UnpackedFloat.pack .binary64 (.finite .positive m ((j : Int) - 52) hm)).toNat
      = (j + 1022) * 2 ^ 52 + m := by
  have hlog := log2_of_53_bits hlow hhigh
  have hbias : ((j : Int) - 52 + Format.binary64.exponentBias
      + Format.binary64.mantissaBitsWithoutImplicit).toNat = j + 1023 := by
    have hbias : Format.binary64.exponentBias = 1023 := rfl
    have hwidth : Format.binary64.mantissaBitsWithoutImplicit = 52 := rfl
    rw [hbias, hwidth]
    omega
  have hfits : ¬ 2 ^ Format.binary64.exponentBits ≤ j + 1023 + 1 := by
    change ¬ 2 ^ 11 ≤ _
    omega
  have hbits : m.log2 + 1 = Format.binary64.mantissaBits := by rw [hlog]; rfl
  simp only [UnpackedFloat.pack, hbias, if_neg hfits, if_pos hbits,
    UnpackedFloat.packComponents, BitVec.toNat_append, BitVec.toNat_ofNat]
  have hsign : UnpackedFloat.Sign.positive.toBitVec.toNat = 0 := rfl
  have hrest : m % 2 ^ 52 < 2 ^ 52 := Nat.mod_lt _ (Nat.two_pow_pos 52)
  have hfield : (j + 1023) % 2 ^ 11 = j + 1023 := Nat.mod_eq_of_lt (by omega)
  rw [hsign, Nat.zero_shiftLeft, Nat.zero_or, ← Nat.shiftLeft_add_eq_or_of_lt hrest, hfield,
    Nat.shiftLeft_eq]
  omega

/-- **The bits are taken apart** into this mantissa and exponent. -/
theorem unpack_eq (hm : 0 < m) {b : BitVec Format.binary64.numBits}
    (hb : b.toNat = (j + 1022) * 2 ^ 52 + m) :
    UnpackedFloat.unpack .binary64 b = .finite .positive m ((j : Int) - 52) hm := by
  have hexp : (UnpackedFloat.unpackExponent b).toNat = j + 1023 := by
    simp [UnpackedFloat.unpackExponent, Nat.shiftRight_eq_div_pow, hb]
    omega
  have hmant : (UnpackedFloat.unpackMantissa b).toNat = m - 2 ^ 52 := by
    simp [UnpackedFloat.unpackMantissa, hb]
    omega
  have hsign : UnpackedFloat.unpackSign b = 0#1 := by
    apply BitVec.eq_of_toNat_eq
    simp [UnpackedFloat.unpackSign, Nat.shiftRight_eq_div_pow, hb]
    omega
  have hfull : ¬ UnpackedFloat.unpackExponent b = -1#_ := by
    intro h
    have hnat := congrArg BitVec.toNat h
    rw [hexp] at hnat
    have hones : (-1#_ : BitVec 11).toNat = 2047 := rfl
    exact absurd (hnat.trans hones) (by omega)
  have hzero : ¬ UnpackedFloat.unpackExponent b = 0#_ := by
    intro h
    have hnat := congrArg BitVec.toNat h
    rw [hexp, BitVec.toNat_zero] at hnat
    omega
  simp only [UnpackedFloat.unpack, if_neg hfull, if_neg hzero, hexp, hsign]
  have hfirst : (1#1 ++ UnpackedFloat.unpackMantissa b).toNat = m := by
    rw [BitVec.toNat_append, ← Nat.shiftLeft_add_eq_or_of_lt (BitVec.isLt _), hmant]
    have hone : (1#1).toNat <<< Format.binary64.mantissaBitsWithoutImplicit = 2 ^ 52 := by decide
    omega
  have hexponent : ((j + 1023 : Nat) : Int) - (Format.binary64.exponentBias + (52 : Nat))
      = (j : Int) - 52 := by
    have hbias : Format.binary64.exponentBias = 1023 := rfl
    rw [hbias]
    omega
  have hpositive : UnpackedFloat.Sign.ofBitVec 0#1 = .positive := rfl
  simp only [hfirst, hexponent, hpositive]

end Bits

/-! ### Numbers that are natural numbers -/

/-- **The binary number is a natural number** other than zero: its bits are a mantissa of 53 bits
and a power of two that give it. -/
def Holds (x : Float) (n : Nat) : Prop :=
  ∃ m j, 2 ^ 52 ≤ m ∧ m < 2 ^ 53 ∧ j ≤ 1000 ∧ m * 2 ^ j = n * 2 ^ 52
    ∧ x.toBits.toNat = (j + 1022) * 2 ^ 52 + m

section Holds

variable {x y : Float} {a b : Nat}

/-- A number that is packed holds what its mantissa and exponent give. -/
theorem holds_pack {m j n : Nat} (hm : 0 < m) (hlow : 2 ^ 52 ≤ m) (hhigh : m < 2 ^ 53)
    (hj : j ≤ 1000) (hvalue : m * 2 ^ j = n * 2 ^ 52) :
    Holds (.ofModel (.pack (.finite .positive m ((j : Int) - 52) hm))) n :=
  ⟨m, j, hlow, hhigh, hj, hvalue, toNat_pack hlow hhigh hj hm⟩

/-- A number that is held is taken apart as it was put together. -/
theorem Holds.unpack (h : Holds x a) : ∃ (m j : Nat) (hm : 0 < m), 2 ^ 52 ≤ m ∧ m < 2 ^ 53
    ∧ j ≤ 1000 ∧ m * 2 ^ j = a * 2 ^ 52
    ∧ x.toModel.unpack = .finite .positive m ((j : Int) - 52) hm := by
  obtain ⟨m, j, hlow, hhigh, hj, hvalue, hbits⟩ := h
  have hm : 0 < m := by omega
  exact ⟨m, j, hm, hlow, hhigh, hj, hvalue, unpack_eq hlow hhigh hj hm hbits⟩

/-- Bits are stored as they are. -/
theorem holds_ofBits {m j n bits : Nat} (hlow : 2 ^ 52 ≤ m) (hhigh : m < 2 ^ 53) (hj : j ≤ 1000)
    (hvalue : m * 2 ^ j = n * 2 ^ 52) (hbits : bits = (j + 1022) * 2 ^ 52 + m) :
    Holds (Float.ofBits (UInt64.ofNat bits)) n := by
  have hnat : (UInt64.ofNat bits).toBitVec.toNat = (j + 1022) * 2 ^ 52 + m := by
    change (UInt64.ofNat bits).toNat = _
    rw [UInt64.toNat_ofNat', hbits, Nat.mod_eq_of_lt (by omega)]
  change Holds (.ofModel (.pack (UnpackedFloat.unpack .binary64 (UInt64.ofNat bits).toBitVec))) n
  rw [unpack_eq hlow hhigh hj (by omega) hnat]
  exact holds_pack _ hlow hhigh hj hvalue

end Holds

/-! ### Conversion -/

section Conversion

variable {n : Nat} (hn : 0 < n)

/-- Scaling a number by a power of two near its first bit. -/
theorem scaled_eq (n k : Nat) : 0 < (scaled n 1 ((n.log2 : Int) - k)).2
    ∧ (scaled n 1 ((n.log2 : Int) - k)).1 * 2 ^ n.log2
      = n * 2 ^ k * (scaled n 1 ((n.log2 : Int) - k)).2 := by
  rw [scaled]
  by_cases h : k ≤ n.log2
  · have hamount : ((n.log2 : Int) - k).toNat = n.log2 - k := by omega
    rw [if_pos (by omega), hamount, Nat.one_mul]
    refine ⟨Nat.two_pow_pos _, ?_⟩
    rw [Nat.mul_assoc, ← Nat.pow_add, Nat.add_sub_cancel' h]
  · have hamount : (-((n.log2 : Int) - k)).toNat = k - n.log2 := by omega
    rw [if_neg (by omega), hamount]
    refine ⟨Nat.one_pos, ?_⟩
    rw [Nat.mul_one, Nat.mul_assoc, ← Nat.pow_add, Nat.sub_add_cancel (by omega)]

include hn

/-- **The bits of a natural number** are those of its mantissa, up to the bits of infinity. -/
theorem magnitudeBits_eq_min :
    magnitudeBits n 1 = min ((n.log2 + 1022) * 2 ^ 52 + mantissa n) (2047 * 2 ^ 52) := by
  have hleading : leadingBit = 2 ^ 52 := rfl
  have hlow : max ((n.log2 : Int) - (Nat.log2 1 : Nat) - 53) (-1074)
      = (n.log2 : Int) - (53 : Nat) := by
    have hone : Nat.log2 1 = 0 := rfl
    omega
  have hnext : (n.log2 : Int) - (53 : Nat) + 1 = (n.log2 : Int) - (52 : Nat) := by omega
  have hfield : ((n.log2 : Int) - (52 : Nat) + 1074).toNat = n.log2 + 1022 := by omega
  have hpos := Nat.two_pow_pos n.log2
  have hfirst : 2 ^ n.log2 ≤ n := Nat.log2_self_le (by omega)
  -- One bit too many is left at first, so the exponent is the next one.
  have hlong : ¬ (scaled n 1 ((n.log2 : Int) - (53 : Nat))).1
      / (scaled n 1 ((n.log2 : Int) - (53 : Nat))).2 < 2 * leadingBit := by
    obtain ⟨hden, hvalue⟩ := scaled_eq n 53
    generalize scaled n 1 ((n.log2 : Int) - (53 : Nat)) = q at *
    rw [Nat.not_lt, Nat.le_div_iff_mul_le hden, hleading]
    refine Nat.le_of_mul_le_mul_right ?_ hpos
    rw [hvalue]
    have hscale := Nat.mul_le_mul_right (2 ^ 53 * q.2) hfirst
    calc 2 * 2 ^ 52 * q.2 * 2 ^ n.log2 = 2 ^ n.log2 * (2 ^ 53 * q.2) := by
          rw [Nat.mul_comm]
          rfl
      _ ≤ n * (2 ^ 53 * q.2) := hscale
      _ = n * 2 ^ 53 * q.2 := (Nat.mul_assoc _ _ _).symm
  have hnearest : nearestEven (scaled n 1 ((n.log2 : Int) - (52 : Nat))).1
      (scaled n 1 ((n.log2 : Int) - (52 : Nat))).2 = mantissa n := by
    obtain ⟨hden, hvalue⟩ := scaled_eq n 52
    generalize scaled n 1 ((n.log2 : Int) - (52 : Nat)) = q at *
    rw [← nearestEven_mul _ _ hpos, hvalue, Nat.mul_comm q.2, nearestEven_mul _ _ hden, mantissa]
  rw [hleading] at hlong
  rw [magnitudeBits, if_neg (by omega)]
  simp only [hlow, if_neg hlong, hnext, hfield, hnearest, hleading]
  split <;> omega

theorem magnitudeBits_eq (hfits : n.log2 ≤ 900) :
    magnitudeBits n 1 = (n.log2 + 1022) * 2 ^ 52 + mantissa n := by
  have hbound := (mantissa_bounds hn).2
  rw [magnitudeBits_eq_min hn]
  omega

/-- **Converting a natural number** gives the nearest one. -/
theorem holds_ofRatio (hfits : n.log2 ≤ 900) : Holds (ofRatio false n 1) (nearest n) := by
  obtain ⟨m, j, hlow, hhigh, hj, hvalue, hbits, -⟩ := exists_canonical hn
  have hsum : (n.log2 + 1022) * 2 ^ 52 + mantissa n = (j + 1022) * 2 ^ 52 + m := by
    rw [Nat.add_mul, Nat.add_mul, Nat.add_right_comm, ← hbits, Nat.add_right_comm]
  have hmagnitude : magnitudeBits n 1 = (j + 1022) * 2 ^ 52 + m :=
    (magnitudeBits_eq hn hfits).trans hsum
  unfold ofRatio
  dsimp only
  rw [if_neg Bool.false_ne_true]
  exact holds_ofBits hlow hhigh (by omega) hvalue hmagnitude

end Conversion

/-! ### Arithmetic -/

section Arithmetic

variable {x y : Float} {a b : Nat}

theorem Holds.pos (h : Holds x a) : 0 < a := by
  obtain ⟨m, j, hlow, -, -, hvalue, -⟩ := h
  exact pos_of_mul_two_pow_eq (by omega) hvalue

/-- **A product is the number nearest to the product.** -/
theorem Holds.mul (hx : Holds x a) (hy : Holds y b) (hfits : (a * b).log2 ≤ 900) :
    Holds (x * y) (nearest (a * b)) := by
  obtain ⟨m, j, hm, hlow, hhigh, hj, hvalue, hunpack⟩ := hx.unpack
  obtain ⟨n, k, hn, hlow', hhigh', hk, hvalue', hunpack'⟩ := hy.unpack
  have hproduct : m * n * 2 ^ (j + k) = a * b * 2 ^ 104 := by
    calc m * n * 2 ^ (j + k) = m * 2 ^ j * (n * 2 ^ k) := by
          rw [Nat.pow_add, Nat.mul_mul_mul_comm]
      _ = a * 2 ^ 52 * (b * 2 ^ 52) := by rw [hvalue, hvalue']
      _ = a * b * 2 ^ 104 := by rw [Nat.mul_mul_mul_comm, ← Nat.pow_add]
  have hlarge : 2 ^ 52 ≤ m * n := by
    have hmul := Nat.mul_le_mul hlow hlow'
    omega
  obtain ⟨p, i, hp, hplow, hphigh, hi, hpvalue, hround⟩ :=
    roundWithAccuracy_eq hlarge (by decide) (by decide) hproduct
  have hsign : UnpackedFloat.Sign.positive * UnpackedFloat.Sign.positive = .positive := rfl
  have hexponent : (j : Int) - 52 + ((k : Int) - 52) = ((j + k : Nat) : Int) - (104 : Nat) := by
    omega
  change Holds (.ofModel (.pack (UnpackedFloat.mul .binary64 x.toModel.unpack y.toModel.unpack))) _
  rw [hunpack, hunpack', UnpackedFloat.mul, hsign, hexponent, hround]
  exact holds_pack hp hplow hphigh (by omega) hpvalue

/-- **The order of numbers** is that of the natural numbers. -/
theorem Holds.lt_iff (hx : Holds x a) (hy : Holds y b) : x < y ↔ a < b := by
  obtain ⟨m, j, hm, hlow, hhigh, hj, hvalue, hunpack⟩ := hx.unpack
  obtain ⟨n, k, hn, hlow', hhigh', hk, hvalue', hunpack'⟩ := hy.unpack
  have hlt : x < y ↔ x.toModel.unpack.compare y.toModel.unpack = some .lt := by
    change decide (x.toModel < y.toModel) = true ↔ _
    rw [decide_eq_true_iff]
    exact beq_iff_eq
  -- A greater exponent makes a greater number, since both mantissas have 53 bits.
  have hstep {m n j k : Nat} (hlow : 2 ^ 52 ≤ n) (hhigh : m < 2 ^ 53) (hlt : j < k) :
      m * 2 ^ j < n * 2 ^ k := by
    have hj := Nat.two_pow_pos j
    calc m * 2 ^ j < 2 ^ 53 * 2 ^ j := (Nat.mul_lt_mul_right hj).2 hhigh
      _ = 2 ^ 52 * 2 ^ (j + 1) := by rw [Nat.pow_succ 2 j]; omega
      _ ≤ n * 2 ^ k := Nat.mul_le_mul hlow (Nat.pow_le_pow_right (by decide) hlt)
  have hiff : a < b ↔ m * 2 ^ j < n * 2 ^ k := by
    rw [hvalue, hvalue']
    exact (Nat.mul_lt_mul_right (by decide)).symm
  rw [hlt, hunpack, hunpack', UnpackedFloat.compare, hiff, Option.some.injEq,
    Ordering.then_eq_lt]
  rcases Nat.lt_trichotomy j k with hjk | rfl | hjk
  · simp only [hstep hlow' hhigh hjk, iff_true]
    exact .inl (Int.compare_eq_lt.2 (by omega))
  · rw [Nat.mul_lt_mul_right (Nat.two_pow_pos j), Int.compare_eq_lt, Nat.compare_eq_lt]
    simp
  · have hnot : ¬ m * 2 ^ j < n * 2 ^ k := Nat.not_lt.2 (Nat.le_of_lt (hstep hlow hhigh' hjk))
    simp only [hnot, iff_false, Int.compare_eq_lt, Int.compare_eq_eq]
    omega

/-- The parts of a number with this mantissa and power of two. -/
theorem parts_eq {m j : Nat} (hlow : 2 ^ 52 ≤ m) (hhigh : m < 2 ^ 53) (hj : j ≤ 1000)
    (hbits : x.toBits.toNat = (j + 1022) * 2 ^ 52 + m) :
    parts x = .finite false m ((j : Int) - 52) := by
  have hsign : signBit = 2 ^ 63 := rfl
  have hleading : leadingBit = 2 ^ 52 := rfl
  have hfield : x.toBits.toNat / 2 ^ 52 % 2048 = j + 1023 := by omega
  have hfraction : x.toBits.toNat % 2 ^ 52 = m - 2 ^ 52 := by omega
  have hpositive : ¬ 2 ^ 63 ≤ x.toBits.toNat := by omega
  simp only [parts, partsOfBits, hsign, hleading, hfield, hfraction, hpositive]
  have hmantissa : 2 ^ 52 + (m - 2 ^ 52) = m := by omega
  have hexponent : ((j + 1023 : Nat) : Int) - 1075 = (j : Int) - 52 := by omega
  rw [if_neg (by omega), if_neg (by omega), hmantissa, hexponent, decide_false]

/-- As a fraction this is the natural number over one or a power of two. -/
theorem exists_fraction_eq {m j : Nat} (hvalue : m * 2 ^ j = a * 2 ^ 52) :
    ∃ d, 0 < d ∧ fraction m ((j : Int) - 52) = (a * d, d) := by
  rw [fraction]
  by_cases hwhole : 52 ≤ j
  · have hamount : ((j : Int) - 52).toNat = j - 52 := by omega
    have hsplit : 2 ^ j = 2 ^ (j - 52) * 2 ^ 52 := by
      rw [← Nat.pow_add, Nat.sub_add_cancel hwhole]
    rw [hsplit, ← Nat.mul_assoc] at hvalue
    rw [if_pos (by omega), hamount, Nat.eq_of_mul_eq_mul_right (by decide) hvalue]
    exact ⟨1, Nat.one_pos, by rw [Nat.mul_one]⟩
  · have hamount : (-((j : Int) - 52)).toNat = 52 - j := by omega
    have hsplit : 2 ^ 52 = 2 ^ (52 - j) * 2 ^ j := by
      rw [← Nat.pow_add, Nat.sub_add_cancel (by omega)]
    rw [hsplit, ← Nat.mul_assoc] at hvalue
    rw [if_neg (by omega), hamount, Nat.eq_of_mul_eq_mul_right (Nat.two_pow_pos j) hvalue]
    exact ⟨2 ^ (52 - j), Nat.two_pow_pos _, rfl⟩

/-- **Rounding to an integer** gives the natural number. -/
theorem Holds.roundHalfAway? (h : Holds x a) : roundHalfAway? x = some (a : Int) := by
  obtain ⟨m, j, hlow, hhigh, hj, hvalue, hbits⟩ := h
  have hparts := parts_eq hlow hhigh hj hbits
  obtain ⟨d, hd, hfraction⟩ := exists_fraction_eq hvalue
  have hround : (2 * (a * d) + d) / (2 * d) = a := by
    have hhalf : 2 * (a * d) + d = d + a * (2 * d) := by
      rw [Nat.mul_left_comm, Nat.add_comm]
    rw [hhalf, Nat.add_mul_div_right _ _ (by omega), Nat.div_eq_of_lt (by omega), Nat.zero_add]
  simp only [Binary.roundHalfAway?, hparts, signed, hfraction, hround]
  rfl

end Arithmetic

end Binary

end EventQuery
