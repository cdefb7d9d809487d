/-
**Integers of texts.**

A text that holds an integer is converted to an integer of 32 bits exactly or not at all.  An integer
of 64 bits is exact where it fits.  Where it does not fit, the text is read once more as a binary
number, and what is cut down from that is the nearest integer of 64 bits: an integer behind the
range becomes the end of the range, and only one that is infinite in binary becomes null.

Main results:

* `Value.toLong?_of_signed` — the integer of a text;
* `Function.convert_of_signed` — **the two conversions of a text that holds an integer**.
-/

import EventQuery.Function.Conversion
import EventQuery.Proofs.Number.Truncation

set_option relaxedAutoImplicit false
set_option autoImplicit false

namespace EventQuery

-- Powers are those of the core library, whatever other instances are in scope.
attribute [local instance (2000)] instPowNat

/-! ### Integers of fixed width -/

namespace Number

variable {n : Int}

/-- A value behind the range is brought to its end. -/
theorem clampLong_of_le (h : n ≤ -0x8000000000000000) : clampLong n = Int64.minValue := by
  rw [clampLong]
  by_cases hlt : n < -0x8000000000000000
  · rw [if_pos hlt]
  · have hend : n = -0x8000000000000000 := Int.le_antisymm h (Int.not_lt.1 hlt)
    rw [if_neg hlt, if_pos (by omega), hend]
    rfl

theorem clampLong_of_ge (h : 0x8000000000000000 ≤ n) : clampLong n = Int64.maxValue := by
  rw [clampLong, if_neg (by omega), if_neg (by omega)]

/-- A value in the range stays as it is. -/
theorem toInt_clampLong (h : -0x8000000000000000 ≤ n ∧ n < 0x8000000000000000) :
    (clampLong n).toInt = n := by
  rw [clampLong, if_neg (by omega), if_pos h.2]
  exact Int64.toInt_ofInt_of_le (by omega) (by omega)

theorem int?_eq_some_iff {x : Int32} : int? n = some x ↔ x.toInt = n := by
  constructor
  · intro h
    unfold int? at h
    split at h
    · next hn =>
        cases h
        exact Int32.toInt_ofInt_of_le (by omega) (by omega)
    · cases h
  · rintro rfl
    exact int?_toInt x

theorem long?_eq_some_iff {x : Int64} : long? n = some x ↔ x.toInt = n := by
  constructor
  · exact toInt_of_long?
  · rintro rfl
    exact long?_toInt x

/-- What does not fit in 64 bits does not fit in 32 bits. -/
theorem int?_eq_none_of_long? (h : long? n = none) : int? n = none := by
  unfold long? at h
  unfold int?
  split at h
  · cases h
  · rw [if_neg (by omega)]

end Number

/-! ### The integer of a text -/

namespace Value

variable {s : String} {n : Int}

/-- **The integer of a text** that does not fit in 64 bits: an end of the range, unless it is
infinite in binary. -/
theorem toLong?_of_long?_eq_none (h : Digits.Signed (Text.strip s.toList) n)
    (hn : Number.long? n = none) : (Value.string s).toLong? = if n.natAbs < Binary.overflow then
      some (if n < 0 then Int64.minValue else Int64.maxValue) else none := by
  have hrange : n < -0x8000000000000000 ∨ 0x8000000000000000 ≤ n := by
    unfold Number.long? at hn
    split at hn
    · cases hn
    · omega
  -- the nearest number is behind the range as well
  have hnearest : 0x8000000000000000 ≤ Binary.nearest n.natAbs := by
    have hend : Binary.nearest 0x8000000000000000 = 0x8000000000000000 := by decide
    rw [← hend]
    exact Binary.nearest_mono (by omega)
  have hread : Number.readLong? (Text.strip s.toList) = none := by
    rw [Number.readLong?, Digits.readInt?_eq_some_iff.2 h, Option.bind_some, hn]
  have hcut := Number.truncate?_readFloat? h (by omega)
  have hlong : (Value.string s).toLong?
      = ((Number.readFloat? (Text.strip s.toList)).bind Binary.truncate?).map Number.clampLong := by
    simp only [toLong?, hread, Option.map_bind]
    rfl
  rw [hlong, hcut]
  split
  · by_cases hneg : n < 0
    · rw [Option.map_some, decide_eq_true hneg, if_pos hneg, Binary.signed, if_pos rfl,
        Number.clampLong_of_le (by omega)]
    · rw [Option.map_some, decide_eq_false hneg, if_neg hneg, Binary.signed,
        if_neg Bool.false_ne_true, Number.clampLong_of_ge (by omega)]
  · rfl

theorem toLong?_of_long?_eq_some (h : Digits.Signed (Text.strip s.toList) n) {x : Int64}
    (hx : Number.long? n = some x) : (Value.string s).toLong? = some x := by
  have hread : Number.readLong? (Text.strip s.toList) = some x := by
    rw [Number.readLong?, Digits.readInt?_eq_some_iff.2 h, Option.bind_some, hx]
  simp only [toLong?, hread]

end Value

/-! ### Conversions -/

namespace Function

variable {s : String} {n : Int}

/-- **A conversion to 32 bits** is exact or null. -/
theorem convertInt_of_signed (h : Digits.Signed (Text.strip s.toList) n) :
    convertInt (.string s) = orNull Value.int (Number.int? n) := by
  rw [convertInt]
  cases hx : Number.long? n with
  | some x =>
      rw [Value.toLong?_of_long?_eq_some h hx, Option.bind_some, Number.toInt_of_long? hx]
  | none =>
      have hnone : Number.int? Int64.minValue.toInt = none
          ∧ Number.int? Int64.maxValue.toInt = none := by decide
      rw [Value.toLong?_of_long?_eq_none h hx, Number.int?_eq_none_of_long? hx]
      split
      · rw [Option.bind_some]
        split
        · rw [hnone.1]
        · rw [hnone.2]
      · rfl

/-- **The two conversions of a text that holds an integer.**  Where the integer fits it is given
exactly.  Where it does not fit in 32 bits the first conversion gives null.  Where it does not fit in
64 bits the second conversion gives null for an integer that is infinite in binary, and for any
other one the end of the range that is nearest to it. -/
theorem convert_of_signed (h : Digits.Signed (Text.strip s.toList) n) :
    ((∀ x : Int32, x.toInt = n → convertInt (.string s) = .int x)
      ∧ ((∀ x : Int32, x.toInt ≠ n) → convertInt (.string s) = .null))
    ∧ (∀ x : Int64, x.toInt = n → convertLong (.string s) = .long x)
    ∧ ((∀ x : Int64, x.toInt ≠ n) →
        (Binary.overflow ≤ n.natAbs → convertLong (.string s) = .null)
        ∧ (n.natAbs < Binary.overflow → 0 < n → convertLong (.string s) = .long Int64.maxValue)
        ∧ (n.natAbs < Binary.overflow → n < 0 → convertLong (.string s) = .long Int64.minValue)) := by
  refine ⟨⟨?_, ?_⟩, ?_, ?_⟩
  · intro x hx
    rw [convertInt_of_signed h, Number.int?_eq_some_iff.2 hx]
    rfl
  · intro hnone
    have hint : Number.int? n = none :=
      Option.eq_none_iff_forall_ne_some.2 fun x hx => hnone x (Number.int?_eq_some_iff.1 hx)
    rw [convertInt_of_signed h, hint]
    rfl
  · intro x hx
    rw [convertLong, Value.toLong?_of_long?_eq_some h (Number.long?_eq_some_iff.2 hx)]
    rfl
  · intro hnone
    have hlong : Number.long? n = none :=
      Option.eq_none_iff_forall_ne_some.2 fun x hx => hnone x (Number.long?_eq_some_iff.1 hx)
    rw [convertLong, Value.toLong?_of_long?_eq_none h hlong]
    refine ⟨fun hover => ?_, fun hlt hpos => ?_, fun hlt hneg => ?_⟩
    · rw [if_neg (Nat.not_lt.2 hover)]
      rfl
    · rw [if_pos hlt, if_neg (by omega)]
      rfl
    · rw [if_pos hlt, if_pos hneg]
      rfl

/-- The least integer that is too large for 64 bits, with a sign and blanks. -/
theorem convert_of_first_too_large : Digits.Signed (Text.strip " +9223372036854775808 ".toList)
      9223372036854775808
    ∧ convertInt (.string " +9223372036854775808 ") = .null
    ∧ convertLong (.string " +9223372036854775808 ") = .long Int64.maxValue := by
  have hsigned : Digits.Signed (Text.strip " +9223372036854775808 ".toList)
      9223372036854775808 := Digits.readInt?_eq_some_iff.1 (by decide)
  have hsmall : (9223372036854775808 : Int).natAbs < Binary.overflow := by decide +kernel
  obtain ⟨⟨-, hint⟩, -, hlong⟩ := convert_of_signed hsigned
  refine ⟨hsigned, hint fun x hx => ?_, (hlong fun x hx => ?_).2.1 hsmall (by decide)⟩
  · have hlt := x.toInt_lt
    omega
  · have hlt := x.toInt_lt
    omega

/-- **A conversion to 64 bits is not always exact or null.** -/
theorem not_convertLong_exact : ¬ ∀ (s : String) (n : Int), Digits.Signed (Text.strip s.toList) n →
    convertLong (.string s) = orNull Value.long (Number.long? n) := by
  intro h
  have hsigned : Digits.Signed (Text.strip "9223372036854775808".toList) 9223372036854775808 :=
    Digits.readInt?_eq_some_iff.1 (by decide)
  have hlong : Number.long? 9223372036854775808 = none := by decide
  have hsmall : (9223372036854775808 : Int).natAbs < Binary.overflow := by decide +kernel
  have hnull := h _ _ hsigned
  rw [convertLong, Value.toLong?_of_long?_eq_none hsigned hlong, if_pos hsmall, hlong] at hnull
  cases hnull

end Function

end EventQuery
