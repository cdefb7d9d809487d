/-
**Arithmetic of integers.**

Integers, and texts that hold them, are added, subtracted, multiplied and divided exactly: the
result is the integer of 64 bits that the operation gives on integers of any size, and an error
where there is none.  Division goes toward zero, and quotient and remainder belong together.  One
remainder is missing: the least integer of 64 bits by minus one leaves zero, but that is refused
because the quotient that goes with it does not fit.

Main definitions:

* `IsDivision` — a quotient and a remainder of a division toward zero;
* `Arithmetic.Exact` — **the exact result of an operation**;
* `Value.HoldsLong` — the values that are integers or texts of integers.

Main results:

* `IsDivision.unique` — quotient and remainder are determined;
* `Numeric.computeLong_eq_ok_iff`, `Numeric.computeLong_eq_error_iff` — operations on integers of
  64 bits;
* `Value.arithmetic_of_integers` — **operations on values that hold integers**.
-/

import EventQuery.Proofs.Except
import EventQuery.Proofs.Function.Integers
import EventQuery.Value.Arithmetic

set_option relaxedAutoImplicit false
set_option autoImplicit false

namespace EventQuery

theorem Number.long?_eq_none_iff {n : Int} : long? n = none ↔ ∀ x : Int64, x.toInt ≠ n := by
  simp only [Option.eq_none_iff_forall_ne_some, ne_eq, long?_eq_some_iff]

/-! ### Exact results -/

/-- **A division toward zero**: the remainder is smaller than the divisor and has the sign of the
dividend. -/
structure IsDivision (m n q r : Int) : Prop where
  sum : m = q * n + r
  small : r.natAbs < n.natAbs
  nonneg : 0 ≤ m → 0 ≤ r
  nonpos : m ≤ 0 → r ≤ 0

section Division

variable {m n q r q' r' : Int}

/-- **Quotient and remainder are determined.** -/
theorem IsDivision.unique (h : IsDivision m n q r) (h' : IsDivision m n q' r') :
    q = q' ∧ r = r' := by
  have hsmall := h.small
  have hsmall' := h'.small
  -- the remainders have one sign, so they differ by less than the divisor
  have hclose : (r' - r).natAbs < n.natAbs := by
    rcases Int.le_total 0 m with hm | hm
    · have hr := h.nonneg hm
      have hr' := h'.nonneg hm
      omega
    · have hr := h.nonpos hm
      have hr' := h'.nonpos hm
      omega
  have hmul : r' - r = (q - q') * n := by
    have hsum := h.sum
    have hsum' := h'.sum
    rw [Int.sub_mul]
    omega
  have hzero : q - q' = 0 := by
    rcases Nat.eq_zero_or_pos (q - q').natAbs with hq | hq
    · exact Int.natAbs_eq_zero.1 hq
    · rw [hmul, Int.natAbs_mul] at hclose
      exact absurd (Nat.le_mul_of_pos_left n.natAbs hq) (Nat.not_le.2 hclose)
  rw [hzero, Int.zero_mul] at hmul
  omega

theorem isDivision_tdiv (m : Int) (hn : n ≠ 0) : IsDivision m n (m.tdiv n) (m.tmod n) where
  sum := by
    rw [Int.mul_comm]
    exact (Int.mul_tdiv_add_tmod m n).symm
  small := by
    rw [Int.natAbs_tmod]
    exact Nat.mod_lt _ (Int.natAbs_pos.2 hn)
  nonneg hm := Int.tmod_nonneg n hm
  nonpos hm := by
    have hneg := Int.tmod_nonneg n (Int.neg_nonneg_of_nonpos hm)
    rw [Int.neg_tmod] at hneg
    omega

theorem isDivision_iff : IsDivision m n q r ↔ n ≠ 0 ∧ q = m.tdiv n ∧ r = m.tmod n := by
  constructor
  · intro h
    have hn : n ≠ 0 := by
      rintro rfl
      exact Nat.not_lt_zero _ h.small
    exact ⟨hn, h.unique (isDivision_tdiv m hn)⟩
  · rintro ⟨hn, rfl, rfl⟩
    exact isDivision_tdiv m hn

end Division

/-- **The exact result of an operation** on integers of any size. -/
def Arithmetic.Exact : Arithmetic → Int → Int → Int → Prop
  | .add, m, n, k => k = m + n
  | .sub, m, n, k => k = m - n
  | .mul, m, n, k => k = m * n
  | .div, m, n, k => ∃ r, IsDivision m n k r
  | .mod, m, n, k => ∃ q, IsDivision m n q k

namespace Numeric

variable {a : Arithmetic}

theorem exactResult_eq_some_iff {m n k : Int} : exactResult a m n = some k ↔ a.Exact m n k := by
  cases a with
  | add => exact Option.some_inj.trans eq_comm
  | sub => exact Option.some_inj.trans eq_comm
  | mul => exact Option.some_inj.trans eq_comm
  | div =>
      simp only [Arithmetic.Exact, isDivision_iff, exists_and_left, exists_eq, and_true]
      rw [exactResult, Option.ite_none_left_eq_some, Option.some_inj, eq_comm (a := k)]
  | mod =>
      simp only [Arithmetic.Exact, isDivision_iff, exists_and_left, exists_eq_left]
      rw [exactResult, Option.ite_none_left_eq_some, Option.some_inj, eq_comm (a := k)]

/-- There is no result exactly where zero divides. -/
theorem exactResult_eq_none_iff {m n : Int} :
    exactResult a m n = none ↔ (a = .div ∨ a = .mod) ∧ n = 0 := by
  cases a <;> simp [exactResult]

/-! ### Integers of 64 bits -/

variable {m n : Int64}

/-- The remainder that is refused although it fits. -/
theorem quotientOverflows_iff :
    quotientOverflows a m n = true ↔ a = .mod ∧ m = Int64.minValue ∧ n = -1 := by
  simp only [quotientOverflows, Bool.and_eq_true, beq_iff_eq, and_assoc]

/-- **A result is exact**, and every exact one that fits is given, but for one remainder. -/
theorem computeLong_eq_ok_iff {v : Value} : computeLong a m n = .ok v ↔
    ∃ k : Int64, v = .long k ∧ a.Exact m.toInt n.toInt k.toInt
      ∧ ¬ (a = .mod ∧ m = Int64.minValue ∧ n = -1) := by
  rw [computeLong, Except.bind_eq_ok_iff, ← quotientOverflows_iff]
  simp only [Result.ofOption_eq_ok_iff, exactResult_eq_some_iff]
  constructor
  · rintro ⟨exact, hexact, hv⟩
    split at hv
    · cases hv
    · next hfits =>
        obtain ⟨k, hk, rfl⟩ := Except.map_eq_ok_iff.1 hv
        rw [Result.ofOption_eq_ok_iff, Number.long?_eq_some_iff] at hk
        subst hk
        exact ⟨k, rfl, hexact, hfits⟩
  · rintro ⟨k, rfl, hexact, hfits⟩
    refine ⟨k.toInt, hexact, ?_⟩
    rw [if_neg hfits, Number.long?_toInt]
    rfl

/-- **What errors mean.** -/
theorem computeLong_eq_error_iff {e : EvalError} : computeLong a m n = .error e ↔
    (a = .div ∨ a = .mod) ∧ n = 0 ∧ e = .divisionByZero
      ∨ ((∃ k, a.Exact m.toInt n.toInt k ∧ ∀ x : Int64, x.toInt ≠ k)
          ∨ a = .mod ∧ m = Int64.minValue ∧ n = -1) ∧ e = .overflow := by
  have hzero : n.toInt = 0 ↔ n = 0 := by rw [← Int64.toInt_inj, Int64.toInt_zero]
  rw [computeLong, Except.bind_eq_error_iff, ← quotientOverflows_iff]
  simp only [Result.ofOption_eq_error_iff, Result.ofOption_eq_ok_iff, exactResult_eq_none_iff,
    exactResult_eq_some_iff, hzero]
  constructor
  · rintro (⟨⟨ha, hn⟩, rfl⟩ | ⟨k, hk, hv⟩)
    · exact .inl ⟨ha, hn, rfl⟩
    · split at hv
      · next hover =>
          cases hv
          exact .inr ⟨.inr hover, rfl⟩
      · rw [Except.map_eq_error_iff, Result.ofOption_eq_error_iff, Number.long?_eq_none_iff] at hv
        obtain ⟨hnone, rfl⟩ := hv
        exact .inr ⟨.inl ⟨k, hk, hnone⟩, rfl⟩
  · rintro (⟨ha, hn, rfl⟩ | ⟨⟨k, hk, hnone⟩ | hover, rfl⟩)
    · exact .inl ⟨⟨ha, hn⟩, rfl⟩
    · refine .inr ⟨k, hk, ?_⟩
      split
      · rfl
      · rw [Except.map_eq_error_iff, Result.ofOption_eq_error_iff, Number.long?_eq_none_iff]
        exact ⟨hnone, rfl⟩
    · obtain ⟨rfl, rfl, rfl⟩ := quotientOverflows_iff.1 hover
      refine .inr ⟨0, exactResult_eq_some_iff.1 (by decide), ?_⟩
      rw [if_pos hover]

end Numeric

/-! ### Values that hold integers -/

namespace Value

/-- **A value holds an integer of 64 bits**: it is one, of either width, or the text of one. -/
inductive HoldsLong : Value → Int64 → Prop
  | int (n : Int32) : HoldsLong (.int n) n.toInt64
  | long (n : Int64) : HoldsLong (.long n) n
  | string {s : String} {n : Int64} (h : Digits.Signed (Text.strip s.toList) n.toInt) :
      HoldsLong (.string s) n

section HoldsLong

variable {x y : Value} {m n : Int64}

theorem HoldsLong.toNumeric? (h : x.HoldsLong n) : x.toNumeric? = some (.long n) := by
  cases h with
  | int n => rfl
  | long n => rfl
  | string h =>
      have hread := Digits.readInt?_eq_some_iff.2 h
      simp only [Value.toNumeric?, numericOfText?, Number.readLong?, hread, Option.bind_some,
        Number.long?_toInt]

theorem HoldsLong.isAbsent (h : x.HoldsLong n) : x.isAbsent = false := by
  cases h with
  | int n => rfl
  | long n => rfl
  | @string s n h =>
      refine Bool.eq_false_iff.2 fun hempty => ?_
      rw [Value.isAbsent, String.isEmpty_iff] at hempty
      subst hempty
      have hread := Digits.readInt?_eq_some_iff.2 h
      cases hread

/-- Integers are computed with as integers. -/
theorem HoldsLong.arithmetic (hx : x.HoldsLong m) (hy : y.HoldsLong n) (a : Arithmetic) :
    x.arithmetic (.arithmetic a) y = Numeric.computeLong a m n := by
  -- none of the values is a time
  have hnumbers :
      arithmeticPresent (.arithmetic a) x y = arithmeticNumbers (.arithmetic a) x y := by
    cases hx <;> cases hy <;> rfl
  rw [Value.arithmetic, hx.isAbsent, hy.isAbsent, Bool.or_self, if_neg Bool.false_ne_true,
    hnumbers, arithmeticNumbers, hx.toNumeric?, hy.toNumeric?]
  rfl

/-- **Operations on values that hold integers.**  The result is the exact one, and only zero as a
divisor and an exact result that does not fit in 64 bits are refused, with the one exception of the
remainder of the least integer by minus one. -/
theorem arithmetic_of_integers (hx : x.HoldsLong m) (hy : y.HoldsLong n) (a : Arithmetic) :
    (∀ v, arithmetic (.arithmetic a) x y = .ok v ↔
      ∃ k : Int64, v = .long k ∧ a.Exact m.toInt n.toInt k.toInt
        ∧ ¬ (a = .mod ∧ m = Int64.minValue ∧ n = -1))
    ∧ (∀ e, arithmetic (.arithmetic a) x y = .error e ↔
        (a = .div ∨ a = .mod) ∧ n = 0 ∧ e = .invalidArgument "division by zero"
        ∨ ((∃ k, a.Exact m.toInt n.toInt k ∧ ∀ z : Int64, z.toInt ≠ k)
            ∨ a = .mod ∧ m = Int64.minValue ∧ n = -1)
          ∧ e = .invalidArgument "arithmetic overflow")
    ∧ ∀ q r : Int64, arithmetic (.arithmetic .div) x y = .ok (.long q) →
        arithmetic (.arithmetic .mod) x y = .ok (.long r) →
        m.toInt = q.toInt * n.toInt + r.toInt := by
  simp only [hx.arithmetic hy]
  refine ⟨fun v => Numeric.computeLong_eq_ok_iff, fun e => Numeric.computeLong_eq_error_iff, ?_⟩
  intro q r hq hr
  obtain ⟨q', hq', ⟨r', hdiv⟩, -⟩ := Numeric.computeLong_eq_ok_iff.1 hq
  obtain ⟨r'', hr'', ⟨q'', hmod⟩, -⟩ := Numeric.computeLong_eq_ok_iff.1 hr
  cases hq'
  cases hr''
  rw [← (hdiv.unique hmod).2]
  exact hdiv.sum

/-- A negative text by a number: the quotient goes toward zero and the remainder is negative. -/
theorem arithmetic_of_negative_text : (Value.string " -7 ").HoldsLong (-7)
    ∧ (Value.int 2).HoldsLong 2
    ∧ arithmetic (.arithmetic .div) (.string " -7 ") (.int 2) = .ok (.long (-3))
    ∧ arithmetic (.arithmetic .mod) (.string " -7 ") (.int 2) = .ok (.long (-1)) := by
  have hx : (Value.string " -7 ").HoldsLong (-7) :=
    .string (Digits.readInt?_eq_some_iff.1 (by decide))
  have hy : (Value.int 2).HoldsLong 2 := .int 2
  have hdivision : IsDivision (-7) 2 (-3) (-1) := isDivision_iff.2 (by decide)
  refine ⟨hx, hy, ?_, ?_⟩
  · exact ((arithmetic_of_integers hx hy .div).1 _).2 ⟨-3, rfl, ⟨-1, hdivision⟩, by decide⟩
  · exact ((arithmetic_of_integers hx hy .mod).1 _).2 ⟨-1, rfl, ⟨-3, hdivision⟩, by decide⟩

/-- **Not every exact result that fits is given.** -/
theorem not_arithmetic_exact : ¬ ∀ (x y : Value) (m n k : Int64) (a : Arithmetic),
    x.HoldsLong m → y.HoldsLong n → a.Exact m.toInt n.toInt k.toInt →
      arithmetic (.arithmetic a) x y = .ok (.long k) := by
  intro h
  have hdivision : IsDivision Int64.minValue.toInt (-1) 9223372036854775808 0 :=
    isDivision_iff.2 (by decide)
  have hrefused := h (.long Int64.minValue) (.long (-1)) Int64.minValue (-1) 0 .mod (.long _)
    (.long _) ⟨_, hdivision⟩
  rw [(HoldsLong.long _).arithmetic (.long _)] at hrefused
  obtain ⟨-, -, -, hfits⟩ := Numeric.computeLong_eq_ok_iff.1 hrefused
  exact hfits ⟨rfl, rfl, rfl⟩

end HoldsLong

end Value

end EventQuery
