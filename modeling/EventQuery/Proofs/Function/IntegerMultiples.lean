/-
**Integers rounded down.**

An integer, or a text of one, is rounded down to a multiple of an integer by exact arithmetic: the
result is the greatest multiple of the size that is not above the value, before zero as well as
behind it.  Multiples lie no further than one size below the value, so only a value close to the
least integer of 64 bits can be left without one, and then it is refused.

Main results:

* `IsFloor.greatest`, `IsFloor.mono`, `isFloor_self` — floors are greatest, grow with the number,
  and stay where they are;
* `Function.binLong_eq_ok_iff`, `Function.binLong_eq_error_iff` — the two outcomes;
* `Function.bin_of_integers` — **integers are rounded down to the floor**, or are refused where it
  does not fit.
-/

import EventQuery.Proofs.Function.Multiples
import EventQuery.Proofs.Value.Arithmetic

set_option relaxedAutoImplicit false
set_option autoImplicit false

namespace EventQuery

/-! ### Floors -/

section Floor

variable {n n' step m m' : Int}

/-- **No multiple between the floor and the number**: the next one is above the number. -/
theorem IsFloor.greatest (h : IsFloor n step m) {k : Int} (hk : step ∣ k) (hle : k ≤ n) :
    k ≤ m := by
  obtain ⟨a, rfl⟩ := hk
  obtain ⟨b, rfl⟩ := h.dvd
  have hlow := h.le
  have hhigh := h.lt_add
  have hstep : 0 < step := by omega
  have hnext : step * a < step * (b + 1) := by
    rw [Int.mul_add, Int.mul_one]
    exact Int.lt_of_le_of_lt hle hhigh
  exact Int.mul_le_mul_of_nonneg_left
    (Int.le_of_lt_add_one (Int.lt_of_mul_lt_mul_left hnext (Int.le_of_lt hstep)))
    (Int.le_of_lt hstep)

theorem IsFloor.mono (h : IsFloor n step m) (h' : IsFloor n' step m') (hle : n ≤ n') : m ≤ m' :=
  h'.greatest h.dvd (Int.le_trans h.le hle)

/-- A multiple is its own floor. -/
theorem isFloor_self (hstep : 0 < step) (hm : step ∣ m) : IsFloor m step m :=
  ⟨hm, Int.le_refl m, Int.lt_add_of_pos_right m hstep⟩

end Floor

namespace Function

/-! ### Integers of 64 bits -/

section Long

variable {n step : Int64}

theorem binLong_of_nonpos (hstep : step.toInt ≤ 0) :
    binLong n step = .error (sizeError (Value.text (.long step))) := by
  rw [binLong, if_pos hstep]

variable (hstep : 0 < step.toInt)
include hstep

theorem binLong_of_pos : binLong n step
    = (Result.ofOption .overflow (Number.long? (floorMultiple n.toInt step.toInt))).map
      Value.long := by
  rw [binLong, if_neg (Int.not_le.2 hstep)]

/-- **The result is the floor.** -/
theorem binLong_eq_ok_iff {r : Value} : binLong n step = .ok r ↔
    ∃ l : Int64, r = .long l ∧ IsFloor n.toInt step.toInt l.toInt := by
  rw [binLong_of_pos hstep, Except.map_eq_ok_iff]
  simp only [Result.ofOption_eq_ok_iff, Number.long?_eq_some_iff,
    eq_comm (b := floorMultiple _ _), floorMultiple_eq_iff hstep]
  exact exists_congr fun l => and_comm.trans (and_congr_left' eq_comm)

/-- **There is no result** where the floor lies below the integers of 64 bits; it never lies above
them. -/
theorem binLong_eq_error_iff {e : EvalError} : binLong n step = .error e ↔
    (∃ m, IsFloor n.toInt step.toInt m ∧ m < -0x8000000000000000) ∧ e = .overflow := by
  have hfloor := isFloor_floorMultiple (n := n.toInt) hstep
  have hhigh := Int.lt_of_le_of_lt hfloor.le (Int64.toInt_lt n)
  rw [binLong_of_pos hstep, Except.map_eq_error_iff, Result.ofOption_eq_error_iff,
    ← Option.not_isSome_iff_eq_none, Number.long?_isSome_iff, eq_comm (a := EvalError.overflow)]
  refine and_congr_left fun _ => ⟨fun hout => ⟨_, hfloor, by omega⟩, ?_⟩
  rintro ⟨m, hm, hlow⟩ hfits
  rw [(floorMultiple_eq_iff hstep).2 hm] at hfits
  omega

end Long

/-! ### Values that hold integers -/

section Bin

variable {v size : Value} {n s : Int64} (hv : v.HoldsLong n) (hs : size.asLong? = some s)
include hv hs

/-- Integers are rounded down as integers. -/
theorem bin_eq_binLong : bin v size = binLong n s := by
  rw [bin.eq_def, hv.isAbsent, if_neg Bool.false_ne_true, hv.toNumeric?]
  cases size <;> cases hs <;> rfl

/-- **Integers are rounded down to the floor.**  A size that is not positive is refused.  For any
other one there is a greatest multiple not above the value, less than one size below it, and this is
the result unless it lies below the integers of 64 bits: only then the value is refused.  So what
has been rounded down stays as it is, and a value that is not smaller is rounded down to a result
that is not smaller. -/
theorem bin_of_integers :
    (s.toInt ≤ 0 → bin v size = .error (sizeError (Value.text (.long s)))) ∧
    (0 < s.toInt → ∃ m : Int, IsFloor n.toInt s.toInt m ∧
      (∀ k : Int, s.toInt ∣ k → k ≤ n.toInt → k ≤ m) ∧
      (-0x8000000000000000 ≤ m → ∃ l : Int64, l.toInt = m ∧ bin v size = .ok (.long l)) ∧
      (m < -0x8000000000000000 → bin v size = .error .overflow)) ∧
    (∀ r, bin v size = .ok r → bin r size = .ok r) ∧
    ∀ (w : Value) (n' : Int64) (r : Value), w.HoldsLong n' → n.toInt ≤ n'.toInt →
      bin v size = .ok r →
        ∃ l l' : Int64, r = .long l ∧ bin w size = .ok (.long l') ∧ l.toInt ≤ l'.toInt := by
  have hpos {r : Value} (hr : bin v size = .ok r) : 0 < s.toInt := by
    by_contra hnot
    rw [bin_eq_binLong hv hs, binLong_of_nonpos (Int.not_lt.1 hnot)] at hr
    cases hr
  refine ⟨fun hs' => ?_, fun hs' => ?_, fun r hr => ?_, fun w n' r hw hle hr => ?_⟩
  · rw [bin_eq_binLong hv hs, binLong_of_nonpos hs']
  · have hfloor := isFloor_floorMultiple (n := n.toInt) hs'
    have hhigh := Int.lt_of_le_of_lt hfloor.le (Int64.toInt_lt n)
    refine ⟨_, hfloor, fun k hk hle => hfloor.greatest hk hle, fun hlow => ?_, fun hlow => ?_⟩
    · have hl := Number.toInt_clampLong ⟨hlow, hhigh⟩
      rw [bin_eq_binLong hv hs]
      exact ⟨_, hl, (binLong_eq_ok_iff hs').2 ⟨_, rfl, by rwa [hl]⟩⟩
    · rw [bin_eq_binLong hv hs]
      exact (binLong_eq_error_iff hs').2 ⟨⟨_, hfloor, hlow⟩, rfl⟩
  · have hs' := hpos hr
    rw [bin_eq_binLong hv hs] at hr
    obtain ⟨l, rfl, hl⟩ := (binLong_eq_ok_iff hs').1 hr
    rw [bin_eq_binLong (.long l) hs]
    exact (binLong_eq_ok_iff hs').2 ⟨l, rfl, isFloor_self hs' hl.dvd⟩
  · have hs' := hpos hr
    rw [bin_eq_binLong hv hs] at hr
    obtain ⟨l, rfl, hl⟩ := (binLong_eq_ok_iff hs').1 hr
    -- the floor of the greater value is above one that fits, so it fits as well
    have hfloor := isFloor_floorMultiple (n := n'.toInt) hs'
    have hgrow := hl.mono hfloor hle
    have hlow := Int.le_trans (Int64.le_toInt l) hgrow
    have hhigh := Int.lt_of_le_of_lt hfloor.le (Int64.toInt_lt n')
    have hl' := Number.toInt_clampLong ⟨hlow, hhigh⟩
    refine ⟨l, _, rfl, ?_, hl' ▸ hgrow⟩
    rw [bin_eq_binLong hw hs]
    exact (binLong_eq_ok_iff hs').2 ⟨_, rfl, by rwa [hl']⟩

end Bin

/-- A text before zero is rounded down, away from zero; the least integer of 64 bits has no multiple
of three that is not above it. -/
theorem bin_of_text_of_negative :
    (Value.string " -7 ").HoldsLong (-7) ∧ (Value.int 5).asLong? = some 5
    ∧ bin (.string " -7 ") (.int 5) = .ok (.long (-10))
    ∧ bin (.long Int64.minValue) (.long 3) = .error .overflow := by
  have hv : (Value.string " -7 ").HoldsLong (-7) :=
    .string (Digits.readInt?_eq_some_iff.1 (by decide))
  have hfive : (Value.int 5).asLong? = some 5 := rfl
  have hthree : (Value.long 3).asLong? = some 3 := rfl
  refine ⟨hv, hfive, ?_, ?_⟩
  · obtain ⟨m, hfloor, -, hok, -⟩ := (bin_of_integers hv hfive).2.1 (by decide)
    obtain rfl : -10 = m :=
      (floorMultiple_eq_iff (by decide : (0 : Int) < (5 : Int64).toInt)).2 hfloor
    obtain ⟨l, hl, hbin⟩ := hok (by decide)
    obtain rfl : l = -10 := Int64.toInt_inj.1 hl
    exact hbin
  · obtain ⟨m, hfloor, -, -, herror⟩ :=
      (bin_of_integers (.long Int64.minValue) hthree).2.1 (by decide)
    obtain rfl : -9223372036854775809 = m :=
      (floorMultiple_eq_iff (by decide : (0 : Int) < (3 : Int64).toInt)).2 hfloor
    exact herror (by decide)

end Function

end EventQuery
