/-
**Times rounded down.**

A time is rounded down to a multiple of a timespan as a number of nanoseconds: an instant as that
from the beginning of 1970, a timespan as its own.  Timespans are counted in 64 bits here.  Below
`2 ^ 63` nanoseconds the count is the timespan, and the result is the greatest multiple of the size
that is not above the value.  Any other timespan, a negative one too, counts as `2 ^ 63 - 1`
nanoseconds, whether it is the size or the value.

Main definitions:

* `IsFloor` — **the greatest multiple of a step that is not above a number**.

Main results:

* `floorMultiple_eq_iff` — rounding down gives the floor;
* `Timespan.cappedNanos_eq` — the count of a timespan;
* `Function.bin_datetime`, `Function.bin_timespan` — rounding down, or no result in range;
* `Function.bin_eq_floor_of_counts` — **times are rounded down to the floor of their counts**;
* `Function.not_isFloor_of_bin` — a long timespan before zero is rounded up.
-/

import EventQuery.Function.Time
import EventQuery.Proofs.Instant.Regular

set_option relaxedAutoImplicit false
set_option autoImplicit false

namespace EventQuery

/-! ### Floors -/

/-- **The greatest multiple of a step that is not above a number.** -/
structure IsFloor (n step m : Int) : Prop where
  dvd : step ∣ m
  le : m ≤ n
  lt_add : n < m + step

section Floor

variable {n step m : Int}

theorem isFloor_floorMultiple (hstep : 0 < step) : IsFloor n step (floorMultiple n step) := by
  have hnext := Int.lt_ediv_add_one_mul_self n hstep
  rw [Int.add_mul, Int.one_mul] at hnext
  exact ⟨Int.dvd_mul_left _ _, Int.ediv_mul_le _ (Int.ne_of_gt hstep), hnext⟩

/-- **Rounding down gives the floor**, and there is no other. -/
theorem floorMultiple_eq_iff (hstep : 0 < step) : floorMultiple n step = m ↔ IsFloor n step m := by
  constructor
  · rintro rfl
    exact isFloor_floorMultiple hstep
  · rintro ⟨⟨k, rfl⟩, hle, hlt⟩
    have hk : n / step = k := by
      rw [Int.ediv_eq_iff_of_pos hstep]
      rw [Int.mul_comm] at hle hlt
      exact ⟨hle, hlt⟩
    rw [floorMultiple, hk, Int.mul_comm]

end Floor

/-! ### Counts of nanoseconds -/

/-- **The count of a timespan**: its nanoseconds if they fit in 64 bits, and the greatest integer of
64 bits otherwise. -/
theorem Timespan.cappedNanos_eq (d : Timespan) :
    d.cappedNanos
      = if -0x8000000000000000 ≤ d.nanos ∧ d.nanos < 0x8000000000000000 then d.nanos
        else 0x7FFFFFFFFFFFFFFF := by
  rw [cappedNanos, nanos64?]
  cases hfits : Number.long? d.nanos with
  | none =>
      rw [← Option.not_isSome_iff_eq_none, Number.long?_isSome_iff] at hfits
      rw [if_neg (by omega)]
      rfl
  | some n =>
      have hrange := Number.long?_isSome_iff.1 (Option.isSome_of_eq_some hfits)
      rw [if_pos (by omega), Option.map_some, Option.getD_some, Number.toInt_of_long? hfits]

theorem Timespan.cappedNanos_pos {d : Timespan} (hd : 0 < d.nanos) : 0 < d.cappedNanos := by
  rw [cappedNanos_eq]
  split <;> omega

theorem Instant.Regular.epochNanos_lt_second {t : Instant} (ht : t.Regular) :
    t.epochNanos < (t.second + 1) * 1000000000 := by
  rw [Regular] at ht
  rw [epochNanos]
  omega

/-- A regular instant comes after another instant exactly if it comes after its whole second. -/
theorem Instant.Regular.cmp_eq_gt_iff {m t : Instant} (hm : m.Regular)
    (hle : m.epochNanos ≤ t.epochNanos) :
    m.cmp t = .gt ↔ (t.second + 1) * 1000000000 ≤ m.epochNanos := by
  rw [Regular] at hm
  rw [epochNanos, epochNanos] at hle
  rw [cmp, Ordering.then_eq_gt, Int.compare_eq_gt, Int.compare_eq_eq, Nat.compare_eq_gt, epochNanos]
  omega

/-! ### Rounding down -/

namespace Function

section Bin

variable {d : Timespan} (hd : 0 < d.nanos)
include hd

/-- **An instant is rounded down** to the floor of its number, if this is the number of an
instant. -/
theorem bin_datetime (t : Instant) :
    (∃ m : Instant, m.Regular ∧ IsFloor t.epochNanos d.cappedNanos m.epochNanos ∧
      bin (.datetime t) (.timespan d) = .ok (.datetime m)) ∨
    (∀ m : Instant, m.Regular → ¬ IsFloor t.epochNanos d.cappedNanos m.epochNanos) ∧
      bin (.datetime t) (.timespan d) = .error binRangeError := by
  have hfloor := fun m => floorMultiple_eq_iff (n := t.epochNanos) (m := m)
    (Timespan.cappedNanos_pos hd)
  have hbin : bin (.datetime t) (.timespan d)
      = (Result.ofOption binRangeError (t.floorTo? d)).map Value.datetime := by
    change binBySpan (.datetime t) d = _
    rw [binBySpan.eq_def, if_neg (by omega)]
    rfl
  rw [hbin, Instant.floorTo?]
  cases hm : Instant.ofEpochNanos? (floorMultiple t.epochNanos d.cappedNanos) with
  | some m =>
      obtain ⟨hregular, hnanos⟩ := Instant.ofEpochNanos?_eq_some hm
      exact .inl ⟨m, hregular, (hfloor _).1 hnanos.symm, rfl⟩
  | none =>
      refine .inr ⟨fun m hregular hisFloor => ?_, rfl⟩
      rw [(hfloor _).2 hisFloor, Instant.ofEpochNanos?_epochNanos hregular] at hm
      cases hm

/-- **A timespan is rounded down** to the floor of its count, if this fits in 64 bits. -/
theorem bin_timespan (v : Timespan) :
    (∃ m : Timespan, IsFloor v.cappedNanos d.cappedNanos m.nanos ∧ -0x8000000000000000 ≤ m.nanos ∧
      bin (.timespan v) (.timespan d) = .ok (.timespan m)) ∨
    (∃ n, IsFloor v.cappedNanos d.cappedNanos n ∧ n < -0x8000000000000000) ∧
      bin (.timespan v) (.timespan d) = .error binRangeError := by
  have hfloor := isFloor_floorMultiple (n := v.cappedNanos) (Timespan.cappedNanos_pos hd)
  have hbin : bin (.timespan v) (.timespan d)
      = (Result.ofOption binRangeError
          (Number.long? (floorMultiple v.cappedNanos d.cappedNanos))).map
        fun n => .timespan (.ofLong n) := by
    change binBySpan (.timespan v) d = _
    rw [binBySpan, if_neg (by omega)]
  have hupper : v.cappedNanos < 0x8000000000000000 := by
    rw [Timespan.cappedNanos_eq]
    split <;> omega
  have hle := hfloor.le
  rw [hbin]
  cases hfits : Number.long? (floorMultiple v.cappedNanos d.cappedNanos) with
  | some n =>
      rw [← Number.toInt_of_long? hfits] at hfloor
      exact .inl ⟨.ofLong n, hfloor, Int64.le_toInt n, rfl⟩
  | none =>
      rw [← Option.not_isSome_iff_eq_none, Number.long?_isSome_iff] at hfits
      exact .inr ⟨⟨_, hfloor, by omega⟩, rfl⟩

/-- **Times are rounded down to the floor of their counts.**  A timespan below `2 ^ 63` nanoseconds
counts as it is; any other one, before zero as well, counts as the greatest integer of 64 bits.  An
instant becomes the regular instant whose number is the floor, or there is none; the result comes
after the value exactly if the value lies inside a leap second and the floor behind that second.  A
timespan becomes the floor, or this does not fit in 64 bits. -/
theorem bin_eq_floor_of_counts :
    (∀ v : Timespan, v.cappedNanos
      = if -0x8000000000000000 ≤ v.nanos ∧ v.nanos < 0x8000000000000000 then v.nanos
        else 0x7FFFFFFFFFFFFFFF) ∧
    (∀ t : Instant,
      (∃ m : Instant, m.Regular ∧ IsFloor t.epochNanos d.cappedNanos m.epochNanos ∧
        (m.cmp t = .gt ↔ ¬ t.Regular ∧ (t.second + 1) * 1000000000 ≤ m.epochNanos) ∧
        bin (.datetime t) (.timespan d) = .ok (.datetime m)) ∨
      (∀ m : Instant, m.Regular → ¬ IsFloor t.epochNanos d.cappedNanos m.epochNanos) ∧
        bin (.datetime t) (.timespan d) = .error binRangeError) ∧
    ∀ v : Timespan,
      (∃ m : Timespan, IsFloor v.cappedNanos d.cappedNanos m.nanos ∧
        -0x8000000000000000 ≤ m.nanos ∧
        bin (.timespan v) (.timespan d) = .ok (.timespan m)) ∨
      (∃ n, IsFloor v.cappedNanos d.cappedNanos n ∧ n < -0x8000000000000000) ∧
        bin (.timespan v) (.timespan d) = .error binRangeError := by
  refine ⟨Timespan.cappedNanos_eq, fun t => ?_, bin_timespan hd⟩
  obtain ⟨m, hm, hfloor, hbin⟩ | herror := bin_datetime hd t
  · refine .inl ⟨m, hm, hfloor, ?_, hbin⟩
    rw [hm.cmp_eq_gt_iff hfloor.le, iff_and_self]
    exact fun hbehind ht =>
      Int.not_lt.2 (Int.le_trans hbehind hfloor.le) ht.epochNanos_lt_second
  · exact .inr herror

end Bin

/-- Half a second into a leap second, by the minute: the minute begins behind the leap second. -/
theorem bin_of_leap_second :
    let t : Instant := ⟨1483228799, 1500000000, by decide, by decide, by decide, by decide⟩
    let minute : Timespan := ⟨60000000000, by decide⟩
    0 < minute.nanos ∧ ∃ m : Instant, bin (.datetime t) (.timespan minute) = .ok (.datetime m) ∧
      m.epochNanos = 1483228800000000000 ∧ m.cmp t = .gt := by
  intro t minute
  have hminute : 0 < minute.nanos := by decide
  let start : Instant := ⟨1483228800, 0, by decide, by decide, by decide, by decide⟩
  have hstart : floorMultiple t.epochNanos minute.cappedNanos = start.epochNanos := by
    decide
  have hcapped := Timespan.cappedNanos_pos hminute
  obtain ⟨m, -, hfloor, hlater, hbin⟩ | ⟨hnone, -⟩ := (bin_eq_floor_of_counts hminute).2.1 t
  · have hm : m.epochNanos = start.epochNanos :=
      ((floorMultiple_eq_iff hcapped).2 hfloor).symm.trans hstart
    refine ⟨hminute, m, hbin, hm, hlater.2 ⟨Nat.not_lt.2 (by decide), ?_⟩⟩
    rw [hm]
    decide
  · have hregular : start.Regular := Nat.zero_lt_succ _
    exact absurd ((floorMultiple_eq_iff hcapped).1 hstart) (hnone start hregular)

/-- **A long timespan before zero is rounded up**, to the end of the range. -/
theorem not_isFloor_of_bin :
    ¬ ∀ d v m : Timespan, 0 < d.nanos → bin (.timespan v) (.timespan d) = .ok (.timespan m) →
      IsFloor v.nanos d.nanos m.nanos := by
  intro h
  let day : Timespan := ⟨86400000000000, by decide⟩
  let v : Timespan := ⟨-9504000000000000000, by decide⟩
  have hday : 0 < day.nanos := by decide
  obtain ⟨m, -, hlow, hbin⟩ | ⟨⟨n, hfloor, hlow⟩, -⟩ := bin_timespan hday v
  · have hle : m.nanos ≤ -9504000000000000000 := (h day v m hday hbin).le
    omega
  · have hlt := hfloor.lt_add
    rw [Timespan.cappedNanos_eq, Timespan.cappedNanos_eq, if_neg (by decide), if_pos (by decide)]
      at hlt
    change 0x7FFFFFFFFFFFFFFF < n + 86400000000000 at hlt
    omega

end Function

end EventQuery
