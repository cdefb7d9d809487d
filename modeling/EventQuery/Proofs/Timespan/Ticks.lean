/-
**Timespans in ticks.**

A number of ticks is a timespan, a hundred nanoseconds for each tick.  Going back, the ticks of a
timespan are counted from its nanoseconds as long as these fit in 64 bits, and none of them is lost.
A longer timespan is counted from its microseconds, so its ticks come in tens: what it has beyond
the last ten of them is dropped, although the number of all its ticks fits.

Main definitions:

* `Timespan.Short` — the nanoseconds fit in 64 bits.

Main results:

* `Timespan.toInt_ticks_of_short`, `Timespan.ticks_of_not_short` — **the two counts**;
* `Timespan.toInt_ticks_ofTicks` — what is left of a number of ticks;
* `Timespan.ticks_round_trip` — **when ticks come back**, and what comes back otherwise;
* `Timespan.not_ticks_round_trip` — a number of ticks that does not come back.
-/

import EventQuery.Proofs.Timespan.Clock
import EventQuery.Proofs.Value.Arithmetic

set_option relaxedAutoImplicit false
set_option autoImplicit false

namespace EventQuery

namespace Timespan

variable {t : Timespan} {n : Int64}

/-! ### The two counts -/

/-- **The nanoseconds of the timespan fit in 64 bits**; they do for about 292 years. -/
def Short (t : Timespan) : Prop := -0x8000000000000000 ≤ t.nanos ∧ t.nanos < 0x8000000000000000

instance (t : Timespan) : Decidable t.Short := inferInstanceAs (Decidable (_ ∧ _))

/-- **A short timespan is counted exactly**, but for what is below a tick. -/
theorem toInt_ticks_of_short (h : t.Short) : t.ticks.toInt = t.nanos.tdiv 100 := by
  obtain ⟨k, hk⟩ := Option.isSome_iff_exists.1 (Number.long?_isSome_iff.2 h)
  have hdiv := isDivision_tdiv t.nanos (n := 100) (by decide)
  have hsum := hdiv.sum
  have hsmall := hdiv.small
  rw [ticks, nanos64?, hk]
  change (Int64.ofInt (k.toInt.tdiv 100)).toInt = _
  rw [Number.toInt_of_long? hk]
  unfold Short at h
  exact Int64.toInt_ofInt_of_le (by omega) (by omega)

/-- **Any other timespan is counted in microseconds**, ten ticks for each of them, and the end of
the range is counted where these are too many. -/
theorem ticks_of_not_short (h : ¬ t.Short) :
    t.ticks = Number.clampLong (t.nanos.tdiv 1000 * 10) := by
  have hnone : Number.long? t.nanos = none :=
    Option.not_isSome_iff_eq_none.1 fun hsome => h (Number.long?_isSome_iff.1 hsome)
  rw [ticks, nanos64?, hnone, micros64?]
  cases hmicros : Number.long? (t.nanos.tdiv 1000) with
  | some k =>
      change Number.clampLong (k.toInt * 10) = _
      rw [Number.toInt_of_long? hmicros]
  | none =>
      change (if t.nanos < 0 then Int64.minValue else Int64.maxValue) = _
      rw [← Option.not_isSome_iff_eq_none, Number.long?_isSome_iff] at hmicros
      have hdiv := isDivision_tdiv t.nanos (n := 1000) (by decide)
      have hsum := hdiv.sum
      have hsmall := hdiv.small
      -- the microseconds have the sign of the timespan
      split
      · exact (Number.clampLong_of_le (by omega)).symm
      · exact (Number.clampLong_of_ge (by omega)).symm

/-! ### There and back -/

theorem nanos_ofTicks (n : Int64) : (ofTicks n).nanos = n.toInt * 100 := rfl

/-- Ten ticks are a microsecond. -/
theorem micros_ofTicks (n : Int64) : (ofTicks n).nanos.tdiv 1000 = n.toInt.tdiv 10 :=
  Int.mul_tdiv_mul_of_pos_left n.toInt 10 (by decide)

theorem ofTicks_inj {m : Int64} : ofTicks m = ofTicks n ↔ m = n := by
  rw [← nanos_inj, nanos_ofTicks, nanos_ofTicks, ← Int64.toInt_inj]
  omega

/-- A timespan of whole ticks whose number fits is one of a number of ticks. -/
theorem eq_ofTicks (h : t.nanos = n.toInt * 100) : t = ofTicks n := nanos_inj.1 h

/-- **What is left of a number of ticks**: all of them, or the tens. -/
theorem toInt_ticks_ofTicks (n : Int64) :
    (ofTicks n).ticks.toInt = if (ofTicks n).Short then n.toInt else n.toInt.tdiv 10 * 10 := by
  split
  · next h =>
      rw [toInt_ticks_of_short h, nanos_ofTicks]
      exact Int.mul_tdiv_cancel n.toInt (by decide)
  · next h =>
      rw [ticks_of_not_short h, micros_ofTicks]
      -- the tens of a number are between the number and zero
      have hdiv := isDivision_tdiv n.toInt (n := 10) (by decide)
      have hsum := hdiv.sum
      have hsmall := hdiv.small
      have hnonneg := hdiv.nonneg
      have hnonpos := hdiv.nonpos
      have hlow := Int64.le_toInt n
      have hhigh := Int64.toInt_lt n
      exact Number.toInt_clampLong (by omega)

theorem ticks_ofTicks_eq_iff : (ofTicks n).ticks = n ↔ (ofTicks n).Short ∨ 10 ∣ n.toInt := by
  have hten : n.toInt.tdiv 10 * 10 = n.toInt ↔ 10 ∣ n.toInt :=
    ⟨fun h => ⟨_, by rw [Int.mul_comm, h]⟩, Int.tdiv_mul_cancel⟩
  rw [← Int64.toInt_inj, toInt_ticks_ofTicks]
  split
  · next h => exact ⟨fun _ => .inl h, fun _ => rfl⟩
  · next h => rw [hten, or_iff_right h]

/-- **When ticks come back.**  A number of ticks comes back from its timespan, and a timespan of
whole ticks from their number, as long as the timespan is short.  A longer one loses what it has
beyond its whole microseconds, so it comes back exactly if it has nothing there. -/
theorem ticks_round_trip (n : Int64) :
    ((ofTicks n).ticks.toInt
      = if -0x8000000000000000 ≤ n.toInt * 100 ∧ n.toInt * 100 < 0x8000000000000000 then n.toInt
        else n.toInt.tdiv 10 * 10) ∧
    ((ofTicks n).ticks = n ↔ (ofTicks n).Short ∨ 10 ∣ n.toInt) ∧
    ∀ t : Timespan, t.nanos = n.toInt * 100 →
      ((ofTicks t.ticks).nanos = if t.Short then t.nanos else t.nanos.tdiv 1000 * 1000) ∧
      (ofTicks t.ticks = t ↔ t.Short ∨ 1000 ∣ t.nanos) := by
  refine ⟨toInt_ticks_ofTicks n, ticks_ofTicks_eq_iff, fun t ht => ?_⟩
  obtain rfl := eq_ofTicks ht
  have hthousand : (1000 : Int) ∣ n.toInt * 100 ↔ 10 ∣ n.toInt := by omega
  constructor
  · rw [nanos_ofTicks, toInt_ticks_ofTicks, micros_ofTicks]
    split
    · rfl
    · omega
  · rw [ofTicks_inj, ticks_ofTicks_eq_iff, nanos_ofTicks, hthousand]

/-- The greatest number of ticks is beyond the short timespans: its last seven ticks are lost. -/
theorem ticks_round_trip_of_greatest :
    (ofTicks Int64.maxValue).ticks.toInt = 9223372036854775800
    ∧ (Timespan.mk 922337203685477580700 (by decide)).nanos = Int64.maxValue.toInt * 100
    ∧ (ofTicks (Timespan.mk 922337203685477580700 (by decide)).ticks).nanos
      = 922337203685477580000 :=
  ⟨(ticks_round_trip Int64.maxValue).1, rfl, ((ticks_round_trip Int64.maxValue).2.2 _ rfl).1⟩

/-- **Not every number of ticks comes back**, and not every timespan of whole ticks. -/
theorem not_ticks_round_trip :
    (¬ ∀ n : Int64, (ofTicks n).ticks = n) ∧
      ¬ ∀ (t : Timespan) (n : Int64), t.nanos = n.toInt * 100 → ofTicks t.ticks = t := by
  have hlost : (ofTicks 92233720368547759).ticks ≠ 92233720368547759 := by decide
  refine ⟨fun h => hlost (h _), fun h => hlost ?_⟩
  exact ofTicks_inj.1 (h (ofTicks 92233720368547759) 92233720368547759 rfl)

end Timespan

end EventQuery
