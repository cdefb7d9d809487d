/-
**Timespans written in the clock form are read back.**

The clock form keeps the whole ticks of a timespan and drops the rest.  Its fields are the digits of
the size in days, hours, minutes, seconds and ticks, so the text is in the form whose fields are
digits only, and reading it adds the fields up again.

Main definitions:

* `Timespan.wholeTicks` — the timespan without what is below a tick;
* `Timespan.clockFields` — the fields that are written.

Main results:

* `Timespan.written_clockChars` — **the text is in the clock form**;
* `Timespan.value_clockFields` — its fields add up to the whole ticks;
* `Timespan.read?_clock` — **what is read back**, also from the texts of values, the names of groups
  and JSON.
-/

import EventQuery.Pipeline.Cells
import EventQuery.Proofs.Grammar.Literal
import EventQuery.Proofs.Json.RoundTrip
import EventQuery.Proofs.Timespan.Reading
import EventQuery.Value.Coercion

set_option relaxedAutoImplicit false
set_option autoImplicit false

namespace EventQuery

-- Powers are those of the core library, whatever other instances are in scope.
attribute [local instance (2000)] instPowNat

namespace Timespan

variable (t : Timespan)

/-! ### Whole ticks -/

theorem tdiv_size (n : Int) :
    n.tdiv 100 = if n < 0 then -((n.natAbs / 100 : Nat) : Int) else (n.natAbs / 100 : Nat) := by
  split
  · next hneg =>
      obtain ⟨m, hm⟩ := Int.eq_ofNat_of_zero_le (a := -n) (by omega)
      obtain rfl : n = -(m : Int) := by omega
      rw [Int.neg_tdiv, Int.natAbs_neg, Int.natAbs_natCast]
      rfl
  · next hnonneg =>
      obtain ⟨m, rfl⟩ := Int.eq_ofNat_of_zero_le (a := n) (by omega)
      rfl

/-- **The whole ticks of a timespan**, the rest dropped toward zero. -/
def wholeTicks : Timespan :=
  ⟨t.nanos.tdiv 100 * 100, by
    have hrange := t.in_range
    have hlimit : 0 ≤ limit := by decide
    rw [tdiv_size]
    split <;> omega⟩

theorem nanos_wholeTicks : t.wholeTicks.nanos = t.nanos.tdiv 100 * 100 := rfl

/-- A timespan of whole ticks loses nothing. -/
theorem wholeTicks_eq_self (h : 100 ∣ t.nanos) : t.wholeTicks = t :=
  nanos_inj.1 (Int.tdiv_mul_cancel h)

/-! ### The fields that are written -/

/-- **The fields that are written.** -/
def clockFields : ClockFields :=
  let size := t.nanos.natAbs
  let seconds := size / 1000000000
  { days := (seconds / 86400 : Nat)
    hours := (seconds / 3600 % 24 : Nat)
    minutes := (seconds / 60 % 60 : Nat)
    seconds := (seconds % 60 : Nat)
    nanos := (size % 1000000000 / 100 * 100 : Nat) }

theorem bounded_clockFields : t.clockFields.Bounded := by
  simp only [clockFields, ClockFields.Bounded]
  omega

/-- **The fields add up to the whole ticks.** -/
theorem total_clockFields : t.clockFields.total = (t.nanos.natAbs / 100 * 100 : Nat) := by
  simp only [ClockFields.total, ClockFields.front, ClockFields.amounts, clockFields, ofWhole,
    List.map_cons, List.map_nil, List.sum_cons, List.sum_nil]
  omega

theorem value_clockFields :
    t.clockFields.value (decide (t.nanos < 0)) = t.wholeTicks.nanos := by
  simp only [ClockFields.value, total_clockFields, wholeTicks, tdiv_size, decide_eq_true_eq]
  split <;> omega

/-! ### The text -/

theorem plain_write (n : Nat) : Plain (Digits.write n) n :=
  ⟨Digits.isNumber_write n, by rw [Digits.read_write]⟩

theorem plain_writePadded (width n : Nat) : Plain (Digits.writePadded width n) n :=
  ⟨Digits.isNumber_writePadded width n, by rw [Digits.read_writePadded]⟩

/-- Days are written when there are some. -/
theorem headForm_written (days hours : Nat) : HeadForm Plain
    ((if 0 < days then Digits.write days ++ ['.'] else []) ++ Digits.writePadded 2 hours)
    days hours := by
  split
  · rw [List.append_assoc, List.singleton_append]
    exact .days (plain_write days) (plain_writePadded 2 hours)
  · next hnone =>
      obtain rfl : days = 0 := by omega
      exact .hours (plain_writePadded 2 hours)

/-- Ticks are written when there are some, and with seven digits. -/
theorem tailForm_written {seconds ticks : Nat} (hticks : ticks < 10000000) : TailForm Plain
    (Digits.writePadded 2 seconds
      ++ (if 0 < ticks then '.' :: Digits.writePadded 7 ticks else []))
    seconds (ticks * 100 : Nat) := by
  split
  · have hlength : (Digits.writePadded 7 ticks).length = 7 :=
      Digits.length_writePadded (by decide) hticks
    have hform := TailForm.fraction (plain_writePadded 2 seconds)
      (Digits.isNumber_writePadded 7 ticks) (by rw [hlength]; decide)
    rwa [hlength, Digits.read_writePadded] at hform
  · next hnone =>
      obtain rfl : ticks = 0 := by omega
      rw [List.append_nil]
      exact .whole (plain_writePadded 2 seconds)

/-- **The text is in the clock form**, with digits only in its fields. -/
theorem written_clockChars : Written Plain t.clockChars (decide (t.nanos < 0)) t.clockFields := by
  have hticks : t.nanos.natAbs % 1000000000 / 100 < 10000000 := by omega
  have hform : ClockForm Plain _ t.clockFields :=
    .long (headForm_written _ _) (plain_writePadded 2 _) (tailForm_written hticks)
  refine ⟨_, ?_, hform, fun _ hsign => ?_⟩
  · simp only [clockChars, decide_eq_true_eq, List.append_assoc, List.cons_append]
    split <;> rfl
  · have hminus := hform.digits (List.mem_of_mem_head? hsign)
    exact absurd hminus (by decide)

/-- **The clock form is read back** as the whole ticks. -/
theorem read_clock : read t.clock = .ok t.wholeTicks := by
  have hwritten : Written Plain (Text.strip t.clock.toList) (decide (t.nanos < 0))
      t.clockFields := by
    rw [clock, String.toList_ofList, (Token.bare_clockChars t).strip]
    exact written_clockChars t
  exact ((read_of_plain hwritten).2.2 _).2 ⟨bounded_clockFields t, (value_clockFields t).symm⟩

/-- **What is read back of a written timespan** are its whole ticks, hence all of it when there is
nothing below a tick.  The text of a value, the names of groups and JSON are written so. -/
theorem read?_clock :
    read? t.clock = some t.wholeTicks
    ∧ (100 ∣ t.nanos → read? t.clock = some t)
    ∧ (Value.string (Value.timespan t).text).toTimespan? = some t.wholeTicks
    ∧ (∀ ts : List Timespan, (GroupKey.ofValues (ts.map Value.timespan)).map read?
        = ts.map fun t => some t.wholeTicks)
    ∧ (Json.read? (Value.timespan t).toJson.compact).bind (fun j => (Value.ofJson j).toTimespan?)
        = some t.wholeTicks := by
  have hread (t : Timespan) : read? t.clock = some t.wholeTicks := by
    rw [read?, read_clock]
    rfl
  have htext (t : Timespan) : (Value.timespan t).text = t.clock := by rw [Value.text]
  refine ⟨hread t, fun h => ?_, ?_, fun ts => ?_, ?_⟩
  · rw [hread, wholeTicks_eq_self t h]
  · rw [Value.toTimespan?, htext, hread]
  · rw [GroupKey.ofValues, List.map_map, List.map_map]
    refine List.map_congr_left fun t _ => ?_
    rw [Function.comp_apply, Function.comp_apply, htext, hread]
  · have hjson : (Value.timespan t).toJson = .string t.clock := by rw [Value.toJson]
    rw [hjson, Json.read?_compact (.string _ _), Option.bind_some, Value.ofJson,
      Value.toTimespan?, hread]

/-- A tenth of a second, and half a tick that is lost. -/
theorem read?_clock_of_half_tick :
    read? (Timespan.mk (-100000050) (by decide)).clock = some ⟨-100000000, by decide⟩
    ∧ read? (Timespan.mk (-100000000) (by decide)).clock = some ⟨-100000000, by decide⟩ :=
  ⟨(read?_clock _).1, (read?_clock ⟨-100000000, by decide⟩).2.1 (by decide)⟩

end Timespan

end EventQuery
