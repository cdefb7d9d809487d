/-
**Where windows begin and end.**

Away from leap seconds an instant is the number of its nanoseconds, and windows are intervals of
numbers: the first one begins at the first time cut down to a unit, and the others follow without a
gap.

Main definitions:

* `Window.origin` — the beginning of the first window, in nanoseconds.

Main results:

* `Window.origin_le`, `Window.lt_origin_add` — **the first time lies in the first window**;
* `Window.firstEnd?_eq`, `Window.nextEnd?_eq` — ends of windows as numbers.
-/

import EventQuery.Pipeline.Window
import EventQuery.Proofs.Instant.Regular

set_option relaxedAutoImplicit false
set_option autoImplicit false

namespace EventQuery

namespace Window

/-! ### The first window -/

/-- **The beginning of the first window** when the first time is `t`: the time cut down to a
multiple of the unit, if there is one. -/
def origin (duration : Timespan) (t : Instant) : Int :=
  match unit? duration with
  | some unit => t.epochNanos / unit.nanos * unit.nanos
  | none => t.epochNanos

/-- A unit is a second, a minute, an hour or a day, and the duration is not below it. -/
theorem unit?_cases {duration unit : Timespan} (hd : 0 < duration.nanos)
    (h : unit? duration = some unit) :
    (unit.nanos = 1000000000 ∨ unit.nanos = 60000000000 ∨ unit.nanos = 3600000000000
      ∨ unit.nanos = 86400000000000) ∧ unit.nanos ≤ duration.nanos := by
  have hseconds := Int.mul_tdiv_add_tmod duration.nanos 1000000000
  have hrest := Int.tmod_nonneg 1000000000 (Int.le_of_lt hd)
  have hpositive := Int.tdiv_nonneg (Int.le_of_lt hd) (by decide : (0 : Int) ≤ 1000000000)
  rw [unit?, Timespan.seconds] at h
  generalize duration.nanos.tdiv 1000000000 = seconds at *
  split at h
  · cases h
    exact ⟨.inl rfl, by simp only [ofSeconds]; omega⟩
  · split at h
    · cases h
      exact ⟨.inr (.inl rfl), by simp only [ofSeconds]; omega⟩
    · split at h
      · cases h
        exact ⟨.inr (.inr (.inl rfl)), by simp only [ofSeconds]; omega⟩
      · split at h
        · cases h
          exact ⟨.inr (.inr (.inr rfl)), by simp only [ofSeconds]; omega⟩
        · cases h

/-- A unit fits in 64 bits. -/
theorem cappedNanos_of_unit? {duration unit : Timespan} (hd : 0 < duration.nanos)
    (h : unit? duration = some unit) : unit.cappedNanos = unit.nanos := by
  obtain ⟨hcases, -⟩ := unit?_cases hd h
  have hfits : unit.nanos64?.isSome := Number.long?_isSome_iff.2 (by omega)
  obtain ⟨n, hn⟩ := Option.isSome_iff_exists.1 hfits
  have hnanos : n.toInt = unit.nanos := Number.toInt_of_long? hn
  rw [Timespan.cappedNanos, hn, Option.map_some, Option.getD_some, hnanos]

/-- The first window does not begin after the first time. -/
theorem origin_le {duration : Timespan} (hd : 0 < duration.nanos) (t : Instant) :
    origin duration t ≤ t.epochNanos := by
  rw [origin]
  cases h : unit? duration with
  | none => exact Int.le_refl _
  | some unit =>
      obtain ⟨hcases, -⟩ := unit?_cases hd h
      exact Int.ediv_mul_le _ (by omega)

/-- **The first time lies in the first window.** -/
theorem lt_origin_add {duration : Timespan} (hd : 0 < duration.nanos) (t : Instant) :
    t.epochNanos < origin duration t + duration.nanos := by
  rw [origin]
  cases h : unit? duration with
  | none =>
      simp only
      omega
  | some unit =>
      obtain ⟨hcases, hle⟩ := unit?_cases hd h
      have hnext := Int.lt_ediv_add_one_mul_self t.epochNanos (by omega : 0 < unit.nanos)
      rw [Int.add_mul, Int.one_mul] at hnext
      simp only
      omega

/-- The first window begins in range: the range begins with a day. -/
theorem origin_ge {duration : Timespan} (hd : 0 < duration.nanos) (t : Instant) :
    Instant.firstSecond * 1000000000 ≤ origin duration t := by
  have ht := t.epochNanos_ge
  rw [origin]
  cases h : unit? duration with
  | none => exact ht
  | some unit =>
      obtain ⟨hcases, -⟩ := unit?_cases hd h
      simp only [Instant.firstSecond] at ht ⊢
      rcases hcases with hu | hu | hu | hu <;> rw [hu] <;> omega

/-- The anchor is the origin as an instant. -/
theorem anchor_spec {duration : Timespan} (hd : 0 < duration.nanos) {t : Instant}
    (ht : t.Regular) :
    (anchor t duration).Regular ∧ (anchor t duration).epochNanos = origin duration t := by
  have hlast := ht.epochNanos_lt
  have hle := origin_le hd t
  have hge := origin_ge hd t
  rw [anchor]
  cases h : unit? duration with
  | none =>
      rw [origin, h]
      exact ⟨ht, rfl⟩
  | some unit =>
      obtain ⟨start, hstart, hregular, hnanos⟩ :=
        Instant.exists_ofEpochNanos? hge (Int.lt_of_le_of_lt hle hlast)
      have hfloor : t.floorTo? unit = some start := by
        rw [Instant.floorTo?, floorMultiple, cappedNanos_of_unit? hd h, ← hstart, origin, h]
      rw [Option.bind_some, hfloor, Option.getD_some]
      exact ⟨hregular, hnanos⟩

/-! ### Ends of windows -/

/-- **The end of the first window** lies one duration behind its beginning. -/
theorem firstEnd?_eq {duration : Timespan} (hd : 0 < duration.nanos) {t : Instant}
    (ht : t.Regular) :
    firstEnd? t duration = Instant.ofEpochNanos? (origin duration t + duration.nanos) := by
  obtain ⟨hregular, hnanos⟩ := anchor_spec hd ht
  rw [firstEnd?, Instant.add?, Instant.shift?_of_regular hregular, hnanos]

/-- **The end of the window that holds a later time** lies a whole number of durations behind the
end of the window that was open. -/
theorem nextEnd?_eq {duration : Timespan} (hfits : duration.nanos64?.isSome) (stop t : Instant) :
    nextEnd? stop t duration
      = Instant.ofEpochNanos? (stop.epochNanos
          + ((t.epochNanos - stop.epochNanos) / duration.nanos + 1) * duration.nanos) := by
  obtain ⟨step, hstep⟩ := Option.isSome_iff_exists.1 hfits
  have hnanos : step.toInt = duration.nanos := Number.toInt_of_long? hstep
  rw [nextEnd?, hstep]
  simp only [Option.bind_eq_bind, Option.bind_some, hnanos]

end Window

end EventQuery
