/-
**Instants as numbers.**

Away from leap seconds an instant is the number of its nanoseconds: every number in range is one
such instant, and order and shifts are those of the numbers.

Main definitions:

* `Instant.Regular` — an instant that is not inside a leap second.

Main results:

* `Instant.exists_ofEpochNanos?`, `Instant.ofEpochNanos?_epochNanos` — numbers and regular instants;
* `Instant.shift?_of_regular`, `Instant.cmp_eq_lt_iff` — instants behave like numbers.
-/

import EventQuery.Instant.Basic

set_option relaxedAutoImplicit false
set_option autoImplicit false

namespace EventQuery

namespace Instant

/-- The instant is not inside a leap second. -/
def Regular (t : Instant) : Prop := t.nanos < 1000000000

theorem epochNanos_ge (t : Instant) : firstSecond * 1000000000 ≤ t.epochNanos := by
  have := t.second_ge
  rw [epochNanos]
  omega

theorem Regular.epochNanos_lt {t : Instant} (ht : t.Regular) :
    t.epochNanos < (lastSecond + 1) * 1000000000 := by
  have := t.second_le
  rw [epochNanos]
  rw [Regular] at ht
  omega

theorem ofEpochNanos?_eq_some {n : Int} {t : Instant} (h : ofEpochNanos? n = some t) :
    t.Regular ∧ t.epochNanos = n := by
  rw [ofEpochNanos?, make?] at h
  split at h
  · cases h
    rw [Regular, epochNanos]
    constructor <;> simp only <;> omega
  · cases h

/-- Every number in range is a regular instant. -/
theorem exists_ofEpochNanos? {n : Int} (hfirst : firstSecond * 1000000000 ≤ n)
    (hlast : n < (lastSecond + 1) * 1000000000) :
    ∃ t, ofEpochNanos? n = some t ∧ t.Regular ∧ t.epochNanos = n := by
  have hrange : firstSecond ≤ n / 1000000000 ∧ n / 1000000000 ≤ lastSecond
      ∧ (n % 1000000000).toNat < 2000000000
      ∧ (1000000000 ≤ (n % 1000000000).toNat → n / 1000000000 % 60 = 59) := by
    refine ⟨by omega, by omega, by omega, by omega⟩
  obtain ⟨t, ht⟩ : ∃ t, ofEpochNanos? n = some t :=
    ⟨_, by rw [ofEpochNanos?, make?, dif_pos hrange]⟩
  exact ⟨t, ht, ofEpochNanos?_eq_some ht⟩

/-- A regular instant is the instant of its number. -/
theorem ofEpochNanos?_epochNanos {t : Instant} (ht : t.Regular) :
    ofEpochNanos? t.epochNanos = some t := by
  rw [Regular] at ht
  have hsecond : t.epochNanos / 1000000000 = t.second := by
    rw [epochNanos]
    omega
  have hnanos : (t.epochNanos % 1000000000).toNat = t.nanos := by
    rw [epochNanos]
    omega
  rw [ofEpochNanos?, hsecond, hnanos, make?_self]

/-- The order of regular instants is the order of their numbers. -/
theorem cmp_eq_lt_iff {s t : Instant} (hs : s.Regular) (ht : t.Regular) :
    s.cmp t = .lt ↔ s.epochNanos < t.epochNanos := by
  rw [Regular] at hs ht
  rw [cmp, Ordering.then_eq_lt, Int.compare_eq_lt, Int.compare_eq_eq, Nat.compare_eq_lt,
    epochNanos, epochNanos]
  omega

/-- **A regular instant shifted is its number shifted.** -/
theorem shift?_of_regular {t : Instant} (ht : t.Regular) (amount : Int) :
    t.shift? amount = ofEpochNanos? (t.epochNanos + amount) := by
  rw [Regular] at ht
  have hsplit := Int.mul_tdiv_add_tmod amount 1000000000
  rw [shift?, if_neg (by omega), ofEpochNanos?, epochNanos]
  simp only [if_pos ht]
  congr 1 <;> omega

end Instant

end EventQuery
