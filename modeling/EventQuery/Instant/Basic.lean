/-
**Instants.**

An instant is a second of universal time, counted from the beginning of 1970, and a number of
nanoseconds.  During a leap second the count stands still on the last second of a minute and the
nanoseconds run on past `10 ^ 9`.

Main definitions:

* `Instant` — the type, with years from -262143 to 262142;
* `Instant.add?`, `Instant.sub?` — an instant shifted by a timespan;
* `Instant.since` — the timespan between two instants;
* `Instant.epochNanos`, `Instant.ofEpochNanos?` — nanoseconds from the beginning of 1970.
-/

import EventQuery.Instant.Calendar
import EventQuery.Timespan.Basic

set_option relaxedAutoImplicit false
set_option autoImplicit false

namespace EventQuery

/-- The first second of the year -262143. -/
def Instant.firstSecond : Int := -8334601228800

/-- The last second of the year 262142. -/
def Instant.lastSecond : Int := 8210266876799

/-- A second from 1970 and nanoseconds; these reach `10 ^ 9` only on the last second of a
minute. -/
structure Instant where
  second : Int
  nanos : Nat
  second_ge : Instant.firstSecond ≤ second
  second_le : second ≤ Instant.lastSecond
  nanos_lt : nanos < 2000000000
  leap : 1000000000 ≤ nanos → second % 60 = 59
  deriving DecidableEq

namespace Instant

/-! ### Building -/

/-- The instant of a second and nanoseconds, when it is in range. -/
def make? (second : Int) (nanos : Nat) : Option Instant :=
  if h : firstSecond ≤ second ∧ second ≤ lastSecond ∧ nanos < 2000000000
      ∧ (1000000000 ≤ nanos → second % 60 = 59) then
    some ⟨second, nanos, h.1, h.2.1, h.2.2.1, h.2.2.2⟩
  else none

instance : Inhabited Instant := ⟨⟨0, 0, by decide, by decide, by decide, by decide⟩⟩

theorem make?_self (t : Instant) : make? t.second t.nanos = some t := by
  rw [make?, dif_pos ⟨t.second_ge, t.second_le, t.nanos_lt, t.leap⟩]

/-- The order of instants. -/
def cmp (s t : Instant) : Ordering := (compare s.second t.second).then (compare s.nanos t.nanos)

theorem cmp_swap (s t : Instant) : (s.cmp t).swap = t.cmp s := by
  simp [cmp, Ordering.swap_then, Int.compare_swap, Nat.compare_swap]

/-! ### Fields -/

/-- The day, counted from 1 January 1970. -/
def day (t : Instant) : Int := t.second / 86400

/-- The second of the day. -/
def secondOfDay (t : Instant) : Int := t.second % 86400

/-- The date. -/
def date (t : Instant) : Calendar.Date := Calendar.dateOf t.day

/-- The hour. -/
def hour (t : Instant) : Int := t.secondOfDay / 3600

/-- The minute of the hour. -/
def minute (t : Instant) : Int := t.secondOfDay / 60 % 60

/-- The second of the minute; a leap second counts as the one before it. -/
def secondOfMinute (t : Instant) : Int := t.secondOfDay % 60

/-- The nanosecond of the second; a leap second begins again at zero. -/
def subsecond (t : Instant) : Nat := t.nanos % 1000000000

/-! ### Arithmetic -/

/-- **The instant shifted by a number of nanoseconds.**  A shift that leaves a leap second counts it
as part of the second before (going forward) or as the second after it (going back). -/
def shift? (t : Instant) (amount : Int) : Option Instant :=
  let whole := amount.tdiv 1000000000
  let part := amount.tmod 1000000000
  let stay := t.nanos + part
  if 1000000000 ≤ t.nanos ∧ whole = 0 ∧ (part ≤ 0 ∨ stay < 2000000000) then
    make? t.second stay.toNat
  else
    let (second, nanos) : Int × Int :=
      if t.nanos < 1000000000 then (t.second, t.nanos)
      else if 0 ≤ whole then (t.second, t.nanos - 1000000000)
      else (t.second + 1, t.nanos - 1000000000)
    let total := nanos + part
    make? (second + whole + total / 1000000000) (total % 1000000000).toNat

/-- A later instant, when it is in range. -/
def add? (t : Instant) (d : Timespan) : Option Instant := t.shift? d.nanos

/-- An earlier instant, when it is in range. -/
def sub? (t : Instant) (d : Timespan) : Option Instant := t.shift? (-d.nanos)

/-- A leap second at the start, or at the end, that comes earlier in its day than the other instant
counts as a second of its own between the two times of day. -/
def leapBetween (t s : Instant) : Int :=
  if s.secondOfDay < t.secondOfDay ∧ 1000000000 ≤ s.nanos then 1
  else if t.secondOfDay < s.secondOfDay ∧ 1000000000 ≤ t.nanos then -1
  else 0

theorem leapBetween_bounds (t s : Instant) : -1 ≤ leapBetween t s ∧ leapBetween t s ≤ 1 := by
  unfold leapBetween
  split
  · decide
  · split <;> decide

/-- The nanoseconds from `s` to `t`. -/
def nanosSince (t s : Instant) : Int :=
  (t.second - s.second + leapBetween t s) * 1000000000 + (t.nanos - s.nanos)

/-- **The timespan from `s` to `t`.** -/
def since (t s : Instant) : Timespan :=
  ⟨nanosSince t s, by
    have h₁ := t.second_ge
    have h₂ := t.second_le
    have h₃ := s.second_ge
    have h₄ := s.second_le
    have h₅ := t.nanos_lt
    have h₆ := s.nanos_lt
    have h₇ := leapBetween_bounds t s
    simp only [Timespan.limit, nanosSince, firstSecond, lastSecond] at *
    omega⟩

/-- Nanoseconds from the beginning of 1970. -/
def epochNanos (t : Instant) : Int := t.second * 1000000000 + t.nanos

/-- The instant of a number of nanoseconds from the beginning of 1970, when it is in range. -/
def ofEpochNanos? (n : Int) : Option Instant :=
  make? (n / 1000000000) (n % 1000000000).toNat

end Instant

end EventQuery
