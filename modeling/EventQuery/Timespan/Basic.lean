/-
**Timespans.**

A timespan is a signed whole number of nanoseconds, at most `2 ^ 63 - 1` milliseconds in size.  Its
views in other units drop the rest toward zero, and a count that does not fit in 64 bits is absent.

Main definitions:

* `Timespan` — the type;
* `Timespan.ofNanos?` — a timespan of a number of nanoseconds, when it is in range;
* `Timespan.nanos64?` — the nanoseconds as a 64-bit count;
* `Timespan.ticks`, `Timespan.ofTicks` — counts of 100 nanoseconds;
* `Timespan.add?`, `Timespan.sub?` — sums and differences within the range.
-/

import EventQuery.Number.Reader

set_option relaxedAutoImplicit false
set_option autoImplicit false

namespace EventQuery

/-- The greatest number of nanoseconds of a timespan. -/
def Timespan.limit : Int := 0x7FFFFFFFFFFFFFFF * 1000000

/-- A signed whole number of nanoseconds within the limit. -/
structure Timespan where
  nanos : Int
  in_range : -Timespan.limit ≤ nanos ∧ nanos ≤ Timespan.limit
  deriving DecidableEq

namespace Timespan

/-! ### Building -/

/-- The timespan of a number of nanoseconds, when it is in range. -/
def ofNanos? (n : Int) : Option Timespan :=
  if h : -limit ≤ n ∧ n ≤ limit then some ⟨n, h⟩ else none

/-- The timespan of a number of seconds, when it is in range. -/
def ofSeconds? (n : Int) : Option Timespan := ofNanos? (n * 1000000000)

/-- The timespan of a 64-bit number of nanoseconds. -/
def ofLong (n : Int64) : Timespan :=
  ⟨n.toInt, by
    have h₁ := Int64.le_toInt n
    have h₂ := Int64.toInt_lt n
    simp only [limit]
    omega⟩

/-- The empty timespan. -/
def zero : Timespan := ⟨0, by decide⟩

instance : Inhabited Timespan := ⟨zero⟩

theorem ofNanos?_eq_some_iff {n : Int} {t : Timespan} : ofNanos? n = some t ↔ t.nanos = n := by
  unfold ofNanos?
  split
  · next h =>
      constructor
      · rintro ⟨⟩; rfl
      · rintro rfl; rfl
  · next h =>
      constructor
      · intro h'; cases h'
      · rintro rfl; exact absurd t.in_range h

@[simp] theorem ofNanos?_nanos (t : Timespan) : ofNanos? t.nanos = some t :=
  ofNanos?_eq_some_iff.2 rfl

/-! ### Arithmetic -/

/-- The opposite timespan. -/
def neg (t : Timespan) : Timespan :=
  ⟨-t.nanos, by have := t.in_range; omega⟩

/-- The sum, when it is in range. -/
def add? (s t : Timespan) : Option Timespan := ofNanos? (s.nanos + t.nanos)

/-- The difference, when it is in range. -/
def sub? (s t : Timespan) : Option Timespan := ofNanos? (s.nanos - t.nanos)

/-- The order by length. -/
def cmp (s t : Timespan) : Ordering := compare s.nanos t.nanos

theorem cmp_swap (s t : Timespan) : (s.cmp t).swap = t.cmp s := by
  simp [cmp, Int.compare_swap]

/-! ### Views in other units -/

/-- Whole seconds, the rest dropped toward zero. -/
def seconds (t : Timespan) : Int := t.nanos.tdiv 1000000000

/-- Whole milliseconds, the rest dropped toward zero. -/
def milliseconds (t : Timespan) : Int := t.nanos.tdiv 1000000

/-- Nanoseconds as a 64-bit count. -/
def nanos64? (t : Timespan) : Option Int64 := Number.long? t.nanos

/-- Whole microseconds as a 64-bit count. -/
def micros64? (t : Timespan) : Option Int64 := Number.long? (t.nanos.tdiv 1000)

/-- **The number of ticks of 100 nanoseconds**, the rest dropped toward zero.  A timespan whose
nanoseconds do not fit in 64 bits is counted through its microseconds, and one whose microseconds
do not fit either counts as the nearest 64-bit integer. -/
def ticks (t : Timespan) : Int64 :=
  match t.nanos64? with
  | some n => Int64.ofInt (n.toInt.tdiv 100)
  | none =>
      match t.micros64? with
      | some n => Number.clampLong (n.toInt * 10)
      | none => if t.nanos < 0 then Int64.minValue else Int64.maxValue

/-- **The timespan of a number of ticks.** -/
def ofTicks (n : Int64) : Timespan :=
  ⟨n.toInt * 100, by
    have h₁ := Int64.le_toInt n
    have h₂ := Int64.toInt_lt n
    simp only [limit]
    omega⟩

end Timespan

end EventQuery
