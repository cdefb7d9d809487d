/-
**Windows of time.**

Windows of one duration follow each other without a gap.  The first one begins at the first time,
cut down to the smallest unit of the calendar of which the duration has a part; a window is named by
the time at which it ends.

Main definitions:

* `Window.unit?` — the unit to which the first time is cut down;
* `Window.firstEnd?` — the end of the first window;
* `Window.nextEnd?` — the end of the window that holds a later time;
* `Window.advance` — the end of the window that holds a time, given the end of the open one.
-/

import EventQuery.Function.Time

set_option relaxedAutoImplicit false
set_option autoImplicit false

namespace EventQuery

namespace Window

/-- A timespan of whole seconds, at most a day. -/
def ofSeconds (n : Nat) (h : n ≤ 86400) : Timespan :=
  ⟨n * 1000000000, by
    simp only [Timespan.limit]
    omega⟩

/-- **The unit to which the first time is cut down**: the smallest one of which the duration has a
part.  A time is not cut down for a duration below a second. -/
def unit? (duration : Timespan) : Option Timespan :=
  let seconds := duration.seconds
  if seconds % 60 ≠ 0 then some (ofSeconds 1 (by decide))
  else if seconds / 60 % 60 ≠ 0 then some (ofSeconds 60 (by decide))
  else if seconds / 3600 % 24 ≠ 0 then some (ofSeconds 3600 (by decide))
  else if 86400 ≤ seconds then some (ofSeconds 86400 (by decide))
  else none

/-- The beginning of the first window. -/
def anchor (time : Instant) (duration : Timespan) : Instant :=
  ((unit? duration).bind fun unit => time.floorTo? unit).getD time

/-- **The end of the first window**, when it is in range. -/
def firstEnd? (time : Instant) (duration : Timespan) : Option Instant :=
  (anchor time duration).add? duration

/-- **The end of the window that holds a later time**: a whole number of durations after the end of
an earlier window, and the first such end behind the time. -/
def nextEnd? (stop time : Instant) (duration : Timespan) : Option Instant := do
  let step ← duration.nanos64?
  let stop := stop.epochNanos
  let spans := (time.epochNanos - stop) / step.toInt + 1
  Instant.ofEpochNanos? (stop + spans * step.toInt)

/-- The window does not end in range. -/
def rangeError : EvalError :=
  .invalidArgument "summarize window end is out of the datetime range"

/-- **The end of the window that holds a time**, and whether the open one is closed. -/
def advance (windowEnd : Option Instant) (time : Instant) (duration : Timespan) :
    Result (Instant × Bool) :=
  match windowEnd with
  | none => (Result.ofOption rangeError (firstEnd? time duration)).map fun stop => (stop, false)
  | some stop =>
      if time.cmp stop == .lt then .ok (stop, false)
      else
        (Result.ofOption rangeError (nextEnd? stop time duration)).map fun stop => (stop, true)

end Window

end EventQuery
