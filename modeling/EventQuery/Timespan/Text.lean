/-
**Written forms of timespans.**

There are two: a number with a unit, as in `5m` or `1.5h`, and a clock form
`[-][d.]hh:mm[:ss[.fffffffff]]`.

Main definitions:

* `Timespan.readLiteral?` — a number with a unit;
* `Timespan.readFields?`, `Timespan.ClockFields.sum` — the fields of the clock form and their sum;
* `Timespan.read`, `Timespan.read?` — either form;
* `Timespan.clock` — the clock form, to the tick;
* `Timespan.literal` — a number with the largest unit that comes out even.
-/

import EventQuery.Text.Blank
import EventQuery.Text.Search
import EventQuery.Timespan.Basic

set_option relaxedAutoImplicit false
set_option autoImplicit false

namespace EventQuery

namespace Timespan

/-! ### A number with a unit -/

/-- The number of nanoseconds of a unit. -/
def unitNanos? (name : String) : Option Float :=
  if ["d", "day", "days"].contains name then some 86400000000000
  else if ["h", "hr", "hrs", "hour", "hours"].contains name then some 3600000000000
  else if ["m", "min", "mins", "minute", "minutes"].contains name then some 60000000000
  else if ["s", "sec", "secs", "second", "seconds"].contains name then some 1000000000
  else if ["ms", "milli", "millis", "millisecond", "milliseconds"].contains name then some 1000000
  else if ["microsecond", "microseconds"].contains name then some 1000
  else if ["tick", "ticks"].contains name then some 100
  else none

/-- A number of nanoseconds, rounded to a whole one and clamped to 64 bits; infinite numbers and
numbers beyond `2 ^ 63` are refused. -/
def ofFloat? (nanos : Float) : Option Timespan :=
  match Binary.roundHalfAway? nanos with
  | none => none
  | some n => if 9223372036854775808 < nanos then none else some (ofLong (Number.clampLong n))

/-- **A number directly followed by a unit.**  The number is the longest run of digits and points,
and the product with the unit is taken in binary arithmetic. -/
def readLiteral? (s : String) : Option Timespan :=
  let cs := Text.strip s.toList
  let (number, unit) := cs.span fun c => Digits.isDigit c || c == '.'
  if number.isEmpty || unit.isEmpty then none
  else do
    let x ← Number.readFloat? number
    let nanos ← unitNanos? (String.ofList unit)
    ofFloat? (x * nanos)

/-! ### The clock form -/

/-- The nanoseconds of one to nine fraction digits. -/
def fractionNanos? (cs : List Char) : Option Int :=
  if cs.isEmpty || 9 < cs.length || !cs.all Digits.isDigit then none
  else some (Digits.read (cs ++ List.replicate (9 - cs.length) '0') : Nat)

/-- A field of the clock form: an integer of 64 bits. -/
def field? (cs : List Char) : Option Int := (Number.readLong? cs).map Int64.toInt

/-- The fields of a clock form as numbers. -/
structure ClockFields where
  days : Int := 0
  hours : Int
  minutes : Int
  seconds : Int := 0
  nanos : Int := 0
  deriving DecidableEq

/-- Days and hours: `d.hh` or `hh`. -/
def readHead? (cs : List Char) : Option (Int × Int) :=
  match Text.split2 '.' cs with
  | some (days, hours) => do return (← field? days, ← field? hours)
  | none => (field? cs).map fun hours => (0, hours)

/-- Seconds and nanoseconds: `ss.fffffffff` or `ss`. -/
def readTail? (cs : List Char) : Option (Int × Int) :=
  match Text.split2 '.' cs with
  | some (whole, fraction) => do return (← field? whole, ← fractionNanos? fraction)
  | none => (field? cs).map fun seconds => (seconds, 0)

/-- The fields of the clock form without its sign. -/
def readFields? (cs : List Char) : Option ClockFields :=
  match Text.splitOn [':'] cs with
  | [head, minutes] => do
      let (days, hours) ← readHead? head
      return { days, hours, minutes := ← field? minutes }
  | [head, minutes, tail] => do
      let (days, hours) ← readHead? head
      let minutes ← field? minutes
      let (seconds, nanos) ← readTail? tail
      return { days, hours, minutes, seconds, nanos }
  | _ => none

/-- Why no timespan comes of a text: the text is refused, or the reader overruns, having made an
amount of hours, minutes or seconds that no timespan holds. -/
inductive Failure where
  | refused
  | overrun
  deriving DecidableEq, Repr

/-- A value that is there, or the failure. -/
def Failure.unless {α : Type} (failure : Failure) : Option α → Except Failure α
  | some x => .ok x
  | none => .error failure

/-- The total and an amount of seconds; the amount itself is made first. -/
def addAmount (total : Timespan) (amount : Int) : Except Failure Timespan := do
  let part ← Failure.overrun.unless (ofSeconds? amount)
  Failure.refused.unless (total.add? part)

/-- **The sum of the fields**; every partial sum has to be in range, hours are at most 23, minutes
and seconds at most 59. -/
def ClockFields.sum (c : ClockFields) : Except Failure Timespan :=
  if 23 < c.hours ∨ 59 < c.minutes ∨ 59 < c.seconds then .error .refused
  else do
    let total ← Failure.refused.unless (ofSeconds? (c.days * 86400))
    let total ← [c.hours * 3600, c.minutes * 60, c.seconds].foldlM addAmount total
    Failure.refused.unless (ofNanos? (total.nanos + c.nanos))

/-- The clock form without its sign. -/
def readClock (cs : List Char) : Except Failure Timespan := do
  let c ← Failure.refused.unless (readFields? cs)
  c.sum

/-- **A timespan in either form**, or why there is none. -/
def read (s : String) : Except Failure Timespan :=
  match readLiteral? s with
  | some t => .ok t
  | none =>
      match Text.strip s.toList with
      | '-' :: cs => (readClock cs).map neg
      | cs => readClock cs

/-- **A timespan in either form**, when there is one. -/
def read? (s : String) : Option Timespan := (read s).toOption

/-! ### Writing -/

/-- **The clock form** `[-][d.]hh:mm:ss[.fffffff]`: days and ticks are left out when zero, and what
is below a tick is dropped. -/
def clockChars (t : Timespan) : List Char :=
  let size := t.nanos.natAbs
  let seconds := size / 1000000000
  let days := seconds / 86400
  let ticks := size % 1000000000 / 100
  (if t.nanos < 0 then ['-'] else [])
    ++ (if 0 < days then Digits.write days ++ ['.'] else [])
    ++ Digits.writePadded 2 (seconds / 3600 % 24) ++ ':'
    :: Digits.writePadded 2 (seconds / 60 % 60) ++ ':'
    :: Digits.writePadded 2 (seconds % 60)
    ++ (if 0 < ticks then '.' :: Digits.writePadded 7 ticks else [])

/-- The clock form. -/
def clock (t : Timespan) : String := String.ofList t.clockChars

/-- The units of the literal form, largest first, with their nanoseconds. -/
def literalUnits : List (Int × String) :=
  [(86400000000000, "d"), (3600000000000, "h"), (60000000000, "m"), (1000000000, "s"),
    (1000000, "ms"), (100, "tick")]

/-- **A number with the largest unit that comes out even**, and in whole ticks when none does.  A
timespan whose nanoseconds do not fit in 64 bits is written in whole seconds. -/
def literalChars (t : Timespan) : List Char :=
  match t.nanos64? with
  | none => Digits.writeInt t.seconds ++ ['s']
  | some n =>
      match literalUnits.find? fun unit => n.toInt.tmod unit.1 = 0 with
      | some (size, name) => Digits.writeInt (n.toInt.tdiv size) ++ name.toList
      | none => Digits.writeInt (n.toInt.tdiv 100) ++ "tick".toList

/-- The literal form. -/
def literal (t : Timespan) : String := String.ofList t.literalChars

end Timespan

end EventQuery
