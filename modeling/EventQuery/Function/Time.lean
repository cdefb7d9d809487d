/-
**Functions of times.**

Main definitions:

* `Function.ago`, `Function.now` — the current time, shifted;
* `Function.datePart` — a field of an instant;
* `Function.formatInstant` — an instant after a pattern of letters;
* `Function.bin` — a number or a time rounded down to a multiple.
-/

import EventQuery.Function.Basic
import EventQuery.Value.Arithmetic

set_option relaxedAutoImplicit false
set_option autoImplicit false

namespace EventQuery

namespace Function

/-- A value of the wrong type. -/
def wrongType (expectation : String) (v : Value) : EvalError :=
  .mismatch s!"{expectation}, got {v.typeName} '{v.text}'"

/-! ### The current time -/

/-- The current time, less a timespan. -/
def ago : Function := fun now args =>
  match args with
  | [.timespan d] => (Result.ofOption .overflow (now.sub? d)).map Value.datetime
  | [v] => .error (wrongType "ago expects a timespan" v)
  | _ => .error (countError "ago" 1 (some 1) args)

/-- The current time and a timespan. -/
def laterThan (now : Instant) (d : Timespan) : Result Value :=
  (Result.ofOption .overflow (now.add? d)).map Value.datetime

/-- The current time, perhaps with a timespan added. -/
def now : Function := fun now args =>
  match args with
  | [] => laterThan now .zero
  | [v] => do
      let d ← Result.ofOption
        (.mismatch s!"now expects a timespan offset, got '{v.text}'") v.toTimespan?
      laterThan now d
  | _ => .error (countError "now" 0 (some 1) args)

/-! ### Fields -/

/-- The fields of an instant by their names. -/
def parts : List (List String × (Instant → Int)) :=
  [(["year", "yyyy", "yy", "y"], fun t => t.date.year),
    (["quarter", "qq", "q"], fun t => (t.date.month - 1) / 3 + 1),
    (["month", "mm", "m"], fun t => t.date.month),
    (["week_of_year", "week", "wk", "ww"], fun t => Calendar.isoWeek t.day),
    (["day", "dd", "d"], fun t => t.date.day),
    (["dayofyear", "doy", "dy"], fun t => Calendar.ordinal t.day),
    (["dayofweek", "weekday", "dw", "wd"], fun t => Calendar.weekday t.day),
    (["hour", "hh", "h"], Instant.hour),
    (["minute", "mi", "n"], Instant.minute),
    (["second", "ss", "s"], Instant.secondOfMinute),
    (["millisecond", "ms"], fun t => t.subsecond / 1000000),
    (["microsecond"], fun t => t.subsecond / 1000),
    (["nanosecond"], fun t => t.subsecond)]

/-- **A field of an instant** by its name, in either case. -/
def datePart (part v : Value) : Result Value := do
  if v.isAbsent then return .null
  let t ← Result.ofOption (wrongType "datepart expects a datetime" v) v.toInstant?
  let name := Text.lowerAscii part.text
  let field ← Result.ofOption (.invalidArgument s!"unknown datepart '{name}'")
    (parts.find? fun entry => entry.1.contains name)
  return .long (Int64.ofInt (field.2 t))

/-- **An instant after a pattern of letters.** -/
def formatInstant (v pattern : Value) : Result Value := do
  if v.isAbsent then return .string ""
  let t ← Result.ofOption (wrongType "format_datetime expects a datetime" v) v.toInstant?
  return .string (t.render pattern.text)

/-! ### Multiples -/

/-- The size of a multiple is not positive. -/
def sizeError (size : String) : EvalError :=
  .invalidArgument s!"bin size must be positive, got {size}"

/-- The result is out of range. -/
def binRangeError : EvalError := .invalidArgument "bin result out of range"

end Function

/-- The nanoseconds of a timespan, the greatest 64-bit integer when they do not fit. -/
def Timespan.cappedNanos (d : Timespan) : Int :=
  (d.nanos64?.map Int64.toInt).getD 0x7FFFFFFFFFFFFFFF

/-- The greatest multiple of a positive step that is not above a number. -/
def floorMultiple (n step : Int) : Int := n / step * step

/-- **An instant rounded down to a multiple of a timespan**, counted from 1970. -/
def Instant.floorTo? (t : Instant) (d : Timespan) : Option Instant :=
  ofEpochNanos? (floorMultiple t.epochNanos d.cappedNanos)

namespace Function

/-- A time rounded down to a multiple of a timespan. -/
def binBySpan (v : Value) (d : Timespan) : Result Value :=
  if d.nanos ≤ 0 then .error (sizeError d.clock)
  else
    match v with
    | .timespan value =>
        (Result.ofOption binRangeError
            (Number.long? (floorMultiple value.cappedNanos d.cappedNanos))).map
          fun n => .timespan (.ofLong n)
    | _ => do
        let t ← Result.ofOption (wrongType "bin by timespan expects a datetime" v) v.toInstant?
        (Result.ofOption binRangeError (t.floorTo? d)).map Value.datetime

/-- An integer rounded down to a multiple. -/
def binLong (n step : Int64) : Result Value :=
  if step.toInt ≤ 0 then .error (sizeError (Value.text (.long step)))
  else
    (Result.ofOption .overflow (Number.long? (floorMultiple n.toInt step.toInt))).map Value.long

/-- A number rounded down to a multiple, in binary arithmetic. -/
def binReal (n : Numeric) (size : Value) : Result Value := do
  let step ← Result.ofOption
    (.invalidArgument s!"bin size must be numeric, got '{size.text}'") size.asFloat?
  if step ≤ 0 then throw (sizeError (Layout.plain.write step))
  return .real (Binary.floor (n.toFloat / step) * step)

/-- **A value rounded down to a multiple**: times by timespans, integers by integers, and any other
numbers in binary arithmetic. -/
def bin (v size : Value) : Result Value :=
  if v.isAbsent then .ok .null
  else
    match size with
    | .timespan d => binBySpan v d
    | _ => do
        let n ← Result.ofOption (wrongType "bin expects a number" v) v.toNumeric?
        match n, size.asLong? with
        | .long n, some step => binLong n step
        | n, _ => binReal n size

end Function

end EventQuery
