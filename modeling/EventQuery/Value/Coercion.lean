/-
**Values as numbers, times and truth values.**

Texts are read, and everything else keeps its kind, so a text can stand wherever a number or a time
is asked for.

Main definitions:

* `Numeric` — a number of one of three kinds, with `Numeric.cmp?`;
* `Value.toNumeric?` — the number that a value is or holds as text;
* `Value.toLong?`, `Value.toFloat?`, `Value.toDecimal?` — conversions;
* `Value.toInstant?`, `Value.toTimespan?` — times;
* `Value.truth` — the truth value of a condition.
-/

import EventQuery.Decimal.Reader
import EventQuery.Eval.Error
import EventQuery.Instant.Reader
import EventQuery.Text.Casing
import EventQuery.Value.Text

set_option relaxedAutoImplicit false
set_option autoImplicit false

namespace EventQuery

/-- A number: an integer of 64 bits, a binary number or a decimal. -/
inductive Numeric where
  | long (n : Int64)
  | real (x : Float)
  | decimal (d : Decimal)

namespace Numeric

/-- The binary number nearest to a number. -/
def toFloat : Numeric → Float
  | .long n => Binary.ofInt n.toInt
  | .real x => x
  | .decimal d => d.toFloat

/-- The decimal of a number. -/
def toDecimal? : Numeric → Option Decimal
  | .long n => some (Decimal.ofLong n)
  | .real x => Decimal.ofFloat? x
  | .decimal d => some d

/-- **The order of numbers**: integers exactly, anything with a binary number in binary, and the
rest as decimals.  None when a number is undefined. -/
def cmp? : Numeric → Numeric → Option Ordering
  | .long a, .long b => some (compare a.toInt b.toInt)
  | .real x, other => Binary.compare? x other.toFloat
  | other, .real y => Binary.compare? other.toFloat y
  | .long a, .decimal b => some ((Decimal.ofLong a).cmp b)
  | .decimal a, .long b => some (a.cmp (Decimal.ofLong b))
  | .decimal a, .decimal b => some (a.cmp b)

end Numeric

namespace Value

/-! ### Numbers -/

/-- The number that a text holds: an integer if it can be one. -/
def numericOfText? (s : String) : Option Numeric :=
  let cs := Text.strip s.toList
  match Number.readLong? cs with
  | some n => some (.long n)
  | none => (Number.readFloat? cs).map Numeric.real

/-- **The number that a value is or holds as text.** -/
def toNumeric? : Value → Option Numeric
  | .int n => some (.long n.toInt64)
  | .long n => some (.long n)
  | .real x => some (.real x)
  | .decimal d => some (.decimal d)
  | .string s => numericOfText? s
  | _ => none

/-- A finite number cut down to an integer, the nearest one when it does not fit. -/
def longOfFloat? (x : Float) : Option Int64 := (Binary.truncate? x).map Number.clampLong

/-- **The integer of a value**: fractions are cut off, texts are read, and truth values count as one
and zero. -/
def toLong? : Value → Option Int64
  | .int n => some n.toInt64
  | .long n => some n
  | .real x => longOfFloat? x
  | .decimal d => d.toLong?
  | .bool b => some (if b then 1 else 0)
  | .string s =>
      let cs := Text.strip s.toList
      match Number.readLong? cs with
      | some n => some n
      | none => (Number.readFloat? cs).bind longOfFloat?
  | _ => none

/-- **The binary number of a value.** -/
def toFloat? : Value → Option Float
  | .string s => Number.readFloat? (Text.strip s.toList)
  | .bool b => some (Binary.ofInt (if b then 1 else 0))
  | other => other.asFloat?

/-- **The decimal of a value.** -/
def toDecimal? : Value → Option Decimal
  | .decimal d => some d
  | .int n => some (Decimal.ofLong n.toInt64)
  | .long n => some (Decimal.ofLong n)
  | .real x => Decimal.ofFloat? x
  | .string s => Decimal.read? s
  | _ => none

/-! ### Times -/

/-- **The instant of a value**, texts being read. -/
def toInstant? : Value → Option Instant
  | .datetime t => some t
  | .string s => Instant.read? s
  | _ => none

/-- **The timespan of a value**, texts being read. -/
def toTimespan? : Value → Option Timespan
  | .timespan d => some d
  | .string s => Timespan.read? s
  | _ => none

/-! ### Truth values -/

/-- The truth value that a text names, in either case and with blanks around it. -/
def boolOfText? (s : String) : Option Bool :=
  let word := Text.lowerAscii (Text.trim s)
  if word = "true" then some true else if word = "false" then some false else none

/-- **The truth value of a condition.**  What is absent counts as false; other values than truth
values and their names are refused. -/
def truth : Value → Result Bool
  | .bool b => .ok b
  | .null => .ok false
  | .string s =>
      if s.isEmpty then .ok false
      else Result.ofOption (.mismatch s!"expected a bool, got string '{s}'") (boolOfText? s)
  | other => .error (.mismatch s!"expected a bool, got {other.typeName}")

end Value

end EventQuery
