/-
**Arithmetic on values.**

Integers stay integers of 64 bits and every result that does not fit is an error; binary numbers win
over decimals and decimals over integers; times follow the usual rules.  With an absent operand the
result is null.

Main definitions:

* `Numeric.compute` — the operations on numbers;
* `Timespan.scale` — a multiple of a timespan;
* `Value.arithmetic` — the operations on values.
-/

import EventQuery.Decimal.Arithmetic
import EventQuery.Expr.Operator
import EventQuery.Value.Coercion

set_option relaxedAutoImplicit false
set_option autoImplicit false

namespace EventQuery

/-! ### Numbers -/

namespace Numeric

/-- The exact result on integers, division going toward zero. -/
def exactResult (a : Arithmetic) (m n : Int) : Option Int :=
  match a with
  | .add => some (m + n)
  | .sub => some (m - n)
  | .mul => some (m * n)
  | .div => if n = 0 then none else some (m.tdiv n)
  | .mod => if n = 0 then none else some (m.tmod n)

/-- The quotient of the least 64-bit integer by minus one does not fit, and so neither does the
remainder that goes with it. -/
def quotientOverflows (a : Arithmetic) (m n : Int64) : Bool :=
  a == .mod && m == Int64.minValue && n == -1

/-- The operations on integers of 64 bits. -/
def computeLong (a : Arithmetic) (m n : Int64) : Result Value := do
  let exact ← Result.ofOption .divisionByZero (exactResult a m.toInt n.toInt)
  if quotientOverflows a m n then .error .overflow
  else (Result.ofOption .overflow (Number.long? exact)).map Value.long

/-- The operations on binary numbers. -/
def computeReal : Arithmetic → Float → Float → Float
  | .add, x, y => x + y
  | .sub, x, y => x - y
  | .mul, x, y => x * y
  | .div, x, y => x / y
  | .mod, x, y => Binary.remainder x y

/-- The operations on decimals. -/
def computeDecimal (a : Arithmetic) (x y : Decimal) : Result Value :=
  let fits (d : Option Decimal) : Result Value := (Result.ofOption .overflow d).map Value.decimal
  match a with
  | .add => fits (x.add? y)
  | .sub => fits (x.sub? y)
  | .mul => fits (x.mul? y)
  | .div => if y.isZero then .error .divisionByZero else fits (x.div? y)
  | .mod => if y.isZero then .error .divisionByZero else fits (x.rem? y)

/-- **The operations on numbers.** -/
def compute (a : Arithmetic) : Numeric → Numeric → Result Value
  | .long m, .long n => computeLong a m n
  | .real x, other => .ok (.real (computeReal a x other.toFloat))
  | other, .real y => .ok (.real (computeReal a other.toFloat y))
  | left, right => do
      let x ← Result.ofOption .overflow left.toDecimal?
      let y ← Result.ofOption .overflow right.toDecimal?
      computeDecimal a x y

end Numeric

/-! ### Timespans -/

namespace Timespan

/-- The nanoseconds as a binary number; a timespan whose nanoseconds do not fit in 64 bits goes
through its milliseconds. -/
def nanosFloat (d : Timespan) : Float :=
  match d.nanos64? with
  | some n => Binary.ofInt n.toInt
  | none => Binary.ofInt d.milliseconds * 1000000

/-- **A multiple of a timespan**, rounded to whole nanoseconds. -/
def scale (d : Timespan) (factor : Float) : Result Timespan :=
  let nanos := d.nanosFloat * factor
  match Binary.roundHalfAway? nanos with
  | none => .error .overflow
  | some n =>
      if 9223372036854775808 < nanos || nanos < -9223372036854775808 then .error .overflow
      else .ok (ofLong (Number.clampLong n))

end Timespan

/-! ### Values -/

namespace Value

/-- An operator has no meaning for the types of two values. -/
def unsupportedPair (op : Operator) (left right : Value) : EvalError :=
  .unsupportedType s!"operator '{op.token}'" s!"{left.typeName} and {right.typeName}"

/-- Numbers, and texts that hold numbers. -/
def arithmeticNumbers (op : Operator) (left right : Value) : Result Value := do
  let l ← Result.ofOption (unsupportedPair op left right) left.toNumeric?
  let r ← Result.ofOption (unsupportedPair op left right) right.toNumeric?
  match op with
  | .arithmetic a => l.compute a r
  | other => throw (.invalidArgument s!"'{other.token}' is not an arithmetic operator")

/-- A timespan and a number. -/
def scaled (op : Operator) (left right : Value) (d : Timespan) (x : Value) (swapped : Bool) :
    Result Value :=
  match op, x.asFloat? with
  | .arithmetic .mul, some factor => (d.scale factor).map Value.timespan
  | .arithmetic .div, some divisor =>
      if swapped then arithmeticNumbers op left right
      else if divisor == 0 then .error .divisionByZero
      else (d.scale (1 / divisor)).map Value.timespan
  | _, _ => arithmeticNumbers op left right

/-- Operands that are both there. -/
def arithmeticPresent (op : Operator) (left right : Value) : Result Value :=
  match left, right with
  | .datetime l, .timespan r =>
      match op with
      | .arithmetic .add => (Result.ofOption .overflow (l.add? r)).map Value.datetime
      | .arithmetic .sub => (Result.ofOption .overflow (l.sub? r)).map Value.datetime
      | _ => .error (unsupportedPair op left right)
  | .timespan l, .datetime r =>
      match op with
      | .arithmetic .add => (Result.ofOption .overflow (r.add? l)).map Value.datetime
      | _ => arithmeticNumbers op left right
  | .datetime l, .datetime r =>
      match op with
      | .arithmetic .sub => .ok (.timespan (l.since r))
      | _ => arithmeticNumbers op left right
  | .timespan l, .timespan r =>
      match op with
      | .arithmetic .add => (Result.ofOption .overflow (l.add? r)).map Value.timespan
      | .arithmetic .sub => (Result.ofOption .overflow (l.sub? r)).map Value.timespan
      | .arithmetic .div =>
          if r.nanosFloat == 0 then .error .divisionByZero
          else .ok (.real (l.nanosFloat / r.nanosFloat))
      | _ => .error (unsupportedPair op left right)
  | .timespan d, other => scaled op left right d other false
  | other, .timespan d => scaled op left right d other true
  | _, _ => arithmeticNumbers op left right

/-- **The operations on values.** -/
def arithmetic (op : Operator) (left right : Value) : Result Value :=
  if left.isAbsent || right.isAbsent then .ok .null else arithmeticPresent op left right

end Value

end EventQuery
