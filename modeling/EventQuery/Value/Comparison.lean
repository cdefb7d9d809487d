/-
**Comparing values.**

Equality reads the right value as one of the left value's type.  Null and the empty text mean that a
value is absent: two absent values are equal, and nothing else is equal to an absent one.  No value
is ordered against an absent one.

Main definitions:

* `Value.equals` — equality;
* `Value.order` — the order of two values, when there is one;
* `Value.relate` — the relations of order;
* `Value.between` — the test of a range.
-/

import EventQuery.Expr.Operator
import EventQuery.Value.Coercion

set_option relaxedAutoImplicit false
set_option autoImplicit false

namespace EventQuery

/-- An order of two values satisfies a relation. -/
def Relation.holds : Relation → Ordering → Bool
  | .less, o => o == .lt
  | .atMost, o => o != .gt
  | .greater, o => o == .gt
  | .atLeast, o => o != .lt

namespace Value

/-- A value cannot be read as one of the type of another. -/
def incomparable (v target : Value) : EvalError :=
  .mismatch s!"cannot compare {v.typeName} '{v.text}' with {target.typeName}"

/-! ### Equality -/

/-- Two texts are equal, perhaps without regard to case. -/
def equalTexts (ignoreCase : Bool) (a b : String) : Bool :=
  if ignoreCase then Text.lower a == Text.lower b else a == b

/-- The number of a value, to be compared with another value. -/
def numericBeside (v other : Value) : Result Numeric :=
  Result.ofOption (incomparable v other) v.toNumeric?

/-- The truth value of a value on the right. -/
def boolBeside (v left : Value) : Result Bool :=
  match v with
  | .bool b => .ok b
  | .string s => Result.ofOption (incomparable v left) (boolOfText? s)
  | _ => .error (incomparable v left)

/-- The identifier of a value on the right. -/
def guidBeside (v left : Value) : Result Guid :=
  match v with
  | .guid g => .ok g
  | .string s => Result.ofOption (incomparable v left) (Guid.read? (Text.trim s))
  | _ => .error (incomparable v left)

/-- Equality of values that are both there. -/
def equalsPresent (left right : Value) (ignoreCase : Bool) : Result Bool :=
  match left with
  | .string s => .ok (equalTexts ignoreCase s right.text)
  | .bool b => (boolBeside right left).map (b == ·)
  | .int _ | .long _ | .real _ | .decimal _ => do
      let l ← Result.ofOption (incomparable right left) left.toNumeric?
      let r ← numericBeside right left
      return l.cmp? r == some .eq
  | .datetime t => (Result.ofOption (incomparable right left) right.toInstant?).map (t == ·)
  | .timespan d => (Result.ofOption (incomparable right left) right.toTimespan?).map (d == ·)
  | .guid g => (guidBeside right left).map (g == ·)
  | .record _ | .list _ | .null => .error (.unsupported "equality" left)

/-- **Equality**, the right value read as one of the left value's type. -/
def equals (left right : Value) (ignoreCase : Bool) : Result Bool :=
  if left.isAbsent || right.isAbsent then .ok (left.isAbsent && right.isAbsent)
  else equalsPresent left right ignoreCase

/-! ### Order -/

/-- The order of values that are both there. -/
def orderPresent (left right : Value) : Result (Option Ordering) :=
  match left, right with
  | .string l, .string r => .ok (some (compare l r))
  | .bool l, .bool r => .ok (some (compare l.toNat r.toNat))
  | .datetime l, _ =>
      (Result.ofOption (incomparable right left) right.toInstant?).map fun r => some (l.cmp r)
  | _, .datetime r =>
      (Result.ofOption (incomparable left right) left.toInstant?).map fun l => some (l.cmp r)
  | .timespan l, _ =>
      (Result.ofOption (incomparable right left) right.toTimespan?).map fun r => some (l.cmp r)
  | _, .timespan r =>
      (Result.ofOption (incomparable left right) left.toTimespan?).map fun l => some (l.cmp r)
  | _, _ =>
      if left.isNumeric || right.isNumeric then do
        let l ← numericBeside left right
        let r ← numericBeside right left
        return l.cmp? r
      else .error (.unsupported "comparison" left)

/-- **The order of two values**; none when one of them is absent or undefined. -/
def order (left right : Value) : Result (Option Ordering) :=
  if left.isAbsent || right.isAbsent then .ok none else orderPresent left right

/-- **The relations of order.**  Values that are not ordered stand in none of them. -/
def relate (op : Operator) (left right : Value) : Result Bool := do
  match ← order left right with
  | none => return false
  | some o =>
      match op with
      | .relation r => return r.holds o
      | other => throw (.invalidArgument s!"'{other.token}' is not a relational operator")

/-! ### Ranges -/

/-- An order with the lower and one with the upper end lie inside the range. -/
def inside (low high : Ordering) : Bool := low != .lt && high != .gt

/-- A value cannot be read as one of the type of the range. -/
def outOfDomain (v : Value) (domain : String) : EvalError :=
  .invalidArgument s!"between expects a {domain} value, got {v.typeName} '{v.text}'"

/-- The test of a range of numbers. -/
def betweenNumbers (v low high : Value) : Result Bool := do
  let n ← Result.ofOption (outOfDomain v "numeric") v.toNumeric?
  let lo ← Result.ofOption (outOfDomain v "numeric") low.toNumeric?
  let hi ← Result.ofOption (outOfDomain v "numeric") high.toNumeric?
  match n.cmp? lo, n.cmp? hi with
  | some a, some b => return inside a b
  | _, _ => return false

/-- The test of a range of instants. -/
def betweenInstants (v : Value) (low high : Instant) : Result Bool :=
  (Result.ofOption (outOfDomain v "datetime") v.toInstant?).map fun t =>
    inside (t.cmp low) (t.cmp high)

/-- The test of a range of timespans. -/
def betweenTimespans (v : Value) (low high : Timespan) : Result Bool :=
  (Result.ofOption (outOfDomain v "timespan") v.toTimespan?).map fun d =>
    inside (d.cmp low) (d.cmp high)

/-- **The test of a range**, both ends included.  The ends say what the value is read as; the upper
end of a range of instants may be given as a distance.  An absent value lies in no range. -/
def between (v low high : Value) : Result Bool :=
  if v.isAbsent then .ok false
  else if low.isNumeric && high.isNumeric then betweenNumbers v low high
  else
    match low, high with
    | .datetime lo, .datetime hi => betweenInstants v lo hi
    | .datetime lo, .timespan d => do
        let t ← Result.ofOption (outOfDomain v "datetime") v.toInstant?
        let hi ← Result.ofOption .overflow (lo.add? d)
        return inside (t.cmp lo) (t.cmp hi)
    | .timespan lo, .timespan hi => betweenTimespans v lo hi
    | _, _ =>
        .error (.invalidArgument
          (s!"between bounds must both be numbers, datetimes or timespans, got {low.typeName}"
            ++ s!" and {high.typeName}"))

end Value

end EventQuery
