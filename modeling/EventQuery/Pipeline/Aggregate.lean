/-
**Aggregation.**

An aggregation folds one input after another into a running value.  An input is checked before
anything is changed.

Main definitions:

* `Aggregate.Kind` — what is computed;
* `Aggregate` — a compiled aggregation;
* `Aggregate.ofCall` — compilation;
* `Aggregate.seed`, `Aggregate.check`, `Aggregate.fold` — the running value.
-/

import EventQuery.Eval.Evaluator
import EventQuery.Query.Basic

set_option relaxedAutoImplicit false
set_option autoImplicit false

namespace EventQuery

/-- What an aggregation computes; collections hold at most `cap` items. -/
inductive Aggregate.Kind where
  | count
  | sum
  | min
  | max
  | list (cap : Nat)
  | set (cap : Nat)
  deriving DecidableEq, Repr, Inhabited

/-- **A compiled aggregation**: its column, its name, what it computes and of what. -/
structure Aggregate where
  name : String
  function : String
  kind : Aggregate.Kind
  arg : Option Expr
  deriving Inhabited

namespace Aggregate

/-- The greatest number of items of a collection. -/
def maxItems : Nat := 1048576

/-- The number of items of a collection that gives no bound, for the older names. -/
def legacyItems : Nat := 128

/-! ### Compilation -/

/-- The bound of a collection: a positive integer constant. -/
def bound (function : String) (e : Expr) : Result Nat :=
  let refused : EvalError :=
    .invalidArgument
      s!"{function}: size limit must be a positive integer constant, got {e.print}"
  match e with
  | .const v =>
      match v.asLong? with
      | some n => if 0 < n.toInt then .ok (min n.toInt.toNat maxItems) else .error refused
      | none => .error refused
  | _ => .error refused

/-- A collection with the bound that the arguments give. -/
def collection (kind : Nat → Kind) (function : String) (fallback : Nat) (args : List Expr) :
    Result Kind :=
  match args with
  | [_] => .ok (kind fallback)
  | [_, e] => (bound function e).map kind
  | _ => .error (Expr.argumentError function "1 to 2" args)

/-- An aggregation of exactly so many arguments. -/
def fixed (kind : Kind) (function : String) (count : Nat) (args : List Expr) : Result Kind :=
  if args.length = count then .ok kind
  else .error (Expr.argumentError function (Function.numeral count) args)

/-- What an aggregation of a name computes. -/
def kindOf (function : String) (args : List Expr) : Result Kind :=
  match function with
  | "count" => fixed .count function 0 args
  | "sum" => fixed .sum function 1 args
  | "min" => fixed .min function 1 args
  | "max" => fixed .max function 1 args
  | "make_list" => collection Kind.list function maxItems args
  | "makelist" => collection Kind.list function legacyItems args
  | "make_set" => collection Kind.set function maxItems args
  | "makeset" => collection Kind.set function legacyItems args
  | other => .error (.unknownFunction other)

/-- **Compilation.** -/
def ofCall (a : Aggregation) : Result Aggregate :=
  (kindOf a.function a.args).map fun kind => ⟨a.name, a.function, kind, a.args.head?⟩

/-! ### The running value -/

/-- The value at the beginning. -/
def seed (a : Aggregate) : Value :=
  match a.kind with
  | .count => .long 0
  | .sum | .min | .max => .null
  | .list _ | .set _ => .list []

/-- The input can be summed or compared. -/
def isAddend : Value → Bool
  | .int _ | .long _ | .real _ => true
  | v => v.isAbsent

/-- **An input is checked**: sums, minima and maxima need integers or binary numbers. -/
def check (a : Aggregate) (input : Value) : Result Unit :=
  match a.kind with
  | .sum | .min | .max =>
      if isAddend input then .ok ()
      else .error (.mismatch
        s!"{a.function}() expects a numeric input, got {input.typeName} '{input.text}'")
  | _ => .ok ()

/-- The lesser of two binary numbers; an undefined one does not count. -/
def lesser (x y : Float) : Float := if x.isNaN then y else if y < x then y else x

/-- The greater of two binary numbers; an undefined one does not count. -/
def greater (x y : Float) : Float := if x.isNaN then y else if x < y then y else x

/-- The sum of two integers, in binary when it does not fit. -/
def addLong (a b : Int64) : Value :=
  match Number.long? (a.toInt + b.toInt) with
  | some n => .long n
  | none => .real (Binary.ofInt a.toInt + Binary.ofInt b.toInt)

/-- Two integers folded. -/
def foldLong (kind : Kind) (a b : Int64) : Value :=
  match kind with
  | .sum => addLong a b
  | .min => .long (if b < a then b else a)
  | _ => .long (if a < b then b else a)

/-- Two binary numbers folded. -/
def foldReal (kind : Kind) (x y : Float) : Float :=
  match kind with
  | .sum => x + y
  | .min => lesser x y
  | _ => greater x y

/-- A number folded into the running value; the first one starts it, an `int` as a `long`. -/
def foldNumber (kind : Kind) (running input : Value) : Value :=
  if input.isAbsent then running
  else
    match running, input with
    | .null, .int n => .long n.toInt64
    | .null, v => v
    | .long a, .int b => foldLong kind a b.toInt64
    | .long a, .long b => foldLong kind a b
    | x, y => .real (foldReal kind (x.asFloat?.getD 0) (y.asFloat?.getD 0))

/-- The input is null. -/
def isNull : Value → Bool
  | .null => true
  | _ => false

/-- **One input folded into the running value.** -/
def fold (a : Aggregate) (running input : Value) : Value :=
  match a.kind, running with
  | .count, .long n => .long (n + 1)
  | .count, other => other
  | .list cap, .list items =>
      if !isNull input && items.length < cap then .list (items ++ [input]) else running
  | .list _, other => other
  | .set cap, .list items =>
      if !isNull input && items.length < cap && !items.contains input then
        .list (items ++ [input])
      else running
  | .set _, other => other
  | kind, running => foldNumber kind running input

end Aggregate

end EventQuery
