/-
**The value of an expression on a record.**

A call of a defined function evaluates its body on a record of its arguments and on nothing else.
Calls nest at most 64 deep.

Main definitions:

* `Expr.evalWith` — evaluation, given how to enter the body of a function;
* `Expr.evalAt` — evaluation with a number of levels of calls left;
* `Expr.eval` — evaluation;
* `Expr.test` — evaluation of a condition.
-/

import EventQuery.Eval.Environment
import EventQuery.Expr.Printer
import EventQuery.Value.Arithmetic
import EventQuery.Value.Comparison
import EventQuery.Value.Matching

set_option relaxedAutoImplicit false
set_option autoImplicit false

namespace EventQuery

namespace Value

/-- The item of a list at a place; a negative place counts from the end. -/
def item (items : List Value) (place : Value) : Value :=
  match place.toLong? with
  | none => .string ""
  | some i =>
      let i := if i.toInt < 0 then items.length + i.toInt else i.toInt
      if i < 0 then .string "" else (items[i.toNat]?).getD (.string "")

/-- What an index finds in a value; nothing is the empty text. -/
def entry (base place : Value) : Value :=
  match base with
  | .list items => item items place
  | .record fields => (Fields.get? fields place.text).getD (.string "")
  | _ => .string ""

/-- **Membership in a candidate**: a list counts as its items, and what cannot be compared
differs. -/
def belongs (v candidate : Value) (ignoreCase : Bool) : Bool :=
  let same (other : Value) : Bool :=
    match v.equals other ignoreCase with
    | .ok b => b
    | .error _ => false
  match candidate with
  | .list items => items.any same
  | other => same other

/-- An operator other than a connective on two values. -/
def operate (op : Operator) (left right : Value) : Result Value :=
  match op with
  | .equality negated ignoreCase =>
      (left.equals right ignoreCase).map fun b => .bool (b != negated)
  | .relation _ => (left.relate op right).map Value.bool
  | .arithmetic _ => left.arithmetic op right
  | _ => (left.matchText op right).map Value.bool

end Value

namespace Expr

/-- The greatest number of calls inside one another. -/
def maxCalls : Nat := 64

/-- The error of a wrong number of arguments. -/
def argumentError (name expected : String) (args : List Expr) : EvalError :=
  .argumentCount name expected args.length

/-- How the body of a function is entered: not at all when no level is left. -/
abbrev Enter : Type := Option (Record → Expr → Result Value)

/-- The record that a function body sees. -/
def scope (f : UserFunction) (args : List Value) : Record :=
  Fields.ofPairs ((f.params.map Parameter.name).zip args)

/-- The number of arguments is right, and a level is left. -/
def enterable (enter : Enter) (f : UserFunction) (args : List Expr) :
    Result (Record → Expr → Result Value) :=
  if args.length != f.params.length then
    .error (argumentError f.name (Function.numeral f.params.length) args)
  else
    Result.ofOption
      (.invalidArgument s!"call depth limit of {Function.numeral maxCalls} exceeded in '{f.name}'")
      enter

section EvalWith

variable (env : Environment) (enter : Enter) (r : Record)

mutual

/-- **The value of an expression**, given how to enter the body of a function. -/
def evalWith : Expr → Result Value
  | .const v => .ok v
  | .property name => .ok (r.fieldOrEmpty name)
  | .path base selector => do
      match ← evalWith base with
      | .record fields => return (Fields.get? fields selector).getD (.string "")
      | _ =>
          return ((dottedName? (.path base selector)).map fun name =>
            r.fieldOrEmpty name).getD (.string "")
  | .index base i => do
      let base ← evalWith base
      let i ← evalWith i
      return base.entry i
  | .call name args =>
      match name with
      | "iif" => evalChoice "iif" args
      | "iff" => evalChoice "iff" args
      | "case" =>
          if args.length < 3 then .error (argumentError "case" "at least 3" args)
          else if args.length % 2 = 0 then
            .error (.invalidArgument
              "case expects predicate/value pairs followed by an else value")
          else evalCases args
      | "typeof" => evalTypeName args
      | _ =>
          match env.registry.resolve name with
          | some (.user f) => do
              let enter ← enterable enter f args
              enter (scope f (← evalAll args)) f.body
          | some (.native f) => do f (← evalAll args)
          | some (.builtin f) => do f env.now (← evalAll args)
          | none =>
              if isAggregation name then
                .error (.invalidArgument s!"aggregation '{name}' is only valid inside summarize")
              else .error (.unknownFunction name)
  | .not e => do return .bool !(← (← evalWith e).truth)
  | .binary (.logic .both) left right => do
      if ← (← evalWith left).truth then return .bool (← (← evalWith right).truth)
      else return .bool false
  | .binary (.logic .either) left right => do
      if ← (← evalWith left).truth then return .bool true
      else return .bool (← (← evalWith right).truth)
  | .binary op left right => do
      let left ← evalWith left
      let right ← evalWith right
      left.operate op right
  | .between negated e low high => do
      let v ← evalWith e
      let low ← evalWith low
      let high ← evalWith high
      return .bool ((← v.between low high) != negated)
  | .among negated ignoreCase e candidates => do
      let v ← evalWith e
      return .bool ((← evalAmong v ignoreCase candidates) != negated)

/-- The values of arguments, from left to right. -/
def evalAll : List Expr → Result (List Value)
  | [] => .ok []
  | e :: rest => do
      let v ← evalWith e
      return v :: (← evalAll rest)

/-- A condition and the two values between which it decides. -/
def evalChoice (name : String) : List Expr → Result Value
  | [condition, yes, no] => do
      if ← (← evalWith condition).truth then evalWith yes else evalWith no
  | args => .error (argumentError name "3" args)

/-- Conditions and values in turn, and last the value that is left. -/
def evalCases : List Expr → Result Value
  | condition :: v :: rest => do
      if ← (← evalWith condition).truth then evalWith v else evalCases rest
  | [other] => evalWith other
  | [] => .ok .null

/-- The name of the type of a value; a bare name stands for itself. -/
def evalTypeName : List Expr → Result Value
  | [.property name] => .ok (.string name)
  | [e] => do return .string (← evalWith e).typeName
  | args => .error (argumentError "typeof" "1" args)

/-- Some candidate holds the value; candidates behind the first that does are not evaluated. -/
def evalAmong (v : Value) (ignoreCase : Bool) : List Expr → Result Bool
  | [] => .ok false
  | e :: rest => do
      if v.belongs (← evalWith e) ignoreCase then return true else evalAmong v ignoreCase rest

end

end EvalWith

/-- **Evaluation with a number of levels of calls left.** -/
def evalAt (env : Environment) : Nat → Record → Expr → Result Value
  | 0 => evalWith env none
  | levels + 1 => evalWith env (some (evalAt env levels))

/-- **The value of an expression on a record.** -/
def eval (env : Environment) (r : Record) (e : Expr) : Result Value := evalAt env maxCalls r e

/-- The truth value of a condition on a record. -/
def test (env : Environment) (r : Record) (e : Expr) : Result Bool := eval env r e >>= Value.truth

end Expr

end EventQuery
