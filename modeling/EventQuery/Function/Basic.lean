/-
**Scalar functions.**

A function takes evaluated arguments and the current time, and gives a value or an error.

Main definitions:

* `Function` — the type;
* `Function.countError` — the error of a wrong number of arguments;
* `Function.unary`, `Function.binary`, `Function.variadic` — functions by their number of arguments;
* `Function.longArgument` — an argument that has to be an integer.
-/

import EventQuery.Value.Coercion

set_option relaxedAutoImplicit false
set_option autoImplicit false

namespace EventQuery

/-- **A scalar function** of the current time and the arguments. -/
abbrev Function : Type := Instant → List Value → Result Value

namespace Function

/-- A number in words of digits. -/
def numeral (n : Nat) : String := String.ofList (Digits.write n)

/-- How many arguments a function takes. -/
def countText (least : Nat) (most : Option Nat) : String :=
  match most with
  | none => s!"at least {numeral least}"
  | some most =>
      if least = most then numeral least else s!"{numeral least} to {numeral most}"

/-- **The error of a wrong number of arguments.** -/
def countError (name : String) (least : Nat) (most : Option Nat) (args : List Value) : EvalError :=
  .argumentCount name (countText least most) args.length

/-- A function of one argument. -/
def unary (name : String) (f : Value → Result Value) : Function := fun _ args =>
  match args with
  | [v] => f v
  | _ => .error (countError name 1 (some 1) args)

/-- A function of two arguments. -/
def binary (name : String) (f : Value → Value → Result Value) : Function := fun _ args =>
  match args with
  | [v, w] => f v w
  | _ => .error (countError name 2 (some 2) args)

/-- A function of a number of arguments within bounds. -/
def variadic (name : String) (least : Nat) (most : Option Nat) (f : List Value → Result Value) :
    Function := fun _ args =>
  if least ≤ args.length && most.all fun most => args.length ≤ most then f args
  else .error (countError name least most args)

/-- **An argument that has to be an integer.** -/
def longArgument (name : String) (v : Value) : Result Int64 :=
  Result.ofOption
    (.invalidArgument s!"{name}: expected an integer, got {v.typeName} '{v.text}'") v.toLong?

/-- An integer argument that may be missing. -/
def longArgument? (name : String) (v : Option Value) (fallback : Int64) : Result Int64 :=
  match v with
  | some v => longArgument name v
  | none => .ok fallback

/-- A text as a value. -/
def textValue (cs : List Char) : Result Value := .ok (.string (String.ofList cs))

end Function

end EventQuery
