/-
**What can go wrong in an evaluation.**

Main definitions:

* `EvalError` — the errors;
* `EvalError.message` — the text of an error.
-/

import EventQuery.Query.Error
import EventQuery.Value.Basic

set_option relaxedAutoImplicit false
set_option autoImplicit false

namespace EventQuery

/-- An error of an evaluation. -/
inductive EvalError where
  | unknownFunction (name : String)
  | unsupportedType (operation type : String)
  | argumentCount (function expected : String) (actual : Nat)
  | invalidArgument (detail : String)
  | mismatch (detail : String)
  | thrown (text : String)
  | invalidPattern
  | query (e : QueryError)
  | file (detail : String)
  deriving DecidableEq, Repr

namespace EvalError

/-- The text of an error. -/
def message : EvalError → String
  | .unknownFunction name => s!"unknown function: '{name}'"
  | .unsupportedType operation type => s!"unsupported type '{type}' for {operation}"
  | .argumentCount function expected actual =>
      s!"function '{function}' expects {expected} argument(s), got "
        ++ String.ofList (Digits.write actual)
  | .invalidArgument detail => s!"invalid argument: {detail}"
  | .mismatch detail => s!"type mismatch: {detail}"
  | .thrown text => text
  | .invalidPattern => "invalid regex pattern"
  | .query e => s!"parser error: {e.message}"
  | .file detail => s!"IO error: {detail}"

/-- The result of an operation does not fit. -/
def overflow : EvalError := .invalidArgument "arithmetic overflow"

/-- The divisor is zero. -/
def divisionByZero : EvalError := .invalidArgument "division by zero"

/-- An operation has no meaning for the type of a value. -/
def unsupported (operation : String) (v : Value) : EvalError :=
  .unsupportedType operation v.typeName

end EvalError

/-- The result of an evaluation. -/
abbrev Result (α : Type) : Type := Except EvalError α

namespace Result

/-- A value that must be there. -/
def ofOption {α : Type} (e : EvalError) : Option α → Result α
  | some a => .ok a
  | none => .error e

end Result

end EventQuery
