/-
**The functions that expressions can call.**

A name means a function defined by an expression if there is one, else a function supplied by the
host, else a built-in one.

Main definitions:

* `Registry` — the functions defined so far;
* `Registry.resolve` — what a name means;
* `Registry.define`, `Registry.defineText` — new definitions.
-/

import EventQuery.Function.Table
import EventQuery.Library.Basic

set_option relaxedAutoImplicit false
set_option autoImplicit false

namespace EventQuery

/-- A function supplied by the host. -/
abbrev NativeFunction : Type := List Value → Result Value

/-- **The functions defined so far.** -/
structure Registry where
  user : Fields UserFunction
  native : Fields NativeFunction

/-- What a name means. -/
inductive Resolved where
  | user (f : UserFunction)
  | native (f : NativeFunction)
  | builtin (f : Function)

namespace Registry

/-- No definitions. -/
def empty : Registry := ⟨[], []⟩

instance : Inhabited Registry := ⟨empty⟩

/-- **What a name means.** -/
def resolve (g : Registry) (name : String) : Option Resolved :=
  match g.user.get? name with
  | some f => some (.user f)
  | none =>
      match g.native.get? name with
      | some f => some (.native f)
      | none => (Function.builtin? name).map Resolved.builtin

/-- Define a function; a definition of the same name is replaced. -/
def define (g : Registry) (f : UserFunction) : Registry := { g with user := g.user.put f.name f }

/-- Define functions one after the other. -/
def defineAll (g : Registry) (fs : List UserFunction) : Registry := fs.foldl define g

/-- **Define every function of a text**, or none of them when one does not read. -/
def defineText (g : Registry) (text : String) : Result (List String × Registry) :=
  let library := Library.read text
  if !library.errors.isEmpty then
    .error (.invalidArgument
      ("invalid function definition: " ++ "; ".intercalate library.errors))
  else if library.functions.isEmpty then
    .error (.invalidArgument "no function definition found")
  else .ok (library.functions.map UserFunction.name, g.defineAll library.functions)

/-- The definition of a name. -/
def definition? (g : Registry) (name : String) : Option UserFunction := g.user.get? name

/-- Drop the definition of a name; tells whether there was one. -/
def undefine (g : Registry) (name : String) : Bool × Registry :=
  ((g.user.get? name).isSome, { g with user := g.user.erase name })

/-- Supply a function. -/
def supply (g : Registry) (name : String) (f : NativeFunction) : Registry :=
  { g with native := g.native.put name f }

/-- Withdraw a supplied function; tells whether there was one. -/
def withdraw (g : Registry) (name : String) : Bool × Registry :=
  ((g.native.get? name).isSome, { g with native := g.native.erase name })

/-- The names of the defined functions, in order. -/
def names (g : Registry) : List String := g.user.names.mergeSort fun a b => a ≤ b

/-- A summary of the registry. -/
def summary (g : Registry) : String :=
  let names := String.ofList ([',', ' '].intercalate (g.names.map Expr.quoteChars))
  s!"FunctionRegistry \x7b user: [{names}], native: {Function.numeral g.native.length} \x7d"

end Registry

end EventQuery
