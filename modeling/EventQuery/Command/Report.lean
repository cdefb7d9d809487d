/-
**What a command prints.**

Main definitions:

* `Printed` — a line of the output or of the messages;
* `Report` — the lines in order, and the code with which the program ends.
-/

import EventQuery.Json.Basic

set_option relaxedAutoImplicit false
set_option autoImplicit false

namespace EventQuery

/-- A line of the output or of the messages. -/
inductive Printed where
  | out (line : String)
  | err (line : String)
  deriving DecidableEq, Repr

/-- **Everything that a command prints**, and the code with which the program ends. -/
structure Report where
  lines : List Printed
  code : Nat
  deriving DecidableEq, Repr

/-- A line of the output. -/
def Printed.out? : Printed → Option String
  | .out line => some line
  | .err _ => none

/-- A line of the messages. -/
def Printed.err? : Printed → Option String
  | .out _ => none
  | .err line => some line

/-- JSON as the output of a command. -/
def Printed.json (pretty : Bool) (j : Json) : Printed :=
  .out (if pretty then j.pretty else j.compact)

namespace Report

/-- The program ends well. -/
def done (lines : List Printed) : Report := ⟨lines, 0⟩

/-- The program gives up. -/
def refused (lines : List Printed) : Report := ⟨lines, 1⟩

/-- The arguments are not understood. -/
def misused : Report := ⟨[], 2⟩

/-- The lines of the output. -/
def outLines (r : Report) : List String := r.lines.filterMap Printed.out?

/-- The lines of the messages. -/
def errLines (r : Report) : List String := r.lines.filterMap Printed.err?

end Report

end EventQuery
