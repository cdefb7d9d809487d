/-
**Commands.**

Main definitions:

* `Command` — what a user can ask for;
* `Command.read` — the command that arguments stand for.
-/

import EventQuery.Command.Arguments
import EventQuery.Host.Basic

set_option relaxedAutoImplicit false
set_option autoImplicit false

namespace EventQuery

/-- How queries are run over a stream of events. -/
structure RunOptions where
  paths : List String
  queries : List String
  recovery : Recovery
  tellsFailures : Bool
  pretty : Bool
  stats : Bool
  deriving DecidableEq, Repr

/-- **What a user can ask for.** -/
inductive Command where
  | parse (query : String)
  | validate (paths : List String) (verbose : Bool)
  | run (options : RunOptions)
  | eval (query event : String) (pretty : Bool)
  | help
  | version
  deriving DecidableEq, Repr

namespace Command

/-- The paths that a command names. -/
def paths : Command → List String
  | .validate paths _ => paths
  | .run o => o.paths
  | _ => []

/-! ### Options -/

/-- The request for help, which every command understands. -/
def helpSwitch : Switch := ⟨"help", some 'h', false⟩

/-- The choice between two layouts of JSON. -/
def prettySwitch : Switch := ⟨"pretty", some 'p', false⟩

/-- A query as text. -/
def querySwitch : Switch := ⟨"query", some 'e', true⟩

/-- The options of `parse`. -/
def parseSwitches : List Switch := [helpSwitch, prettySwitch]

/-- The options of `validate`. -/
def validateSwitches : List Switch := [helpSwitch, ⟨"verbose", some 'v', false⟩]

/-- The options of `run`. -/
def runSwitches : List Switch :=
  [helpSwitch, prettySwitch, querySwitch, ⟨"queries", some 'q', true⟩, ⟨"recovery", none, true⟩,
    ⟨"failure-events", none, false⟩, ⟨"stats", none, false⟩]

/-- The options of `eval`. -/
def evalSwitches : List Switch :=
  [helpSwitch, prettySwitch, querySwitch, ⟨"event", none, true⟩]

/-! ### Reading -/

/-- A flag that may be given once. -/
def once? (given : List Given) (name : String) : Option Bool :=
  match Given.count given name with
  | 0 => some false
  | 1 => some true
  | _ => none

/-- The value of an option that must be given once. -/
def single? (given : List Given) (name : String) : Option String :=
  match Given.values given name with
  | [text] => some text
  | _ => none

/-- Paths are not empty. -/
def paths? (texts : List String) : Option (List String) :=
  if texts.all fun text => text != "" then some texts else none

/-- The way of dealing with failures, which is to begin anew unless something else is asked for. -/
def recovery? (given : List Given) : Option Recovery :=
  match Given.values given "recovery" with
  | [] => some .resubscribe
  | ["dispose"] => some .dispose
  | ["resubscribe"] => some .resubscribe
  | _ => none

/-- The command `parse`: one query.  Its output is always laid out. -/
def readParse (given : List Given) : Option Command := do
  let _ ← once? given "pretty"
  match Given.words given with
  | [query] => return .parse query
  | _ => none

/-- The command `validate`: at least one path. -/
def readValidate (given : List Given) : Option Command := do
  let verbose ← once? given "verbose"
  match ← paths? (Given.words given) with
  | [] => none
  | paths => return .validate paths verbose

/-- The command `run`. -/
def readRun (given : List Given) : Option Command := do
  if !(Given.words given).isEmpty then none
  return .run
    { paths := ← paths? (Given.values given "queries")
      queries := Given.values given "query"
      recovery := ← recovery? given
      tellsFailures := ← once? given "failure-events"
      pretty := ← once? given "pretty"
      stats := ← once? given "stats" }

/-- The command `eval`: one query and one event. -/
def readEval (given : List Given) : Option Command := do
  if !(Given.words given).isEmpty then none
  return .eval (← single? given "query") (← single? given "event") (← once? given "pretty")

/-- A command from its arguments; a request for help comes before everything else. -/
def readWith (switches : List Switch) (command : List Given → Option Command)
    (args : List String) : Option Command := do
  let given ← Switch.scan switches args
  if Given.count given "help" = 0 then command given else return .help

/-- **The command that arguments stand for**; none when they are not understood. -/
def read : List String → Option Command
  | "parse" :: args => readWith parseSwitches readParse args
  | "validate" :: args => readWith validateSwitches readValidate args
  | "run" :: args => readWith runSwitches readRun args
  | "eval" :: args => readWith evalSwitches readEval args
  | "help" :: _ => some .help
  | "--help" :: _ => some .help
  | "-h" :: _ => some .help
  | "--version" :: _ => some .version
  | "-V" :: _ => some .version
  | _ => none

end Command

end EventQuery
