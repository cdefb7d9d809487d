/-
**What commands do.**

Main definitions:

* `Command.showQuery`, `Command.checkFiles`, `Command.runQueries`, `Command.evalQuery` — the
  commands;
* `Command.perform` — any command;
* `Command.execute` — a whole run of the program, from its arguments to its report.
-/

import EventQuery.Command.Session
import EventQuery.Query.Printer

set_option relaxedAutoImplicit false
set_option autoImplicit false

namespace EventQuery

namespace Command

/-- The query as JSON. -/
def showQuery (text : String) : Report :=
  match Query.read text with
  | .ok q => .done [.json true q.toJson]
  | .error e => .refused [.err s!"Query parse error: {e.message}"]

/-! ### Checking query files -/

/-- What is wrong with a query, told with the first line of its comment or else with its text. -/
def complaint? (source : QuerySource) : Option String :=
  match Query.read source.text with
  | .ok _ => none
  | .error e =>
      let label :=
        match Text.lines source.comment.toList with
        | first :: _ => String.ofList first
        | [] => source.text
      some s!"{label}: {e.message}"

/-- Everything that is wrong with a library. -/
def complaints (l : Library) : List String := l.errors ++ l.queries.filterMap complaint?

/-- The library at a path, or the reason why there is none. -/
def findAt (find : String → Except QueryError Library) (path : String) : Except String Library :=
  (find path).mapError fun e => s!"Error loading queries from {path}: {e.message}"

/-- **A summary of query files**: how much they hold and how much is wrong. -/
def checkFiles (find : String → Except QueryError Library) (paths : List String) (verbose : Bool) :
    Report :=
  match paths.mapM (findAt find) with
  | .error reason => .refused [.err reason]
  | .ok libraries =>
      let errors := libraries.flatMap complaints
      let queries := Function.numeral (libraries.flatMap Library.queries).length
      let functions := Function.numeral (libraries.flatMap Library.functions).length
      let summary : List Printed :=
        [.out s!"Parsed {Function.numeral paths.length} path(s)",
          .out s!"  Queries:      {queries}",
          .out s!"  Functions:    {functions}",
          .out s!"  Parse errors: {Function.numeral errors.length}"]
      let details : List Printed :=
        if verbose && !errors.isEmpty then
          .out "\nErrors:" :: errors.map fun error => .out s!"  - {error}"
        else []
      ⟨summary ++ details, if errors.isEmpty then 0 else 1⟩

/-! ### Running queries -/

/-- **Queries over a stream of events**, given as one text. -/
def runQueries (find : String → Except QueryError Library) (o : RunOptions) (input : String)
    (now : Instant) : Report :=
  match Session.start find o with
  | (lines, none) => .refused lines
  | (lines, some s) =>
      let (s, more) := s.feed now input
      .done (lines ++ more ++ s.finish now)

/-- **One query on one event.** -/
def evalQuery (text event : String) (pretty : Bool) (now : Instant) : Report :=
  match Record.read event with
  | .error e => .refused [.err s!"Invalid JSON event: {e.message}"]
  | .ok r =>
      let q := StandingQuery.start 1 ⟨none, none, "", text⟩
      match q.failure with
      | some reason => .refused [.err s!"Query error: {reason}"]
      | none =>
          match q.evaluate ⟨Registry.empty, now⟩ r with
          | .error e => .refused [.err s!"Evaluation error: {e.message}"]
          | .ok [] => .done [.err "No output."]
          | .ok outputs => .done (outputs.map fun r => .json pretty r.toJson)

/-! ### All commands -/

/-- How the program is used. -/
def usage : List Printed :=
  [.out "Parse, validate, and run streaming KQL queries over NDJSON events",
    .out "",
    .out "Usage: kql <COMMAND>",
    .out "",
    .out "Commands:",
    .out "  parse     Parse a single query and print the AST as JSON",
    .out "  validate  Parse query files or directories (recursive) and report results",
    .out "  run       Run standing queries over NDJSON events read from stdin",
    .out "  eval      Evaluate one query against a single event",
    .out "  help      Print this message or the help of the given subcommand(s)"]

/-- **What a command does.** -/
def perform (find : String → Except QueryError Library) (input : String) (now : Instant) :
    Command → Report
  | .parse query => showQuery query
  | .validate paths verbose => checkFiles find paths verbose
  | .run o => runQueries find o input now
  | .eval query event pretty => evalQuery query event pretty now
  | .help => .done usage
  | .version => .done [.out "kql 0.1.0"]

/-- **A whole run of the program.** -/
def execute (args : List String) (find : String → Except QueryError Library) (input : String)
    (now : Instant) : Report :=
  match read args with
  | some command => command.perform find input now
  | none => .misused

end Command

end EventQuery
