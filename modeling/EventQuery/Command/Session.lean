/-
**Running queries over a stream of events.**

A session begins with the queries that it was asked for, takes in one line after the other, and ends
by letting out what the queries hold back.  It does not observe identifiers and durations: where its
messages have a place for them, it writes zero.

Main definitions:

* `Session` — the host, and what has been counted;
* `Session.start` — the beginning;
* `Session.line`, `Session.feed` — one line of input, and several;
* `Session.finish` — the end.
-/

import EventQuery.Command.Basic
import EventQuery.Command.Report
import EventQuery.Eval.Event

set_option relaxedAutoImplicit false
set_option autoImplicit false

namespace EventQuery

/-- **A session**: the host, how the output is laid out, and what has been counted. -/
structure Session where
  host : Host
  pretty : Bool
  stats : Bool
  lineCount : Nat
  outputCount : Nat

namespace Session

/-! ### Messages -/

/-- A record that a query let out. -/
def outputJson (o : QueryOutput) : Json :=
  .object
    [("query", .string o.name), ("comment", .string o.comment), ("output", o.record.toJson)]

/-- A text that may be missing. -/
def textJson : Option String → Json
  | some text => .string text
  | none => .null

/-- A record that may be missing. -/
def recordJson : Option Record → Json
  | some r => r.toJson
  | none => .null

/-- A failure of a query. -/
def failureJson (f : QueryFailure) : Json :=
  .object
    [("query_id", .integer f.query), ("query_name", .string f.name), ("query_guid", .integer 0),
      ("comment", .string f.comment), ("error", .string f.error), ("record", recordJson f.record)]

/-- The state of a query. -/
def statsJson (q : StandingQuery) : Json :=
  .object
    [("id", .integer q.id), ("guid", .integer 0), ("name", .string q.name),
      ("valid", .bool q.valid), ("failure_reason", textJson q.failure),
      ("engaged_at", .integer 0), ("evaluation_count", .integer q.evaluations),
      ("average_microseconds", .integer 0)]

/-- What came of a record: outputs first, then failures. -/
def delivered (pretty : Bool) (d : Delivery) : List Printed :=
  (d.outputs.map fun o => .json pretty (outputJson o))
    ++ d.failures.map fun f => .err (failureJson f).compact

/-- A list of things that are wrong. -/
def warnings (errors : List String) : List Printed :=
  if errors.isEmpty then []
  else .err "Warnings:" :: errors.map fun error => .err s!"  - {error}"

/-! ### The beginning -/

/-- The state of a session that is being prepared: what it has printed, and the host unless the
session has been given up. -/
abbrev Preparation : Type := List Printed × Option Host

/-- The query files at a path. -/
def loadPath (find : String → Except QueryError Library) (p : Preparation) (path : String) :
    Preparation :=
  match p with
  | (lines, none) => (lines, none)
  | (lines, some host) =>
      match host.loadFound (find path) with
      | (host, .ok report) =>
          let added := Function.numeral report.added.length
          let functions := Function.numeral report.functions.length
          (lines ++ .err s!"Loaded {added} queries and {functions} functions from {path}"
            :: warnings report.errors, some host)
      | (_, .error e) =>
          (lines ++ [.err s!"Error loading queries from {path}: {e.message}"], none)

/-- A query given as text. -/
def addText (p : Preparation) (text : String) : Preparation :=
  match p with
  | (lines, none) => (lines, none)
  | (lines, some host) =>
      let (host, id) := host.add ⟨none, none, "", text⟩
      match host.failed.find? fun q => q.id == id with
      | some q =>
          let reason := q.failure.getD ""
          (lines ++ [.err s!"Error in query '{text}': {reason}"], none)
      | none => (lines, some host)

/-- **The beginning**: the queries of all files, then those given as text.  There must be one. -/
def start (find : String → Except QueryError Library) (o : RunOptions) :
    List Printed × Option Session :=
  let host := Host.empty o.recovery o.tellsFailures Registry.empty
  match o.queries.foldl addText (o.paths.foldl (loadPath find) ([], some host)) with
  | (lines, none) => (lines, none)
  | (lines, some host) =>
      if host.queries.isEmpty then (lines ++ [.err "No queries to run."], none)
      else (lines, some ⟨host, o.pretty, o.stats, 0, 0⟩)

/-! ### Events -/

/-- The session after a delivery, and its lines. -/
def deliver (s : Session) (made : Host × Delivery) : Session × List Printed :=
  ({ s with host := made.1, outputCount := s.outputCount + made.2.outputs.length },
    delivered s.pretty made.2)

/-- **One line of input.**  Blank lines and lines that hold no event are counted and passed over. -/
def line (s : Session) (now : Instant) (text : String) : Session × List Printed :=
  let s := { s with lineCount := s.lineCount + 1 }
  if (Text.strip text.toList).isEmpty then (s, [])
  else
    match Record.read text with
    | .ok r => s.deliver (s.host.next now r)
    | .error e =>
        (s, [.err s!"Invalid JSON event on line {Function.numeral s.lineCount}: {e.message}"])

/-- A line that could not be read. -/
def unreadable (s : Session) (reason : String) : Session × List Printed :=
  let s := { s with lineCount := s.lineCount + 1 }
  (s, [.err s!"Error reading line {Function.numeral s.lineCount}: {reason}"])

/-- Lines one after the other. -/
def linesFrom (s : Session) (now : Instant) : List String → Session × List Printed
  | [] => (s, [])
  | text :: rest =>
      let (s, lines) := s.line now text
      let (s, more) := linesFrom s now rest
      (s, lines ++ more)

/-- **A piece of the input**, which ends where a line ends. -/
def feed (s : Session) (now : Instant) (text : String) : Session × List Printed :=
  s.linesFrom now ((Text.lines text.toList).map String.ofList)

/-- **The end.** -/
def finish (s : Session) (now : Instant) : List Printed :=
  let (s, lines) := s.deliver (s.host.complete now)
  let stats := if s.stats then s.host.queries.map fun q => .err (statsJson q).compact else []
  let events := Function.numeral s.lineCount
  let outputs := Function.numeral s.outputCount
  lines ++ stats ++ [.err s!"Processed {events} events, {outputs} outputs."]

end Session

end EventQuery
