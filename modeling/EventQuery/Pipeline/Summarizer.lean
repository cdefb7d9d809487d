/-
**Grouping and aggregation over windows of time.**

One window is open at a time.  A record whose time lies behind its end closes it: all cells go out,
and the window that holds the record opens.  Without a division of time everything goes out at the
end.

Main definitions:

* `Summarizer` — the state;
* `Summarizer.ofSummary` — compilation;
* `Summarizer.next` — one record;
* `Summarizer.complete` — the end.
-/

import EventQuery.Pipeline.Aggregate
import EventQuery.Pipeline.Cells
import EventQuery.Pipeline.Window

set_option relaxedAutoImplicit false
set_option autoImplicit false

namespace EventQuery

/-- **The state of a summary**: what is asked for, the end of the open window, and its cells. -/
structure Summarizer where
  aggregates : List Aggregate
  groups : List Column
  bin : Option TimeBin
  windowEnd : Option Instant
  cells : Cells
  deriving Inhabited

namespace Summarizer

/-! ### Compilation -/

/-- The duration of windows is positive, and its nanoseconds fit in 64 bits. -/
def checkBin (bin : TimeBin) : Result Unit :=
  if bin.duration.nanos ≤ 0 || bin.duration.nanos64?.isNone then
    .error (.invalidArgument
      s!"bin duration must be positive and under 292 years, got {bin.duration.clock}")
  else .ok ()

/-- **Compilation.** -/
def ofSummary (s : Summary) : Result Summarizer := do
  let aggregates ← s.aggregations.mapM Aggregate.ofCall
  s.bin.forM checkBin
  return ⟨aggregates, s.groups, s.bin, none, []⟩

/-! ### What a record brings -/

/-- What a record brings: its time, the values of its group, and the inputs. -/
structure Arrival where
  time : Option Instant
  groupValues : List Value
  inputs : List Value

/-- The time of a record. -/
def timeOf (env : Environment) (r : Record) (bin : TimeBin) : Result Instant := do
  let v ← bin.source.eval env r
  Result.ofOption
    (.mismatch
      s!"summarize time '{bin.source.print}' must be a datetime, got {v.typeName} '{v.text}'")
    v.toInstant?

/-- The input of an aggregation, checked. -/
def inputOf (env : Environment) (r : Record) (a : Aggregate) : Result Value := do
  let v ← match a.arg with
    | some e => e.eval env r
    | none => .ok .null
  a.check v
  return v

/-- Everything that a record brings; nothing is changed before all of it is known. -/
def arrival (s : Summarizer) (env : Environment) (r : Record) : Result Arrival := do
  let time ← s.bin.mapM (timeOf env r)
  let groupValues ← s.groups.mapM fun column => column.expr.eval env r
  let inputs ← s.aggregates.mapM (inputOf env r)
  return ⟨time, groupValues, inputs⟩

/-! ### Windows -/

/-- The end of the window that holds a time, and whether the open one is closed. -/
def advance (s : Summarizer) (bin : TimeBin) (time : Instant) : Result (Instant × Bool) :=
  Window.advance s.windowEnd time bin.duration

/-- The state after the windows have moved on, and the records that go out. -/
def openWindow (s : Summarizer) (time : Option Instant) : Result (Summarizer × List Record) :=
  match s.bin, time with
  | some bin, some time => do
      let (stop, closes) ← s.advance bin time
      if closes then return ({ s with windowEnd := some stop, cells := [] }, s.cells.records)
      else return ({ s with windowEnd := some stop }, [])
  | _, _ => .ok (s, [])

/-- The beginning of the open window, in its column. -/
def windowStart (s : Summarizer) : List (String × Value) :=
  match s.bin, s.windowEnd with
  | some bin, some stop => [(bin.name, .datetime ((stop.sub? bin.duration).getD stop))]
  | _, _ => []

/-! ### Cells -/

/-- A cell at its beginning: the window, the values of the group, and the seeds. -/
def newCell (s : Summarizer) (groupValues : List Value) : Record :=
  Fields.ofPairs
    (s.windowStart ++ (s.groups.map Column.name).zip groupValues
      ++ s.aggregates.map fun a => (a.name, a.seed))

/-- The inputs folded into a cell, each into the column of its aggregation. -/
def foldInputs (cell : Record) : List (Aggregate × Value) → Record
  | [] => cell
  | (a, input) :: rest =>
      match Fields.get? cell a.name with
      | some running => foldInputs (Fields.put cell a.name (a.fold running input)) rest
      | none => foldInputs cell rest

/-- The state after a record has been folded into its cell. -/
def absorb (s : Summarizer) (x : Arrival) : Summarizer :=
  { s with
    cells := s.cells.update (GroupKey.ofValues x.groupValues) (s.newCell x.groupValues)
      fun cell => foldInputs cell (s.aggregates.zip x.inputs) }

/-- The state after a record, and the records that go out. -/
def next? (s : Summarizer) (env : Environment) (r : Record) :
    Result (Summarizer × List Record) := do
  let x ← s.arrival env r
  let (s, out) ← s.openWindow x.time
  return (s.absorb x, out)

/-- **One record.**  When it fails, the state stays as it was. -/
def next (s : Summarizer) (env : Environment) (r : Record) : Summarizer × Result (List Record) :=
  match s.next? env r with
  | .ok (s, out) => (s, .ok out)
  | .error e => (s, .error e)

/-- **The end**: all cells go out, whatever the window. -/
def complete (s : Summarizer) : Summarizer × List Record :=
  ({ s with windowEnd := none, cells := [] }, s.cells.records)

end Summarizer

end EventQuery
