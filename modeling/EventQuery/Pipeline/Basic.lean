/-
**Pipelines.**

Records pass through the stages from left to right, and what a stage lets out is what the next one
takes in.  At the end each stage lets out what it holds back, and this passes through the stages
behind it before they end in turn.

Main definitions:

* `Processor` — a stage with its state;
* `Processor.next`, `Processor.complete` — one record, and the end;
* `Pipeline` — the stages of a query;
* `Pipeline.next`, `Pipeline.complete` — one record, and the end.
-/

import EventQuery.Grammar.Query
import EventQuery.Pipeline.Summarizer
import EventQuery.Query.Printer

set_option relaxedAutoImplicit false
set_option autoImplicit false

namespace EventQuery

/-- **A stage with its state.** -/
inductive Processor where
  | filter (condition : Expr)
  | extend (columns : List Column)
  | project (columns : List Column)
  | remove (names : List String)
  | keep (names : List String)
  | unfold (name : String) (args : List Expr)
  | summarize (s : Summarizer)
  | take (limit passed : Nat)
  deriving Inhabited

namespace Processor

/-- Compilation. -/
def ofStage : Stage → Result Processor
  | .filter condition => .ok (.filter condition)
  | .extend columns => .ok (.extend columns)
  | .project columns => .ok (.project columns)
  | .remove names => .ok (.remove names)
  | .keep names => .ok (.keep names)
  | .unfold name args => .ok (.unfold name args)
  | .summarize summary => (Summarizer.ofSummary summary).map Processor.summarize
  | .take count => .ok (.take count 0)

/-- The word with which the stage is written. -/
def keyword : Processor → String
  | .filter _ => "where"
  | .extend _ => "extend"
  | .project _ => "project"
  | .remove _ => "project-away"
  | .keep _ => "project-keep"
  | .unfold .. => "evaluate"
  | .summarize _ => "summarize"
  | .take .. => "take"

/-! ### Stages without state -/

/-- Columns are added one after the other; each sees the ones before it. -/
def extendRecord (env : Environment) (r : Record) : List Column → Result Record
  | [] => .ok r
  | column :: rest => do
      let v ← column.expr.eval env r
      extendRecord env (Fields.put r column.name v) rest

/-- A record of columns, each of which sees the record that came in. -/
def projectRecord (env : Environment) (r : Record) (columns : List Column) : Result Record := do
  let fields ← columns.mapM fun column => do
    return (column.name, ← column.expr.eval env r)
  return Fields.ofPairs fields

/-- The record without the named fields. -/
def removeFields (r : Record) (names : List String) : Record := names.foldl Fields.erase r

/-- The record with the named fields only. -/
def keepFields (r : Record) (names : List String) : Record :=
  r.filter fun field => names.contains field.1

/-- The expression names a column. -/
def isColumnReference : Option Expr → Bool
  | some (.property _) => true
  | some (.path ..) => true
  | _ => false

/-- **The record that a call gives takes the place of the one that came in**; the fields of an
unpacked column are put into it instead. -/
def unfoldRecord (env : Environment) (r : Record) (name : String) (args : List Expr) :
    Result Record := do
  let call := Expr.call name args
  if name = "bag_unpack" then
    if !isColumnReference args.head? then
      throw (.mismatch s!"bag_unpack expects a column reference, got {call.print}")
    match ← call.eval env r with
    | .record fields => return Fields.putAll r fields
    | _ => throw (.mismatch "bag_unpack did not return a property bag")
  else
    match ← call.eval env r with
    | .record fields => return fields
    | other =>
        throw (.mismatch s!"evaluate {name}() must return a property bag, got {other.typeName}")

/-! ### Records -/

/-- **One record**: the state after it, and the records that go out. -/
def next (env : Environment) (p : Processor) (r : Record) : Processor × Result (List Record) :=
  match p with
  | .filter condition =>
      (p, (condition.test env r).map fun passes => if passes then [r] else [])
  | .extend columns => (p, (extendRecord env r columns).map fun r => [r])
  | .project columns => (p, (projectRecord env r columns).map fun r => [r])
  | .remove names => (p, .ok [removeFields r names])
  | .keep names => (p, .ok [keepFields r names])
  | .unfold name args => (p, (unfoldRecord env r name args).map fun r => [r])
  | .summarize s =>
      let (s, out) := s.next env r
      (.summarize s, out)
  | .take limit passed =>
      if passed < limit then (.take limit (passed + 1), .ok [r]) else (p, .ok [])

/-- Records one after the other; the first error ends it. -/
def nextAll (env : Environment) (p : Processor) : List Record → Processor × Result (List Record)
  | [] => (p, .ok [])
  | r :: rest =>
      match p.next env r with
      | (p, .error e) => (p, .error e)
      | (p, .ok out) =>
          let (p, more) := nextAll env p rest
          (p, more.map (out ++ ·))

/-- **The end**: the state after it, and the records that were held back. -/
def complete : Processor → Processor × List Record
  | .summarize s =>
      let (s, out) := s.complete
      (.summarize s, out)
  | p => (p, [])

end Processor

/-- **The stages of a query**, with their state. -/
structure Pipeline where
  stages : List Processor
  deriving Inhabited

namespace Pipeline

/-- Compilation. -/
def ofQuery (q : Query) : Result Pipeline := (q.stages.mapM Processor.ofStage).map Pipeline.mk

/-- **The pipeline of a query text.** -/
def read (text : String) : Result Pipeline := do
  let q ← (Query.read text).mapError EvalError.query
  ofQuery q

/-- Records pass through stages; a stage that takes in nothing is left alone, and the first error
ends it. -/
def push (env : Environment) : List Processor → List Record → List Processor × Result (List Record)
  | stages, [] => (stages, .ok [])
  | [], batch => ([], .ok batch)
  | p :: rest, batch =>
      match p.nextAll env batch with
      | (p, .error e) => (p :: rest, .error e)
      | (p, .ok out) =>
          let (rest, result) := push env rest out
          (p :: rest, result)

@[simp] theorem length_push (env : Environment) (stages : List Processor) (batch : List Record) :
    (push env stages batch).1.length = stages.length := by
  fun_induction push env stages batch <;> simp_all

/-- The stages end from left to right; what each one held back passes through those behind it
first. -/
def completeAll (env : Environment) : List Processor → List Processor × Result (List Record)
  | [] => ([], .ok [])
  | p :: rest =>
      let ended := p.complete
      let passed := push env rest ended.2
      match passed.2 with
      | .error e => (ended.1 :: passed.1, .error e)
      | .ok out =>
          let behind := completeAll env passed.1
          (ended.1 :: behind.1, behind.2.map (out ++ ·))
termination_by stages => stages.length

/-- **One record**: the state after it, and what reaches the end. -/
def next (env : Environment) (p : Pipeline) (r : Record) : Pipeline × Result (List Record) :=
  let (stages, result) := push env p.stages [r]
  (⟨stages⟩, result)

/-- **The end**: the state after it, and what reaches the end. -/
def complete (env : Environment) (p : Pipeline) : Pipeline × Result (List Record) :=
  let (stages, result) := completeAll env p.stages
  (⟨stages⟩, result)

end Pipeline

end EventQuery
