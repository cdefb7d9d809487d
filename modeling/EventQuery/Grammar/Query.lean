/-
**Reading queries and functions.**

Main definitions:

* `Grammar.timeBin?` — the division of time that a grouping expression asks for;
* `Grammar.stage` — one stage;
* `Query.read` — the query that a text holds;
* `UserFunction.read` — the definition that a text holds.
-/

import EventQuery.Grammar.Expression
import EventQuery.Query.Basic
import EventQuery.Text.Casing

set_option relaxedAutoImplicit false
set_option autoImplicit false

namespace EventQuery

namespace Grammar

open Reader

/-! ### Columns -/

/-- An equals sign that begins no operator. -/
def assign : Reader Unit := fun cs =>
  if Text.startsWith cs "==".toList || Text.startsWith cs "=~".toList then ⟨none, none⟩
  else token "=" cs

/-- A name and an equals sign. -/
def assigned : Reader String := do
  let name ← columnName
  blank
  assign
  return name

/-- An expression, perhaps with a name. -/
def column : Reader (Draft (Option String × Expr)) := rule do
  let name ← optional assigned
  blank
  let e ← expr
  return e.map fun e => (name, e)

/-- A call, perhaps with a name. -/
def aggregation : Reader (Draft Aggregation) := rule do
  let name ← optional assigned
  blank
  let c ← call expr
  return c.map fun (function, args) => ⟨name.getD function, function, args⟩

/-! ### What columns mean -/

/-- The columns of `extend`: each needs a name. -/
def extendColumn (column : Option String × Expr) : Draft Column :=
  match column.1 with
  | some name => .ok ⟨name, column.2⟩
  | none =>
      .error (.malformed s!"extend requires 'name = expression', found '{column.2.print}'")

/-- The name of a column without one. -/
def numberedName (n : Nat) : String := "Column" ++ String.ofList (Digits.write n)

/-- The name that a column has by itself. -/
def ownName? (column : Option String × Expr) : Option String :=
  match column.1 with
  | some name => some name
  | none => column.2.implicitName?

/-- Name a column; `unnamed` columns before it had to be numbered. -/
def nameColumn (unnamed : Nat) (column : Option String × Expr) : Column × Nat :=
  match ownName? column with
  | some name => (⟨name, column.2⟩, unnamed)
  | none => (⟨numberedName (unnamed + 1), column.2⟩, unnamed + 1)

/-- The columns of `project`: one without a name of its own is numbered. -/
def projectColumns (unnamed : Nat) : List (Draft (Option String × Expr)) → Draft (List Column)
  | [] => .ok []
  | draft :: rest => do
      let (named, unnamed) := nameColumn unnamed (← draft)
      let others ← projectColumns unnamed rest
      return named :: others

/-- **The division of time that a grouping expression asks for**: a call of `bin` with a constant
timespan. -/
def timeBin? : Expr → Option (Expr × Timespan)
  | .call name [source, .const (.timespan duration)] =>
      if Text.lowerAscii name = "bin" then some (source, duration) else none
  | _ => none

/-- What has been read of the grouping columns. -/
structure Grouping where
  groups : List Column
  bin : Option TimeBin
  unnamed : Nat

/-- Take in a grouping column. -/
def Grouping.add (g : Grouping) (column : Option String × Expr) : Draft Grouping :=
  match timeBin? column.2 with
  | some (source, duration) =>
      if g.bin.isSome then .error (.malformed "summarize supports at most one time bin")
      else if duration.nanos ≤ 0 then
        .error (.malformed s!"bin duration must be positive in '{column.2.print}'")
      else
        match ownName? (column.1, source) with
        | some name => .ok { g with bin := some ⟨name, source, duration⟩ }
        | none =>
            .error (.malformed s!"cannot infer a column name for '{column.2.print}'")
  | none =>
      let (named, unnamed) := nameColumn g.unnamed column
      .ok { g with groups := g.groups ++ [named], unnamed := unnamed }

/-- Take in grouping columns one after the other. -/
def Grouping.addAll (g : Grouping) : List (Draft (Option String × Expr)) → Draft Grouping
  | [] => .ok g
  | draft :: rest => do
      let g ← g.add (← draft)
      g.addAll rest

/-- Aggregations and grouping columns together. -/
def summary (aggregations : List (Draft Aggregation))
    (columns : List (Draft (Option String × Expr))) : Draft Summary := do
  let aggregations ← aggregations.mapM id
  let g ← Grouping.addAll ⟨[], none, 0⟩ columns
  return ⟨aggregations, g.groups, g.bin⟩

/-! ### Stages -/

/-- A condition. -/
def filterStage : Reader (Draft Stage) := rule do
  let _ ← Token.word ["where", "filter"]
  blank
  let e ← expr
  return e.map Stage.filter

/-- Columns to be added. -/
def extendStage : Reader (Draft Stage) := rule do
  let _ ← Token.word ["extend"]
  blank
  let columns ← commaSeparated column
  return (columns.mapM fun draft => draft >>= extendColumn).map Stage.extend

/-- Columns to be shown. -/
def projectStage : Reader (Draft Stage) := rule do
  let _ ← Token.projectWord
  blank
  let columns ← commaSeparated column
  return (projectColumns 0 columns).map Stage.project

/-- Names after a word. -/
def namesStage (word : String) (stage : List String → Stage) : Reader (Draft Stage) := rule do
  let _ ← Token.word [word]
  blank
  let names ← commaSeparated columnName
  return .ok (stage names)

/-- A call that makes several records out of one. -/
def unfoldStage : Reader (Draft Stage) := rule do
  let _ ← Token.word ["evaluate"]
  blank
  let c ← call expr
  return c.map fun (name, args) => .unfold name args

/-- Grouping columns. -/
def byClause : Reader (List (Draft (Option String × Expr))) := rule do
  let _ ← Token.word ["by"]
  blank
  commaSeparated column

/-- Aggregations, perhaps with grouping columns. -/
def summarizeStage : Reader (Draft Stage) := rule do
  let _ ← Token.word ["summarize"]
  blank
  let aggregations ← commaSeparated aggregation
  blank
  let columns ← optional byClause
  return (summary aggregations (columns.getD [])).map Stage.summarize

/-- The number of records to be let through; it has to fit in 64 bits. -/
def takeCount (cs : List Char) : Draft Stage :=
  if Digits.read cs < 0x10000000000000000 then .ok (.take (Digits.read cs))
  else .error (.literal (String.ofList cs))

/-- A number of records. -/
def takeStage : Reader (Draft Stage) := rule do
  let _ ← Token.word ["take", "limit"]
  blank
  let cs ← Token.digits
  return takeCount cs

/-- **A stage.** -/
def stage : Reader (Draft Stage) :=
  firstOf
    [filterStage, extendStage, namesStage "project-away" Stage.remove,
      namesStage "project-keep" Stage.keep, projectStage, unfoldStage, summarizeStage, takeStage]

/-! ### Queries -/

/-- A name, perhaps with arguments; they have no meaning. -/
def sourcePart : Reader Unit := rule do
  let _ ← Token.name
  blank
  let _ ← optional do
    token "("
    blank
    let _ ← optional (commaSeparated expr)
    blank
    token ")"
  return ()

/-- The text in front of the first stage: parts joined by points. -/
def source : Reader String := do
  let (_, cs) ← withText <| rule do
    sourcePart
    blank
    let _ ← many do
      token "."
      blank
      sourcePart
    return ()
  return String.ofList (Text.strip cs)

/-- A source and stages. -/
def query : Reader (Draft Query) := do
  blank
  let source ← optional source
  blank
  let stages ← many do
    token "|"
    blank
    stage
  blank
  finish
  return (stages.mapM id).map fun stages => ⟨source, stages⟩

/-! ### Functions -/

/-- A name and a type. -/
def parameter : Reader Parameter := rule do
  let name ← Token.name
  blank
  token ":"
  blank
  let type ← Token.typeName
  return ⟨name, type⟩

/-- Properties of a definition; they have no meaning. -/
def properties : Reader Unit := rule do
  let _ ← Token.word ["with"]
  blank
  token "("
  blank
  Token.flatBody
  blank
  token ")"

/-- A definition of a function. -/
def definition : Reader (Draft UserFunction) := do
  blank
  token "."
  blank
  let _ ← Token.word ["create-or-alter", "create", "alter"]
  blank
  let _ ← Token.word ["function"]
  blank
  let _ ← optional properties
  blank
  let name ← Token.name
  blank
  token "("
  blank
  let params ← optional (commaSeparated parameter)
  blank
  token ")"
  blank
  token "\x7b"
  blank
  let body ← expr
  blank
  token "\x7d"
  blank
  finish
  return body.map fun body => ⟨name, params.getD [], body, ""⟩

end Grammar

/-- **The query that a text holds.**  Every error names the whole text. -/
def Query.read (s : String) : Except QueryError Query :=
  (Grammar.settle (fun d => .query s [d]) s.toList (Grammar.query s.toList)).mapError
    (QueryError.forQuery s)

/-- **The definition that a text holds.** -/
def UserFunction.read (s : String) : Except QueryError UserFunction :=
  let cs := Text.strip s.toList
  Grammar.settle QueryError.definition cs (Grammar.definition cs)

end EventQuery
