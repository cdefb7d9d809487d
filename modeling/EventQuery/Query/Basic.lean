/-
**Queries.**

A query names a source of events and lists the stages through which they pass.

Main definitions:

* `Column`, `Aggregation`, `TimeBin`, `Summary` — the parts of stages;
* `Stage` — the stages;
* `Query` — a source and stages;
* `UserFunction` — a function defined by an expression.
-/

import EventQuery.Expr.Basic

set_option relaxedAutoImplicit false
set_option autoImplicit false

namespace EventQuery

/-- A named expression. -/
structure Column where
  name : String
  expr : Expr
  deriving BEq, Inhabited

/-- A call of an aggregation and the name of its column. -/
structure Aggregation where
  name : String
  function : String
  args : List Expr
  deriving BEq, Inhabited

/-- A division of time into windows of one duration; the column holds the beginning of the
window. -/
structure TimeBin where
  name : String
  source : Expr
  duration : Timespan
  deriving BEq, Inhabited

/-- What `summarize` asks for: aggregations, columns to group by, and a division of time. -/
structure Summary where
  aggregations : List Aggregation
  groups : List Column
  bin : Option TimeBin
  deriving BEq, Inhabited

/-- **A stage of a query.** -/
inductive Stage where
  | filter (condition : Expr)
  | extend (columns : List Column)
  | project (columns : List Column)
  | remove (names : List String)
  | keep (names : List String)
  | unfold (name : String) (args : List Expr)
  | summarize (summary : Summary)
  | take (count : Nat)
  deriving BEq, Inhabited

/-- The word with which a stage is written. -/
def Stage.keyword : Stage → String
  | .filter _ => "where"
  | .extend _ => "extend"
  | .project _ => "project"
  | .remove _ => "project-away"
  | .keep _ => "project-keep"
  | .unfold .. => "evaluate"
  | .summarize _ => "summarize"
  | .take _ => "take"

/-- **A query**: the text before the first stage, and the stages. -/
structure Query where
  source : Option String
  stages : List Stage
  deriving BEq, Inhabited

/-- A parameter of a function; the type is a remark. -/
structure Parameter where
  name : String
  type : String
  deriving DecidableEq, Inhabited

/-- **A function defined by an expression**, with the comment that stands above its definition. -/
structure UserFunction where
  name : String
  params : List Parameter
  body : Expr
  comment : String
  deriving BEq, Inhabited

end EventQuery
