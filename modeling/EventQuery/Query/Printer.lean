/-
**Texts of queries and functions.**

Main definitions:

* `Stage.print`, `Query.print`, `UserFunction.print` — the texts;
* `Query.toJson`, `UserFunction.toJson` — the JSON renderings.
-/

import EventQuery.Expr.Printer
import EventQuery.Query.Basic

set_option relaxedAutoImplicit false
set_option autoImplicit false

namespace EventQuery

/-- Texts separated by a comma and a blank. -/
def commaJoined (parts : List (List Char)) : List Char := [',', ' '].intercalate parts

/-! ### Texts -/

/-- A name, an equals sign and an expression. -/
def Column.chars (c : Column) : List Char := Expr.nameChars c.name ++ " = ".toList ++ c.expr.chars

/-- A name, an equals sign and a call. -/
def Aggregation.chars (a : Aggregation) : List Char :=
  Expr.nameChars a.name ++ " = ".toList ++ a.function.toList
    ++ '(' :: Expr.listChars a.args ++ [')']

/-- A name, an equals sign and a call of `bin`. -/
def TimeBin.chars (b : TimeBin) : List Char :=
  Expr.nameChars b.name ++ " = bin(".toList ++ b.source.chars ++ ", ".toList
    ++ Expr.literalChars (.timespan b.duration) ++ [')']

/-- The text of a summary. -/
def Summary.chars (s : Summary) : List Char :=
  let dimensions := s.groups.map Column.chars ++ s.bin.toList.map TimeBin.chars
  "summarize ".toList ++ commaJoined (s.aggregations.map Aggregation.chars)
    ++ (if dimensions.isEmpty then [] else " by ".toList ++ commaJoined dimensions)

/-- **The text of a stage.** -/
def Stage.chars : Stage → List Char
  | .filter condition => "where ".toList ++ condition.chars
  | .extend columns => "extend ".toList ++ commaJoined (columns.map Column.chars)
  | .project columns => "project ".toList ++ commaJoined (columns.map Column.chars)
  | .remove names => "project-away ".toList ++ commaJoined (names.map Expr.nameChars)
  | .keep names => "project-keep ".toList ++ commaJoined (names.map Expr.nameChars)
  | .unfold name args => "evaluate ".toList ++ (Expr.call name args).chars
  | .summarize summary => summary.chars
  | .take count => "take ".toList ++ Digits.write count

/-- The characters of a query: the source, and each stage after a bar. -/
def Query.chars (q : Query) : List Char :=
  (q.source.getD "").toList ++ q.stages.flatMap fun stage => " | ".toList ++ stage.chars

/-- **The text of a query.** -/
def Query.print (q : Query) : String := String.ofList q.chars

/-- The characters of a definition. -/
def UserFunction.chars (f : UserFunction) : List Char :=
  ".create-or-alter function ".toList ++ f.name.toList ++ '('
    :: commaJoined (f.params.map fun p => p.name.toList ++ ": ".toList ++ p.type.toList)
    ++ ") \x7b ".toList ++ f.body.chars ++ " \x7d".toList

/-- **The text of a definition.** -/
def UserFunction.print (f : UserFunction) : String := String.ofList f.chars

/-! ### JSON -/

/-- A named expression. -/
def Column.toJson (c : Column) : Json := .object [("name", .string c.name), ("expr", c.expr.toJson)]

/-- A named call. -/
def Aggregation.toJson (a : Aggregation) : Json :=
  .object [("name", .string a.name), ("function", .string a.function),
    ("args", .array (Expr.listToJson a.args))]

/-- A division of time. -/
def TimeBin.toJson (b : TimeBin) : Json :=
  .object [("name", .string b.name), ("source", b.source.toJson),
    ("duration", .string b.duration.clock)]

/-- A summary. -/
def Summary.toJson (s : Summary) : Json :=
  .object [("aggregations", .array (s.aggregations.map Aggregation.toJson)),
    ("group_by", .array (s.groups.map Column.toJson)),
    ("bin", (s.bin.map TimeBin.toJson).getD .null)]

/-- The JSON rendering of a stage: an object whose one field is named for the kind. -/
def Stage.toJson : Stage → Json
  | .filter condition => .object [("Where", condition.toJson)]
  | .extend columns => .object [("Extend", .array (columns.map Column.toJson))]
  | .project columns => .object [("Project", .array (columns.map Column.toJson))]
  | .remove names => .object [("ProjectAway", .array (names.map Json.string))]
  | .keep names => .object [("ProjectKeep", .array (names.map Json.string))]
  | .unfold name args => .object [("Evaluate", (Expr.call name args).toJson)]
  | .summarize summary => .object [("Summarize", summary.toJson)]
  | .take count => .object [("Take", .integer count)]

/-- **The JSON rendering of a query.** -/
def Query.toJson (q : Query) : Json :=
  .object [("source", (q.source.map Json.string).getD .null),
    ("stages", .array (q.stages.map Stage.toJson))]

/-- A parameter. -/
def Parameter.toJson (p : Parameter) : Json :=
  .object [("name", .string p.name), ("type_name", .string p.type)]

/-- **The JSON rendering of a function.** -/
def UserFunction.toJson (f : UserFunction) : Json :=
  .object [("name", .string f.name), ("params", .array (f.params.map Parameter.toJson)),
    ("body", f.body.toJson), ("comment", .string f.comment)]

end EventQuery
