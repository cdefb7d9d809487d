/-
**What can be wrong with a query text.**

Main definitions:

* `QueryError` — the errors of reading queries, expressions, functions and query files;
* `QueryError.message` — the text of an error;
* `QueryError.forQuery` — an error told as one about a whole query.
-/

set_option relaxedAutoImplicit false
set_option autoImplicit false

namespace EventQuery

/-- An error in a query text. -/
inductive QueryError where
  | query (text : String) (diagnostics : List String)
  | malformed (detail : String)
  | literal (text : String)
  | timespan (text : String)
  | definition (detail : String)
  | file (detail : String)
  deriving DecidableEq, Repr

namespace QueryError

/-- The text of an error. -/
def message : QueryError → String
  | .query text diagnostics => s!"Error parsing query '{text}': " ++ "; ".intercalate diagnostics
  | .malformed detail => s!"Syntax error: {detail}"
  | .literal text => s!"Invalid literal '{text}'"
  | .timespan text => s!"Invalid timespan '{text}'"
  | .definition detail => s!"Invalid function definition: {detail}"
  | .file detail => s!"IO error: {detail}"

/-- **An error told as one about a whole query.**  What already names a query, and what concerns a
file, stays as it is. -/
def forQuery (query : String) : QueryError → QueryError
  | .query text diagnostics => .query text diagnostics
  | .file detail => .file detail
  | other => .query query [other.message]

end QueryError

end EventQuery
