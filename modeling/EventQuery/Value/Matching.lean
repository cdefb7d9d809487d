/-
**Looking for one text in another.**

Both values count as their texts.

Main definitions:

* `Value.finds` — the four ways of looking for a text;
* `Pattern.ofText` — the regular expression that a text holds;
* `Value.matchText` — the operators of text search.
-/

import EventQuery.Expr.Operator
import EventQuery.Regex.Reader
import EventQuery.Regex.Search
import EventQuery.Value.Coercion

set_option relaxedAutoImplicit false
set_option autoImplicit false

namespace EventQuery

/-- The regular expression that a text holds. -/
def Pattern.ofText (text : String) : Result Pattern :=
  Result.ofOption .invalidPattern (Pattern.read? text)

namespace Value

/-- **The four ways of looking for a text**, with or without regard to case. -/
def finds (s : Search) (exactCase : Bool) (text sought : List Char) : Bool :=
  let folded := Text.fold exactCase text
  let key := Text.fold exactCase sought
  match s with
  | .contains => Text.contains folded key
  | .term => Text.hasTerm text sought exactCase
  | .start => Text.startsWith folded key
  | .finish => Text.endsWith folded key

/-- **The operators of text search.** -/
def matchText (op : Operator) (left right : Value) : Result Bool :=
  match op with
  | .search s negated exactCase => .ok (finds s exactCase left.chars right.chars != negated)
  | .pattern => (Pattern.ofText right.text).map fun p => p.isMatch left.chars
  | other => .error (.invalidArgument s!"'{other.token}' is not a string operator")

end Value

end EventQuery
