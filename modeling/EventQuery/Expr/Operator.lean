/-
**Binary operators.**

Operators come in families: connectives, equality, relations, arithmetic, text search and regular
expressions.  Equality and search have variants that take case into account or not, and negated
ones.

Main definitions:

* `Operator` — the operators by family;
* `Operator.all` — all of them;
* `Operator.token` — how an operator is written;
* `Operator.tag` — its name in a JSON rendering.
-/

set_option relaxedAutoImplicit false
set_option autoImplicit false

namespace EventQuery

/-- The two connectives. -/
inductive Connective where
  | both
  | either
  deriving DecidableEq, Repr

/-- The four relations of order. -/
inductive Relation where
  | less
  | atMost
  | greater
  | atLeast
  deriving DecidableEq, Repr

/-- The five operations of arithmetic. -/
inductive Arithmetic where
  | add
  | sub
  | mul
  | div
  | mod
  deriving DecidableEq, Repr

/-- The ways in which one text is looked for in another. -/
inductive Search where
  | contains
  | term
  | start
  | finish
  deriving DecidableEq, Repr

/-- **A binary operator.** -/
inductive Operator where
  | logic (connective : Connective)
  | equality (negated ignoreCase : Bool)
  | relation (r : Relation)
  | arithmetic (a : Arithmetic)
  | search (s : Search) (negated exactCase : Bool)
  | pattern
  deriving DecidableEq, Repr

namespace Operator

/-- All operators. -/
def all : List Operator :=
  [.arithmetic .add, .arithmetic .sub, .arithmetic .mul, .arithmetic .div, .arithmetic .mod,
    .equality false false, .equality true false, .equality false true, .equality true true,
    .relation .less, .relation .atMost, .relation .greater, .relation .atLeast,
    .logic .both, .logic .either,
    .search .contains false false, .search .contains true false,
    .search .contains false true, .search .contains true true,
    .search .term false false, .search .term true false,
    .search .term false true, .search .term true true,
    .search .start false false, .search .start true false,
    .search .start false true, .search .start true true,
    .search .finish false false, .search .finish true false,
    .search .finish false true, .search .finish true true, .pattern]

/-- How an operator is written. -/
def token : Operator → String
  | .logic .both => "and"
  | .logic .either => "or"
  | .equality false false => "=="
  | .equality true false => "!="
  | .equality false true => "=~"
  | .equality true true => "!~"
  | .relation .less => "<"
  | .relation .atMost => "<="
  | .relation .greater => ">"
  | .relation .atLeast => ">="
  | .arithmetic .add => "+"
  | .arithmetic .sub => "-"
  | .arithmetic .mul => "*"
  | .arithmetic .div => "/"
  | .arithmetic .mod => "%"
  | .search .contains false false => "contains"
  | .search .contains true false => "!contains"
  | .search .contains false true => "contains_cs"
  | .search .contains true true => "!contains_cs"
  | .search .term false false => "has"
  | .search .term true false => "!has"
  | .search .term false true => "has_cs"
  | .search .term true true => "!has_cs"
  | .search .start false false => "startswith"
  | .search .start true false => "!startswith"
  | .search .start false true => "startswith_cs"
  | .search .start true true => "!startswith_cs"
  | .search .finish false false => "endswith"
  | .search .finish true false => "!endswith"
  | .search .finish false true => "endswith_cs"
  | .search .finish true true => "!endswith_cs"
  | .pattern => "matches regex"

/-- The name of an operator in a JSON rendering. -/
def tag : Operator → String
  | .logic .both => "and"
  | .logic .either => "or"
  | .equality false false => "eq"
  | .equality true false => "not_eq"
  | .equality false true => "eq_ci"
  | .equality true true => "not_eq_ci"
  | .relation .less => "lt"
  | .relation .atMost => "le"
  | .relation .greater => "gt"
  | .relation .atLeast => "ge"
  | .arithmetic .add => "add"
  | .arithmetic .sub => "sub"
  | .arithmetic .mul => "mul"
  | .arithmetic .div => "div"
  | .arithmetic .mod => "mod"
  | .search .contains false false => "contains"
  | .search .contains true false => "not_contains"
  | .search .contains false true => "contains_cs"
  | .search .contains true true => "not_contains_cs"
  | .search .term false false => "has"
  | .search .term true false => "not_has"
  | .search .term false true => "has_cs"
  | .search .term true true => "not_has_cs"
  | .search .start false false => "starts_with"
  | .search .start true false => "not_starts_with"
  | .search .start false true => "starts_with_cs"
  | .search .start true true => "not_starts_with_cs"
  | .search .finish false false => "ends_with"
  | .search .finish true false => "not_ends_with"
  | .search .finish false true => "ends_with_cs"
  | .search .finish true true => "not_ends_with_cs"
  | .pattern => "matches_regex"

/-- The operator that is written in a given way. -/
def ofToken? (s : String) : Option Operator := all.find? fun op => op.token == s

theorem mem_all (op : Operator) : op ∈ all := by
  rcases op with c | ⟨n, i⟩ | r | a | ⟨s, n, e⟩ | _
  · cases c <;> decide
  · cases n <;> cases i <;> decide
  · cases r <;> decide
  · cases a <;> decide
  · cases s <;> cases n <;> cases e <;> decide
  · decide

end Operator

end EventQuery
