/-
**Regular expressions.**

Main definitions:

* `Regex.Look` — tests of the surroundings of a place in a text;
* `Regex` — the expressions;
* `Pattern` — an expression with its number of groups and their names;
* `Regex.needsText`, `Regex.weight` — what the construction of a program asks about.
-/

import EventQuery.Text.Ranges

set_option relaxedAutoImplicit false
set_option autoImplicit false

namespace EventQuery

/-- **A test of the surroundings of a place.**  Lines end at line feeds, and with `returns` at
carriage returns too; the tests of words count only the first 128 code points with `ascii`. -/
inductive Regex.Look where
  | textStart
  | textEnd
  | lineStart (returns : Bool)
  | lineEnd (returns : Bool)
  | edge (ascii : Bool)
  | noEdge (ascii : Bool)
  | wordStart (ascii : Bool)
  | wordEnd (ascii : Bool)
  | noWordBefore (ascii : Bool)
  | noWordAfter (ascii : Bool)
  deriving DecidableEq, Repr

/-- **A regular expression.**  A repetition has a least and perhaps a greatest number of rounds, and
prefers more rounds when it is greedy and fewer otherwise. -/
inductive Regex where
  | empty
  | set (members : Ranges)
  | look (test : Regex.Look)
  | seq (first second : Regex)
  | alt (first second : Regex)
  | repeated (least : Nat) (most : Option Nat) (greedy : Bool) (body : Regex)
  | group (index : Nat) (body : Regex)
  deriving Inhabited

/-- An expression with the number of its groups, the whole match not counted, and their names. -/
structure Pattern where
  regex : Regex
  groups : Nat
  names : List (String × Nat)
  deriving Inhabited

namespace Regex

/-- Expressions one after another. -/
def sequence : List Regex → Regex
  | [] => .empty
  | [r] => r
  | r :: rest => .seq r (sequence rest)

/-- Expressions of which one is chosen. -/
def choice : List Regex → Regex
  | [] => .empty
  | [r] => r
  | r :: rest => .alt r (choice rest)

/-- The expression matches no empty text. -/
def needsText : Regex → Bool
  | .empty => false
  | .set _ => true
  | .look _ => false
  | .seq a b => needsText a || needsText b
  | .alt a b => needsText a && needsText b
  | .repeated least _ _ body => 0 < least && needsText body
  | .group _ body => needsText body

/-- The size of a program for the expression, up to a factor. -/
def weight : Regex → Nat
  | .empty => 1
  | .set members => 1 + members.size / 2
  | .look _ => 1
  | .seq a b => weight a + weight b
  | .alt a b => 1 + weight a + weight b
  | .repeated least most _ body => (max least (most.getD (least + 1)) + 1) * (weight body + 1)
  | .group _ body => 2 + weight body

end Regex

end EventQuery
