/-
**Sets of characters.**

A set is kept as ranges of code points in ascending order that neither overlap nor touch.

Main definitions:

* `CharSet` — the sets;
* `CharSet.normalize` — the ordered ranges of any ranges;
* `CharSet.union`, `CharSet.complement`, `CharSet.inter`, `CharSet.diff` — the operations;
* `CharSet.foldClosure` — all characters that differ from a member in case only;
* `CharSet.digit`, `CharSet.space`, `CharSet.word`, `CharSet.named?` — the classes with names.
-/

import EventQuery.Regex.ClassTable
import EventQuery.Text.Blank

set_option relaxedAutoImplicit false
set_option autoImplicit false

namespace EventQuery

namespace Regex

/-- Ranges of code points, in ascending order and apart from each other. -/
abbrev CharSet := List (Nat × Nat)

namespace CharSet

/-- The greatest code point. -/
def maxPoint : Nat := 0x10FFFF

/-- Join ranges in ascending order of their lower ends where they overlap or touch. -/
def joinFrom (lo hi : Nat) : List (Nat × Nat) → CharSet
  | [] => [(lo, hi)]
  | (a, b) :: rest =>
      if a ≤ hi + 1 then joinFrom lo (max hi b) rest else (lo, hi) :: joinFrom a b rest

/-- **The ordered ranges of any ranges.** -/
def normalize (ranges : List (Nat × Nat)) : CharSet :=
  match (ranges.filter fun r => r.1 ≤ r.2).mergeSort fun a b => a.1 ≤ b.1 with
  | [] => []
  | (a, b) :: rest => joinFrom a b rest

/-- The ranges of a table. -/
def ofTable (table : Ranges) : CharSet :=
  (List.range (table.size / 2)).map fun i => (table.getD (2 * i) 0, table.getD (2 * i + 1) 0)

/-- A set as a table. -/
def toTable (s : CharSet) : Ranges := (s.flatMap fun r => [r.1, r.2]).toArray

/-- The set of one character. -/
def single (c : Char) : CharSet := [(c.toNat, c.toNat)]

/-- Membership. -/
def mem (s : CharSet) (n : Nat) : Bool := s.any fun r => r.1 ≤ n && n ≤ r.2

/-- The members of one set or the other. -/
def union (a b : CharSet) : CharSet := normalize (a ++ b)

/-- The gaps of a set from a code point on. -/
def complementFrom (n : Nat) : CharSet → CharSet
  | [] => if n ≤ maxPoint then [(n, maxPoint)] else []
  | (a, b) :: rest =>
      if n < a then (n, a - 1) :: complementFrom (b + 1) rest else complementFrom (b + 1) rest

/-- All other characters. -/
def complement (s : CharSet) : CharSet := complementFrom 0 s

/-- The common members. -/
def inter (a b : CharSet) : CharSet := complement (union (complement a) (complement b))

/-- The members of the first set that are not in the second. -/
def diff (a b : CharSet) : CharSet := inter a (complement b)

/-- The members of exactly one of the sets. -/
def symmDiff (a b : CharSet) : CharSet := diff (union a b) (inter a b)

/-- All members are below a bound. -/
def isBelow (s : CharSet) (bound : Nat) : Bool := s.all fun r => r.2 < bound

/-! ### Case -/

/-- Add the partners of the members under folding. -/
def foldStep (s : CharSet) : CharSet :=
  let table := toTable s
  let more := foldPairs.filter fun (a, b) => table.mem a || table.mem b
  union s (more.flatMap fun (a, b) => [(a, a), (b, b)])

/-- **All characters that differ from a member in case only.**  Characters with one folded form are
partners; one step leads to that form and the next to all that share it. -/
def foldClosure (s : CharSet) : CharSet := foldStep (foldStep s)

/-! ### Classes with names -/

/-- The decimal digits. -/
def digit : CharSet := ofTable digitTable

/-- White space. -/
def space : CharSet := ofTable Text.blankTable

/-- The characters of words. -/
def word : CharSet := ofTable wordTable

/-- The ten digits. -/
def asciiDigit : CharSet := [(0x30, 0x39)]

/-- Blanks among the first 128 code points. -/
def asciiSpace : CharSet := [(0x09, 0x0d), (0x20, 0x20)]

/-- The characters of words among the first 128 code points. -/
def asciiWord : CharSet := [(0x30, 0x39), (0x41, 0x5a), (0x5f, 0x5f), (0x61, 0x7a)]

/-- The classes with names among the first 128 code points. -/
def namedClasses : List (String × CharSet) :=
  [("alnum", [(0x30, 0x39), (0x41, 0x5a), (0x61, 0x7a)]),
    ("alpha", [(0x41, 0x5a), (0x61, 0x7a)]),
    ("ascii", [(0x00, 0x7f)]),
    ("blank", [(0x09, 0x09), (0x20, 0x20)]),
    ("cntrl", [(0x00, 0x1f), (0x7f, 0x7f)]),
    ("digit", asciiDigit),
    ("graph", [(0x21, 0x7e)]),
    ("lower", [(0x61, 0x7a)]),
    ("print", [(0x20, 0x7e)]),
    ("punct", [(0x21, 0x2f), (0x3a, 0x40), (0x5b, 0x60), (0x7b, 0x7e)]),
    ("space", asciiSpace),
    ("upper", [(0x41, 0x5a)]),
    ("word", asciiWord),
    ("xdigit", [(0x30, 0x39), (0x41, 0x46), (0x61, 0x66)])]

/-- **A class with a name.** -/
def named? (name : String) : Option CharSet :=
  (namedClasses.find? fun entry => entry.1 == name).map Prod.snd

end CharSet

end Regex

end EventQuery
