/-
**Searching with regular expressions.**

Among all matches the one that begins first counts, and among these the one that the preferences of
the expression lead to first.  No pair of an instruction and a place is tried twice, so the number
of steps is bounded by the product of both.

Main definitions:

* `Regex.Look.holds` — the tests of surroundings;
* `Program.run` — the search;
* `Pattern.find`, `Pattern.findAll` — the first match from a place on, and all matches;
* `Pattern.replaceAll` — every match rewritten after a template.
-/

import EventQuery.Number.Digits
import EventQuery.Regex.CharSet
import EventQuery.Regex.Program
import EventQuery.Text.Search

set_option relaxedAutoImplicit false
set_option autoImplicit false

namespace EventQuery

namespace Regex

/-! ### Surroundings -/

/-- A character of words, or nothing. -/
def isWordChar (ascii : Bool) (c : Option Char) : Bool :=
  c.any fun c => if ascii then CharSet.asciiWord.mem c.toNat else wordTable.memChar c

/-- **A test of surroundings** between two characters; none stands for the end of the text. -/
def Look.holds (before after : Option Char) : Look → Bool
  | .textStart => before.isNone
  | .textEnd => after.isNone
  | .lineStart returns =>
      before.isNone || before == some '\n'
        || (returns && before == some '\r' && after != some '\n')
  | .lineEnd returns =>
      after.isNone || (returns && after == some '\r')
        || (after == some '\n' && !(returns && before == some '\r'))
  | .edge ascii => isWordChar ascii before != isWordChar ascii after
  | .noEdge ascii => isWordChar ascii before == isWordChar ascii after
  | .wordStart ascii => !isWordChar ascii before && isWordChar ascii after
  | .wordEnd ascii => isWordChar ascii before && !isWordChar ascii after
  | .noWordBefore ascii => !isWordChar ascii before
  | .noWordAfter ascii => !isWordChar ascii after

/-! ### Search -/

/-- A place in a text: its number, the character before it and the text behind it. -/
structure Place where
  index : Nat
  before : Option Char
  rest : List Char

/-- The place behind the next character. -/
def Place.step (p : Place) (c : Char) (rest : List Char) : Place := ⟨p.index + 1, some c, rest⟩

/-- The places from a given one on. -/
def Place.following (index : Nat) (before : Option Char) : List Char → List Place
  | [] => [⟨index, before, []⟩]
  | c :: rest => ⟨index, before, c :: rest⟩ :: Place.following (index + 1) (some c) rest

/-- The places noted so far. -/
abbrev Slots := Array (Option Nat)

/-- An instruction to be tried at a place. -/
structure Job where
  label : Nat
  place : Place
  slots : Slots

/-- What becomes of a job: it leads to other jobs, the preferred one first, or the search is
over. -/
inductive Fate where
  | jobs (next : List Job)
  | found (slots : Slots)

/-- One instruction at a place. -/
def Job.fate (code : Code) (j : Job) : Fate :=
  match code[j.label]? with
  | none => .jobs []
  | some .accept => .found j.slots
  | some (.set members next) =>
      match j.place.rest with
      | [] => .jobs []
      | c :: rest =>
          if members.memChar c then .jobs [⟨next, j.place.step c rest, j.slots⟩] else .jobs []
  | some (.look test next) =>
      if test.holds j.place.before j.place.rest.head? then .jobs [⟨next, j.place, j.slots⟩]
      else .jobs []
  | some (.save slot next) =>
      .jobs [⟨next, j.place, j.slots.setIfInBounds slot (some j.place.index)⟩]
  | some (.split first second) => .jobs [⟨first, j.place, j.slots⟩, ⟨second, j.place, j.slots⟩]

end Regex

namespace Program

open Regex

/-- Work off jobs, the first one first; `tried` says which pairs of an instruction and a place were
tried, `width` being the number of places. -/
def run (code : Code) (width : Nat) : Nat → List Job → Array Bool → Option Slots
  | 0, _, _ => none
  | _, [], _ => none
  | fuel + 1, j :: rest, tried =>
      let key := j.label * width + j.place.index
      if tried.getD key true then run code width fuel rest tried
      else
        match j.fate code with
        | .found slots => some slots
        | .jobs next => run code width fuel (next ++ rest) (tried.setIfInBounds key true)

/-- **The first match that begins at one of the given places.**  Every pair is tried once and leads
to two jobs at most. -/
def search (p : Program) (size : Nat) (places : List Place) : Option Slots :=
  let width := size + 1
  let slots : Slots := Array.replicate p.slots none
  let pairs := p.code.size * width
  run p.code width (places.length + 2 * pairs + 1)
    (places.map fun place => ⟨p.start, place, slots⟩) (Array.replicate pairs false)

end Program

/-! ### Matches -/

/-- A match: the noted places, those of the whole match first. -/
structure Match where
  first : Nat
  last : Nat
  slots : Regex.Slots

namespace Match

/-- A match from the noted places. -/
def ofSlots (slots : Regex.Slots) : Option Match :=
  match slots[0]?, slots[1]? with
  | some (some a), some (some b) => some ⟨a, b, slots⟩
  | _, _ => none

/-- The text of a group, when it took part. -/
def group? (m : Match) (text : List Char) (index : Nat) : Option (List Char) :=
  match m.slots[2 * index]?, m.slots[2 * index + 1]? with
  | some (some a), some (some b) => some ((text.drop a).take (b - a))
  | _, _ => none

end Match

namespace Pattern

open Regex

/-- The first match that begins at a place or behind it. -/
def findFrom (p : Program) (text : List Char) (start : Nat) : Option Match :=
  if text.length < start then none
  else
    let places := (Place.following 0 none text).drop start
    (p.search text.length places).bind Match.ofSlots

/-- **The first match in a text.** -/
def find (p : Pattern) (text : List Char) : Option Match := findFrom (.ofPattern p) text 0

/-- The text has a match. -/
def isMatch (p : Pattern) (text : List Char) : Bool := (p.find text).isSome

/-- The matches from a place on; an empty match right behind another match does not count. -/
def findAllFrom (p : Program) (text : List Char) (start : Nat) (last : Option Nat) :
    Nat → List Match
  | 0 => []
  | fuel + 1 =>
      match findFrom p text start with
      | none => []
      | some m =>
          if m.first = m.last ∧ some m.last = last then
            match findFrom p text (start + 1) with
            | none => []
            | some m => m :: findAllFrom p text m.last (some m.last) fuel
          else m :: findAllFrom p text m.last (some m.last) fuel

/-- **All matches in a text**, one behind the other. -/
def findAll (p : Pattern) (text : List Char) : List Match :=
  findAllFrom (.ofPattern p) text 0 none (text.length + 2)

/-! ### Templates -/

/-- A piece of a template: a character, or a group. -/
inductive Piece where
  | char (c : Char)
  | group (name : List Char)

/-- A character of the bare name of a group. -/
def isReferenceChar (c : Char) : Bool := c.isAlphanum || c == '_'

/-- **The pieces of a template.**  A dollar sign in front of a name, bare or in braces, stands for a
group; two dollar signs stand for one; any other stands for itself.  `skip` characters belong to the
piece before. -/
def pieces (skip : Nat) : List Char → List Piece
  | [] => []
  | c :: rest =>
      match skip with
      | n + 1 => pieces n rest
      | 0 =>
          if c != '$' then .char c :: pieces 0 rest
          else
            match rest with
            | '$' :: _ => .char '$' :: pieces 1 rest
            | '\x7b' :: more =>
                let name := more.takeWhile (· != '\x7d')
                if name.length < more.length then .group name :: pieces (name.length + 2) rest
                else .char '$' :: pieces 0 rest
            | other =>
                let name := other.takeWhile isReferenceChar
                if name.isEmpty then .char '$' :: pieces 0 rest
                else .group name :: pieces name.length rest

/-- The number of a group that a reference names: a number of 64 bits, or a name. -/
def reference? (p : Pattern) (name : List Char) : Option Nat :=
  let digits := match name with
    | '+' :: more => more
    | other => other
  match (Digits.readNat? digits).filter (· < 0x10000000000000000) with
  | some n => some n
  | none => (p.names.find? fun entry => entry.1 == String.ofList name).map Prod.snd

/-- The text of a piece. -/
def expand (p : Pattern) (text : List Char) (m : Match) : Piece → List Char
  | .char c => [c]
  | .group name => ((p.reference? name).bind fun i => m.group? text i).getD []

/-- The text from a place on, with the given matches rewritten. -/
def rewriteFrom (p : Pattern) (text : List Char) (template : List Piece) (start : Nat) :
    List Match → List Char
  | [] => text.drop start
  | m :: rest =>
      (text.drop start).take (m.first - start) ++ template.flatMap (p.expand text m)
        ++ rewriteFrom p text template m.last rest

/-- **Every match rewritten after a template.** -/
def replaceAll (p : Pattern) (template text : List Char) : List Char :=
  p.rewriteFrom text (pieces 0 template) 0 (p.findAll text)

end Pattern

end EventQuery
