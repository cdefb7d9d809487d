/-
**Readers.**

A reader takes a value from the front of a text.  Besides the value it reports how far reading came:
a *rule* that fails leaves a mark where it began, and the furthest mark of a reading that fails is
where the text is wrong.  Marks never influence the value.

Main definitions:

* `Outcome`, `Reader` — the result of reading, and readers;
* `Reader.rule` — leave a mark on failure;
* `Reader.orElse`, `Reader.optional`, `Reader.many` — ordered choice and greedy repetition;
* `Reader.blank` — drop blanks and comments;
* `Reader.positionOf` — line and column of a mark.
-/

import EventQuery.Number.Digits
import EventQuery.Text.Search

set_option relaxedAutoImplicit false
set_option autoImplicit false

namespace EventQuery

/-- What reading comes to: the value with the rest of the text, if there is one, and the furthest
mark, as the number of characters that were left there. -/
structure Outcome (α : Type) where
  result : Option (α × List Char)
  mark : Option Nat

/-- The further one of two marks: fewer characters are left. -/
def furthest : Option Nat → Option Nat → Option Nat
  | none, m => m
  | m, none => m
  | some m, some n => some (min m n)

/-- A way to take a value from the front of a text. -/
def Reader (α : Type) : Type := List Char → Outcome α

namespace Reader

variable {α β : Type}

/-! ### Sequence -/

/-- Take nothing. -/
def value (a : α) : Reader α := fun cs => ⟨some (a, cs), none⟩

/-- Fail without a mark. -/
def fail : Reader α := fun _ => ⟨none, none⟩

/-- Go on after an outcome. -/
def resume (o : Outcome α) (f : α → Reader β) : Outcome β :=
  match o.result with
  | none => ⟨none, o.mark⟩
  | some (a, rest) =>
      let next := f a rest
      ⟨next.result, furthest o.mark next.mark⟩

/-- One reader after another. -/
def andThen (p : Reader α) (f : α → Reader β) : Reader β := fun cs => resume (p cs) f

instance : Monad Reader where
  pure := value
  bind := andThen

/-- **A rule**: when it fails, it leaves a mark where it began. -/
def rule (p : Reader α) : Reader α := fun cs =>
  let o := p cs
  match o.result with
  | some r => ⟨some r, o.mark⟩
  | none => ⟨none, furthest o.mark (some cs.length)⟩

/-- A rule given by a function on characters. -/
def scan (f : List Char → Option (α × List Char)) : Reader α := rule fun cs => ⟨f cs, none⟩

/-- A fixed text, which leaves no mark. -/
def token (text : String) : Reader Unit := fun cs =>
  ⟨(Text.dropPattern? text.toList cs).map fun rest => ((), rest), none⟩

/-- The end of the text. -/
def finish : Reader Unit := scan fun cs => if cs.isEmpty then some ((), []) else none

/-! ### Blanks and comments -/

/-- The blanks between elements. -/
def isSpace (c : Char) : Bool := c == ' ' || c == '\t' || c == '\r' || c == '\n'

/-- Drop blanks and comments; a comment runs from two slashes to the end of the line. -/
def dropBlank (inComment : Bool) : List Char → List Char
  | [] => []
  | c :: cs =>
      if inComment then
        if c = '\n' ∨ c = '\r' then dropBlank false cs else dropBlank true cs
      else if isSpace c then dropBlank false cs
      else
        match c, cs with
        | '/', '/' :: rest => dropBlank true rest
        | _, _ => c :: cs

/-- Drop blanks and comments. -/
def blank : Reader Unit := fun cs => ⟨some ((), dropBlank false cs), none⟩

/-! ### Choice and repetition -/

/-- The second reader is tried when the first one fails. -/
def orElse (p q : Reader α) : Reader α := fun cs =>
  let o := p cs
  match o.result with
  | some r => ⟨some r, o.mark⟩
  | none =>
      let next := q cs
      ⟨next.result, furthest o.mark next.mark⟩

/-- The first of several readers that succeeds. -/
def firstOf : List (Reader α) → Reader α
  | [] => fail
  | p :: ps => orElse p (firstOf ps)

/-- A value, or nothing. -/
def optional (p : Reader α) : Reader (Option α) := fun cs =>
  let o := p cs
  match o.result with
  | some (a, rest) => ⟨some (some a, rest), o.mark⟩
  | none => ⟨some (none, cs), o.mark⟩

/-- As many values as there are, blanks coming before each; `fuel` bounds their number. -/
def manyAfterBlank (p : Reader α) : Nat → Reader (List α)
  | 0 => value []
  | fuel + 1 => fun cs =>
      let o := p (dropBlank false cs)
      match o.result with
      | none => ⟨some ([], cs), o.mark⟩
      | some (a, rest) =>
          let next := manyAfterBlank p fuel rest
          ⟨next.result.map fun (as, rest) => (a :: as, rest), furthest o.mark next.mark⟩

/-- **As many values as there are**, with blanks between them.  A value takes a character at least,
so the length of the text bounds their number. -/
def many (p : Reader α) : Reader (List α) := fun cs =>
  let o := p cs
  match o.result with
  | none => ⟨some ([], cs), o.mark⟩
  | some (a, rest) =>
      let next := manyAfterBlank p cs.length rest
      ⟨next.result.map fun (as, rest) => (a :: as, rest), furthest o.mark next.mark⟩

/-- One value or more, separated by commas. -/
def commaSeparated (p : Reader α) : Reader (List α) := do
  let a ← p
  blank
  let as ← many do
    token ","
    blank
    p
  return a :: as

/-- A value and the text that it took. -/
def withText (p : Reader α) : Reader (α × List Char) := fun cs =>
  let o := p cs
  ⟨o.result.map fun (a, rest) => ((a, cs.take (cs.length - rest.length)), rest), o.mark⟩

/-! ### Where a text is wrong -/

/-- Line and column, both from one, of the end of a text.  A line ends at a line feed, and the
carriage return right before it belongs to the ending. -/
def lineAndColumn (line column : Nat) : List Char → Nat × Nat
  | [] => (line, column)
  | '\r' :: '\n' :: rest => lineAndColumn (line + 1) 1 rest
  | c :: rest =>
      if c = '\n' then lineAndColumn (line + 1) 1 rest else lineAndColumn line (column + 1) rest

/-- **Line and column of a mark.** -/
def positionOf (cs : List Char) (mark : Option Nat) : Nat × Nat :=
  lineAndColumn 1 1 (cs.take (cs.length - mark.getD cs.length))

/-- The diagnostic of a text that is wrong at a mark. -/
def diagnostic (cs : List Char) (mark : Option Nat) : String :=
  let (line, column) := positionOf cs mark
  s!"({line}:{column}): syntax error"

end Reader

end EventQuery
