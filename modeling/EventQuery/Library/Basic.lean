/-
**Query files.**

A query file consists of paragraphs, separated by empty lines.  Lines that begin with two slashes
are the comment of their paragraph.  A paragraph that begins with a point is a command: the
definition of a function, or something that is passed over.  Any other paragraph is a query.

Main definitions:

* `Library` — the queries, functions and errors of a file;
* `Library.paragraphs` — the lines of a text by paragraph;
* `Library.ofParagraph` — what one paragraph contributes;
* `Library.read` — the contents of a text.
-/

import EventQuery.Grammar.Query
import EventQuery.Text.Blank

set_option relaxedAutoImplicit false
set_option autoImplicit false

namespace EventQuery

/-- A query text with the comment above it. -/
structure QuerySource where
  comment : String
  text : String
  deriving DecidableEq, Inhabited

/-- **The contents of query files**; an error is a definition that does not read. -/
structure Library where
  queries : List QuerySource
  functions : List UserFunction
  errors : List String
  deriving Inhabited

namespace Library

/-- Nothing. -/
def empty : Library := ⟨[], [], []⟩

/-- One library after another. -/
def append (a b : Library) : Library :=
  ⟨a.queries ++ b.queries, a.functions ++ b.functions, a.errors ++ b.errors⟩

instance : Append Library := ⟨append⟩

/-- Libraries one after the other. -/
def concat (parts : List Library) : Library := parts.foldr append empty

/-! ### Paragraphs -/

/-- Lines by paragraph: an empty line ends one. -/
def paragraphsOf : List (List Char) → List (List (List Char))
  | [] => [[]]
  | line :: rest =>
      if line.isEmpty then [] :: paragraphsOf rest
      else
        match paragraphsOf rest with
        | [] => [[line]]
        | first :: more => (line :: first) :: more

/-- **The lines of a text by paragraph**, stripped of blanks. -/
def paragraphs (s : String) : List (List (List Char)) :=
  paragraphsOf ((Text.lines s.toList).map Text.strip)

/-- The text of a comment line. -/
def commentLine? (line : List Char) : Option (List Char) :=
  (Text.dropPattern? ['/', '/'] line).map Text.strip

/-- Lines joined by line feeds. -/
def joinLines (lines : List (List Char)) : String := String.ofList (['\n'].intercalate lines)

/-- The words with which a definition of a function may begin. -/
def definingWords : List String := ["create-or-alter", "create", "alter"]

/-- A command defines a function: its first two words say so. -/
def definesFunction (text : List Char) : Bool :=
  match Text.words (text.drop 1) with
  | first :: second :: _ =>
      definingWords.contains (String.ofList first) && second == "function".toList
  | _ => false

/-- **What a comment and a body contribute.**  A comment without a body contributes nothing. -/
def ofParts (comment body : List (List Char)) : Library :=
  if body.isEmpty then empty
  else
    let text := joinLines body
    if !Text.startsWith text.toList ['.'] then ⟨[⟨joinLines comment, text⟩], [], []⟩
    else if !definesFunction text.toList then empty
    else
      match UserFunction.read text with
      | .ok f => ⟨[], [{ f with comment := joinLines comment }], []⟩
      | .error e => ⟨[], [], [e.message]⟩

/-- **What one paragraph contributes.** -/
def ofParagraph (lines : List (List Char)) : Library :=
  ofParts (lines.filterMap commentLine?) (lines.filter fun line => (commentLine? line).isNone)

/-- **The contents of a text.** -/
def read (s : String) : Library := concat ((paragraphs s).map ofParagraph)

end Library

end EventQuery
