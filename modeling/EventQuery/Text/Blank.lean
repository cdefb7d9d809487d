/-
**White space, lines and words.**

White space is the Unicode property `White_Space`.  A line ends at a line feed, and a carriage
return right before it belongs to the ending.

Main definitions:

* `Text.isBlank` — the property;
* `Text.trim`, `Text.trimWhere` — strip both ends;
* `Text.lines` — the lines of a text, without their endings;
* `Text.words` — the maximal runs of non-blank characters.
-/

import EventQuery.Text.Ranges

set_option relaxedAutoImplicit false
set_option autoImplicit false

namespace EventQuery

namespace Text

/-- The code points with the property `White_Space`. -/
def blankTable : Ranges :=
  #[0x9, 0xd, 0x20, 0x20, 0x85, 0x85, 0xa0, 0xa0, 0x1680, 0x1680, 0x2000, 0x200a, 0x2028, 0x2029,
    0x202f, 0x202f, 0x205f, 0x205f, 0x3000, 0x3000]

/-- A character is blank when it has the property `White_Space`. -/
def isBlank (c : Char) : Bool := blankTable.memChar c

/-! ### Stripping the ends -/

/-- Drop the characters at the end that satisfy `p`. -/
def dropEndWhile (p : Char → Bool) (cs : List Char) : List Char :=
  (cs.reverse.dropWhile p).reverse

/-- Drop the characters at both ends that satisfy `p`. -/
def stripWhere (p : Char → Bool) (cs : List Char) : List Char :=
  dropEndWhile p (cs.dropWhile p)

/-- Strip blanks from both ends of a character list. -/
def strip (cs : List Char) : List Char := stripWhere isBlank cs

/-- Strip from both ends the characters that satisfy `p`. -/
def trimWhere (p : Char → Bool) (s : String) : String := String.ofList (stripWhere p s.toList)

/-- **Strip blanks from both ends.** -/
def trim (s : String) : String := trimWhere isBlank s

/-- A quotation mark of either kind. -/
def isQuote (c : Char) : Bool := c == '"' || c == '\''

@[simp] theorem strip_nil : strip [] = [] := rfl

/-! ### Lines -/

/-- Split at every line feed; the text after the last one is kept, even when empty. -/
def splitFeeds : List Char → List (List Char)
  | [] => [[]]
  | c :: rest =>
      if c = '\n' then [] :: splitFeeds rest
      else
        match splitFeeds rest with
        | [] => [[c]]
        | line :: more => (c :: line) :: more

/-- Remove one carriage return at the end. -/
def dropReturn (cs : List Char) : List Char :=
  match cs.reverse with
  | '\r' :: rest => rest.reverse
  | _ => cs

/-- The lines of a split text: each but the last was ended by a line feed, so it loses a carriage
return at its end; the last one was not, and is no line when it is empty. -/
def closeLines : List (List Char) → List (List Char)
  | [] => []
  | [last] => if last.isEmpty then [] else [last]
  | line :: more => dropReturn line :: closeLines more

/-- **The lines of a text**, without their endings. -/
def lines (cs : List Char) : List (List Char) := closeLines (splitFeeds cs)

/-! ### Words -/

/-- The maximal runs of non-blank characters; `current` holds the run being read, backwards. -/
def wordsFrom (current : List Char) : List Char → List (List Char)
  | [] => if current.isEmpty then [] else [current.reverse]
  | c :: rest =>
      if isBlank c then
        if current.isEmpty then wordsFrom [] rest else current.reverse :: wordsFrom [] rest
      else wordsFrom (c :: current) rest

/-- **The words of a text.** -/
def words (cs : List Char) : List (List Char) := wordsFrom [] cs

end Text

end EventQuery
