/-
**Lower and upper case of whole texts.**

Case mapping is the full mapping of Unicode: a character may become several, and a capital sigma
becomes `ς` at the end of a word and `σ` elsewhere.  The end of a word is read off the neighbours:
going left over case-ignorable characters there is a cased one, going right there is none.

Main definitions:

* `Text.lower`, `Text.upper` — the two mappings;
* `Text.lowerAscii` — the mapping of the letters `A` to `Z` alone.
-/

import EventQuery.Text.CaseTable

set_option relaxedAutoImplicit false
set_option autoImplicit false

namespace EventQuery

namespace Text

/-! ### Single characters -/

/-- The lower-case form of a character outside every context. -/
def lowerChar (c : Char) : List Char :=
  if c.toNat < 0x80 then [c.toLower]
  else if c = 'İ' then ['i', '\u0307']
  else [Char.ofNat (mapRuns lowerRuns c.toNat)]

/-- The upper-case form of a character. -/
def upperChar (c : Char) : List Char :=
  if c.toNat < 0x80 then [c.toUpper]
  else
    match upperExpansions.lookup c.toNat with
    | some ns => ns.map Char.ofNat
    | none => [Char.ofNat (mapRuns upperRuns c.toNat)]

/-! ### Whole texts -/

/-- Past the case-ignorable characters, the next one is cased. -/
def meetsCased (cs : List Char) : Bool :=
  match cs.dropWhile caseIgnorableTable.memChar with
  | [] => false
  | c :: _ => casedTable.memChar c

/-- The lower-case form of a text whose characters before it are `before`, nearest first. -/
def lowerAfter (before : List Char) : List Char → List Char
  | [] => []
  | c :: rest =>
      (if c = 'Σ' then
        [if meetsCased before && !meetsCased rest then 'ς' else 'σ']
      else lowerChar c) ++ lowerAfter (c :: before) rest

/-- The lower-case form of a character list. -/
def lowerChars (cs : List Char) : List Char := lowerAfter [] cs

/-- The upper-case form of a character list. -/
def upperChars (cs : List Char) : List Char := cs.flatMap upperChar

/-- **The lower-case form of a text.** -/
def lower (s : String) : String := String.ofList (lowerChars s.toList)

/-- **The upper-case form of a text.** -/
def upper (s : String) : String := String.ofList (upperChars s.toList)

/-- Lower case of the letters `A` to `Z` alone. -/
def lowerAscii (s : String) : String := s.map Char.toLower

@[simp] theorem lowerChars_nil : lowerChars [] = [] := rfl

@[simp] theorem upperChars_nil : upperChars [] = [] := rfl

@[simp] theorem upperChars_append (xs ys : List Char) :
    upperChars (xs ++ ys) = upperChars xs ++ upperChars ys := by
  simp [upperChars]

end Text

end EventQuery
