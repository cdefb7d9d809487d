/-
**Occurrences of one text in another.**

Everything here works on character lists.  A position is a number of characters, but the search for
a whole term steps by offsets in bytes.

Main definitions:

* `Text.startsWith`, `Text.endsWith`, `Text.contains` — where a pattern may stand;
* `Text.splitOn` — the parts between the occurrences of a separator, found from the left and
  without overlap;
* `Text.split2` — the two parts around the first occurrence of a character;
* `Text.cut?`, `Text.offset?` — a text cut in two, and searched, by offsets in bytes;
* `Text.hasTerm` — an occurrence with no letter or digit on either side.
-/

import EventQuery.Text.Alphanumeric
import EventQuery.Text.Casing

set_option relaxedAutoImplicit false
set_option autoImplicit false

namespace EventQuery

namespace Text

/-! ### Prefixes, suffixes and occurrences -/

/-- What follows the pattern, when the text starts with it. -/
def dropPattern? : List Char → List Char → Option (List Char)
  | [], cs => some cs
  | _ :: _, [] => none
  | p :: ps, c :: cs => if p = c then dropPattern? ps cs else none

/-- The text starts with the pattern. -/
def startsWith (text pattern : List Char) : Bool := (dropPattern? pattern text).isSome

/-- The text ends with the pattern. -/
def endsWith (text pattern : List Char) : Bool := startsWith text.reverse pattern.reverse

/-- The pattern occurs in the text. -/
def contains : List Char → List Char → Bool
  | [], pattern => pattern.isEmpty
  | c :: cs, pattern => startsWith (c :: cs) pattern || contains cs pattern

theorem dropPattern?_eq_some_iff {pattern text rest : List Char} :
    dropPattern? pattern text = some rest ↔ text = pattern ++ rest := by
  induction pattern generalizing text with
  | nil => simp [dropPattern?, eq_comm]
  | cons p ps ih =>
      cases text with
      | nil => simp [dropPattern?]
      | cons c cs =>
          by_cases h : p = c
          · simp [dropPattern?, h, ih]
          · simp [dropPattern?, h, Ne.symm h]

theorem startsWith_iff {text pattern : List Char} :
    startsWith text pattern = true ↔ ∃ rest, text = pattern ++ rest := by
  simp [startsWith, Option.isSome_iff_exists, dropPattern?_eq_some_iff]

/-! ### Splitting -/

/-- The parts between occurrences of a separator that is not empty; `skip` counts the characters
of the last occurrence that are still to be passed, and `part` holds the part being read,
backwards. -/
def splitOnFrom (separator : List Char) (part : List Char) (skip : Nat) :
    List Char → List (List Char)
  | [] => [part.reverse]
  | c :: cs =>
      match skip with
      | n + 1 => splitOnFrom separator part n cs
      | 0 =>
          if startsWith (c :: cs) separator then
            part.reverse :: splitOnFrom separator [] (separator.length - 1) cs
          else splitOnFrom separator (c :: part) 0 cs

/-- **The parts of a text between the occurrences of a separator** that is not empty. -/
def splitOn (separator text : List Char) : List (List Char) := splitOnFrom separator [] 0 text

/-- The parts before and after the first occurrence of a character. -/
def split2 (mark : Char) : List Char → Option (List Char × List Char)
  | [] => none
  | c :: cs =>
      if c = mark then some ([], cs)
      else (split2 mark cs).map fun (before, after) => (c :: before, after)

/-! ### Offsets in bytes -/

/-- The number of bytes of a text. -/
def byteLength : List Char → Nat
  | [] => 0
  | c :: cs => c.utf8Size + byteLength cs

/-- **The parts of a text before and after an offset in bytes**; none when the offset lies inside a
character or behind the end. -/
def cut? : Nat → List Char → Option (List Char × List Char)
  | 0, cs => some ([], cs)
  | _ + 1, [] => none
  | n + 1, c :: cs =>
      if n + 1 < c.utf8Size then none
      else (cut? (n + 1 - c.utf8Size) cs).map fun (before, after) => (c :: before, after)

/-- **The offset in bytes of the first occurrence** of a pattern. -/
def offset? (pattern : List Char) : List Char → Option Nat
  | [] => if pattern.isEmpty then some 0 else none
  | c :: cs =>
      if startsWith (c :: cs) pattern then some 0
      else (offset? pattern cs).map fun n => c.utf8Size + n

@[simp] theorem byteLength_nil : byteLength [] = 0 := rfl

@[simp] theorem byteLength_cons (c : Char) (cs : List Char) :
    byteLength (c :: cs) = c.utf8Size + byteLength cs := rfl

@[simp] theorem byteLength_append (xs ys : List Char) :
    byteLength (xs ++ ys) = byteLength xs + byteLength ys := by
  induction xs with
  | nil => simp
  | cons x xs ih => simp [ih, Nat.add_assoc]

theorem cut?_append (before after : List Char) :
    cut? (byteLength before) (before ++ after) = some (before, after) := by
  induction before with
  | nil => rw [byteLength_nil, List.nil_append, cut?]
  | cons c before ih =>
      obtain ⟨n, hn⟩ := Nat.exists_eq_add_one.2 c.utf8Size_pos
      have hlength : byteLength (c :: before) = n + byteLength before + 1 := by
        rw [byteLength_cons]
        omega
      have hrest : n + byteLength before + 1 - c.utf8Size = byteLength before := by omega
      rw [hlength, List.cons_append, cut?, if_neg (by omega), hrest, ih, Option.map_some]

theorem cut?_eq_some {offset : Nat} {text before after : List Char}
    (h : cut? offset text = some (before, after)) :
    text = before ++ after ∧ byteLength before = offset := by
  fun_induction cut? offset text generalizing before with
  | case1 cs =>
      cases h
      exact ⟨rfl, rfl⟩
  | case2 n => cases h
  | case3 n c cs hinside => cases h
  | case4 n c cs hinside ih =>
      obtain ⟨⟨front, back⟩, hparts, hresult⟩ := Option.map_eq_some_iff.1 h
      cases hresult
      obtain ⟨rfl, hlength⟩ := ih hparts
      refine ⟨rfl, ?_⟩
      rw [byteLength_cons]
      omega

/-! ### Whole terms -/

/-- A neighbour of an occurrence that leaves it a whole term: none, or one that is neither a letter
nor a digit. -/
def isEdge : Option Char → Bool
  | none => true
  | some c => !isAlphanumeric c

/-- The bytes from the beginning of an occurrence to where the search goes on: those of the first
character of the term. -/
def stride : List Char → Nat
  | [] => 1
  | c :: _ => c.utf8Size

theorem stride_pos (term : List Char) : 0 < stride term := by
  cases term with
  | nil => exact Nat.one_pos
  | cons c _ => exact c.utf8Size_pos

/-- **Whether an occurrence of the term** at an offset or behind it **has edges on both sides**.
The occurrences are tried from the left, overlapping ones too.  None when one of the offsets in
bytes does not lie between two characters. -/
def seekTerm? (text term : List Char) (start : Nat) : Option Bool :=
  match _parts : cut? start text with
  | none => none
  | some (_, rest) =>
      match offset? term rest with
      | none => some false
      | some distance =>
          let first := start + distance
          match cut? first text, cut? (first + byteLength term) text with
          | some (before, _), some (_, after) =>
              if isEdge before.getLast? && isEdge after.head? then some true
              else seekTerm? text term (first + stride term)
          | _, _ => none
termination_by byteLength text + 1 - start
decreasing_by
  obtain ⟨rfl, rfl⟩ := cut?_eq_some _parts
  have hstride := stride_pos term
  rw [byteLength_append]
  omega

/-- How letters of different case are told apart. -/
def fold (caseSensitive : Bool) (cs : List Char) : List Char :=
  if caseSensitive then cs else lowerChars cs

/-- The search for a whole term: the empty term is one everywhere, and any other is looked for from
the beginning. -/
def hasTerm? (text term : List Char) (caseSensitive : Bool) : Option Bool :=
  if term.isEmpty then some true
  else seekTerm? (fold caseSensitive text) (fold caseSensitive term) 0

/-- **The term occurs as a whole term.** -/
def hasTerm (text term : List Char) (caseSensitive : Bool) : Bool :=
  (hasTerm? text term caseSensitive).getD false

end Text

end EventQuery
