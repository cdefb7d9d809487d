/-
**Functions of texts.**

Every argument counts as its text, so null and a missing field are empty texts.  Places in a text
count characters.

Main definitions:

* `Function.substring`, `Function.split`, `Function.joinTexts` — parts and wholes;
* `Function.replace`, `Function.extract` — regular expressions;
* `Function.indexOf`, `Function.indexOfPattern` — places;
* `Function.trimStart`, `Function.trimEnd` — text cut off at the ends.
-/

import EventQuery.Function.Conversion
import EventQuery.Text.Sha256
import EventQuery.Value.Matching

set_option relaxedAutoImplicit false
set_option autoImplicit false

namespace EventQuery

namespace Function

/-! ### Parts and wholes -/

/-- Texts joined. -/
def joinTexts (args : List Value) : Result Value := textValue (args.flatMap Value.chars)

/-- Texts joined by the first one. -/
def joinTextsBy (args : List Value) : Result Value :=
  match args with
  | [] => textValue []
  | delimiter :: rest => textValue (delimiter.chars.intercalate (rest.map Value.chars))

/-- The number of characters. -/
def textLength (v : Value) : Result Value := .ok (.long (Int64.ofNat v.chars.length))

/-- The characters from a place on, at most a given number; nothing when the place lies outside the
text or the number is negative. -/
def slice (cs : List Char) (start : Int) (length : Option Int) : List Char :=
  if start < 0 ∨ (cs.length : Int) ≤ start then []
  else
    let rest := cs.drop start.toNat
    match length with
    | none => rest
    | some n => if n < 0 then [] else rest.take n.toNat

/-- **A part of a text.** -/
def substring (args : List Value) : Result Value :=
  match args with
  | text :: start :: more => do
      let start ← longArgument "substring" start
      let length ← more.head?.mapM (longArgument "substring")
      textValue (slice text.chars start.toInt (length.map Int64.toInt))
  | _ => textValue []

/-- The entry of a list at a place, as a list. -/
def pick (parts : List Value) (place : Int) : List Value :=
  if place < 0 then [] else (parts[place.toNat]?).toList

/-- **The parts of a text between a delimiter**, or one of them, in a list. -/
def split (args : List Value) : Result Value :=
  match args with
  | text :: delimiter :: more => do
      if delimiter.chars.isEmpty then
        throw (.invalidArgument "split: delimiter must not be empty")
      let parts := (Text.splitOn delimiter.chars text.chars).map fun cs =>
        Value.string (String.ofList cs)
      match more with
      | [] => return .list parts
      | place :: _ => return .list (pick parts (← longArgument "split" place).toInt)
  | _ => .ok (.list [])

/-- The characters in the opposite order. -/
def reverse (v : Value) : Result Value := textValue v.chars.reverse

/-- The text in lower case. -/
def lower (v : Value) : Result Value := textValue (Text.lowerChars v.chars)

/-- The text in upper case. -/
def upper (v : Value) : Result Value := textValue (Text.upperChars v.chars)

/-- The hash of a text; the empty text has none. -/
def hash (v : Value) : Result Value :=
  .ok (.string (if v.text.isEmpty then "" else Sha256.hex v.text))

/-! ### Regular expressions -/

/-- **Every match rewritten.** -/
def replace (args : List Value) : Result Value :=
  match args with
  | [regex, template, text] => do
      let p ← Pattern.ofText regex.text
      textValue (p.replaceAll template.chars text.chars)
  | _ => textValue []

/-- The text of a group of the first match; empty when there is none. -/
def captured (p : Pattern) (group : Int) (cs : List Char) : List Char :=
  if group < 0 then [] else ((p.find cs).bind fun m => m.group? cs group.toNat).getD []

/-- **The text of a group of the first match**, perhaps converted to a type. -/
def extract (args : List Value) : Result Value :=
  match args with
  | regex :: group :: text :: more => do
      let p ← Pattern.ofText regex.text
      let group ← longArgument "extract" group
      let found := captured p group.toInt text.chars
      match more with
      | [] => textValue found
      | type :: _ => do
          let cast ← castTo type.text
          if found.isEmpty then textValue [] else return cast (String.ofList found)
  | _ => textValue []

/-! ### Places -/

/-- Where to look, and for which occurrence. -/
structure Window where
  start : Nat
  stop : Nat
  occurrence : Nat

/-- The window of optional arguments: a start, a length (`-1` for the whole rest) and an occurrence.
None when nothing can be found. -/
def window? (name : String) (args : List Value) (size : Nat) : Result (Option Window) := do
  let start ← longArgument? name args[0]? 0
  let length ← longArgument? name args[1]? (-1)
  let occurrence ← longArgument? name args[2]? 1
  let start := start.toInt
  let length := length.toInt
  let occurrence := occurrence.toInt
  if start < 0 ∨ (size : Int) < start ∨ length < -1 ∨ occurrence < 1 then return none
  else
    let stop := if length = -1 then size else min (start.toNat + length.toNat) size
    return some ⟨start.toNat, stop, occurrence.toNat⟩

/-- The characters from a place up to another one; none when these places do not lie in this order
in the text. -/
def part? (text : List Char) (first last : Nat) : Option (List Char) :=
  if first ≤ last ∧ last ≤ text.length then some ((text.drop first).take (last - first)) else none

/-- Whether a text stands at a place and ends inside the window. -/
def standsAt? (text sought : List Char) (w : Window) (place : Nat) : Option Bool :=
  if place + sought.length ≤ w.stop then
    (part? text place (place + sought.length)).map fun part => part == sought
  else some false

/-- **The search for an occurrence** at so many places, from a given one on; `passed` occurrences
were before it.  None when a part that does not lie in the text would have to be compared. -/
def seekFrom? (text sought : List Char) (w : Window) (passed place : Nat) :
    Nat → Option (Option Nat)
  | 0 => some none
  | rounds + 1 => do
      if ← standsAt? text sought w place then
        if passed + 1 = w.occurrence then return some place
        else seekFrom? text sought w (passed + 1) (place + 1) rounds
      else seekFrom? text sought w passed (place + 1) rounds

/-- The search through a window, up to the last place where the text could begin. -/
def seek? (text sought : List Char) (w : Window) : Option (Option Nat) :=
  seekFrom? text sought w 0 w.start (w.stop - sought.length + 1 - w.start)

/-- A place as a value, or minus one. -/
def placeValue (place : Option Nat) : Value :=
  .long ((place.map fun i => Int64.ofNat i).getD (-1))

/-- **The place of an occurrence of a text.** -/
def indexOf (args : List Value) : Result Value :=
  match args with
  | text :: sought :: more => do
      match ← window? "indexof" more text.chars.length with
      | none => return placeValue none
      | some w => return placeValue (seek? text.chars sought.chars w).join
  | _ => .ok (placeValue none)

/-- **The place of a match.**  The expression sees the window only. -/
def indexOfPattern (args : List Value) : Result Value :=
  match args with
  | text :: regex :: more => do
      let p ← Pattern.ofText regex.text
      match ← window? "indexof_regex" more text.chars.length with
      | none => return placeValue none
      | some w =>
          let part := (text.chars.drop w.start).take (w.stop - w.start)
          return placeValue (((p.findAll part)[w.occurrence - 1]?).map fun m => w.start + m.first)
  | _ => .ok (placeValue none)

/-! ### Ends -/

/-- Cut off the match at the beginning. -/
def trimStart (regex text : String) : Result String := do
  let p ← Pattern.ofText ("^(?:" ++ regex ++ ")")
  match p.find text.toList with
  | some m => return String.ofList (text.toList.drop m.last)
  | none => return text

/-- Cut off the match at the end. -/
def trimEnd (regex text : String) : Result String := do
  let p ← Pattern.ofText ("(?:" ++ regex ++ ")$")
  match p.find text.toList with
  | some m => return String.ofList (text.toList.take m.first)
  | none => return text

/-- Cut off the matches at both ends, the end first. -/
def trimBoth (regex text : String) : Result String := do trimStart regex (← trimEnd regex text)

/-- A way of cutting off as a function of values. -/
def trimming (trim : String → String → Result String) (regex text : Value) : Result Value :=
  (trim regex.text text.text).map Value.string

end Function

end EventQuery
