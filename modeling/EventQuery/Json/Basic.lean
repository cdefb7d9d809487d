/-
**JSON values.**

The fields of an object keep their order, and integers are kept apart from other numbers.

Main definitions:

* `Json` — the values;
* `Json.compact` — the text without blanks;
* `Json.pretty` — the text with one item a line.
-/

import EventQuery.Fields
import EventQuery.Number.Hex
import EventQuery.Number.Layout

set_option relaxedAutoImplicit false
set_option autoImplicit false

namespace EventQuery

/-- A JSON value. -/
inductive Json where
  | null
  | bool (b : Bool)
  | integer (n : Int)
  | real (x : Float)
  | string (s : String)
  | array (items : List Json)
  | object (fields : List (String × Json))
  deriving Inhabited

namespace Json

/-! ### Strings -/

/-- A character inside a string: quotes, backslashes and control characters are escaped. -/
def escapeChar (c : Char) : List Char :=
  if c = '"' then ['\\', '"']
  else if c = '\\' then ['\\', '\\']
  else if c = '\n' then ['\\', 'n']
  else if c = '\r' then ['\\', 'r']
  else if c = '\t' then ['\\', 't']
  else if c = '\x08' then ['\\', 'b']
  else if c = '\x0c' then ['\\', 'f']
  else if c.toNat < 32 then '\\' :: 'u' :: Hex.write 4 c.toNat
  else [c]

/-- The text of a string, in quotes. -/
def quote (s : String) : List Char := '"' :: s.toList.flatMap escapeChar ++ ['"']

/-- The text of a number that is not an integer; one that is not finite is written `null`. -/
def realChars (x : Float) : List Char :=
  if Binary.isFinite x then (Layout.json.write x).toList else "null".toList

/-- The text of a truth value. -/
def boolChars (b : Bool) : List Char := if b then "true".toList else "false".toList

/-! ### Compact text -/

mutual

/-- The characters of the compact text. -/
def compactChars : Json → List Char
  | .null => "null".toList
  | .bool b => boolChars b
  | .integer n => Digits.writeInt n
  | .real x => realChars x
  | .string s => quote s
  | .array items => '[' :: compactItems items ++ [']']
  | .object fields => '\x7b' :: compactFields fields ++ ['\x7d']

/-- Items separated by commas. -/
def compactItems : List Json → List Char
  | [] => []
  | [item] => compactChars item
  | item :: rest => compactChars item ++ ',' :: compactItems rest

/-- Fields separated by commas. -/
def compactFields : List (String × Json) → List Char
  | [] => []
  | [(name, item)] => quote name ++ ':' :: compactChars item
  | (name, item) :: rest => quote name ++ ':' :: compactChars item ++ ',' :: compactFields rest

end

/-- **The text without blanks.** -/
def compact (j : Json) : String := String.ofList j.compactChars

/-! ### Text with one item a line -/

/-- A new line, indented by two blanks a level. -/
def newLine (level : Nat) : List Char := '\n' :: List.replicate (2 * level) ' '

mutual

/-- The characters of the text with one item a line, at a level of nesting. -/
def prettyChars (level : Nat) : Json → List Char
  | .array (item :: rest) =>
      '[' :: prettyItems (level + 1) (item :: rest) ++ newLine level ++ [']']
  | .object (field :: rest) =>
      '\x7b' :: prettyFields (level + 1) (field :: rest) ++ newLine level ++ ['\x7d']
  | other => compactChars other

/-- Items, each on a line. -/
def prettyItems (level : Nat) : List Json → List Char
  | [] => []
  | [item] => newLine level ++ prettyChars level item
  | item :: rest => newLine level ++ prettyChars level item ++ ',' :: prettyItems level rest

/-- Fields, each on a line. -/
def prettyFields (level : Nat) : List (String × Json) → List Char
  | [] => []
  | [(name, item)] => newLine level ++ quote name ++ ':' :: ' ' :: prettyChars level item
  | (name, item) :: rest =>
      newLine level ++ quote name ++ ':' :: ' ' :: prettyChars level item
        ++ ',' :: prettyFields level rest

end

/-- **The text with one item a line.** -/
def pretty (j : Json) : String := String.ofList (j.prettyChars 0)

end Json

end EventQuery
