/-
**Reading JSON.**

The strict grammar: no comments, no trailing commas, no leading zeros or plus signs, no control
characters in strings, and no unpaired surrogate in an escape.  Arrays and objects nest at most 127
deep.  A repeated field keeps its first place and takes its last value.

Main definitions:

* `Json.readNumber?` — a number, an integer of 64 bits being kept apart;
* `Json.readString?` — a string;
* `Json.read?` — a whole text.
-/

import EventQuery.Json.Basic

set_option relaxedAutoImplicit false
set_option autoImplicit false

namespace EventQuery

-- Powers are those of the core library, whatever other instances are in scope.
attribute [local instance (2000)] instPowNat

namespace Json

/-- The blanks of the grammar. -/
def isSpace (c : Char) : Bool := c == ' ' || c == '\n' || c == '\t' || c == '\r'

/-- Drop blanks. -/
def skip (cs : List Char) : List Char := cs.dropWhile isSpace

/-! ### Numbers -/

/-- Append digits to a number while it stays below `2 ^ 64`; also gives how many were left out. -/
def absorbDigits (n : Nat) : List Char → Nat × Nat
  | [] => (n, 0)
  | c :: cs =>
      let next := 10 * n + Digits.value c
      if next < 0x10000000000000000 then absorbDigits next cs else (n, cs.length + 1)

/-- A power of ten. -/
def power (exponent : Nat) : Float := Binary.ofRatio false (10 ^ exponent) 1

/-- `significand · 10 ^ exponent`, by one multiplication or division in binary arithmetic, and two
divisions for the smallest.  None when it is infinite. -/
def scale? (significand : Nat) (exponent : Int) : Option Float :=
  let x := Binary.ofRatio false significand 1
  if significand = 0 then some x
  else if 308 < exponent then none
  else if 0 ≤ exponent then
    let y := x * power exponent.toNat
    if Binary.isFinite y then some y else none
  else if -308 ≤ exponent then some (x / power (-exponent).toNat)
  else if -616 ≤ exponent then some (x / power 308 / power (-(exponent + 308)).toNat)
  else some (Binary.ofRatio false 0 1)

/-- The exponent part: none when it is malformed, and zero when it is missing. -/
def readExponent? (cs : List Char) : Option (Int × List Char) :=
  match cs with
  | c :: rest =>
      if c == 'e' || c == 'E' then
        let (negative, rest) :=
          match rest with
          | '-' :: more => (true, more)
          | '+' :: more => (false, more)
          | other => (false, other)
        let (digits, rest) := Digits.span rest
        if digits.isEmpty then none
        else some (Binary.signed negative (Digits.read digits), rest)
      else some (0, cs)
  | [] => some (0, [])

/-- The fraction digits: none when a point stands without digits. -/
def readFraction? (cs : List Char) : Option (List Char × List Char) :=
  match cs with
  | '.' :: rest =>
      let (digits, rest) := Digits.span rest
      if digits.isEmpty then none else some (digits, rest)
  | other => some ([], other)

/-- The whole digits: a single zero, or digits that begin with another one. -/
def readWhole? (cs : List Char) : Option (List Char × List Char) :=
  let (digits, rest) := Digits.span cs
  match digits with
  | [] => none
  | '0' :: _ :: _ => none
  | _ => some (digits, rest)

/-- A number without point and exponent: an integer when it fits in 64 bits and is not a negative
zero. -/
def ofWhole (negative : Bool) (n : Nat) : Json :=
  if negative then
    if n = 0 ∨ 0x8000000000000000 < n then .real (-(Binary.ofRatio false n 1))
    else .integer (-(n : Int))
  else if n < 0x8000000000000000 then .integer n
  else .real (Binary.ofRatio false n 1)

/-- The number after its sign. -/
def readMagnitude? (negative : Bool) (cs : List Char) : Option (Json × List Char) := do
  let (whole, rest) ← readWhole? cs
  let (fraction, rest) ← readFraction? rest
  let marked := rest.head? == some 'e' || rest.head? == some 'E'
  let (exponent, rest) ← readExponent? rest
  let (n, dropped) := absorbDigits 0 whole
  if fraction.isEmpty && !marked && dropped == 0 then return (ofWhole negative n, rest)
  else
    let (m, left) := absorbDigits n fraction
    let x ← scale? m (exponent + dropped - (fraction.length - left : Nat))
    return (.real (if negative then -x else x), rest)

/-- **A number.** -/
def readNumber? : List Char → Option (Json × List Char)
  | '-' :: cs => readMagnitude? true cs
  | cs => readMagnitude? false cs

/-! ### Strings -/

/-- Four hexadecimal digits. -/
def readUnit? : List Char → Option (Nat × List Char)
  | a :: b :: c :: d :: rest => (Hex.read? [a, b, c, d]).map fun n => (n, rest)
  | _ => none

/-- The second half of a surrogate pair, as its offset. -/
def readTrail? : List Char → Option (Nat × List Char)
  | '\\' :: 'u' :: rest =>
      match readUnit? rest with
      | some (n, rest) => if 0xDC00 ≤ n ∧ n < 0xE000 then some (n - 0xDC00, rest) else none
      | none => none
  | _ => none

/-- The character after a backslash and a `u`. -/
def readScalar? (cs : List Char) : Option (Char × List Char) :=
  match readUnit? cs with
  | none => none
  | some (n, rest) =>
      if n < 0xD800 ∨ 0xE000 ≤ n then some (Char.ofNat n, rest)
      else if n < 0xDC00 then
        (readTrail? rest).map fun (m, rest) =>
          (Char.ofNat (0x10000 + (n - 0xD800) * 0x400 + m), rest)
      else none

/-- The character that a letter after a backslash stands for. -/
def escaped? (c : Char) : Option Char :=
  if c = '"' ∨ c = '\\' ∨ c = '/' then some c
  else if c = 'b' then some '\x08'
  else if c = 'f' then some '\x0c'
  else if c = 'n' then some '\n'
  else if c = 'r' then some '\r'
  else if c = 't' then some '\t'
  else none

/-- The rest of a string; `before` holds what was read, backwards.  Every step takes a character, so
the number of characters is fuel enough. -/
def readStringFrom? (before : List Char) : Nat → List Char → Option (String × List Char)
  | 0, _ => none
  | _, [] => none
  | fuel + 1, c :: rest =>
      if c = '"' then some (String.ofList before.reverse, rest)
      else if c = '\\' then
        match rest with
        | 'u' :: more =>
            match readScalar? more with
            | some (d, more) => readStringFrom? (d :: before) fuel more
            | none => none
        | d :: more =>
            match escaped? d with
            | some e => readStringFrom? (e :: before) fuel more
            | none => none
        | [] => none
      else if c.toNat < 32 then none
      else readStringFrom? (c :: before) fuel rest

/-- **A string**, after its opening quote. -/
def readString? (cs : List Char) : Option (String × List Char) := readStringFrom? [] cs.length cs

/-! ### Values -/

mutual

/-- A value; `depth` more levels may be opened. -/
def readValue? (depth : Nat) : Nat → List Char → Option (Json × List Char)
  | 0, _ => none
  | fuel + 1, cs =>
      match skip cs with
      | 'n' :: 'u' :: 'l' :: 'l' :: rest => some (.null, rest)
      | 't' :: 'r' :: 'u' :: 'e' :: rest => some (.bool true, rest)
      | 'f' :: 'a' :: 'l' :: 's' :: 'e' :: rest => some (.bool false, rest)
      | '"' :: rest => (readString? rest).map fun (s, rest) => (.string s, rest)
      | '[' :: rest =>
          if depth = 0 then none
          else
            match skip rest with
            | ']' :: rest => some (.array [], rest)
            | rest =>
                (readItems? (depth - 1) fuel rest).map fun (items, rest) => (.array items, rest)
      | '\x7b' :: rest =>
          if depth = 0 then none
          else
            match skip rest with
            | '\x7d' :: rest => some (.object [], rest)
            | rest =>
                (readFields? (depth - 1) fuel rest).map fun (fields, rest) =>
                  (.object (Fields.ofPairs fields), rest)
      | cs => readNumber? cs

/-- One or more items and the closing bracket. -/
def readItems? (depth : Nat) : Nat → List Char → Option (List Json × List Char)
  | 0, _ => none
  | fuel + 1, cs =>
      match readValue? depth fuel cs with
      | none => none
      | some (item, rest) =>
          match skip rest with
          | ',' :: rest =>
              (readItems? depth fuel rest).map fun (items, rest) => (item :: items, rest)
          | ']' :: rest => some ([item], rest)
          | _ => none

/-- One or more fields and the closing brace. -/
def readFields? (depth : Nat) : Nat → List Char → Option (List (String × Json) × List Char)
  | 0, _ => none
  | fuel + 1, cs =>
      match skip cs with
      | '"' :: rest =>
          match readString? rest with
          | none => none
          | some (name, rest) =>
              match skip rest with
              | ':' :: rest =>
                  match readValue? depth fuel rest with
                  | none => none
                  | some (item, rest) =>
                      match skip rest with
                      | ',' :: rest =>
                          (readFields? depth fuel rest).map fun (fields, rest) =>
                            ((name, item) :: fields, rest)
                      | '\x7d' :: rest => some ([(name, item)], rest)
                      | _ => none
              | _ => none
      | _ => none

end

/-- The greatest number of levels of nesting. -/
def maxDepth : Nat := 127

/-- **A whole text.**  A value opens at most one call for each of its characters, so twice their
number is fuel enough. -/
def read? (s : String) : Option Json :=
  let cs := s.toList
  match readValue? maxDepth (2 * cs.length + 2) cs with
  | some (j, rest) => if (skip rest).isEmpty then some j else none
  | none => none

end Json

end EventQuery
