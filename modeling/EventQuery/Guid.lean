/-
**Globally unique identifiers.**

A guid is 128 bits, written as five groups of hexadecimal digits.

Main definitions:

* `Guid` — the type;
* `Guid.write` — the groups in lower case, joined by hyphens;
* `Guid.read?` — the groups with or without hyphens, in braces, or after `urn:uuid:`.
-/

import EventQuery.Number.Hex
import EventQuery.Text.Search

set_option relaxedAutoImplicit false
set_option autoImplicit false

namespace EventQuery

/-- An identifier of 128 bits. -/
structure Guid where
  bits : BitVec 128
  deriving DecidableEq

namespace Guid

/-- The identifier whose bits are all zero. -/
def zero : Guid := ⟨0⟩

instance : Inhabited Guid := ⟨zero⟩

/-- The thirty-two digits. -/
def digits (g : Guid) : List Char := Hex.write 32 g.bits.toNat

/-- The identifier of thirty-two digits. -/
def ofDigits? (cs : List Char) : Option Guid :=
  if cs.length = 32 then (Hex.read? cs).map fun n => ⟨BitVec.ofNat 128 n⟩ else none

/-- The lengths of the five groups. -/
def groups : List Nat := [8, 4, 4, 4, 12]

/-- Insert hyphens between groups of the given lengths. -/
def hyphenate : List Nat → List Char → List Char
  | [], _ => []
  | [_], cs => cs
  | n :: ns, cs => cs.take n ++ '-' :: hyphenate ns (cs.drop n)

/-- Remove the hyphens between groups of the given lengths. -/
def joinGroups? : List Nat → List Char → Option (List Char)
  | [], _ => none
  | [n], cs => if cs.length = n then some cs else none
  | n :: ns, cs =>
      match cs.drop n with
      | '-' :: rest => (joinGroups? ns rest).map (cs.take n ++ ·)
      | _ => none

/-- **The groups in lower case, joined by hyphens.** -/
def write (g : Guid) : String := String.ofList (hyphenate groups g.digits)

/-- The groups joined by hyphens. -/
def readHyphenated? (cs : List Char) : Option Guid := (joinGroups? groups cs).bind ofDigits?

/-- The mark in front of an identifier used as a resource name. -/
def resourceMark : List Char := "urn:uuid:".toList

/-- **An identifier in one of four forms**: the bare digits, the hyphenated groups, and these in
braces or after the mark of a resource name. -/
def read? (s : String) : Option Guid :=
  let cs := s.toList
  if cs.length = 32 then ofDigits? cs
  else
    match Text.dropPattern? resourceMark cs with
    | some rest => readHyphenated? rest
    | none =>
        match cs with
        | '\x7b' :: rest =>
            if rest.getLast? = some '\x7d' then readHyphenated? rest.dropLast else none
        | _ => readHyphenated? cs

end Guid

end EventQuery
