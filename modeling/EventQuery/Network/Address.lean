/-
**Addresses and networks of version four.**

An address is 32 bits written as four decimal numbers; a network is an address and the number of
leading bits that its members share.

Main definitions:

* `Address` — the bits;
* `Address.read?`, `Address.write` — the dotted form;
* `Network` — an address with a length;
* `Network.read?` — the form `address/length`;
* `Network.first`, `Network.contains` — its first address, and membership.
-/

import EventQuery.Number.Digits
import EventQuery.Text.Search

set_option relaxedAutoImplicit false
set_option autoImplicit false

namespace EventQuery

-- Powers are those of the core library, whatever other instances are in scope.
attribute [local instance (2000)] instPowNat

/-- An address of 32 bits. -/
structure Address where
  bits : BitVec 32
  deriving DecidableEq

namespace Address

/-- The address of four numbers, the first the most significant. -/
def ofOctets (a b c d : Nat) : Address :=
  ⟨BitVec.ofNat 32 (((a * 256 + b) * 256 + c) * 256 + d)⟩

/-- The number of an address. -/
def number (a : Address) : Nat := a.bits.toNat

/-- The address of a number below `2 ^ 32`. -/
def ofNumber? (n : Int) : Option Address :=
  if 0 ≤ n ∧ n < 0x100000000 then some ⟨BitVec.ofInt 32 n⟩ else none

/-- One of the four numbers: one to three digits, at most 255.  A zero in front of another digit is
admitted only when `lenient`. -/
def octet? (lenient : Bool) (cs : List Char) : Option Nat :=
  if 3 < cs.length then none
  else
    match Digits.readNat? cs with
    | some n =>
        if 255 < n || (!lenient && 1 < cs.length && cs.head? == some '0') then none else some n
    | none => none

/-- Four numbers joined by points. -/
def ofChars? (lenient : Bool) (cs : List Char) : Option Address :=
  match Text.splitOn ['.'] cs with
  | [a, b, c, d] => do
      return ofOctets (← octet? lenient a) (← octet? lenient b) (← octet? lenient c)
        (← octet? lenient d)
  | _ => none

/-- **Four numbers without leading zeros, joined by points.** -/
def read? (s : String) : Option Address := ofChars? false s.toList

/-- The characters of the dotted form. -/
def writeChars (a : Address) : List Char :=
  Digits.write (a.number / 0x1000000) ++ '.' :: Digits.write (a.number / 0x10000 % 256)
    ++ '.' :: Digits.write (a.number / 256 % 256) ++ '.' :: Digits.write (a.number % 256)

/-- **The dotted form.** -/
def write (a : Address) : String := String.ofList a.writeChars

end Address

/-- An address and the number of leading bits shared by the members. -/
structure Network where
  address : Address
  length : Nat
  length_le : length ≤ 32

namespace Network

/-- An address cut down to its shared bits. -/
def mask (length : Nat) (a : Address) : Address :=
  ⟨BitVec.ofNat 32 (a.number / 2 ^ (32 - length) * 2 ^ (32 - length))⟩

/-- The first address. -/
def first (n : Network) : Address := mask n.length n.address

/-- **Membership**: the shared bits are those of the network. -/
def contains (n : Network) (a : Address) : Bool := decide (mask n.length a = n.first)

/-- **An address, a slash and a length** of one or two digits. -/
def read? (s : String) : Option Network :=
  match Text.split2 '/' s.toList with
  | some (address, digits) => do
      let address ← Address.ofChars? true address
      if 2 < digits.length then none
      else do
        let length ← Digits.readNat? digits
        if h : length ≤ 32 then some ⟨address, length, h⟩ else none
  | none => none

end Network

end EventQuery
