/-
**Functions of network addresses.**

Main definitions:

* `Function.parseAddress` — the number of an address, or of the first address of a network;
* `Function.addressOfNumber` — the address of a number;
* `Function.inSubnet`, `Function.inRange` — membership.
-/

import EventQuery.Function.Basic
import EventQuery.Network.Address

set_option relaxedAutoImplicit false
set_option autoImplicit false

namespace EventQuery

namespace Function

/-- **The number of an address**, or of the first address of a network; null when the text is
neither. -/
def parseAddress (v : Value) : Result Value :=
  let text := Text.trimWhere Text.isQuote (Text.trim v.text)
  let address :=
    if text.toList.contains '/' then (Network.read? text).map Network.first else Address.read? text
  .ok (((address.map fun a => Value.long (Int64.ofNat a.number))).getD .null)

/-- **The address of a number** of 32 bits. -/
def addressOfNumber (v : Value) : Result Value := do
  if v.isAbsent then return .string ""
  let n ← longArgument "ipv4_fromnumber" v
  let a ← Result.ofOption
    (.invalidArgument s!"ipv4_fromnumber: {Value.text (.long n)} is outside the IPv4 range")
    (Address.ofNumber? n.toInt)
  return .string a.write

/-- An argument that has to be an address. -/
def addressArgument (name : String) (v : Value) : Result Address :=
  Result.ofOption (.invalidArgument s!"{name}: '{v.text}' is not an IPv4 address")
    (Address.read? (Text.trim v.text))

/-- **An address belongs to a network.** -/
def inSubnet (address network : Value) : Result Value := do
  let a ← addressArgument "InSubnet" address
  let n ← Result.ofOption (.invalidArgument s!"InSubnet: '{network.text}' is not an IPv4 CIDR")
    (Network.read? (Text.trim network.text))
  return .bool (n.contains a)

/-- **An address lies between two others**, both included. -/
def inRange (args : List Value) : Result Value :=
  match args with
  | [address, first, last] => do
      let a ← addressArgument "IpAddressInRange" address
      let first ← addressArgument "IpAddressInRange" first
      let last ← addressArgument "IpAddressInRange" last
      return .bool (first.number ≤ a.number && a.number ≤ last.number)
  | _ => .ok .null

end Function

end EventQuery
