/-
**Values and records.**

A value is what a field of an event, a constant or a result can be; a record is an event: named
values in order.

Main definitions:

* `Value`, `Record` — the types;
* `Value.typeName` — the name of a value's type;
* `Value.isAbsent` — null and the empty text, which both mean that there is nothing;
* `Value.beq` — equality: numbers by value, records whatever the order of their fields;
* `Record.field?`, `Record.fieldOrEmpty` — fields by plain or dotted names.
-/

import EventQuery.Decimal.Basic
import EventQuery.Fields
import EventQuery.Guid
import EventQuery.Instant.Basic
import EventQuery.Text.Search

set_option relaxedAutoImplicit false
set_option autoImplicit false

namespace EventQuery

/-- A value. -/
inductive Value where
  | null
  | bool (b : Bool)
  | int (n : Int32)
  | long (n : Int64)
  | real (x : Float)
  | decimal (d : Decimal)
  | datetime (t : Instant)
  | timespan (d : Timespan)
  | guid (g : Guid)
  | string (s : String)
  | record (fields : List (String × Value))
  | list (items : List Value)
  deriving Inhabited

/-- Named values in order. -/
abbrev Record := Fields Value

namespace Value

/-- The name of a value's type. -/
def typeName : Value → String
  | .null => "null"
  | .bool _ => "bool"
  | .int _ => "int"
  | .long _ => "long"
  | .real _ => "real"
  | .decimal _ => "decimal"
  | .datetime _ => "datetime"
  | .timespan _ => "timespan"
  | .guid _ => "guid"
  | .string _ => "string"
  | .record _ => "record"
  | .list _ => "list"

/-- Null and the empty text: there is nothing. -/
def isAbsent : Value → Bool
  | .null => true
  | .string s => s.isEmpty
  | _ => false

/-- The value is a number. -/
def isNumeric : Value → Bool
  | .int _ | .long _ | .real _ | .decimal _ => true
  | _ => false

/-- The truth value. -/
def asBool? : Value → Option Bool
  | .bool b => some b
  | _ => none

/-- The text. -/
def asText? : Value → Option String
  | .string s => some s
  | _ => none

/-- The value of an integer, widened to 64 bits. -/
def asLong? : Value → Option Int64
  | .int n => some n.toInt64
  | .long n => some n
  | _ => none

/-- The binary number nearest to a number. -/
def asFloat? : Value → Option Float
  | .int n => some (Binary.ofInt n.toInt)
  | .long n => some (Binary.ofInt n.toInt)
  | .real x => some x
  | .decimal d => some d.toFloat
  | _ => none

/-- The fields of a record. -/
def asRecord? : Value → Option Record
  | .record fields => some fields
  | _ => none

/-- The items of a list. -/
def asList? : Value → Option (List Value)
  | .list items => some items
  | _ => none

/-! ### Equality -/

mutual

/-- **Equality of values of one type.**  An undefined number differs from itself, decimals are
compared by value, and records are equal when they have the same fields in any order. -/
def beq : Value → Value → Bool
  | .null, .null => true
  | .bool a, .bool b => a == b
  | .int a, .int b => a == b
  | .long a, .long b => a == b
  | .real a, .real b => a == b
  | .decimal a, .decimal b => a.cmp b == .eq
  | .datetime a, .datetime b => a == b
  | .timespan a, .timespan b => a == b
  | .guid a, .guid b => a == b
  | .string a, .string b => a == b
  | .record a, .record b => a.length == b.length && beqFields a b
  | .list a, .list b => beqItems a b
  | _, _ => false

/-- Every field of the first record is in the second. -/
def beqFields : List (String × Value) → List (String × Value) → Bool
  | [], _ => true
  | (name, x) :: rest, others =>
      (match Fields.get? others name with
        | some y => beq x y
        | none => false)
        && beqFields rest others

/-- Item by item. -/
def beqItems : List Value → List Value → Bool
  | [], [] => true
  | x :: xs, y :: ys => beq x y && beqItems xs ys
  | _, _ => false

end

instance : BEq Value := ⟨beq⟩

end Value

/-! ### Fields by name -/

namespace Record

/-- Follow names through nested records. -/
def follow? : Record → List String → Option Value
  | _, [] => none
  | r, [name] => Fields.get? r name
  | r, name :: rest =>
      match Fields.get? r name with
      | some (.record inner) => follow? inner rest
      | _ => none

/-- The names between the points of a dotted name. -/
def dottedParts (name : String) : List String :=
  (Text.splitOn ['.'] name.toList).map String.ofList

/-- **A field by a plain or dotted name.**  A field of exactly that name comes first; otherwise a
dotted name leads through nested records. -/
def field? (r : Record) (name : String) : Option Value :=
  match Fields.get? r name with
  | some v => some v
  | none => if name.toList.contains '.' then follow? r (dottedParts name) else none

/-- A field, or the empty text when there is none. -/
def fieldOrEmpty (r : Record) (name : String) : Value := (field? r name).getD (.string "")

end Record

end EventQuery
