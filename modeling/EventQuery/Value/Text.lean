/-
**Texts of values.**

Main definitions:

* `Value.toJson`, `Value.ofJson` — values as JSON and back;
* `Value.text` — the text of a value: nothing for null, JSON for records and lists;
* `Record.toJson` — a record as a JSON object.
-/

import EventQuery.Instant.Writer
import EventQuery.Json.Reader
import EventQuery.Timespan.Text
import EventQuery.Value.Basic

set_option relaxedAutoImplicit false
set_option autoImplicit false

namespace EventQuery

namespace Value

/-- The text of a truth value. -/
def boolText (b : Bool) : String := if b then "true" else "false"

/-! ### JSON -/

mutual

/-- **A value as JSON.**  Decimals become binary numbers; instants, timespans and identifiers become
their texts. -/
def toJson : Value → Json
  | .null => .null
  | .bool b => .bool b
  | .int n => .integer n.toInt
  | .long n => .integer n.toInt
  | .real x => .real x
  | .decimal d => .real d.toFloat
  | .datetime t => .string t.iso
  | .timespan d => .string d.clock
  | .guid g => .string g.write
  | .string s => .string s
  | .record fields => .object (fieldsToJson fields)
  | .list items => .array (itemsToJson items)

/-- Field by field. -/
def fieldsToJson : List (String × Value) → List (String × Json)
  | [] => []
  | (name, v) :: rest => (name, toJson v) :: fieldsToJson rest

/-- Item by item. -/
def itemsToJson : List Value → List Json
  | [] => []
  | v :: rest => toJson v :: itemsToJson rest

end

mutual

/-- **The value of a JSON value**: integers are `long`, other numbers `real`. -/
def ofJson : Json → Value
  | .null => .null
  | .bool b => .bool b
  | .integer n => .long (Int64.ofInt n)
  | .real x => .real x
  | .string s => .string s
  | .array items => .list (itemsOfJson items)
  | .object fields => .record (fieldsOfJson fields)

/-- Field by field. -/
def fieldsOfJson : List (String × Json) → List (String × Value)
  | [] => []
  | (name, j) :: rest => (name, ofJson j) :: fieldsOfJson rest

/-- Item by item. -/
def itemsOfJson : List Json → List Value
  | [] => []
  | j :: rest => ofJson j :: itemsOfJson rest

end

/-! ### Text -/

/-- **The text of a value.** -/
def text : Value → String
  | .null => ""
  | .bool b => boolText b
  | .int n => String.ofList (Digits.writeInt n.toInt)
  | .long n => String.ofList (Digits.writeInt n.toInt)
  | .real x => Layout.plain.write x
  | .decimal d => d.write
  | .datetime t => t.iso
  | .timespan d => d.clock
  | .guid g => g.write
  | .string s => s
  | .record fields => (toJson (.record fields)).compact
  | .list items => (toJson (.list items)).compact

/-- The characters of the text of a value. -/
def chars (v : Value) : List Char := v.text.toList

end Value

namespace Record

/-- A record as a JSON object. -/
def toJson (r : Record) : Json := .object (Value.fieldsToJson r)

end Record

end EventQuery
