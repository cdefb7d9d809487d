/-
**Conversions between types.**

A value that cannot be converted becomes null, except that every value has a truth value.

Main definitions:

* `Function.convertBool`, `Function.convertInt`, … — the conversions;
* `Function.conversion` — a conversion as a function;
* `Function.casts`, `Function.castTo` — conversion of a text to a type given by name.
-/

import EventQuery.Function.Basic

set_option relaxedAutoImplicit false
set_option autoImplicit false

namespace EventQuery

namespace Function

/-- A value, or null when there is none. -/
def orNull {α : Type} (build : α → Value) (a : Option α) : Value := (a.map build).getD .null

/-- The text of a value. -/
def convertText (v : Value) : Value := .string v.text

/-- The truth value of a value; what names none counts as false. -/
def convertBool (v : Value) : Value :=
  match v with
  | .bool b => .bool b
  | .string s => .bool ((Value.boolOfText? s).getD false)
  | other => .bool (other.asFloat?.any fun x => !(x == 0))

/-- The integer of a value, when it fits in 32 bits. -/
def convertInt (v : Value) : Value :=
  orNull Value.int (v.toLong?.bind fun n => Number.int? n.toInt)

/-- The integer of a value. -/
def convertLong (v : Value) : Value := orNull Value.long v.toLong?

/-- The binary number of a value. -/
def convertReal (v : Value) : Value := orNull Value.real v.toFloat?

/-- The decimal of a value. -/
def convertDecimal (v : Value) : Value := orNull Value.decimal v.toDecimal?

/-- The instant of a value. -/
def convertInstant (v : Value) : Value := orNull Value.datetime v.toInstant?

/-- The timespan of a value. -/
def convertTimespan (v : Value) : Value := orNull Value.timespan v.toTimespan?

/-- The identifier of a value. -/
def convertGuid (v : Value) : Value :=
  match v with
  | .guid g => .guid g
  | .string s => orNull Value.guid (Guid.read? (Text.trim s))
  | _ => .null

/-- A conversion as a function. -/
def conversion (name : String) (convert : Value → Value) : Function :=
  unary name fun v => .ok (convert v)

/-! ### Types by name -/

/-- The conversions of a text by the name of the type. -/
def casts : List (String × (String → Value)) :=
  let text (convert : Value → Value) (s : String) : Value := convert (.string s)
  let bool (s : String) : Value := orNull Value.bool (Value.boolOfText? s)
  let int (s : String) : Value := orNull Value.int (Number.readInt? (Text.strip s.toList))
  let long (s : String) : Value := orNull Value.long (Number.readLong? (Text.strip s.toList))
  [("bool", bool), ("boolean", bool), ("datetime", text convertInstant),
    ("date", text convertInstant), ("guid", text convertGuid), ("uniqueid", text convertGuid),
    ("int", int), ("long", long), ("real", text convertReal), ("double", text convertReal),
    ("timespan", text convertTimespan), ("time", text convertTimespan),
    ("decimal", text convertDecimal), ("string", Value.string)]

/-- The conversion to a type given by name. -/
def castTo (type : String) : Result (String → Value) :=
  Result.ofOption (.invalidArgument s!"unknown type name '{type}'") (Fields.get? casts type)

end Function

end EventQuery
