/-
**Events.**

An event is a record, and arrives as the text of a JSON object.

Main definitions:

* `Record.ofJson` — the record of a JSON object;
* `Record.read` — the record that a text holds.
-/

import EventQuery.Eval.Error
import EventQuery.Value.Text

set_option relaxedAutoImplicit false
set_option autoImplicit false

namespace EventQuery

namespace Record

/-- **The record of a JSON object**; nothing else is an event. -/
def ofJson (j : Json) : Result Record :=
  match Value.ofJson j with
  | .record fields => .ok fields
  | other => .error (.mismatch s!"event must be a JSON object, got {other.typeName}")

/-- **The record that a text holds.** -/
def read (text : String) : Result Record :=
  match Json.read? text with
  | some j => ofJson j
  | none => .error (.invalidArgument "invalid JSON event")

@[simp] theorem ofJson_object (fields : List (String × Json)) :
    ofJson (.object fields) = .ok (Value.fieldsOfJson fields) := by
  simp [ofJson, Value.ofJson]

end Record

end EventQuery
