/-
**Functions of records, lists and absent values.**

Main definitions:

* `Function.pack`, `Function.unpack` — records from names and values, and records with renamed
  fields;
* `Function.size` — the number of items;
* `Function.isBlank` — null, or a text of blanks;
* `Function.coalesce` — the first value that is there;
* `Function.raise` — an error with a given text.
-/

import EventQuery.Function.Time

set_option relaxedAutoImplicit false
set_option autoImplicit false

namespace EventQuery

namespace Function

/-- Names and values in turn, as fields. -/
def pairs : List Value → List (String × Value)
  | name :: v :: rest => (name.text, v) :: pairs rest
  | _ => []

/-- **A record of names and values given in turn.** -/
def pack (args : List Value) : Result Value :=
  if args.length % 2 = 1 then
    .error (.invalidArgument "pack expects alternating name/value pairs")
  else .ok (.record (Fields.ofPairs (pairs args)))

/-- **The fields of a record**, each name with a prefix. -/
def unpack (args : List Value) : Result Value :=
  match args with
  | .record fields :: more =>
      let start := (more.head?.map fun v => Text.trimWhere Text.isQuote v.text).getD ""
      .ok (.record (Fields.ofPairs (fields.map fun (name, v) => (start ++ name, v))))
  | v :: _ => .error (wrongType "bag_unpack expects a property bag" v)
  | [] => .ok .null

/-- The number of items of a list or fields of a record; minus one for other values. -/
def size (v : Value) : Result Value :=
  .ok (.long
    (match v with
      | .list items => Int64.ofNat items.length
      | .record fields => Int64.ofNat fields.length
      | _ => -1))

/-- Null, or a text of blanks. -/
def isBlank : Value → Bool
  | .null => true
  | .string s => (Text.strip s.toList).isEmpty
  | _ => false

/-- A test as a function of a value. -/
def test (p : Value → Bool) (v : Value) : Result Value := .ok (.bool (p v))

/-- The opposite of a condition. -/
def negate (v : Value) : Result Value := v.truth.map fun b => .bool !b

/-- **The first value that is there**, or null. -/
def coalesce (args : List Value) : Result Value :=
  .ok ((args.find? fun v => !v.isAbsent).getD .null)

/-- **An error with a given text.** -/
def raise (args : List Value) : Result Value :=
  match args.head?.filter fun v => !v.isAbsent with
  | some v => .error (.thrown v.text)
  | none => .error (.thrown "exception from throw()")

end Function

end EventQuery
