/-
**Arguments of a command line.**

An argument that begins with two hyphens is a long option, one that begins with a single hyphen is a
group of short ones, and any other is a word.  An option that takes a value finds it behind an
equals sign, in the rest of its group, or in the next argument.  Behind two bare hyphens there are
only words.

Main definitions:

* `Switch` — an option;
* `Given` — an argument as it was understood;
* `Switch.scan` — the arguments of a command line.
-/

set_option relaxedAutoImplicit false
set_option autoImplicit false

namespace EventQuery

/-- An option: its names, and whether it takes a value. -/
structure Switch where
  long : String
  short : Option Char
  takesValue : Bool
  deriving DecidableEq, Repr

/-- An argument as it was understood; options go by their long names. -/
inductive Given where
  | flag (name : String)
  | value (name value : String)
  | word (text : String)
  deriving DecidableEq, Repr

namespace Switch

/-- The option of a long name. -/
def ofLong? (switches : List Switch) (name : List Char) : Option Switch :=
  switches.find? fun s => s.long.toList == name

/-- The option of a letter. -/
def ofShort? (switches : List Switch) (letter : Char) : Option Switch :=
  switches.find? fun s => s.short == some letter

/-- A long option: what it gives, or the option whose value is still to come. -/
def readLong (switches : List Switch) (body : List Char) : Option (Given ⊕ Switch) :=
  let name := body.takeWhile (· != '=')
  match ofLong? switches name, body.drop name.length with
  | none, _ => none
  | some s, [] => some (if s.takesValue then .inr s else .inl (.flag s.long))
  | some s, _ :: text =>
      if s.takesValue then some (.inl (.value s.long (String.ofList text))) else none

/-- A group of short options: what they give, and the option whose value is still to come. -/
def readShort (switches : List Switch) : List Char → Option (List Given × Option Switch)
  | [] => some ([], none)
  | letter :: rest =>
      match ofShort? switches letter with
      | none => none
      | some s =>
          if s.takesValue then
            match rest with
            | [] => some ([], some s)
            | '=' :: text => some ([.value s.long (String.ofList text)], none)
            | text => some ([.value s.long (String.ofList text)], none)
          else
            (readShort switches rest).map fun (given, waiting) =>
              (.flag s.long :: given, waiting)

/-- An argument can be the value of the option before it: it does not look like an option. -/
def isValue (arg : String) : Bool :=
  match arg.toList with
  | '-' :: _ :: _ => false
  | _ => true

/-- **The arguments of a command line**, given the option that waits for its value; none when they
are not understood. -/
def scanFrom (switches : List Switch) : Option Switch → List String → Option (List Given)
  | none, [] => some []
  | some _, [] => none
  | some s, arg :: rest =>
      if isValue arg then (scanFrom switches none rest).map (.value s.long arg :: ·) else none
  | none, arg :: rest =>
      match arg.toList with
      | ['-', '-'] => some (rest.map Given.word)
      | '-' :: '-' :: body =>
          match readLong switches body with
          | none => none
          | some (.inl given) => (scanFrom switches none rest).map (given :: ·)
          | some (.inr waiting) => scanFrom switches (some waiting) rest
      | '-' :: letter :: body =>
          match readShort switches (letter :: body) with
          | none => none
          | some (given, waiting) => (scanFrom switches waiting rest).map (given ++ ·)
      | _ => (scanFrom switches none rest).map (.word arg :: ·)

/-- **The arguments of a command line.** -/
def scan (switches : List Switch) (args : List String) : Option (List Given) :=
  scanFrom switches none args

end Switch

namespace Given

/-- The words in order. -/
def words (given : List Given) : List String :=
  given.filterMap fun
    | .word text => some text
    | _ => none

/-- The values of an option in order. -/
def values (given : List Given) (name : String) : List String :=
  given.filterMap fun
    | .value n text => if n = name then some text else none
    | _ => none

/-- How often a flag was given. -/
def count (given : List Given) (name : String) : Nat := List.count (.flag name) given

end Given

end EventQuery
