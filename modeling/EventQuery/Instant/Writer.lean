/-
**Writing instants.**

Main definitions:

* `Instant.iso` — the internet form in universal time, with as many groups of three fraction digits
  as are needed;
* `Instant.render` — the form that a pattern of letters describes.
-/

import EventQuery.Instant.Basic

set_option relaxedAutoImplicit false
set_option autoImplicit false

namespace EventQuery

namespace Instant

/-- Two digits. -/
def two (n : Int) : List Char := Digits.writePadded 2 n.toNat

/-! ### The internet form -/

/-- Four digits, or a sign and at least four digits for a year outside 0 to 9999. -/
def yearChars (year : Int) : List Char :=
  if 0 ≤ year ∧ year ≤ 9999 then Digits.writePadded 4 year.toNat
  else (if year < 0 then '-' else '+') :: Digits.writePadded 4 year.natAbs

/-- No digits, or three, six or nine after a point. -/
def fractionChars (nanos : Nat) : List Char :=
  if nanos = 0 then []
  else if nanos % 1000000 = 0 then '.' :: Digits.writePadded 3 (nanos / 1000000)
  else if nanos % 1000 = 0 then '.' :: Digits.writePadded 6 (nanos / 1000)
  else '.' :: Digits.writePadded 9 nanos

/-- **The internet form**, ending in `Z`; a leap second is written as second 60. -/
def isoChars (t : Instant) : List Char :=
  let second := if 1000000000 ≤ t.nanos then t.secondOfMinute + 1 else t.secondOfMinute
  yearChars t.date.year ++ '-' :: two t.date.month ++ '-' :: two t.date.day ++ 'T' :: two t.hour
    ++ ':' :: two t.minute ++ ':' :: two second ++ fractionChars t.subsecond ++ ['Z']

/-- The internet form. -/
def iso (t : Instant) : String := String.ofList t.isoChars

/-! ### Patterns of letters -/

/-- The hour of twelve. -/
def hour12 (t : Instant) : Int := if t.hour % 12 = 0 then 12 else t.hour % 12

/-- A number with at least two digits when its letter is repeated. -/
def number (n : Int) (run : Nat) : List Char :=
  if 2 ≤ run then two n else Digits.write n.toNat

/-- A name in full, or its first three letters. -/
def name (names : List String) (i : Int) (run : Nat) : List Char :=
  let full := ((names[i.toNat]?).getD "").toList
  if 4 ≤ run then full else full.take 3

/-- The year after a run of `y`: in full from three letters on, else the year of the century. -/
def yearRun (year : Int) (run : Nat) : List Char :=
  if 3 ≤ run then
    if year < 0 then '-' :: Digits.writePadded 3 year.natAbs else Digits.writePadded 4 year.toNat
  else number (year % 100) run

/-- The first digits of the fraction, at most nine. -/
def fractionRun (t : Instant) (run : Nat) : List Char :=
  (Digits.writePadded 9 t.subsecond).take run

/-- The text that stands for a run of one letter. -/
def renderRun (t : Instant) (c : Char) (run : Nat) : List Char :=
  match c with
  | 'y' => yearRun t.date.year run
  | 'M' =>
      if 3 ≤ run then name Calendar.monthNames (t.date.month - 1) run
      else number t.date.month run
  | 'd' =>
      if 3 ≤ run then name Calendar.weekdayNames (Calendar.weekday t.day) run
      else number t.date.day run
  | 'H' => number t.hour run
  | 'h' => number t.hour12 run
  | 'm' => number t.minute run
  | 's' => number t.secondOfMinute run
  | 'f' => fractionRun t run
  | 'F' => ((fractionRun t run).reverse.dropWhile (· == '0')).reverse
  | 't' => ((if 12 ≤ t.hour then "PM" else "AM").toList).take (min run 2)
  | _ => List.replicate run c

/-- Read a pattern: `run` counts how often the character `last` has stood in a row; a backslash
takes the character after it as it is. -/
def renderFrom (t : Instant) : Option (Char × Nat) → List Char → List Char
  | none, [] => []
  | some (c, run), [] => renderRun t c run
  | pending, '\\' :: cs =>
      (match pending with
        | none => []
        | some (c, run) => renderRun t c run)
      ++ match cs with
        | [] => []
        | next :: rest => next :: renderFrom t none rest
  | none, c :: cs => renderFrom t (some (c, 1)) cs
  | some (d, run), c :: cs =>
      if c = d then renderFrom t (some (d, run + 1)) cs
      else renderRun t d run ++ renderFrom t (some (c, 1)) cs

/-- **The form that a pattern of letters describes.** -/
def render (t : Instant) (pattern : String) : String :=
  String.ofList (renderFrom t none pattern.toList)

end Instant

end EventQuery
