/-
**Reading instants.**

A text is tried as an internet date-time (`2021-03-04T05:06:07Z`), as a mail date
(`Thu, 4 Mar 2021 05:06:07 GMT`), then as one of a list of patterns without an offset, which count
as universal time.  Every reader takes the whole text.

Main definitions:

* `Instant.Clock`, `Instant.Clock.at?` — a date and a time of day as they are written;
* `Instant.readInternet?`, `Instant.readMail?` — the two standard forms;
* `Instant.Piece`, `Instant.readPattern?` — the patterns;
* `Instant.read?` — all forms in turn.
-/

import EventQuery.Instant.Basic
import EventQuery.Text.Blank
import EventQuery.Text.Search

set_option relaxedAutoImplicit false
set_option autoImplicit false

namespace EventQuery

-- Powers are those of the core library, whatever other instances are in scope.
attribute [local instance (2000)] instPowNat

namespace Instant

/-! ### A written date and time -/

/-- A date and a time of day as they are written; the second may be 60. -/
structure Clock where
  year : Int := 0
  month : Int := 1
  day : Int := 1
  hour : Int := 0
  minute : Int := 0
  second : Int := 0
  nanos : Nat := 0
  /-- The afternoon was named; hours then run from 1 to 12. -/
  afternoon : Option Bool := none

/-- The hour of the day, from an hour of twelve when morning or afternoon was named. -/
def Clock.hourOfDay? (c : Clock) : Option Int :=
  match c.afternoon with
  | none => if c.hour ≤ 23 then some c.hour else none
  | some afternoon =>
      if 1 ≤ c.hour ∧ c.hour ≤ 12 then some (c.hour % 12 + if afternoon then 12 else 0) else none

/-- **The instant of a date and time** that is `offset` seconds ahead of universal time.  A second
of 60 is the leap second after the 59th; the day has to exist and the year to be in range. -/
def Clock.at? (c : Clock) (offset : Int) : Option Instant := do
  let hour ← c.hourOfDay?
  if Calendar.isValid ⟨c.year, c.month, c.day⟩ ∧ c.minute ≤ 59 ∧ c.second ≤ 60
      ∧ -262143 ≤ c.year ∧ c.year ≤ 262142 ∧ -86400 < offset ∧ offset < 86400 then
    let (second, nanos) := if c.second = 60 then (59, 1000000000 + c.nanos) else (c.second, c.nanos)
    let days := Calendar.daysOf ⟨c.year, c.month, c.day⟩
    make? (days * 86400 + hour * 3600 + c.minute * 60 + second - offset) nanos
  else none

/-! ### Parts -/

/-- A number of at least `least` and at most `most` digits at the front. -/
def takeNumber? (least most : Nat) (cs : List Char) : Option (Nat × List Char) :=
  let digits := (cs.take most).takeWhile Digits.isDigit
  if digits.length < least then none else some (Digits.read digits, cs.drop digits.length)

/-- A given character at the front. -/
def takeChar? (c : Char) : List Char → Option (List Char)
  | [] => none
  | d :: cs => if d = c then some cs else none

/-- One to nine fraction digits as nanoseconds; further digits are passed over. -/
def takeNanos? (cs : List Char) : Option (Nat × List Char) := do
  let (n, rest) ← takeNumber? 1 9 cs
  let places := cs.length - rest.length
  return (n * 10 ^ (9 - places), rest.dropWhile Digits.isDigit)

/-- An optional fraction after a point. -/
def takeFraction? : List Char → Option (Nat × List Char)
  | '.' :: cs => takeNanos? cs
  | cs => some (0, cs)

/-- At least one blank. -/
def takeBlanks? : List Char → Option (List Char)
  | [] => none
  | c :: cs => if Text.isBlank c then some (cs.dropWhile Text.isBlank) else none

/-- The first of some three-letter names that stands at the front, in any case, with its index. -/
def takeName? (names : List String) (cs : List Char) : Option (Nat × List Char) :=
  let front := (cs.take 3).map Char.toLower
  (names.findIdx? fun name => name.toList.map Char.toLower == front).map fun i => (i, cs.drop 3)

/-- The first three letters of each name. -/
def shortNames (names : List String) : List String :=
  names.map fun name => String.ofList (name.toList.take 3)

/-- Hours and minutes of an offset after its sign, in seconds. -/
def takeOffset? (negative colon : Bool) (cs : List Char) : Option (Int × List Char) := do
  let (hours, cs) ← takeNumber? 2 2 cs
  let cs ← if colon then takeChar? ':' cs else some cs
  let (minutes, cs) ← takeNumber? 2 2 cs
  if 59 < minutes then none
  else
    let seconds : Int := hours * 3600 + minutes * 60
    return (if negative then -seconds else seconds, cs)

/-! ### The internet form -/

/-- `Z`, or a sign, hours, a colon and minutes. -/
def takeZone? : List Char → Option (Int × List Char)
  | 'Z' :: cs => some (0, cs)
  | 'z' :: cs => some (0, cs)
  | '+' :: cs => takeOffset? false true cs
  | '-' :: cs => takeOffset? true true cs
  | '\u2212' :: cs => takeOffset? true true cs
  | _ => none

/-- The sign between date and time. -/
def takeTimeMark? : List Char → Option (List Char)
  | [] => none
  | c :: cs => if c = 'T' ∨ c = 't' ∨ c = ' ' then some cs else none

/-- **An internet date-time**: fixed widths, an optional fraction and an offset of at most 23:59. -/
def readInternet? (cs : List Char) : Option Instant := do
  let (year, cs) ← takeNumber? 4 4 cs
  let cs ← takeChar? '-' cs
  let (month, cs) ← takeNumber? 2 2 cs
  let cs ← takeChar? '-' cs
  let (day, cs) ← takeNumber? 2 2 cs
  let cs ← takeTimeMark? cs
  let (hour, cs) ← takeNumber? 2 2 cs
  let cs ← takeChar? ':' cs
  let (minute, cs) ← takeNumber? 2 2 cs
  let cs ← takeChar? ':' cs
  let (second, cs) ← takeNumber? 2 2 cs
  let (nanos, cs) ← takeFraction? cs
  let (offset, cs) ← takeZone? cs
  if cs.isEmpty then
    Clock.at? ⟨year, month, day, hour, minute, second, nanos, none⟩ offset
  else none

/-! ### The mail form -/

/-- The hours ahead of universal time of the named zones. -/
def namedZones : List (String × Int) :=
  [("gmt", 0), ("ut", 0), ("z", 0), ("edt", -4), ("est", -5), ("cdt", -5), ("cst", -6),
    ("mdt", -6), ("mst", -7), ("pdt", -7), ("pst", -8)]

/-- A zone by name or by four digits; a single letter other than `j` counts as no offset. -/
def takeMailZone? (cs : List Char) : Option (Int × List Char) :=
  let (letters, rest) := cs.span Char.isAlpha
  if letters.isEmpty then
    match cs with
    | '+' :: cs => takeOffset? false false cs
    | '-' :: cs => takeOffset? true false cs
    | _ => none
  else
    let name := String.ofList (letters.map Char.toLower)
    match namedZones.lookup name with
    | some hours => some (hours * 3600, rest)
    | none => if letters.length = 1 ∧ name ≠ "j" then some (0, rest) else none

/-- The rest of a comment in parentheses of the given depth. -/
def closeComment? : Nat → List Char → Option (List Char)
  | _, [] => none
  | depth, '\\' :: cs =>
      match cs with
      | [] => none
      | _ :: more => closeComment? depth more
  | depth, '(' :: cs => closeComment? (depth + 1) cs
  | depth, ')' :: cs => if depth ≤ 1 then some cs else closeComment? (depth - 1) cs
  | depth, _ :: cs => closeComment? depth cs

/-- Comments in parentheses, with blanks in front of each; `fuel` bounds their number. -/
def dropComments : Nat → List Char → List Char
  | 0, cs => cs
  | fuel + 1, cs =>
      match cs.dropWhile Text.isBlank with
      | '(' :: more =>
          match closeComment? 1 more with
          | some rest => dropComments fuel rest
          | none => cs
      | _ => cs

/-- A year of two digits belongs to 1950 through 2049, one of three digits is counted from 1900. -/
def mailYear (digits year : Nat) : Nat :=
  if digits = 2 then if year < 50 then year + 2000 else year + 1900
  else if digits = 3 then year + 1900
  else year

/-- The time of day of the mail form, with an optional second. -/
def takeMailTime? (cs : List Char) : Option ((Nat × Nat × Nat) × List Char) := do
  let (hour, cs) ← takeNumber? 2 2 cs
  let cs ← takeChar? ':' (cs.dropWhile Text.isBlank)
  let (minute, cs) ← takeNumber? 2 2 (cs.dropWhile Text.isBlank)
  match takeChar? ':' (cs.dropWhile Text.isBlank) with
  | some more => do
      let (second, cs) ← takeNumber? 2 2 more
      return ((hour, minute, second), cs)
  | none => return ((hour, minute, 0), cs)

/-- The optional day of the week and its comma. -/
def takeMailWeekday? (cs : List Char) : Option (Option Nat × List Char) :=
  match takeName? (shortNames Calendar.weekdayNames) cs with
  | none => some (none, cs)
  | some (i, rest) => (takeChar? ',' rest).map fun rest => (some i, rest)

/-- **A mail date**: an optional day of the week, which has to be the right one, day, month, year,
time and zone. -/
def readMail? (cs : List Char) : Option Instant := do
  let (weekday, cs) ← takeMailWeekday? (cs.dropWhile Text.isBlank)
  let (day, cs) ← takeNumber? 1 2 (cs.dropWhile Text.isBlank)
  let cs ← takeBlanks? cs
  let (month, cs) ← takeName? (shortNames Calendar.monthNames) cs
  let cs ← takeBlanks? cs
  let (year, rest) ← takeNumber? 2 cs.length cs
  let year := mailYear (cs.length - rest.length) year
  let cs ← takeBlanks? rest
  let ((hour, minute, second), cs) ← takeMailTime? cs
  let cs ← takeBlanks? cs
  let (offset, cs) ← takeMailZone? cs
  if !(dropComments cs.length cs).isEmpty then none
  else
    let days := Calendar.daysOf ⟨year, month + 1, day⟩
    if weekday.any fun w => Calendar.weekday days ≠ w then none
    else Clock.at? ⟨year, month + 1, day, hour, minute, second, 0, none⟩ offset

/-! ### Patterns -/

/-- A piece of a pattern. -/
inductive Piece where
  | mark (c : Char)
  | blanks
  | year
  | month
  | day
  | hour
  | minute
  | second
  | fraction
  | halfDay
  deriving DecidableEq, Repr

/-- A number of at most two digits after optional blanks. -/
def takeField? (cs : List Char) : Option (Nat × List Char) :=
  takeNumber? 1 2 (cs.dropWhile Text.isBlank)

/-- A year after optional blanks: at most four digits, or a sign and any number of them. -/
def takeYear? (cs : List Char) : Option (Int × List Char) :=
  match cs.dropWhile Text.isBlank with
  | '-' :: cs => (takeNumber? 1 cs.length cs).map fun (n, rest) => (-(n : Int), rest)
  | '+' :: cs => (takeNumber? 1 cs.length cs).map fun (n, rest) => ((n : Int), rest)
  | cs => (takeNumber? 1 4 cs).map fun (n, rest) => ((n : Int), rest)

/-- `AM` or `PM` in any case. -/
def takeHalfDay? : List Char → Option (Bool × List Char)
  | a :: m :: cs =>
      if m.toLower ≠ 'm' then none
      else if a.toLower = 'a' then some (false, cs)
      else if a.toLower = 'p' then some (true, cs)
      else none
  | _ => none

/-- Read one piece. -/
def Piece.take? (piece : Piece) (c : Clock) (cs : List Char) : Option (Clock × List Char) :=
  match piece with
  | .mark m => (takeChar? m cs).map fun cs => (c, cs)
  | .blanks => some (c, cs.dropWhile Text.isBlank)
  | .year => (takeYear? cs).map fun (n, cs) => ({ c with year := n }, cs)
  | .month => (takeField? cs).map fun (n, cs) => ({ c with month := n }, cs)
  | .day => (takeField? cs).map fun (n, cs) => ({ c with day := n }, cs)
  | .hour => (takeField? cs).map fun (n, cs) => ({ c with hour := n }, cs)
  | .minute => (takeField? cs).map fun (n, cs) => ({ c with minute := n }, cs)
  | .second => (takeField? cs).map fun (n, cs) => ({ c with second := n }, cs)
  | .fraction => (takeFraction? cs).map fun (n, cs) => ({ c with nanos := n }, cs)
  | .halfDay => (takeHalfDay? cs).map fun (b, cs) => ({ c with afternoon := some b }, cs)

/-- **Read a whole text by a pattern**, as universal time. -/
def readPattern? : List Piece → Clock → List Char → Option Instant
  | [], c, cs => if cs.isEmpty then c.at? 0 else none
  | piece :: pieces, c, cs =>
      match piece.take? c cs with
      | none => none
      | some (c, rest) => readPattern? pieces c rest

/-- `Y-m-d` with a given mark. -/
def yearFirst (mark : Char) : List Piece := [.year, .mark mark, .month, .mark mark, .day]

/-- `m/d/Y`. -/
def monthFirst : List Piece := [.month, .mark '/', .day, .mark '/', .year]

/-- `H:M`. -/
def shortTime : List Piece := [.hour, .mark ':', .minute]

/-- `H:M:S` with an optional fraction. -/
def longTime : List Piece := [.hour, .mark ':', .minute, .mark ':', .second, .fraction]

/-- `I:M:S p`, an hour of twelve. -/
def halfDayTime : List Piece :=
  [.hour, .mark ':', .minute, .mark ':', .second, .blanks, .halfDay]

/-- **The patterns without an offset**, in the order in which they are tried. -/
def patterns : List (List Piece) :=
  [ yearFirst '-' ++ .mark 'T' :: longTime,
    yearFirst '-' ++ .blanks :: longTime,
    yearFirst '-' ++ .mark 'T' :: shortTime,
    yearFirst '-' ++ .blanks :: shortTime,
    yearFirst '/' ++ .blanks :: longTime,
    monthFirst ++ .blanks :: longTime,
    monthFirst ++ .blanks :: halfDayTime,
    yearFirst '-',
    yearFirst '/',
    monthFirst ]

/-- Remove one `Z` from the end. -/
def dropZulu (cs : List Char) : List Char :=
  match cs.reverse with
  | 'Z' :: rest => rest.reverse
  | _ => cs

/-- **The instant that a text denotes.**  Blanks around it are dropped, and then quotation marks. -/
def read? (s : String) : Option Instant :=
  let cs := Text.stripWhere Text.isQuote (Text.strip s.toList)
  if cs.isEmpty then none
  else
    (readInternet? cs <|> readMail? cs)
      <|> patterns.findSome? fun pattern => readPattern? pattern {} (dropZulu cs)

end Instant

end EventQuery
