/-
**Reading numbers.**

Integers are an optional sign and digits, within a range.  Floating-point numbers are an optional
sign and either digits with an optional point and exponent, or one of the words `inf`, `infinity`
and `nan` in any case.

Main definitions:

* `Number.long?`, `Number.int?` — integers of 64 and 32 bits from an integer;
* `Number.readLong?`, `Number.readInt?` — the same from a text;
* `Number.readFloat?` — floating-point numbers.
-/

import EventQuery.Number.Digits
import EventQuery.Number.Binary

set_option relaxedAutoImplicit false
set_option autoImplicit false

namespace EventQuery

namespace Number

/-! ### Integers of fixed width -/

/-- The 64-bit integer of a value, when it fits. -/
def long? (n : Int) : Option Int64 :=
  if -0x8000000000000000 ≤ n ∧ n < 0x8000000000000000 then some (Int64.ofInt n) else none

/-- The 32-bit integer of a value, when it fits. -/
def int? (n : Int) : Option Int32 :=
  if -0x80000000 ≤ n ∧ n < 0x80000000 then some (Int32.ofInt n) else none

/-- The nearest 64-bit integer. -/
def clampLong (n : Int) : Int64 :=
  if n < -0x8000000000000000 then Int64.minValue
  else if n < 0x8000000000000000 then Int64.ofInt n
  else Int64.maxValue

theorem long?_toInt (x : Int64) : long? x.toInt = some x := by
  have h₁ := Int64.le_toInt x
  have h₂ := Int64.toInt_lt x
  rw [long?, if_pos ⟨h₁, h₂⟩, Int64.ofInt_toInt]

theorem toInt_of_long? {n : Int} {x : Int64} (h : long? n = some x) : x.toInt = n := by
  unfold long? at h
  split at h
  · next hn =>
      cases h
      exact Int64.toInt_ofInt_of_le (by omega) (by omega)
  · cases h

/-- A value has a 64-bit integer exactly when it lies in the signed range. -/
theorem long?_isSome_iff {n : Int} :
    (long? n).isSome ↔ -0x8000000000000000 ≤ n ∧ n < 0x8000000000000000 := by
  unfold long?
  split <;> simp_all

theorem int?_toInt (x : Int32) : int? x.toInt = some x := by
  have h₁ := Int32.le_toInt x
  have h₂ := Int32.toInt_lt x
  rw [int?, if_pos ⟨h₁, h₂⟩, Int32.ofInt_toInt]

/-- The 64-bit integer that a text denotes. -/
def readLong? (cs : List Char) : Option Int64 := (Digits.readInt? cs).bind long?

/-- The 32-bit integer that a text denotes. -/
def readInt? (cs : List Char) : Option Int32 := (Digits.readInt? cs).bind int?

theorem readLong?_writeInt (x : Int64) : readLong? (Digits.writeInt x.toInt) = some x := by
  rw [readLong?, Digits.readInt?_writeInt, Option.bind_some, long?_toInt]

theorem readInt?_writeInt (n : Int) : readInt? (Digits.writeInt n) = int? n := by
  rw [readInt?, Digits.readInt?_writeInt, Option.bind_some]

/-! ### Floating-point numbers -/

/-- A text equals a word, letters of either case counting as the same. -/
def isWord (word : String) (cs : List Char) : Bool := cs.map Char.toLower == word.toList

/-- The exponent part: nothing, or `e` and an integer. -/
def readExponent? : List Char → Option Int
  | [] => some 0
  | c :: cs => if c == 'e' || c == 'E' then Digits.readInt? cs else none

/-- Digits with an optional point and exponent; some digit stands before the exponent. -/
def readMagnitude? (negative : Bool) (cs : List Char) : Option Float :=
  let (whole, rest) := Digits.span cs
  let (part, rest) :=
    match rest with
    | '.' :: more => Digits.span more
    | other => ([], other)
  if whole.isEmpty && part.isEmpty then none
  else
    (readExponent? rest).map fun exponent =>
      let digits := whole ++ part
      let significant := digits.dropWhile (· == '0')
      Binary.ofDecimal negative (Digits.read significant) significant.length
        (exponent - part.length)

/-- A magnitude in digits or in words. -/
def readUnsigned? (negative : Bool) (cs : List Char) : Option Float :=
  if isWord "inf" cs || isWord "infinity" cs then some (Binary.infinity negative)
  else if isWord "nan" cs then some Binary.nan
  else readMagnitude? negative cs

/-- **The floating-point number that a text denotes.** -/
def readFloat? : List Char → Option Float
  | '+' :: cs => readUnsigned? false cs
  | '-' :: cs => readUnsigned? true cs
  | cs => readUnsigned? false cs

end Number

end EventQuery
