/-
**Decimal numbers with a scale.**

A decimal is a sign, a mantissa of at most 96 bits and a scale of at most 28: the value is
`± mantissa / 10 ^ scale`, and the scale is part of the number, so `1.1` and `1.10` are different
decimals of equal value.

Main definitions:

* `Decimal` — the numbers;
* `Decimal.make?` — the number of given parts, when they are in range;
* `Decimal.write` — its text, with as many places as the scale says;
* `Decimal.cmp` — the order by value;
* `Decimal.toFloat` — a binary number close to the value.
-/

import EventQuery.Number.Digits
import EventQuery.Number.Reader

set_option relaxedAutoImplicit false
set_option autoImplicit false

namespace EventQuery

-- Powers are those of the core library, whatever other instances are in scope.
attribute [local instance (2000)] instPowNat

/-- Mantissas stay below `2 ^ 96`. -/
def Decimal.limit : Nat := 0x1000000000000000000000000

/-- A sign, a mantissa and a number of decimal places. -/
structure Decimal where
  negative : Bool
  mantissa : Nat
  scale : Nat
  mantissa_lt : mantissa < Decimal.limit
  scale_le : scale ≤ 28
  deriving DecidableEq

namespace Decimal

/-! ### Building -/

/-- The number of given parts, when they are in range. -/
def make? (negative : Bool) (mantissa scale : Nat) : Option Decimal :=
  if h : mantissa < limit ∧ scale ≤ 28 then some ⟨negative, mantissa, scale, h.1, h.2⟩ else none

/-- The number of given parts; a zero mantissa takes no sign. -/
def unsignedZero? (negative : Bool) (mantissa scale : Nat) : Option Decimal :=
  make? (negative && mantissa != 0) mantissa scale

/-- Zero without places. -/
def zero : Decimal := ⟨false, 0, 0, by decide, by decide⟩

/-- The integer of 64 bits without places. -/
def ofLong (n : Int64) : Decimal :=
  ⟨decide (n.toInt < 0), n.toInt.natAbs, 0, by
    have h₁ := Int64.le_toInt n
    have h₂ := Int64.toInt_lt n
    simp only [limit]
    omega, by decide⟩

/-- The value is zero. -/
def isZero (d : Decimal) : Bool := d.mantissa == 0

instance : Inhabited Decimal := ⟨zero⟩

/-! ### Text -/

/-- **The text of a decimal**: the digits of its mantissa with the point placed so that `scale`
digits follow it, and at least one digit in front. -/
def writeChars (d : Decimal) : List Char :=
  let digits := Digits.writePadded (d.scale + 1) d.mantissa
  let whole := digits.length - d.scale
  let body :=
    if d.scale = 0 then digits else digits.take whole ++ '.' :: digits.drop whole
  if d.negative then '-' :: body else body

/-- The text of a decimal. -/
def write (d : Decimal) : String := String.ofList d.writeChars

/-! ### Order and other views -/

/-- The mantissa with its sign. -/
def signed (d : Decimal) : Int := if d.negative then -(d.mantissa : Int) else d.mantissa

/-- **The order by value.** -/
def cmp (a b : Decimal) : Ordering :=
  compare (a.signed * 10 ^ b.scale) (b.signed * 10 ^ a.scale)

/-- The integer part, the fraction dropped. -/
def truncate (d : Decimal) : Int := Binary.signed d.negative (d.mantissa / 10 ^ d.scale)

/-- The 64-bit integer part, when it fits. -/
def toLong? (d : Decimal) : Option Int64 := Number.long? d.truncate

/-- **A binary number close to the value.**  Without places it is the nearest one.  Otherwise whole
and fraction are converted and added, and the sum is rounded to the places of the decimal, all in
binary arithmetic. -/
def toFloat (d : Decimal) : Float :=
  let flip (x : Float) : Float := if d.negative then -x else x
  if d.scale = 0 then Binary.ofInt d.signed
  else
    let power := 10 ^ d.scale
    let whole := Binary.ofRatio false (d.mantissa / power) 1
    let fraction := Binary.ofRatio false (d.mantissa % power) 1 / Binary.ofRatio false power 1
    if fraction == 0 then flip whole
    else
      let shift := Binary.ofRatio false power 1
      let units := (Binary.roundHalfAway? ((whole + fraction) * shift)).getD 0
      flip (Binary.ofInt units / shift)

theorem cmp_swap (a b : Decimal) : (a.cmp b).swap = b.cmp a := by
  simp [cmp, Int.compare_swap]

end Decimal

end EventQuery
