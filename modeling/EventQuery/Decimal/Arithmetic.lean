/-
**Arithmetic of decimals.**

Sums and products are exact when they fit; otherwise places are given up, a tie going to the even
mantissa, and a result that needs more than 96 bits without places does not exist.  A quotient that
does not come out even is carried on, several places at a time, until it comes out even or nothing
more fits; zeros are then removed from its end in groups.

Main definitions:

* `Decimal.add?`, `Decimal.sub?`, `Decimal.mul?`, `Decimal.div?`, `Decimal.rem?`.
-/

import EventQuery.Decimal.Basic

set_option relaxedAutoImplicit false
set_option autoImplicit false

namespace EventQuery

-- Powers are those of the core library, whatever other instances are in scope.
attribute [local instance (2000)] instPowNat

namespace Decimal

/-! ### Fitting a result -/

/-- Round off places, the fewest that bring the mantissa below 96 bits and the scale to at most 28;
`fuel` bounds their number and `drop` counts those given up so far. -/
def fitFrom (negative : Bool) (mantissa scale : Nat) : Nat → Nat → Option Decimal
  | 0, _ => none
  | fuel + 1, drop =>
      if scale < drop then none
      else
        let rounded := Binary.nearestEven mantissa (10 ^ drop)
        if mantissa / 10 ^ drop < limit ∧ rounded < limit ∧ scale - drop ≤ 28 then
          unsignedZero? negative rounded (scale - drop)
        else fitFrom negative mantissa scale fuel (drop + 1)

/-- **The decimal nearest to `± mantissa / 10 ^ scale`** that keeps the most places. -/
def fit? (negative : Bool) (mantissa scale : Nat) : Option Decimal :=
  fitFrom negative mantissa scale 64 0

/-! ### Sums -/

/-- The sum of two numbers that are not zero, the second one with a given sign.  A difference of
short mantissas that vanishes keeps the sign of the first number. -/
def addSigned? (a : Decimal) (bNegative : Bool) (b : Decimal) : Option Decimal :=
  let scale := max a.scale b.scale
  let m := a.mantissa * 10 ^ (scale - a.scale)
  let n := b.mantissa * 10 ^ (scale - b.scale)
  if a.negative = bNegative then fit? a.negative (m + n) scale
  else if m = n then
    if m < 0x100000000 then make? a.negative 0 scale else unsignedZero? false 0 scale
  else if m < n then fit? bNegative (n - m) scale
  else fit? a.negative (m - n) scale

/-- **The sum.**  A zero leaves the other number as it is. -/
def add? (a b : Decimal) : Option Decimal :=
  if a.isZero then some b
  else if b.isZero then some a
  else addSigned? a b.negative b

/-- **The difference.** -/
def sub? (a b : Decimal) : Option Decimal :=
  if a.isZero then
    if b.isZero then some b else make? (!b.negative) b.mantissa b.scale
  else if b.isZero then some a
  else addSigned? a (!b.negative) b

/-! ### Products -/

/-- The mantissa fits in 32 bits. -/
def isShort (d : Decimal) : Bool := d.mantissa < 0x100000000

/-- **The product.**  A product with zero has no places, and so has one of short mantissas that
vanishes beyond forty-seven places. -/
def mul? (a b : Decimal) : Option Decimal :=
  if a.isZero || b.isZero then some zero
  else if a.isShort && b.isShort && decide (47 < a.scale + b.scale) then some zero
  else fit? (a.negative != b.negative) (a.mantissa * b.mantissa) (a.scale + b.scale)

/-! ### Quotients -/

/-- A quotient in progress: its digits so far, what is left of the dividend, and the number of
places, which is negative while zeros are owed. -/
structure Quotient where
  digits : Nat
  left : Nat
  places : Int
  /-- The division did not come out even at first. -/
  carried : Bool

/-- The most places, at most nine, by which the quotient can be carried on. -/
def Quotient.room (q : Quotient) : Nat :=
  let most := min 9 (28 - q.places).toNat
  ((List.range (most + 1)).reverse.find? fun k => q.digits * 10 ^ k < limit).getD 0

/-- The quotient rounded off one place after it outgrew 96 bits. -/
def Quotient.shrink? (q : Quotient) (sticky : Bool) : Option Quotient :=
  if q.places < 1 then none
  else
    let tenth := q.digits / 10
    let last := q.digits % 10
    let up := 5 < last || (last == 5 && (sticky || tenth % 2 == 1))
    some { q with digits := if up then tenth + 1 else tenth, places := q.places - 1 }

/-- The quotient rounded to its last place, a tie going to the even digit. -/
def Quotient.round? (divisor : Nat) (q : Quotient) : Option Quotient :=
  let up := divisor < 2 * q.left || (divisor == 2 * q.left && q.digits % 2 == 1)
  let q := if up then { q with digits := q.digits + 1 } else q
  if q.digits < limit then some q else q.shrink? true

/-- Carry the division on until it comes out even or no place is left. -/
def Quotient.carry? (divisor : Nat) : Nat → Quotient → Option Quotient
  | 0, q => some q
  | fuel + 1, q =>
      if q.left = 0 ∧ 0 ≤ q.places then some q
      else
        let q := if q.left = 0 then q else { q with carried := true }
        let room := if q.left = 0 then min 9 (-q.places).toNat else q.room
        if q.left ≠ 0 ∧ room < 9 ∧ q.places + room < 0 then none
        else if q.left ≠ 0 ∧ room = 0 then q.round? divisor
        else
          let shifted := q.digits * 10 ^ room
          if limit ≤ shifted then none
          else
            let left := q.left * 10 ^ room
            let next : Quotient :=
              ⟨shifted + left / divisor, left % divisor, q.places + room, q.carried⟩
            if next.digits < limit then carry? divisor fuel next
            else next.shrink? (next.left != 0)

/-- Remove `zeros` zeros from the end when they are there. -/
def dropGroup (zeros : Nat) (m places : Nat) : Nat × Nat :=
  if m % 10 ^ zeros = 0 ∧ zeros ≤ places then (m / 10 ^ zeros, places - zeros) else (m, places)

/-- Remove groups of eight zeros while the low 32 bits of the mantissa are clear. -/
def dropEights : Nat → Nat → Nat → Nat × Nat
  | 0, m, places => (m, places)
  | fuel + 1, m, places =>
      if m % 0x100000000 = 0 ∧ 8 ≤ places ∧ m % 100000000 = 0 then
        dropEights fuel (m / 100000000) (places - 8)
      else (m, places)

/-- Remove zeros from the end of a quotient: groups of eight, then one group each of four, two and
one. -/
def dropZeros (m places : Nat) : Nat × Nat :=
  let (m, places) := dropEights 4 m places
  let (m, places) := dropGroup 4 m places
  let (m, places) := dropGroup 2 m places
  dropGroup 1 m places

/-- **The quotient** of a number by one that is not zero. -/
def div? (a b : Decimal) : Option Decimal :=
  if a.isZero then some zero
  else do
    let start : Quotient :=
      ⟨a.mantissa / b.mantissa, a.mantissa % b.mantissa, (a.scale : Int) - b.scale, false⟩
    let q ← Quotient.carry? b.mantissa 64 start
    let (m, places) :=
      if q.carried then dropZeros q.digits q.places.toNat else (q.digits, q.places.toNat)
    unsignedZero? (a.negative != b.negative) m places

/-- **The remainder** of the truncated quotient by a number that is not zero: the dividend itself
when it is the smaller one, zero without places when both have the same size, and otherwise with
the places of the longer one. -/
def rem? (a b : Decimal) : Option Decimal :=
  if a.isZero then some zero
  else
    let scale := max a.scale b.scale
    let m := a.mantissa * 10 ^ (scale - a.scale)
    let n := b.mantissa * 10 ^ (scale - b.scale)
    if m = n then some zero
    else if m < n then some a
    else unsignedZero? a.negative (m % n) scale

end Decimal

end EventQuery
