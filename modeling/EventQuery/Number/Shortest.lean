/-
**The fewest digits that read back.**

A number stands for all reals that round to it.  Among the decimals in that interval those with the
fewest digits are taken, and of two such the nearer one; a tie goes as the written form wants it.

Main definitions:

* `Tie` — which of two decimals at the same distance is taken;
* `Shortest.Decimal` — `digits · 10 ^ exponent`;
* `Shortest.interval` — the reals that round to a number, as a fraction with its two ends;
* `Shortest.digits` — the decimal that is written.
-/

import EventQuery.Number.Binary

set_option relaxedAutoImplicit false
set_option autoImplicit false

namespace EventQuery

-- Powers are those of the core library, whatever other instances are in scope.
attribute [local instance (2000)] instPowNat

/-- Which of two decimals at the same distance is taken: the one with an even last digit, or the
greater one. -/
inductive Tie where
  | even
  | up
  deriving DecidableEq, Repr

/-- The decimal that a tie between `under` and its successor goes to. -/
def Tie.choose : Tie → Nat → Nat
  | .even, under => under + under % 2
  | .up, under => under + 1

namespace Shortest

/-- The value `digits · 10 ^ exponent`. -/
structure Decimal where
  digits : Nat
  exponent : Int
  deriving DecidableEq, Repr

/-- A positive value over a denominator, between two ends over the same denominator. -/
structure Interval where
  low : Nat
  value : Nat
  high : Nat
  den : Nat
  closed : Bool

/-- **The reals that round to `mantissa · 2 ^ exponent`.**  The neighbour below is half as far away
when the mantissa is the least one of its exponent; the ends belong when the mantissa is even. -/
def interval (mantissa : Nat) (exponent : Int) : Interval :=
  let below := if mantissa = Binary.leadingBit ∧ -1074 < exponent then 1 else 2
  let (scale, den) :=
    if 2 ≤ exponent then (2 ^ (exponent - 2).toNat, 1) else (1, 2 ^ (2 - exponent).toNat)
  { low := (4 * mantissa - below) * scale
    value := 4 * mantissa * scale
    high := (4 * mantissa + 2) * scale
    den := den
    closed := mantissa % 2 == 0 }

/-- The greatest `k` with `10 ^ k ≤ num / den`. -/
def logTen (num den : Nat) : Int :=
  let atLeast (k : Int) : Bool :=
    if 0 ≤ k then den * 10 ^ k.toNat ≤ num else den ≤ num * 10 ^ (-k).toNat
  let guess := (((num.log2 : Int) - den.log2) * 30103).fdiv 100000
  if atLeast (guess + 1) then guess + 1 else if atLeast guess then guess else guess - 1

/-- The point `n · 10 ^ exponent` lies in the interval. -/
def Interval.holds (i : Interval) (n : Nat) (exponent : Int) : Bool :=
  let (num, den) :=
    if 0 ≤ exponent then (n * 10 ^ exponent.toNat * i.den, 1)
    else (n * i.den, 10 ^ (-exponent).toNat)
  if i.closed then i.low * den ≤ num && num ≤ i.high * den
  else i.low * den < num && num < i.high * den

/-- The point of the grid `10 ^ exponent` in the interval that is nearest to its value. -/
def Interval.onGrid? (tie : Tie) (i : Interval) (exponent : Int) : Option Nat :=
  let (num, den) :=
    if 0 ≤ exponent then (i.value, i.den * 10 ^ exponent.toNat)
    else (i.value * 10 ^ (-exponent).toNat, i.den)
  let under := num / den
  let nearer := if 2 * (num % den) < den then under else
    if den < 2 * (num % den) then under + 1 else tie.choose under
  let other := if nearer = under then under + 1 else under
  if i.holds nearer exponent then some nearer
  else if i.holds other exponent then some other
  else none

/-- The first grid that has a point in the interval, from coarse to fine; `fuel` is the number of
grids still to try. -/
def search (tie : Tie) (i : Interval) : Nat → Int → Decimal
  | 0, exponent => ⟨(i.onGrid? tie exponent).getD 0, exponent⟩
  | fuel + 1, exponent =>
      match i.onGrid? tie exponent with
      | some n => ⟨n, exponent⟩
      | none => search tie i fuel (exponent - 1)

/-- Remove the zeros at the end of the digits. -/
def dropZeros : Nat → Decimal → Decimal
  | 0, d => d
  | fuel + 1, d =>
      if d.digits ≠ 0 ∧ d.digits % 10 = 0 then dropZeros fuel ⟨d.digits / 10, d.exponent + 1⟩ else d

/-- **The fewest digits that read back**, for a magnitude `mantissa · 2 ^ exponent`. -/
def digits (tie : Tie) (mantissa : Nat) (exponent : Int) : Decimal :=
  if mantissa = 0 then ⟨0, 0⟩
  else
    let i := interval mantissa exponent
    dropZeros 20 (search tie i 17 (logTen i.value i.den))

end Shortest

end EventQuery
