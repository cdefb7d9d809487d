/-
**Reading decimals.**

A decimal literal is an optional sign and digits with an optional point; underscores may stand after
the first digit.  Digits past the 28th place, or past 96 bits in the fraction, are rounded off with
a half going up.  An exponent moves the point, and what cannot be read either way is read as a
binary number.

Main definitions:

* `Decimal.readPlain?` — without exponent;
* `Decimal.readScientific?` — with exponent;
* `Decimal.ofFloat?` — from a binary number, with the digits that binary precision vouches for;
* `Decimal.read?` — all of them in turn.
-/

import EventQuery.Decimal.Basic
import EventQuery.Text.Blank

set_option relaxedAutoImplicit false
set_option autoImplicit false

namespace EventQuery

-- Powers are those of the core library, whatever other instances are in scope.
attribute [local instance (2000)] instPowNat

namespace Decimal

/-! ### Plain notation -/

/-- Finish a fraction at a digit that no longer fits: it rounds the mantissa, a half going up, and
a mantissa that outgrows 96 bits gives up its last place. -/
def finishRounded? (negative : Bool) (mantissa scale digit : Nat) : Option Decimal :=
  let rounded := if 5 ≤ digit then mantissa + 1 else mantissa
  if rounded < limit then unsignedZero? negative rounded scale
  else if scale = 0 then none
  else unsignedZero? negative ((rounded + 4) / 10) (scale - 1)

/-- Read the digits after the sign.  `started` says that a digit has been read, `point` that the
point has. -/
def readDigits? (negative started point : Bool) (mantissa scale : Nat) :
    List Char → Option Decimal
  | [] => if started then unsignedZero? negative mantissa scale else none
  | c :: cs =>
      if Digits.isDigit c then
        let digit := Digits.value c
        let next := 10 * mantissa + digit
        if point && (28 ≤ scale || limit ≤ next) then finishRounded? negative mantissa scale digit
        else if limit ≤ next then none
        else readDigits? negative true point next (if point then scale + 1 else scale) cs
      else if c = '.' && !point then readDigits? negative started true mantissa scale cs
      else if c = '_' && started then readDigits? negative started point mantissa scale cs
      else none

/-- **A decimal without exponent.** -/
def readPlain? : List Char → Option Decimal
  | '-' :: cs => readDigits? true false false 0 0 cs
  | '+' :: cs => readDigits? false false false 0 0 cs
  | cs => readDigits? false false false 0 0 cs

/-! ### Exponents -/

/-- The parts before and after the first letter `e` of either case. -/
def splitExponent : List Char → Option (List Char × List Char)
  | [] => none
  | c :: cs =>
      if c = 'e' || c = 'E' then some ([], cs)
      else (splitExponent cs).map fun (base, exponent) => (c :: base, exponent)

/-- Digits after an optional plus sign. -/
def readUnsigned? : List Char → Option Nat
  | '+' :: cs => Digits.readNat? cs
  | cs => Digits.readNat? cs

/-- **A decimal with exponent.**  A negative exponent adds places, a positive one takes places away
and then adds zeros to the mantissa. -/
def readScientific? (cs : List Char) : Option Decimal :=
  match splitExponent cs with
  | none => none
  | some (base, '-' :: exponent) => do
      let d ← readPlain? base
      let e ← readUnsigned? exponent
      make? d.negative d.mantissa (d.scale + e)
  | some (base, exponent) => do
      let d ← readPlain? base
      let e ← readUnsigned? exponent
      if e ≤ d.scale then make? d.negative d.mantissa (d.scale - e)
      else if 28 < e then none
      else make? d.negative (d.mantissa * 10 ^ (e - d.scale)) 0

/-! ### Binary numbers -/

/-- Multiply `mantissa · 10 ^ ten` by `5 ^ five / 10 ^ five · 2 ^ five`, one factor at a time: a
factor two is taken out of an even mantissa; else a factor five goes in while it fits, and the last
bit is lost when it does not. -/
def absorbFives : Nat → Nat → Int → Nat × Int
  | 0, mantissa, ten => (mantissa, ten)
  | five + 1, mantissa, ten =>
      if mantissa % 2 = 0 then absorbFives five (mantissa / 2) (ten + 1)
      else if 5 * mantissa < limit then absorbFives five (5 * mantissa) ten
      else absorbFives five (mantissa / 2) (ten + 1)

/-- Divide by `5 ^ five`: a factor two goes in while it fits, and a factor five is divided out when
it does not. -/
def releaseFives : Nat → Nat → Int → Nat × Int
  | 0, mantissa, ten => (mantissa, ten)
  | five + 1, mantissa, ten =>
      if 2 * mantissa < limit then releaseFives five (2 * mantissa) (ten - 1)
      else releaseFives five (mantissa / 5) ten

/-- Multiply a mantissa by ten until no positive power of ten is left. -/
def growTens : Nat → Nat → Option Nat
  | 0, mantissa => some mantissa
  | ten + 1, mantissa => if 10 * mantissa < limit then growTens ten (10 * mantissa) else none

/-- Divide by ten, a half going up. -/
def tenthRounded (mantissa : Nat) : Nat :=
  if 5 ≤ mantissa % 10 then mantissa / 10 + 1 else mantissa / 10

/-- Give up places until at most 28 are left; a mantissa that vanishes gives up all of them. -/
def shedPlaces : Nat → Nat → Nat → Nat × Nat
  | 0, mantissa, places => (mantissa, places)
  | fuel + 1, mantissa, places =>
      if places ≤ 28 then (mantissa, places)
      else if mantissa / 10 = 0 then (0, 0)
      else shedPlaces fuel (tenthRounded mantissa) (places - 1)

/-- Give up places until the mantissa has at most 52 bits, which is what binary precision vouches
for. -/
def shedExcess : Nat → Nat → Nat × Nat
  | mantissa, 0 => (mantissa, 0)
  | mantissa, places + 1 =>
      if Binary.leadingBit ≤ mantissa then shedExcess (tenthRounded mantissa) places
      else (mantissa, places + 1)

/-- Give up places that hold a zero. -/
def shedZeros : Nat → Nat → Nat × Nat
  | mantissa, 0 => (mantissa, 0)
  | mantissa, places + 1 =>
      if mantissa % 10 = 0 then shedZeros (mantissa / 10) places else (mantissa, places + 1)

/-- **The decimal of a binary number** below `limit`, with the digits that binary precision vouches
for. -/
def ofFloat? (x : Float) : Option Decimal :=
  match Binary.parts x with
  | .finite negative mantissa exponent =>
      if mantissa = 0 then make? negative 0 0
      else if mantissa.log2 + exponent ≥ 96 then none
      else
        let (m, ten) :=
          if exponent < 0 then absorbFives (-exponent).toNat mantissa exponent
          else releaseFives exponent.toNat mantissa exponent
        if 0 < ten then do
          let m ← growTens ten.toNat m
          make? negative m 0
        else
          let (m, places) := shedPlaces 2000 m (-ten).toNat
          let (m, places) := shedExcess m places
          let (m, places) := shedZeros m places
          make? negative m places
  | _ => none

/-! ### All notations -/

/-- **The decimal that a text denotes**: plain, with an exponent, or by way of a binary number. -/
def read? (s : String) : Option Decimal :=
  let cs := Text.strip s.toList
  (readPlain? cs <|> readScientific? cs) <|> (Number.readFloat? cs).bind ofFloat?

end Decimal

end EventQuery
