/-
**The exact value of a binary floating-point number.**

A finite `Float` is `± mantissa · 2 ^ exponent` for integers; everything that core leaves opaque
(rounding to integers, remainders, conversion from a ratio) is computed here on that exact value.

Main definitions:

* `Binary.parts` — the sign, mantissa and exponent, or the kind of a number that is not finite;
* `Binary.ofRatio` — the number nearest to a ratio, a tie going to the even mantissa;
* `Binary.ofInt` — the number nearest to an integer;
* `Binary.truncate?`, `Binary.floor`, `Binary.roundHalfAway?` — the three roundings to an integer;
* `Binary.remainder` — the remainder of the truncated quotient, exact.
-/

set_option relaxedAutoImplicit false
set_option autoImplicit false

namespace EventQuery

-- Powers are those of the core library, whatever other instances are in scope.
attribute [local instance (2000)] instPowNat

namespace Binary

/-! ### Taking a number apart -/

/-- What a number is made of. -/
inductive Parts where
  | nan
  | infinite (negative : Bool)
  | finite (negative : Bool) (mantissa : Nat) (exponent : Int)
  deriving DecidableEq, Repr

/-- The bit that holds the sign. -/
def signBit : Nat := 0x8000000000000000

/-- The leading bit of a mantissa, which is not stored. -/
def leadingBit : Nat := 0x10000000000000

/-- The parts held by 64 bits: one sign bit, eleven of exponent, fifty-two of mantissa. -/
def partsOfBits (bits : Nat) : Parts :=
  let negative := decide (signBit ≤ bits)
  let field : Nat := bits / leadingBit % 2048
  let fraction : Nat := bits % leadingBit
  if field = 2047 then if fraction = 0 then .infinite negative else .nan
  else if field = 0 then .finite negative fraction (-1074)
  else .finite negative (leadingBit + fraction) ((field : Int) - 1075)

/-- **The parts of a number.** -/
def parts (x : Float) : Parts := partsOfBits x.toBits.toNat

/-- The number is neither infinite nor undefined. -/
def isFinite (x : Float) : Bool :=
  match parts x with
  | .finite .. => true
  | _ => false

/-- The undefined number. -/
def nan : Float := Float.ofBits 0x7FF8000000000000

/-- The infinite number of a sign. -/
def infinity (negative : Bool) : Float :=
  Float.ofBits (if negative then 0xFFF0000000000000 else 0x7FF0000000000000)

/-! ### Rounding a ratio -/

/-- The integer nearest to `num / den`, a tie going to the even one. -/
def nearestEven (num den : Nat) : Nat :=
  let quotient := num / den
  let twice := 2 * (num % den)
  if twice < den then quotient
  else if den < twice then quotient + 1
  else quotient + quotient % 2

/-- The fraction `num / (den · 2 ^ exponent)`. -/
def scaled (num den : Nat) (exponent : Int) : Nat × Nat :=
  if 0 ≤ exponent then (num, den * 2 ^ exponent.toNat) else (num * 2 ^ (-exponent).toNat, den)

/-- The bits of the magnitude nearest to `num / den`.  The exponent is the least one, not below
`-1074`, for which the mantissa stays below `2 ^ 53`; a mantissa rounded up to `2 ^ 53` carries into
the exponent field, and past the last exponent the magnitude is infinite. -/
def magnitudeBits (num den : Nat) : Nat :=
  if num = 0 then 0
  else
    let low : Int := max ((num.log2 : Int) - den.log2 - 53) (-1074)
    let (a, b) := scaled num den low
    let exponent := if a / b < 2 * leadingBit then low else low + 1
    let (c, d) := scaled num den exponent
    let bits := (exponent + 1074).toNat * leadingBit + nearestEven c d
    if bits < 2047 * leadingBit then bits else 2047 * leadingBit

/-- **The number nearest to a ratio**, a tie going to the even mantissa. -/
def ofRatio (negative : Bool) (num den : Nat) : Float :=
  let bits := magnitudeBits num den
  Float.ofBits (UInt64.ofNat (if negative then signBit + bits else bits))

/-- The number nearest to an integer. -/
def ofInt (n : Int) : Float := ofRatio (decide (n < 0)) n.natAbs 1

/-- The number nearest to `digits · 10 ^ exponent`.  A magnitude outside `10 ^ ±350` is infinite or
zero before any power is taken; `count` is the number of decimal digits. -/
def ofDecimal (negative : Bool) (digits count : Nat) (exponent : Int) : Float :=
  if digits = 0 then ofRatio negative 0 1
  else if (count : Int) + exponent < -350 then ofRatio negative 0 1
  else if 350 < (count : Int) + exponent then infinity negative
  else if 0 ≤ exponent then ofRatio negative (digits * 10 ^ exponent.toNat) 1
  else ofRatio negative digits (10 ^ (-exponent).toNat)

/-! ### Rounding to an integer -/

/-- The magnitude as a fraction. -/
def fraction (mantissa : Nat) (exponent : Int) : Nat × Nat :=
  if 0 ≤ exponent then (mantissa * 2 ^ exponent.toNat, 1) else (mantissa, 2 ^ (-exponent).toNat)

/-- A signed integer from a sign and a magnitude. -/
def signed (negative : Bool) (n : Nat) : Int := if negative then -(n : Int) else n

/-- A finite number toward zero. -/
def truncate? (x : Float) : Option Int :=
  match parts x with
  | .finite negative mantissa exponent =>
      let (num, den) := fraction mantissa exponent
      some (signed negative (num / den))
  | _ => none

/-- A finite number to the nearest integer, a half going away from zero. -/
def roundHalfAway? (x : Float) : Option Int :=
  match parts x with
  | .finite negative mantissa exponent =>
      let (num, den) := fraction mantissa exponent
      some (signed negative ((2 * num + den) / (2 * den)))
  | _ => none

/-- The greatest integer not above a number, as a number; what is not finite stays. -/
def floor (x : Float) : Float :=
  match parts x with
  | .finite negative mantissa exponent =>
      let (num, den) := fraction mantissa exponent
      if negative then ofRatio true ((num + den - 1) / den) 1 else ofRatio false (num / den) 1
  | _ => x

/-- **The remainder of the truncated quotient**, with the sign of the dividend. -/
def remainder (x y : Float) : Float :=
  match parts x, parts y with
  | .finite negative m e, .finite _ n f =>
      if n = 0 then nan
      else
        let low := min e f
        let a := m * 2 ^ (e - low).toNat
        let b := n * 2 ^ (f - low).toNat
        let (num, den) := fraction (a % b) low
        ofRatio negative num den
  | .finite .., .infinite _ => x
  | _, _ => nan

/-- The order of two numbers; none when one of them is undefined. -/
def compare? (x y : Float) : Option Ordering :=
  if x < y then some .lt else if x == y then some .eq else if y < x then some .gt else none

end Binary

end EventQuery
