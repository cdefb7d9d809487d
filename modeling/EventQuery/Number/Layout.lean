/-
**Written forms of floating-point numbers.**

All written forms share the shortest digits; they differ in where positional notation ends, in the
mark of an integral value, in the look of the exponent and in the way of a tie.

Main definitions:

* `Layout` — the decisions of one form;
* `Layout.plain` — the form of a value turned into text: positional at every size;
* `Layout.literal` — the form of a constant in an expression;
* `Layout.json` — the form of a number in a JSON text;
* `Layout.write` — a number in a form.
-/

import EventQuery.Number.Digits
import EventQuery.Number.Shortest

set_option relaxedAutoImplicit false
set_option autoImplicit false

namespace EventQuery

/-- How a floating-point number is written. -/
structure Layout where
  /-- A number is positional when the power of ten of its first digit is at least this. -/
  lowest : Option Int
  /-- A number is positional when the power of ten of its first digit is below this. -/
  highest : Option Int
  /-- An integral value in positional notation ends in `.0`. -/
  pointZero : Bool
  /-- A positive exponent has a plus sign. -/
  plusSign : Bool
  /-- Which of two decimals at the same distance is written. -/
  tie : Tie

namespace Layout

/-- The form of a value turned into text: always positional, an integral value without a point. -/
def plain : Layout := ⟨none, none, false, false, .up⟩

/-- The form of a constant: positional from `10 ^ -4` up to below `10 ^ 16`. -/
def literal : Layout := ⟨some (-4), some 16, true, false, .up⟩

/-- The form in a JSON text: positional from `10 ^ -5` up to below `10 ^ 16`. -/
def json : Layout := ⟨some (-5), some 16, true, true, .even⟩

/-- Positional notation of `digits · 10 ^ exponent`. -/
def positional (l : Layout) (digits : List Char) (exponent : Int) : List Char :=
  let tail := if l.pointZero then ['.', '0'] else []
  if 0 ≤ exponent then digits ++ List.replicate exponent.toNat '0' ++ tail
  else
    let places := (-exponent).toNat
    if places < digits.length then
      let whole := digits.length - places
      digits.take whole ++ '.' :: digits.drop whole
    else '0' :: '.' :: List.replicate (places - digits.length) '0' ++ digits

/-- Exponent notation; `first` is the power of ten of the first digit. -/
def scientific (l : Layout) (digits : List Char) (first : Int) : List Char :=
  let mantissa :=
    match digits with
    | [] => []
    | [d] => [d]
    | d :: ds => d :: '.' :: ds
  let sign := if l.plusSign && 0 ≤ first then ['+'] else []
  mantissa ++ 'e' :: sign ++ Digits.writeInt first

/-- The magnitude `digits · 10 ^ exponent` in a form. -/
def magnitude (l : Layout) (d : Shortest.Decimal) : List Char :=
  let digits := Digits.write d.digits
  let first := d.exponent + digits.length - 1
  let inside := d.digits == 0
    || ((l.lowest.all fun k => k ≤ first) && (l.highest.all fun k => first < k))
  if inside then l.positional digits d.exponent else l.scientific digits first

/-- **A number in a form.** -/
def write (l : Layout) (x : Float) : String :=
  match Binary.parts x with
  | .nan => "NaN"
  | .infinite negative => if negative then "-inf" else "inf"
  | .finite negative mantissa exponent =>
      let text := l.magnitude (Shortest.digits l.tie mantissa exponent)
      String.ofList (if negative then '-' :: text else text)

end Layout

end EventQuery
