/-
**Hexadecimal digits.**

Digits are read in either case and written in lower case.

Main definitions:

* `Hex.value?` — the value of a digit;
* `Hex.read?` — the number that a run of digits denotes;
* `Hex.write` — a number in a given number of digits.
-/

set_option relaxedAutoImplicit false
set_option autoImplicit false

namespace EventQuery

-- Powers are those of the core library, whatever other instances are in scope.
attribute [local instance (2000)] instPowNat

namespace Hex

/-- The value of a digit of either case. -/
def value? (c : Char) : Option Nat :=
  if '0' ≤ c ∧ c ≤ '9' then some (c.toNat - 48)
  else if 'a' ≤ c ∧ c ≤ 'f' then some (c.toNat - 87)
  else if 'A' ≤ c ∧ c ≤ 'F' then some (c.toNat - 55)
  else none

/-- The digit of a value below sixteen, in lower case. -/
def digit (n : Nat) : Char := if n < 10 then Char.ofNat (48 + n) else Char.ofNat (87 + n)

/-- The number that further digits denote after a number read so far. -/
def readFrom? (n : Nat) : List Char → Option Nat
  | [] => some n
  | c :: cs => (value? c).bind fun d => readFrom? (16 * n + d) cs

/-- **The number that a run of digits denotes**; none when another character occurs. -/
def read? (cs : List Char) : Option Nat := readFrom? 0 cs

/-- **The last `width` digits of a number**, the most significant first. -/
def write : Nat → Nat → List Char
  | 0, _ => []
  | width + 1, n => digit (n / 16 ^ width % 16) :: write width n

@[simp] theorem length_write (width n : Nat) : (write width n).length = width := by
  induction width with
  | zero => rfl
  | succ width ih => simp [write, ih]

theorem value?_digit {n : Nat} (h : n < 16) : value? (digit n) = some n := by
  revert n
  decide

/-- **The digits of a number denote it**, up to the places that were written. -/
theorem readFrom?_write (width n m : Nat) :
    readFrom? m (write width n) = some (16 ^ width * m + n % 16 ^ width) := by
  induction width generalizing m with
  | zero => simp [write, readFrom?, Nat.mod_one]
  | succ width ih =>
      have hdigit : n / 16 ^ width % 16 < 16 := Nat.mod_lt _ (by decide)
      have hsplit : n % 16 ^ (width + 1) = 16 ^ width * (n / 16 ^ width % 16) + n % 16 ^ width := by
        rw [Nat.pow_succ, Nat.mod_mul, Nat.add_comm]
      rw [write, readFrom?, value?_digit hdigit, Option.bind_some, ih, hsplit]
      congr 1
      rw [Nat.pow_succ, Nat.mul_add, ← Nat.add_assoc]
      congr 2
      rw [← Nat.mul_assoc]

end Hex

end EventQuery
