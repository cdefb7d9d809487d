/-
**Sets of characters given by ranges of code points.**

A property of characters that a standard fixes by a long list is kept as one sorted array
`#[lo₀, hi₀, lo₁, hi₁, …]` with inclusive ends, and read by bisection.

Main definitions:

* `Ranges.mem` — membership of a code point in such an array.
-/

set_option relaxedAutoImplicit false
set_option autoImplicit false

namespace EventQuery

/-- A sorted array of inclusive bounds, two for each range of code points. -/
abbrev Ranges := Array Nat

namespace Ranges

/-- The number of bounds among `table[lo], …, table[hi - 1]` that lie below `n`, counted from `lo`
by bisection; `fuel` bounds the number of halvings. -/
def countBelow (table : Ranges) (n : Nat) : Nat → Nat → Nat → Nat
  | 0, lo, _ => lo
  | fuel + 1, lo, hi =>
      if lo < hi then
        let mid := (lo + hi) / 2
        match table[mid]? with
        | none => lo
        | some bound =>
            if bound < n then countBelow table n fuel (mid + 1) hi
            else countBelow table n fuel lo mid
      else lo

/-- **Membership of a code point.**  With `k` bounds below `n`, the number lies inside a range when
`k` is odd (a lower end is passed and its upper end is not) or when the next bound is `n`, which is
then a lower end. -/
def mem (table : Ranges) (n : Nat) : Bool :=
  let k := countBelow table n 32 0 table.size
  k % 2 == 1 || table[k]? == some n

/-- Membership of a character. -/
def memChar (table : Ranges) (c : Char) : Bool := table.mem c.toNat

@[simp] theorem mem_empty (n : Nat) : mem #[] n = false := by
  simp [mem, countBelow]

end Ranges

end EventQuery
