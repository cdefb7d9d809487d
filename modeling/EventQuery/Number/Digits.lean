/-
**Decimal digits of natural numbers and integers.**

Main definitions:

* `Digits.write` — the digits of a natural number, without leading zeros;
* `Digits.pad` — zeros on the left up to a width;
* `Digits.read` — the number that a list of digits denotes;
* `Digits.readInt?` — an optional sign followed by at least one digit;
* `Digits.writeInt` — the text of an integer.

Main results:

* `Digits.read_write` — the digits of a number denote it;
* `Digits.readInt?_writeInt` — reading an integer gives it back.
-/

set_option relaxedAutoImplicit false
set_option autoImplicit false

namespace EventQuery

-- Powers are those of the core library, whatever other instances are in scope.
attribute [local instance (2000)] instPowNat

namespace Digits

/-! ### Single digits -/

/-- The digit character of a number below ten. -/
def ofNat (n : Nat) : Char := Char.ofNat (48 + n)

/-- The number that a digit character stands for. -/
def value (c : Char) : Nat := c.toNat - 48

/-- An ASCII digit. -/
def isDigit (c : Char) : Bool := '0' ≤ c && c ≤ '9'

theorem ofNat_cases {n : Nat} (h : n < 10) :
    isDigit (ofNat n) = true ∧ value (ofNat n) = n := by
  have : n = 0 ∨ n = 1 ∨ n = 2 ∨ n = 3 ∨ n = 4 ∨ n = 5 ∨ n = 6 ∨ n = 7 ∨ n = 8 ∨ n = 9 := by
    omega
  rcases this with rfl | rfl | rfl | rfl | rfl | rfl | rfl | rfl | rfl | rfl <;> decide

@[simp] theorem value_ofNat {n : Nat} (h : n < 10) : value (ofNat n) = n := (ofNat_cases h).2

@[simp] theorem isDigit_ofNat {n : Nat} (h : n < 10) : isDigit (ofNat n) = true :=
  (ofNat_cases h).1

/-! ### Writing -/

/-- The digits of `n` in front of `tail`; `fuel` bounds their number. -/
def writeOnto : Nat → Nat → List Char → List Char
  | 0, _, tail => tail
  | fuel + 1, n, tail =>
      if n < 10 then ofNat n :: tail
      else writeOnto fuel (n / 10) (ofNat (n % 10) :: tail)

/-- **The decimal digits of a natural number**, without leading zeros. -/
def write (n : Nat) : List Char := writeOnto (n.log2 + 1) n []

/-- Zeros on the left until there are `width` characters. -/
def pad (width : Nat) (cs : List Char) : List Char :=
  List.replicate (width - cs.length) '0' ++ cs

/-- The digits of a number, with zeros on the left up to a width. -/
def writePadded (width n : Nat) : List Char := pad width (write n)

/-- The digits of an integer after its sign; only a negative one has a sign. -/
def writeInt (n : Int) : List Char :=
  if n < 0 then '-' :: write n.natAbs else write n.natAbs

/-! ### Reading -/

/-- The number that a list of digits denotes. -/
def read (cs : List Char) : Nat := cs.foldl (fun n c => 10 * n + value c) 0

/-- The number of a list that holds at least one digit and nothing else. -/
def readNat? (cs : List Char) : Option Nat :=
  if cs.isEmpty then none
  else if cs.all isDigit then some (read cs)
  else none

/-- **The integer of an optional sign followed by at least one digit.** -/
def readInt? : List Char → Option Int
  | '+' :: cs => (readNat? cs).map Int.ofNat
  | '-' :: cs => (readNat? cs).map fun n => -(Int.ofNat n)
  | cs => (readNat? cs).map Int.ofNat

/-- The digits at the front of a list and what follows them. -/
def span (cs : List Char) : List Char × List Char := cs.span isDigit

/-! ### The two directions -/

theorem read_append (xs : List Char) (c : Char) :
    read (xs ++ [c]) = 10 * read xs + value c := by
  simp [read]

theorem writeOnto_append (fuel n : Nat) (tail more : List Char) :
    writeOnto fuel n (tail ++ more) = writeOnto fuel n tail ++ more := by
  induction fuel generalizing n tail with
  | zero => rfl
  | succ fuel ih =>
      by_cases h : n < 10
      · simp [writeOnto, h]
      · simp only [writeOnto, h, if_false]
        rw [← ih, List.cons_append]

theorem writeOnto_eq_append (fuel n : Nat) (tail : List Char) :
    writeOnto fuel n tail = writeOnto fuel n [] ++ tail := by
  simpa using writeOnto_append fuel n [] tail

theorem read_writeOnto {fuel n : Nat} (h : n < 10 ^ fuel) : read (writeOnto fuel n []) = n := by
  induction fuel generalizing n with
  | zero => simp at h; subst h; rfl
  | succ fuel ih =>
      by_cases h10 : n < 10
      · simp [writeOnto, h10, read]
      · have hdiv : n / 10 < 10 ^ fuel := by
          rw [Nat.pow_succ] at h
          omega
        simp only [writeOnto, h10, if_false]
        rw [writeOnto_eq_append, read_append, ih hdiv, value_ofNat (by omega)]
        omega

theorem lt_pow_log2_succ (n : Nat) : n < 10 ^ (n.log2 + 1) :=
  Nat.lt_of_lt_of_le Nat.lt_log2_self (Nat.pow_le_pow_left (by decide) _)

/-- **The digits of a number denote it.** -/
theorem read_write (n : Nat) : read (write n) = n := read_writeOnto (lt_pow_log2_succ n)

theorem all_isDigit_writeOnto {fuel n : Nat} {tail : List Char} (h : tail.all isDigit = true) :
    (writeOnto fuel n tail).all isDigit = true := by
  induction fuel generalizing n tail with
  | zero => exact h
  | succ fuel ih =>
      by_cases h10 : n < 10
      · simp [writeOnto, h10, isDigit_ofNat h10] at h ⊢
        exact h
      · simp only [writeOnto, h10, if_false]
        apply ih
        have hd : isDigit (ofNat (n % 10)) = true := isDigit_ofNat (by omega)
        simp [hd] at h ⊢
        exact h

/-- The digits of a number are digits. -/
theorem all_isDigit_write (n : Nat) : (write n).all isDigit = true :=
  all_isDigit_writeOnto rfl

theorem write_ne_nil (n : Nat) : write n ≠ [] := by
  by_cases h : n < 10
  · simp [write, writeOnto, h]
  · simp only [write, writeOnto, h, if_false]
    rw [writeOnto_eq_append]
    simp

/-- The digits of a number begin with a digit. -/
theorem write_cons (n : Nat) : ∃ c cs, write n = c :: cs ∧ isDigit c = true := by
  cases h : write n with
  | nil => exact absurd h (write_ne_nil n)
  | cons c cs =>
      have hall := all_isDigit_write n
      rw [h, List.all_cons, Bool.and_eq_true] at hall
      exact ⟨c, cs, rfl, hall.1⟩

/-- Reading the digits of a number gives it back. -/
@[simp] theorem readNat?_write (n : Nat) : readNat? (write n) = some n := by
  simp [readNat?, write_ne_nil, all_isDigit_write, read_write]

/-- An integer begins with a sign or a digit. -/
theorem writeInt_cons (n : Int) :
    ∃ c cs, writeInt n = c :: cs ∧ (c = '-' ∨ isDigit c = true) := by
  obtain ⟨c, cs, hchars, hc⟩ := write_cons n.natAbs
  rw [writeInt]
  by_cases hn : n < 0
  · exact ⟨'-', _, if_pos hn, .inl rfl⟩
  · exact ⟨c, cs, by rw [if_neg hn, hchars], .inr hc⟩

/-- **Reading an integer gives it back.** -/
theorem readInt?_writeInt (n : Int) : readInt? (writeInt n) = some n := by
  rw [writeInt]
  by_cases hn : n < 0
  · have habs : -(Int.ofNat n.natAbs) = n := by
      rw [Int.ofNat_eq_natCast]
      omega
    rw [if_pos hn, readInt?, readNat?_write, Option.map_some, habs]
  · have habs : Int.ofNat n.natAbs = n := by
      rw [Int.ofNat_eq_natCast]
      omega
    obtain ⟨c, cs, hchars, hc⟩ := write_cons n.natAbs
    rw [if_neg hn, readInt?, readNat?_write, Option.map_some, habs]
    -- Digits do not begin with a sign.
    · intro ds hds
      rw [hchars] at hds
      cases hds
      exact absurd hc (by decide)
    · intro ds hds
      rw [hchars] at hds
      cases hds
      exact absurd hc (by decide)

end Digits

end EventQuery
