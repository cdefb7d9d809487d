/-
**Digits as texts.**

Main definitions:

* `Digits.IsNumber` — at least one digit and nothing else;
* `Digits.Signed` — a number with an optional sign, and the integer it denotes.

Main results:

* `Digits.write_ne_zero_cons` — numbers are written without leading zeros;
* `Digits.length_writePadded`, `Digits.read_writePadded` — **a number written to a width** has this
  width and is read back;
* `Digits.read_append_zeros` — zeros behind a number multiply it;
* `Digits.readInt?_eq_some_iff` — what is read as an integer.
-/

import EventQuery.Number.Digits
import Mathlib.Data.List.Basic

set_option relaxedAutoImplicit false
set_option autoImplicit false

namespace EventQuery

-- Powers are those of the core library, whatever other instances are in scope.
attribute [local instance (2000)] instPowNat

namespace Digits

/-! ### The number of digits -/

theorem length_writeOnto_le {fuel n width : Nat} (h : n < 10 ^ (width + 1)) :
    (writeOnto fuel n []).length ≤ width + 1 := by
  induction fuel generalizing n width with
  | zero => exact Nat.zero_le _
  | succ fuel ih =>
      by_cases h10 : n < 10
      · rw [writeOnto, if_pos h10]
        exact Nat.le_add_left 1 width
      · rw [writeOnto, if_neg h10, writeOnto_eq_append, List.length_append, List.length_singleton]
        cases width with
        | zero => exact absurd h h10
        | succ width =>
            rw [Nat.pow_succ] at h
            have hdiv : n / 10 < 10 ^ (width + 1) := by omega
            exact Nat.succ_le_succ (ih hdiv)

/-- **A number written to a width** that is enough for it has this width. -/
theorem length_writePadded {width n : Nat} (hwidth : 0 < width) (h : n < 10 ^ width) :
    (writePadded width n).length = width := by
  obtain ⟨width, rfl⟩ := Nat.exists_eq_succ_of_ne_zero (Nat.ne_of_gt hwidth)
  have hle : (write n).length ≤ width + 1 := length_writeOnto_le h
  rw [writePadded, pad, List.length_append, List.length_replicate]
  omega

theorem all_isDigit_writePadded (width n : Nat) : (writePadded width n).all isDigit = true := by
  rw [writePadded, pad, List.all_append, all_isDigit_write, Bool.and_true, List.all_eq_true]
  intro c hc
  rw [List.eq_of_mem_replicate hc]
  decide

theorem writePadded_ne_nil (width n : Nat) : writePadded width n ≠ [] :=
  List.append_ne_nil_of_right_ne_nil _ (write_ne_nil n)

/-! ### Leading zeros -/

/-- The digits of a positive number begin with another digit than zero. -/
theorem writeOnto_head {fuel n : Nat} (hn : 0 < n) (hfuel : n < 10 ^ fuel) (tail : List Char) :
    ∃ c cs, writeOnto fuel n tail = c :: cs ∧ c ≠ '0' := by
  induction fuel generalizing n tail with
  | zero => exact absurd hfuel (by simp; omega)
  | succ fuel ih =>
      by_cases h10 : n < 10
      · refine ⟨ofNat n, tail, by rw [writeOnto, if_pos h10], fun h => ?_⟩
        have hvalue := value_ofNat h10
        rw [h] at hvalue
        exact absurd hvalue (by change 0 ≠ n; omega)
      · rw [writeOnto, if_neg h10]
        rw [Nat.pow_succ] at hfuel
        exact ih (by omega) (by omega) _

/-- **There are no leading zeros.** -/
theorem write_ne_zero_cons (n : Nat) (c : Char) (cs : List Char) : write n ≠ '0' :: c :: cs := by
  intro h
  by_cases hn : n = 0
  · subst hn
    have hzero : write 0 = ['0'] := by decide
    rw [hzero] at h
    cases h
  · obtain ⟨d, ds, hd, hne⟩ := writeOnto_head (Nat.pos_of_ne_zero hn) (lt_pow_log2_succ n) []
    rw [write] at h
    rw [h] at hd
    cases hd
    exact hne rfl

/-! ### What digits denote -/

theorem foldl_read (cs : List Char) (n : Nat) :
    cs.foldl (fun n c => 10 * n + value c) n = n * 10 ^ cs.length + read cs := by
  induction cs generalizing n with
  | nil => simp [read]
  | cons c cs ih =>
      have hread : read (c :: cs) = (10 * 0 + value c) * 10 ^ cs.length + read cs := by
        rw [read, List.foldl_cons, ih]
      rw [List.foldl_cons, ih, hread, List.length_cons, Nat.pow_succ, Nat.add_mul, Nat.mul_zero,
        Nat.zero_add, Nat.mul_comm 10 n, Nat.mul_assoc, Nat.mul_comm 10, Nat.add_assoc]

theorem read_append_list (xs ys : List Char) :
    read (xs ++ ys) = read xs * 10 ^ ys.length + read ys := by
  rw [read, List.foldl_append, foldl_read]
  rfl

theorem read_zeros (k : Nat) : read (List.replicate k '0') = 0 := by
  induction k with
  | zero => rfl
  | succ k ih => rw [List.replicate_succ', read_append, ih]; rfl

/-- Zeros behind a number multiply it. -/
theorem read_append_zeros (cs : List Char) (k : Nat) :
    read (cs ++ List.replicate k '0') = read cs * 10 ^ k := by
  rw [read_append_list, read_zeros, List.length_replicate, Nat.add_zero]

/-- **A number written to a width is read back.** -/
@[simp] theorem read_writePadded (width n : Nat) : read (writePadded width n) = n := by
  rw [writePadded, pad, read_append_list, read_zeros, Nat.zero_mul, Nat.zero_add, read_write]

/-! ### Numbers with an optional sign -/

/-- **At least one digit and nothing else.** -/
def IsNumber (cs : List Char) : Prop := cs ≠ [] ∧ cs.all isDigit = true

instance (cs : List Char) : Decidable (IsNumber cs) := inferInstanceAs (Decidable (_ ∧ _))

theorem isNumber_write (n : Nat) : IsNumber (write n) := ⟨write_ne_nil n, all_isDigit_write n⟩

theorem isNumber_writePadded (width n : Nat) : IsNumber (writePadded width n) :=
  ⟨writePadded_ne_nil width n, all_isDigit_writePadded width n⟩

variable {cs : List Char} {c : Char} {n : Int}

theorem IsNumber.isDigit (h : IsNumber cs) (hc : c ∈ cs) : Digits.isDigit c = true :=
  List.all_eq_true.1 h.2 c hc

theorem IsNumber.notMem (h : IsNumber cs) (hc : Digits.isDigit c = false) : c ∉ cs := by
  intro hmem
  rw [h.isDigit hmem] at hc
  cases hc

theorem readNat?_eq_some_iff {n : Nat} : readNat? cs = some n ↔ IsNumber cs ∧ n = read cs := by
  rw [readNat?, IsNumber]
  by_cases hne : cs = []
  · simp [hne]
  · by_cases hall : cs.all Digits.isDigit = true
    · rw [if_neg (by simpa using hne), if_pos hall, Option.some.injEq]
      exact ⟨fun h => ⟨⟨hne, hall⟩, h.symm⟩, fun h => h.2.symm⟩
    · simp [hne, hall]

/-- **A number with an optional sign** denotes an integer. -/
inductive Signed : List Char → Int → Prop
  | plain {cs : List Char} (h : IsNumber cs) : Signed cs (read cs)
  | plus {cs : List Char} (h : IsNumber cs) : Signed ('+' :: cs) (read cs)
  | minus {cs : List Char} (h : IsNumber cs) : Signed ('-' :: cs) (-(read cs : Int))

/-- **What is read as an integer** is a number with an optional sign. -/
theorem readInt?_eq_some_iff : readInt? cs = some n ↔ Signed cs n := by
  have hmap {ds : List Char} {f : Nat → Int} :
      (readNat? ds).map f = some n ↔ IsNumber ds ∧ f (read ds) = n := by
    rw [Option.map_eq_some_iff]
    constructor
    · rintro ⟨k, hk, rfl⟩
      obtain ⟨hds, rfl⟩ := readNat?_eq_some_iff.1 hk
      exact ⟨hds, rfl⟩
    · rintro ⟨hds, rfl⟩
      exact ⟨read ds, readNat?_eq_some_iff.2 ⟨hds, rfl⟩, rfl⟩
  constructor
  · intro h
    unfold readInt? at h
    split at h
    · obtain ⟨hds, rfl⟩ := hmap.1 h
      exact .plus hds
    · obtain ⟨hds, rfl⟩ := hmap.1 h
      exact .minus hds
    · obtain ⟨hds, rfl⟩ := hmap.1 h
      exact .plain hds
  · intro h
    cases h with
    | plus hds => exact hmap.2 ⟨hds, rfl⟩
    | minus hds => exact hmap.2 ⟨hds, rfl⟩
    | plain hds =>
        have hsign {d : Char} (hd : Digits.isDigit d = false) (ds : List Char) : cs ≠ d :: ds := by
          rintro rfl
          exact hds.notMem hd List.mem_cons_self
        unfold readInt?
        split
        · exact absurd rfl (hsign (by decide) _)
        · exact absurd rfl (hsign (by decide) _)
        · exact hmap.2 ⟨hds, rfl⟩

end Digits

end EventQuery
