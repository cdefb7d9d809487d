/-
**Bisection finds the range of a code point.**

A table of ranges is the list of their ends in ascending order.  Bisection counts the ends below a
code point.  The count is odd where a range has begun and has not ended, and it is the place of a
lower end where the code point is one.

Main definitions:

* `Ranges.WellFormed` — the ends ascend and come in pairs;
* `Ranges.Window` — what a bisection knows between two halvings;
* `Ranges.covers` — the ranges hold stretches of code points, each one of them in a single range.

Main results:

* `Ranges.window_countBelow` — a bisection counts the ends below a code point;
* `Ranges.mem_iff` — **a code point belongs to a table exactly if it lies in one of its ranges**;
* `Ranges.mem_of_covers` — whole stretches of code points at once.
-/

import Mathlib
import EventQuery.Text.Ranges

set_option relaxedAutoImplicit false
set_option autoImplicit false

namespace EventQuery

namespace Ranges

/-- **A table of ranges**: the ends ascend and come in pairs, and bisection has halvings enough. -/
structure WellFormed (table : Ranges) : Prop where
  ascending : table.toList.IsChain (· ≤ ·)
  pairs : table.size % 2 = 0
  small : table.size < 2 ^ 32

variable {table : Ranges} {n : Nat}

/-- What comes later in a table is not less. -/
theorem WellFormed.le (h : table.WellFormed) {i j a b : Nat} (hij : i ≤ j)
    (ha : table[i]? = some a) (hb : table[j]? = some b) : a ≤ b := by
  obtain ⟨hi, rfl⟩ := Array.getElem?_eq_some_iff.1 ha
  obtain ⟨hj, rfl⟩ := Array.getElem?_eq_some_iff.1 hb
  rcases Nat.lt_or_eq_of_le hij with hlt | rfl
  · have hpairwise := List.pairwise_iff_getElem.1 (List.isChain_iff_pairwise.1 h.ascending)
    exact hpairwise i j hi hj hlt
  · exact Nat.le_refl _

/-- **What a bisection knows**: the ends before a place are below the code point, and those from
another place on are not. -/
structure Window (table : Ranges) (n lo hi : Nat) : Prop where
  le : lo ≤ hi
  inside : hi ≤ table.size
  below : ∀ i < lo, ∀ a, table[i]? = some a → a < n
  above : ∀ i ≥ hi, ∀ a, table[i]? = some a → n ≤ a

/-- Nothing is known at first. -/
theorem window_all (table : Ranges) (n : Nat) : Window table n 0 table.size where
  le := Nat.zero_le _
  inside := Nat.le_refl _
  below i hlt := absurd hlt (Nat.not_lt_zero i)
  above _ hge _ ha := by
    obtain ⟨hlt, -⟩ := Array.getElem?_eq_some_iff.1 ha
    omega

/-- The halving that passes an end below the code point. -/
theorem Window.raise {lo hi mid a : Nat} (w : Window table n lo hi) (h : table.WellFormed)
    (hmid : mid < hi) (ha : table[mid]? = some a) (han : a < n) : Window table n (mid + 1) hi where
  le := hmid
  inside := w.inside
  below _ hlt _ hb := Nat.lt_of_le_of_lt (h.le (Nat.le_of_lt_succ hlt) hb ha) han
  above := w.above

/-- The halving that stops before one that is not below it. -/
theorem Window.lower {lo hi mid a : Nat} (w : Window table n lo hi) (h : table.WellFormed)
    (hlo : lo ≤ mid) (ha : table[mid]? = some a) (han : n ≤ a) : Window table n lo mid where
  le := hlo
  inside := by
    obtain ⟨hlt, -⟩ := Array.getElem?_eq_some_iff.1 ha
    omega
  below := w.below
  above _ hge _ hb := Nat.le_trans han (h.le hge ha hb)

/-- **The count of a bisection** closes the window. -/
theorem window_countBelow (h : table.WellFormed) (fuel : Nat) {lo hi : Nat}
    (w : Window table n lo hi) (hfuel : hi - lo < 2 ^ fuel) :
    Window table n (countBelow table n fuel lo hi) (countBelow table n fuel lo hi) := by
  induction fuel generalizing lo hi with
  | zero =>
      have hclosed : lo = hi := by
        have := w.le
        omega
      subst hclosed
      exact w
  | succ fuel ih =>
      rw [countBelow]
      by_cases hlt : lo < hi
      · have hmid : (lo + hi) / 2 < table.size := by
          have := w.inside
          omega
        have ha : table[(lo + hi) / 2]? = some table[(lo + hi) / 2] :=
          Array.getElem?_eq_getElem hmid
        rw [if_pos hlt]
        simp only [ha]
        by_cases han : table[(lo + hi) / 2] < n
        · rw [if_pos han]
          exact ih (w.raise h (by omega) ha han) (by omega)
        · rw [if_neg han]
          exact ih (w.lower h (by omega) ha (Nat.le_of_not_lt han)) (by omega)
      · rw [if_neg hlt]
        have hclosed : lo = hi := by
          have := w.le
          omega
        subst hclosed
        exact w

/-- **A code point belongs to a table exactly if it lies in one of its ranges.** -/
theorem mem_iff (h : table.WellFormed) : table.mem n = true ↔
    ∃ i lo hi, table[2 * i]? = some lo ∧ table[2 * i + 1]? = some hi ∧ lo ≤ n ∧ n ≤ hi := by
  obtain ⟨-, hsize, hbelow, habove⟩ := window_countBelow h 32 (window_all table n) h.small
  have hpairs := h.pairs
  rw [mem]
  generalize countBelow table n 32 0 table.size = k at *
  simp only [Bool.or_eq_true, beq_iff_eq]
  constructor
  · intro hk
    rcases Nat.mod_two_eq_zero_or_one k with heven | hodd
    · -- the first end that is not below is the lower end of a range
      have hn : table[k]? = some n := hk.resolve_left (by omega)
      obtain ⟨hlt, -⟩ := Array.getElem?_eq_some_iff.1 hn
      have hnext : k + 1 < table.size := by omega
      have hk2 : 2 * (k / 2) = k := by omega
      refine ⟨k / 2, n, table[k + 1], by rw [hk2, hn], ?_, Nat.le_refl n, ?_⟩
      · rw [hk2, Array.getElem?_eq_getElem hnext]
      · exact habove (k + 1) (by omega) _ (Array.getElem?_eq_getElem hnext)
    · -- it is the upper end of one
      have hlt : k < table.size := by omega
      have hk2 : 2 * (k / 2) + 1 = k := by omega
      have hlower : 2 * (k / 2) < table.size := by omega
      refine ⟨k / 2, table[2 * (k / 2)], table[k], Array.getElem?_eq_getElem hlower, ?_, ?_, ?_⟩
      · rw [hk2, Array.getElem?_eq_getElem hlt]
      · exact Nat.le_of_lt (hbelow _ (by omega) _ (Array.getElem?_eq_getElem hlower))
      · exact habove k (Nat.le_refl k) _ (Array.getElem?_eq_getElem hlt)
  · rintro ⟨i, lo, hi, hlo, hhi, hle, hge⟩
    have hk : k ≤ 2 * i + 1 := Nat.le_of_not_lt fun hlt =>
      absurd (hbelow _ hlt _ hhi) (Nat.not_lt_of_le hge)
    rcases Nat.lt_or_eq_of_le hle with hlt | rfl
    · have hk' : 2 * i < k := Nat.lt_of_not_le fun hle' =>
        absurd (habove _ hle' _ hlo) (Nat.not_le_of_lt hlt)
      exact .inl (by omega)
    · have hk' : k ≤ 2 * i := Nat.le_of_not_lt fun hlt =>
        absurd (hbelow _ hlt _ hlo) (Nat.lt_irrefl _)
      obtain ⟨hsize', -⟩ := Array.getElem?_eq_some_iff.1 hlo
      have hn : table[k]? = some table[k] := Array.getElem?_eq_getElem (by omega)
      refine .inr (hn.trans (congrArg some (Nat.le_antisymm ?_ ?_)))
      · exact h.le hk' hn hlo
      · exact habove k (Nat.le_refl k) _ hn

/-! ### Stretches of code points -/

/-- **The ranges hold stretches of code points**, the ends of the ranges being given as a list: each
range takes off the stretches that it holds, as far as they come first. -/
def covers : List Nat → List (Nat × Nat) → Bool
  | lo :: hi :: rest, stretches =>
      covers rest (stretches.dropWhile fun s => lo ≤ s.1 && s.2 ≤ hi)
  | _, stretches => stretches.isEmpty

theorem exists_range_of_covers {ends : List Nat} {stretches : List (Nat × Nat)}
    (h : covers ends stretches = true) {first last : Nat} (hmem : (first, last) ∈ stretches) :
    ∃ i lo hi, ends[2 * i]? = some lo ∧ ends[2 * i + 1]? = some hi ∧ lo ≤ first ∧ last ≤ hi := by
  fun_induction covers ends stretches with
  | case1 lo hi rest stretches ih =>
      rw [← List.takeWhile_append_dropWhile (p := fun s : Nat × Nat => lo ≤ s.1 && s.2 ≤ hi)
        (l := stretches), List.mem_append] at hmem
      rcases hmem with htaken | hleft
      · have hin := List.mem_takeWhile_imp htaken
        rw [Bool.and_eq_true, decide_eq_true_iff, decide_eq_true_iff] at hin
        exact ⟨0, lo, hi, rfl, rfl, hin⟩
      · obtain ⟨i, lo', hi', hrange⟩ := ih h hleft
        exact ⟨i + 1, lo', hi', hrange⟩
  | case2 =>
      rw [List.isEmpty_iff] at h
      subst h
      cases hmem

/-- **A stretch that the ranges hold belongs to the table.** -/
theorem mem_of_covers (h : table.WellFormed) {stretches : List (Nat × Nat)} {first last : Nat}
    (hcovers : covers table.toList stretches = true) (hmem : (first, last) ∈ stretches)
    (hfirst : first ≤ n) (hlast : n ≤ last) : table.mem n = true := by
  obtain ⟨i, lo, hi, hlo, hhi, hle, hge⟩ := exists_range_of_covers hcovers hmem
  rw [Array.getElem?_toList] at hlo hhi
  exact (mem_iff h).2 ⟨i, lo, hi, hlo, hhi, Nat.le_trans hle hfirst, Nat.le_trans hlast hge⟩

end Ranges

end EventQuery
