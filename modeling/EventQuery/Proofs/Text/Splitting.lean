/-
**Splitting at a character.**

Main results:

* `Text.splitOn_eq_iff` — **the parts of a text** are those that give it when they are joined, and
  hold no separator themselves;
* `Text.split2_eq_some_iff`, `Text.split2_eq_none_iff` — the first occurrence of a character.
-/

import EventQuery.Text.Search

set_option relaxedAutoImplicit false
set_option autoImplicit false

namespace EventQuery

namespace Text

/-! ### At every occurrence -/

theorem splitOnFrom_singleton (mark : Char) (part text : List Char) :
    splitOnFrom [mark] part 0 text = List.splitOnPPrepend (· == mark) text part := by
  induction text generalizing part with
  | nil => rw [splitOnFrom, List.splitOnPPrepend_nil]
  | cons c text ih =>
      by_cases hc : c = mark
      · have hstarts : startsWith (c :: text) [mark] = true :=
          startsWith_iff.2 ⟨text, congrArg (· :: text) hc⟩
        rw [splitOnFrom, if_pos hstarts, List.splitOnPPrepend_cons_pos (by simpa using hc),
          ← List.splitOnPPrepend_nil_right]
        exact congrArg _ (ih [])
      · have hstarts : ¬ startsWith (c :: text) [mark] = true := by
          rintro h
          obtain ⟨rest, hrest⟩ := startsWith_iff.1 h
          exact hc (List.cons.inj hrest).1
        rw [splitOnFrom, if_neg hstarts, List.splitOnPPrepend_cons_neg (by simpa using hc), ih]

/-- **Splitting at a single character** is the splitting of lists. -/
theorem splitOn_singleton (mark : Char) (text : List Char) :
    splitOn [mark] text = List.splitOn mark text := by
  rw [splitOn, splitOnFrom_singleton, List.splitOnPPrepend_nil_right, List.splitOn_eq_splitOnP]

/-- No part holds the separator. -/
theorem notMem_of_mem_splitOn {mark : Char} {text part : List Char}
    (h : part ∈ List.splitOn mark text) : mark ∉ part := by
  induction text generalizing part with
  | nil =>
      rw [List.splitOn_nil, List.mem_singleton] at h
      subst h
      exact List.not_mem_nil
  | cons c text ih =>
      rw [List.splitOn_cons_eq_if_modifyHead] at h
      split at h
      · rcases List.mem_cons.1 h with rfl | h
        · exact List.not_mem_nil
        · exact ih h
      · next hc =>
          cases hparts : List.splitOn mark text with
          | nil => exact absurd hparts (List.splitOn_ne_nil mark text)
          | cons first more =>
              rw [hparts, List.modifyHead_cons] at h
              rcases List.mem_cons.1 h with rfl | h
              · intro hmem
                rcases List.mem_cons.1 hmem with rfl | hmem
                · exact hc (beq_self_eq_true _)
                · exact ih (by rw [hparts]; exact List.mem_cons_self) hmem
              · exact ih (by rw [hparts]; exact List.mem_cons_of_mem _ h)

/-- **The parts of a text** give it when they are joined and hold no separator. -/
theorem splitOn_eq_iff {mark : Char} {text : List Char} {parts : List (List Char)} :
    splitOn [mark] text = parts
      ↔ parts ≠ [] ∧ text = [mark].intercalate parts ∧ ∀ part ∈ parts, mark ∉ part := by
  rw [splitOn_singleton]
  constructor
  · rintro rfl
    exact ⟨List.splitOn_ne_nil mark text, (List.intercalate_splitOn mark).symm,
      fun part hpart => notMem_of_mem_splitOn hpart⟩
  · rintro ⟨hne, rfl, hparts⟩
    exact List.splitOn_intercalate mark hparts hne

/-! ### At the first occurrence -/

/-- **The first occurrence** has none before it. -/
theorem split2_eq_some_iff {mark : Char} {text before after : List Char} :
    split2 mark text = some (before, after) ↔ text = before ++ mark :: after ∧ mark ∉ before := by
  induction text generalizing before with
  | nil => simp [split2]
  | cons c text ih =>
      by_cases hc : c = mark
      · subst hc
        cases before with
        | nil => simp [split2]
        | cons b before =>
            simp only [split2, if_true, Option.some.injEq, Prod.mk.injEq, List.cons_append,
              List.cons.injEq, List.mem_cons, not_or]
            exact ⟨fun h => absurd h.1 (by simp), fun h => absurd h.1.1 h.2.1⟩
      · cases before with
        | nil => simp [split2, hc]
        | cons b before =>
            simp only [split2, hc, if_false, Option.map_eq_some_iff, Prod.mk.injEq, Prod.exists,
              List.cons.injEq, List.cons_append, List.mem_cons, not_or]
            constructor
            · rintro ⟨x, y, h, ⟨rfl, rfl⟩, rfl⟩
              obtain ⟨htext, hmem⟩ := ih.1 h
              exact ⟨⟨rfl, htext⟩, Ne.symm hc, hmem⟩
            · rintro ⟨⟨rfl, htext⟩, -, hmem⟩
              exact ⟨before, after, ih.2 ⟨htext, hmem⟩, ⟨rfl, rfl⟩, rfl⟩

/-- A text without the character is not split. -/
theorem split2_eq_none_iff {mark : Char} {text : List Char} :
    split2 mark text = none ↔ mark ∉ text := by
  induction text with
  | nil => simp [split2]
  | cons c text ih =>
      by_cases hc : c = mark
      · simp [split2, hc]
      · simp [split2, hc, ih, Ne.symm hc]

end Text

end EventQuery
