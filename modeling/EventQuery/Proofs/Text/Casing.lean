/-
**Lower case of a part of a text.**

The lower-case form of a text goes character by character, and only a capital sigma looks at what
stands around it.  So a part of a text has the same lower-case form in its place as on its own,
exactly if each of its capital sigmas is the last letter of a word in both or in neither.  What is
neither a letter nor a digit is its own lower-case form, so words end where they did.

Main definitions:

* `Text.endsWord` — a capital sigma in this place is the last letter of a word;
* `Text.lowerBetween` — the lower-case form of a part of a text in its place;
* `Text.KeepsSigmas` — the capital sigmas of a part are last letters in its place as on their own.

Main results:

* `Text.lowerChars_append₃` — the lower-case form of a text in three parts;
* `Text.lowerBetween_eq_lowerChars_iff` — **a part keeps its lower-case form exactly if it keeps its
  sigmas**;
* `Text.lowerChar_of_not_alphanumeric` — what is neither a letter nor a digit is unchanged.
-/

import Mathlib
import EventQuery.Proofs.Text.Ranges
import EventQuery.Text.Search

set_option relaxedAutoImplicit false
set_option autoImplicit false

namespace EventQuery

namespace Text

/-! ### Neither letter nor digit -/

theorem alphanumericTable_wellFormed : alphanumericTable.WellFormed where
  ascending := by decide +kernel
  pairs := by decide +kernel
  small := by decide +kernel

/-- The stretches of code points in a run: the whole run, or its code points one by one when there
are others in between. -/
def CaseRun.stretches : CaseRun → List (Nat × Nat)
  | (first, last, step, _) =>
      if step = 1 then [(first, last)]
      else (List.range ((last - first) / step + 1)).map fun i =>
        (first + step * i, first + step * i)

theorem CaseRun.exists_stretch {run : CaseRun} {n m : Nat} (h : run.image? n = some m) :
    ∃ first last, (first, last) ∈ run.stretches ∧ first ≤ n ∧ n ≤ last := by
  obtain ⟨first, last, step, distance⟩ := run
  rw [image?] at h
  split at h
  · rename_i hin
    obtain ⟨hfirst, hlast, hstep⟩ := hin
    rw [stretches]
    split
    · exact ⟨first, last, List.mem_singleton_self _, hfirst, hlast⟩
    · have hn : first + step * ((n - first) / step) = n := by
        have := Nat.div_add_mod (n - first) step
        omega
      refine ⟨n, n, List.mem_map.2 ⟨(n - first) / step, ?_, by rw [hn]⟩, Nat.le_refl n,
        Nat.le_refl n⟩
      exact List.mem_range.2 (Nat.lt_succ_of_le (Nat.div_le_div_right (by omega)))
  · cases h

/-- The capital letters of the first 128 characters, and what has a lower-case form in a run. -/
def capitals : List (Nat × Nat) :=
  ('A'.toNat, 'Z'.toNat) :: lowerRuns.flatMap CaseRun.stretches

/-- What has another lower-case form is a letter. -/
theorem alphanumericTable_covers_capitals :
    Ranges.covers alphanumericTable.toList capitals = true := by
  decide +kernel

theorem isAlphanumeric_of_capital {first last : Nat} {c : Char} (hmem : (first, last) ∈ capitals)
    (hfirst : first ≤ c.toNat) (hlast : c.toNat ≤ last) : isAlphanumeric c = true := by
  rw [isAlphanumeric, Ranges.memChar]
  exact Ranges.mem_of_covers alphanumericTable_wellFormed alphanumericTable_covers_capitals hmem
    hfirst hlast

/-- The letters whose lower-case forms are no runs. -/
theorem isAlphanumeric_special : isAlphanumeric 'İ' = true ∧ isAlphanumeric 'Σ' = true := by
  decide +kernel

/-- **What is neither a letter nor a digit is its own lower-case form.** -/
theorem lowerChar_of_not_alphanumeric {c : Char} (h : isAlphanumeric c = false) :
    lowerChar c = [c] := by
  rw [← Bool.not_eq_true] at h
  rw [lowerChar]
  split
  · have hcapital : ('A'.toNat, 'Z'.toNat) ∈ capitals := List.mem_cons_self
    have hupper : ¬ (c.val ≥ 'A'.val ∧ c.val ≤ 'Z'.val) := fun ⟨hA, hZ⟩ =>
      h (isAlphanumeric_of_capital hcapital hA hZ)
    rw [Char.toLower, dif_neg hupper]
  · split
    · rename_i hc
      subst hc
      exact absurd isAlphanumeric_special.1 h
    · have hnone : lowerRuns.findSome? (CaseRun.image? c.toNat) = none := by
        rw [List.findSome?_eq_none_iff]
        intro run hrun
        cases himage : run.image? c.toNat with
        | none => rfl
        | some m =>
            obtain ⟨first, last, hstretch, hfirst, hlast⟩ := CaseRun.exists_stretch himage
            have hcapital : (first, last) ∈ capitals :=
              List.mem_cons_of_mem _ (List.mem_flatMap.2 ⟨run, hrun, hstretch⟩)
            exact absurd (isAlphanumeric_of_capital hcapital hfirst hlast) h
      rw [mapRuns, hnone]
      simp

/-! ### Characters in their place -/

/-- **A capital sigma in this place is the last letter of a word**; what stands before it comes
nearest first. -/
def endsWord (before after : List Char) : Bool := meetsCased before && !meetsCased after

/-- The lower-case form of a character in its place. -/
def lowerAt (before : List Char) (c : Char) (after : List Char) : List Char :=
  if c = 'Σ' then [if endsWord before after then 'ς' else 'σ'] else lowerChar c

theorem lowerAfter_cons (before : List Char) (c : Char) (rest : List Char) :
    lowerAfter before (c :: rest) = lowerAt before c rest ++ lowerAfter (c :: before) rest := rfl

theorem lowerAt_of_not_alphanumeric {c : Char} (h : isAlphanumeric c = false)
    (before after : List Char) : lowerAt before c after = [c] := by
  rw [lowerAt, if_neg, lowerChar_of_not_alphanumeric h]
  rintro rfl
  exact absurd (isAlphanumeric_special.2.symm.trans h) Bool.noConfusion

section Places

variable {before after before' after' u v part : List Char} {c : Char}

/-- The place of a character makes no difference for the length of its lower-case form. -/
theorem length_lowerAt (before after before' after' : List Char) (c : Char) :
    (lowerAt before c after).length = (lowerAt before' c after').length := by
  unfold lowerAt
  split <;> rfl

/-- A character has the same lower-case form in two places unless it is a capital sigma that is the
last letter of a word in one of them alone. -/
theorem lowerAt_eq_iff : lowerAt before c after = lowerAt before' c after' ↔
    (c = 'Σ' → endsWord before after = endsWord before' after') := by
  unfold lowerAt
  split
  · rename_i hc
    cases endsWord before after <;> cases endsWord before' after' <;> simp [hc]
  · rename_i hc
    simp [hc]

theorem lowerAt_ne_nil : lowerAt before c after ≠ [] := by
  unfold lowerAt lowerChar
  split
  · simp
  · split
    · simp
    · split <;> simp

/-! ### Parts in their place -/

/-- **The lower-case form of a part of a text in its place**, between what stands before it, nearest
first, and what stands after it. -/
def lowerBetween (before after : List Char) : List Char → List Char
  | [] => []
  | c :: part => lowerAt before c (part ++ after) ++ lowerBetween (c :: before) after part

theorem lowerAfter_eq_lowerBetween (before part : List Char) :
    lowerAfter before part = lowerBetween before [] part := by
  induction part generalizing before with
  | nil => rfl
  | cons c part ih => rw [lowerAfter_cons, lowerBetween, ih, List.append_nil]

theorem lowerChars_eq_lowerBetween (part : List Char) :
    lowerChars part = lowerBetween [] [] part := lowerAfter_eq_lowerBetween [] part

/-- Two parts one behind the other. -/
theorem lowerBetween_append (before after u v : List Char) :
    lowerBetween before after (u ++ v)
      = lowerBetween before (v ++ after) u ++ lowerBetween (u.reverse ++ before) after v := by
  induction u generalizing before with
  | nil => rfl
  | cons c u ih =>
      rw [List.cons_append, lowerBetween, ih, lowerBetween, List.reverse_cons, List.append_assoc,
        List.append_assoc, List.append_assoc]
      rfl

/-- **The lower-case form of a text in three parts.** -/
theorem lowerChars_append₃ (u part v : List Char) :
    lowerChars (u ++ part ++ v) = lowerBetween [] (part ++ v) u ++ lowerBetween u.reverse v part
      ++ lowerBetween (part.reverse ++ u.reverse) [] v := by
  rw [lowerChars_eq_lowerBetween, lowerBetween_append, lowerBetween_append]
  simp only [List.append_nil, List.reverse_append]

/-- The place of a part makes no difference for the length of its lower-case form. -/
theorem length_lowerBetween (before after before' after' part : List Char) :
    (lowerBetween before after part).length = (lowerBetween before' after' part).length := by
  induction part generalizing before before' with
  | nil => rfl
  | cons c part ih =>
      rw [lowerBetween, lowerBetween, List.length_append, List.length_append, ih,
        length_lowerAt]

/-- Only the empty part has an empty lower-case form. -/
theorem lowerBetween_eq_nil_iff : lowerBetween before after part = [] ↔ part = [] := by
  cases part with
  | nil => simp [lowerBetween]
  | cons c part => simp [lowerBetween, lowerAt_ne_nil]

/-- A part has one lower-case form in two places exactly if its capital sigmas are last letters of
words in both or in neither. -/
theorem lowerBetween_eq_iff :
    lowerBetween before after part = lowerBetween before' after' part ↔
      ∀ l r, part = l ++ 'Σ' :: r →
        endsWord (l.reverse ++ before) (r ++ after)
          = endsWord (l.reverse ++ before') (r ++ after') := by
  induction part generalizing before before' with
  | nil => simp [lowerBetween]
  | cons c part ih =>
      rw [lowerBetween, lowerBetween,
        List.append_eq_append_iff_of_size_eq_left (length_lowerAt ..), lowerAt_eq_iff, ih]
      constructor
      · rintro ⟨hc, hpart⟩ l r hsplit
        cases l with
        | nil =>
            obtain ⟨rfl, rfl⟩ := List.cons_eq_cons.1 hsplit
            exact hc rfl
        | cons d l =>
            obtain ⟨rfl, rfl⟩ := List.cons_eq_cons.1 hsplit
            simpa using hpart l r rfl
      · intro h
        refine ⟨fun hc => ?_, fun l r hsplit => ?_⟩
        · subst hc
          exact h [] part rfl
        · subst hsplit
          simpa using h (c :: l) r rfl

/-! ### Capital sigmas -/

/-- **The capital sigmas of a part of a text** are last letters of words in their place exactly if
they are on their own. -/
def KeepsSigmas (before part after : List Char) : Prop :=
  ∀ l r, part = l ++ 'Σ' :: r → endsWord (l.reverse ++ before) (r ++ after) = endsWord l.reverse r

/-- **A part keeps its lower-case form exactly if it keeps its sigmas.** -/
theorem lowerBetween_eq_lowerChars_iff :
    lowerBetween before after part = lowerChars part ↔ KeepsSigmas before part after := by
  rw [lowerChars_eq_lowerBetween, lowerBetween_eq_iff]
  simp only [KeepsSigmas, List.append_nil]

theorem keepsSigmas_of_not_mem (h : 'Σ' ∉ part) : KeepsSigmas before part after := by
  rintro l r rfl
  exact absurd (List.mem_append_right l (List.mem_cons_self ..)) h

/-- What meets no cased character can be left out behind something else. -/
theorem meetsCased_append (h : meetsCased v = false) : meetsCased (u ++ v) = meetsCased u := by
  induction u with
  | nil => exact h
  | cons c u ih =>
      unfold meetsCased at ih ⊢
      rw [List.cons_append, List.dropWhile_cons, List.dropWhile_cons]
      cases caseIgnorableTable.memChar c with
      | true => exact ih
      | false => rfl

/-- **A part that stands apart** keeps its sigmas: going away from it over case-ignorable
characters, there is a cased one on neither side. -/
theorem keepsSigmas_of_apart (hbefore : meetsCased before = false)
    (hafter : meetsCased after = false) : KeepsSigmas before part after := by
  intro l r _
  rw [endsWord, endsWord, meetsCased_append hbefore, meetsCased_append hafter]

end Places

end Text

end EventQuery
