/-
**Blanks at the ends of a text.**

Stripping takes the blanks at both ends of a text and nothing else, so a text with no blank at
either end stays as it is, and what is put behind it loses at most its own end.

Main definitions:

* `Text.Neat` — a text with no blank at either end.

Main results:

* `Text.stripWhere_of_all` — stripping leaves a text alone that has nothing to strip;
* `Text.Neat.append` — only the ends count;
* `Text.Neat.strip`, `Text.Neat.strip_append` — what stripping leaves;
* `Text.exists_strip` — what stripping takes.
-/

import EventQuery.Text.Blank
import Mathlib.Data.List.Basic
import Mathlib.Data.List.DropRight
import Mathlib.Data.List.TakeWhile

set_option relaxedAutoImplicit false
set_option autoImplicit false

namespace EventQuery

namespace Text

/-! ### One end -/

theorem dropWhile_isBlank {cs : List Char} (h : ∀ c ∈ cs.head?, isBlank c = false) :
    cs.dropWhile isBlank = cs := by
  cases cs with
  | nil => rfl
  | cons c cs => exact List.dropWhile_cons_of_neg (by rw [h c rfl]; decide)

theorem dropEndWhile_isBlank {cs : List Char} (h : ∀ c ∈ cs.getLast?, isBlank c = false) :
    dropEndWhile isBlank cs = cs := by
  rw [dropEndWhile, dropWhile_isBlank (by rwa [List.head?_reverse]), List.reverse_reverse]

theorem dropEndWhile_append (p : Char → Bool) (t u : List Char) : dropEndWhile p (t ++ u)
    = if dropEndWhile p u = [] then dropEndWhile p t else t ++ dropEndWhile p u := by
  simp only [dropEndWhile, List.reverse_append, List.dropWhile_append, List.isEmpty_iff,
    List.reverse_eq_nil_iff]
  split
  · rfl
  · rw [List.reverse_append, List.reverse_reverse]

theorem dropEndWhile_cons (p : Char → Bool) (c : Char) (cs : List Char) :
    dropEndWhile p (c :: cs) = if dropEndWhile p cs = [] then
      (if p c = true then [] else [c]) else c :: dropEndWhile p cs := by
  have hcons := dropEndWhile_append p [c] cs
  rw [List.singleton_append] at hcons
  rw [hcons]
  split
  · rw [dropEndWhile, List.reverse_singleton, List.dropWhile_cons]
    split <;> rfl
  · rfl

theorem dropEndWhile_dropEndWhile (p : Char → Bool) (cs : List Char) :
    dropEndWhile p (dropEndWhile p cs) = dropEndWhile p cs := List.rdropWhile_idempotent p cs

theorem stripWhere_of_all {p : Char → Bool} {cs : List Char} (h : ∀ c ∈ cs, p c = false) :
    stripWhere p cs = cs := by
  have hdrop {ds : List Char} (hds : ∀ c ∈ ds, p c = false) : ds.dropWhile p = ds := by
    cases ds with
    | nil => rfl
    | cons d ds => rw [List.dropWhile_cons_of_neg (by simp [hds d List.mem_cons_self])]
  rw [stripWhere, hdrop h, dropEndWhile, hdrop (fun c hc => h c (List.mem_reverse.1 hc)),
    List.reverse_reverse]

/-! ### Texts with no blank at the ends -/

/-- **There is no blank at either end.** -/
structure Neat (t : List Char) : Prop where
  ne_nil : t ≠ []
  first : ∀ c ∈ t.head?, isBlank c = false
  last : ∀ c ∈ t.getLast?, isBlank c = false

theorem neat_of_all {t : List Char} (hne : t ≠ []) (h : ∀ c ∈ t, isBlank c = false) : Neat t :=
  ⟨hne, fun c hc => h c (List.mem_of_mem_head? hc), fun c hc => h c (List.mem_of_getLast? hc)⟩

theorem neat_mark {c : Char} (h : isBlank c = false) : Neat [c] :=
  neat_of_all (List.cons_ne_nil c []) (List.forall_mem_singleton.2 h)

/-- **Only the ends count.** -/
theorem Neat.append {t u : List Char} (ht : Neat t) (mid : List Char) (hu : Neat u) :
    Neat (t ++ mid ++ u) where
  ne_nil h := ht.ne_nil (List.append_eq_nil_iff.1 (List.append_eq_nil_iff.1 h).1).1
  first c hc := by
    rw [List.append_assoc, List.head?_append_of_ne_nil _ ht.ne_nil] at hc
    exact ht.first c hc
  last c hc := by
    rw [List.getLast?_append_of_ne_nil _ hu.ne_nil] at hc
    exact hu.last c hc

/-- Behind a text with no blank at the ends only the end can be lost. -/
theorem Neat.strip_append {t : List Char} (h : Neat t) (u : List Char) :
    Text.strip (t ++ u) = t ++ dropEndWhile isBlank u := by
  have hfirst : ∀ c ∈ (t ++ u).head?, isBlank c = false := by
    rw [List.head?_append_of_ne_nil _ h.ne_nil]
    exact h.first
  rw [Text.strip, stripWhere, dropWhile_isBlank hfirst, dropEndWhile_append]
  split
  · next hnil => rw [dropEndWhile_isBlank h.last, hnil, List.append_nil]
  · rfl

/-- **A text with no blank at the ends stays as it is.** -/
theorem Neat.strip {t : List Char} (h : Neat t) : Text.strip t = t := by
  have hstrip := h.strip_append []
  rwa [List.append_nil, dropEndWhile_isBlank (fun _ hc => by cases hc), List.append_nil] at hstrip

/-- **Stripping takes blanks from both ends.** -/
theorem exists_strip (cs : List Char) : ∃ front back, cs = front ++ Text.strip cs ++ back ∧
    (∀ c ∈ front, isBlank c = true) ∧ ∀ c ∈ back, isBlank c = true := by
  have hend (cs : List Char) : ∃ back, cs = dropEndWhile isBlank cs ++ back ∧
      ∀ c ∈ back, isBlank c = true := by
    refine ⟨(cs.reverse.takeWhile isBlank).reverse, ?_, fun c hc => ?_⟩
    · rw [dropEndWhile, ← List.reverse_append, List.takeWhile_append_dropWhile,
        List.reverse_reverse]
    · exact List.mem_takeWhile_imp (List.mem_reverse.1 hc)
  obtain ⟨back, hback, hblank⟩ := hend (cs.dropWhile isBlank)
  refine ⟨cs.takeWhile isBlank, back, ?_, fun c hc => List.mem_takeWhile_imp hc, hblank⟩
  rw [Text.strip, stripWhere, List.append_assoc, ← hback, List.takeWhile_append_dropWhile]

end Text

end EventQuery
