/-
**Searches with and without regard to case.**

A search that disregards case compares lower-case forms.  The lower-case form of a text contains
those of its parts in their places, so what a search finds with regard to case it finds without, as
long as the part has the same lower-case form in its place as on its own.  A capital sigma that is
the last letter of a word in one of them alone is all that can go wrong there.

Main definitions:

* `Search.Admits` — a search counts an occurrence between two parts of a text.

Main results:

* `Value.finds_iff` — a search finds the occurrences that it admits;
* `Value.finds_of_keepsSigmas` — **an occurrence that keeps its sigmas is found without regard to
  case**;
* `Value.finds_iff_keepsSigmas` — at either end of a text no other one is;
* `Value.operate_of_exactCase` — the operators.
-/

import Mathlib
import EventQuery.Eval.Evaluator
import EventQuery.Proofs.Text.Terms

set_option relaxedAutoImplicit false
set_option autoImplicit false

namespace EventQuery

/-! ### Occurrences -/

namespace Text

variable {text pattern : List Char}

theorem endsWith_iff : endsWith text pattern = true ↔ ∃ u, text = u ++ pattern := by
  rw [endsWith, startsWith_iff]
  constructor
  · rintro ⟨rest, h⟩
    exact ⟨rest.reverse, by rw [← List.reverse_reverse text, h]; simp⟩
  · rintro ⟨u, rfl⟩
    exact ⟨u.reverse, by simp⟩

/-! ### Edges -/

/-- What leaves the following occurrence a whole term does so in lower case. -/
theorem isEdge_head?_lowerBetween {v : List Char} (h : isEdge v.head? = true)
    (before after : List Char) : isEdge (lowerBetween before after v).head? = true := by
  cases v with
  | nil => rfl
  | cons c v =>
      have hc : isAlphanumeric c = false := by simpa [isEdge] using h
      rw [lowerBetween, lowerAt_of_not_alphanumeric hc]
      exact h

theorem isEdge_getLast?_lowerBetween {u : List Char} (h : isEdge u.getLast? = true)
    (before after : List Char) : isEdge (lowerBetween before after u).getLast? = true := by
  induction u using List.reverseRecOn with
  | nil => rfl
  | append_singleton u c _ =>
      have hc : isAlphanumeric c = false := by simpa [isEdge] using h
      rw [lowerBetween_append, lowerBetween, lowerAt_of_not_alphanumeric hc]
      simpa [lowerBetween, isEdge] using hc

end Text

/-! ### Searches -/

/-- **A search counts an occurrence** of what is sought between two parts of a text. -/
def Search.Admits : Search → List Char → List Char → List Char → Prop
  | .contains, _, _, _ => True
  | .term, u, sought, v => sought = [] ∨ Text.isEdge u.getLast? = true ∧ Text.isEdge v.head? = true
  | .start, u, _, _ => u = []
  | .finish, _, _, v => v = []

namespace Value

open Text

variable {s : Search} {u v text sought : List Char}

/-- **A search finds the occurrences that it admits.** -/
theorem finds_iff {exactCase : Bool} : finds s exactCase text sought = true ↔
    ∃ u v, fold exactCase text = u ++ fold exactCase sought ++ v ∧
      s.Admits u (fold exactCase sought) v := by
  cases s with
  | contains =>
      rw [finds, contains_iff]
      simp only [Search.Admits, and_true]
  | term =>
      rw [finds, hasTerm_eq_true_iff]
      simp only [Search.Admits, fold_eq_nil_iff]
      constructor
      · rintro (hempty | ⟨u, v, h, hu, hv⟩)
        · exact ⟨[], fold exactCase text, by rw [fold_eq_nil_iff.2 hempty]; rfl, .inl hempty⟩
        · exact ⟨u, v, h, .inr ⟨hu, hv⟩⟩
      · rintro ⟨u, v, h, hempty | ⟨hu, hv⟩⟩
        · exact .inl hempty
        · exact .inr ⟨u, v, h, hu, hv⟩
  | start =>
      rw [finds, startsWith_iff]
      constructor
      · rintro ⟨rest, h⟩
        exact ⟨[], rest, h, rfl⟩
      · rintro ⟨_, rest, h, rfl⟩
        exact ⟨rest, h⟩
  | finish =>
      rw [finds, endsWith_iff]
      constructor
      · rintro ⟨u, h⟩
        exact ⟨u, [], h.trans (List.append_nil _).symm, rfl⟩
      · rintro ⟨u, _, h, rfl⟩
        exact ⟨u, h.trans (List.append_nil _)⟩

/-- An occurrence that a search admits is one that it admits in lower case. -/
theorem admits_lowerBetween (h : s.Admits u sought v) (before after before' after' : List Char) :
    s.Admits (lowerBetween before after u) (lowerChars sought) (lowerBetween before' after' v) := by
  cases s with
  | contains => trivial
  | term =>
      rcases h with rfl | ⟨hu, hv⟩
      · exact .inl rfl
      · exact .inr ⟨isEdge_getLast?_lowerBetween hu _ _, isEdge_head?_lowerBetween hv _ _⟩
  | start =>
      obtain rfl : u = [] := h
      rfl
  | finish =>
      obtain rfl : v = [] := h
      rfl

/-- **An occurrence that keeps its sigmas is found without regard to case.** -/
theorem finds_of_keepsSigmas (h : s.Admits u sought v) (hkeeps : KeepsSigmas u.reverse sought v) :
    finds s false (u ++ sought ++ v) sought = true := by
  rw [finds_iff]
  refine ⟨lowerBetween [] (sought ++ v) u, lowerBetween (sought.reverse ++ u.reverse) [] v, ?_,
    admits_lowerBetween h ..⟩
  change lowerChars (u ++ sought ++ v) = _ ++ lowerChars sought ++ _
  rw [lowerChars_append₃, lowerBetween_eq_lowerChars_iff.2 hkeeps]

/-- **At either end of a text no other occurrence is found**: there is only one place for it. -/
theorem finds_iff_keepsSigmas (hs : s = .start ∨ s = .finish) (h : s.Admits u sought v) :
    finds s false (u ++ sought ++ v) sought = true ↔ KeepsSigmas u.reverse sought v := by
  refine ⟨fun hfinds => ?_, finds_of_keepsSigmas h⟩
  obtain ⟨u', v', heq, h'⟩ := finds_iff.1 hfinds
  change lowerChars (u ++ sought ++ v) = u' ++ lowerChars sought ++ v' at heq
  have hlength : (lowerBetween u.reverse v sought).length = (lowerChars sought).length := by
    rw [lowerChars_eq_lowerBetween]
    exact length_lowerBetween ..
  rw [lowerChars_append₃] at heq
  rw [← lowerBetween_eq_lowerChars_iff]
  rcases hs with rfl | rfl
  · obtain rfl : u = [] := h
    obtain rfl : u' = [] := h'
    exact (List.append_inj heq hlength).1
  · obtain rfl : v = [] := h
    obtain rfl : v' = [] := h'
    simp only [lowerBetween, List.append_nil] at heq
    exact (List.append_inj' heq hlength).2

/-! ### The operators -/

theorem operate_search_eq_true {negated exactCase : Bool} {left right : Value} :
    left.operate (.search s negated exactCase) right = .ok (.bool true) ↔
      finds s exactCase left.chars right.chars = !negated := by
  change Except.ok (Value.bool (finds s exactCase left.chars right.chars != negated))
    = .ok (.bool true) ↔ _
  rw [Except.ok.injEq, Value.bool.injEq]
  cases finds s exactCase left.chars right.chars <;> cases negated <;> decide

/-- Two texts that are equal are equal without regard to case. -/
theorem equals_ignoreCase {a b : String}
    (h : (Value.string a).equals (.string b) false = .ok true) :
    (Value.string a).equals (.string b) true = .ok true := by
  rw [equals] at h ⊢
  split at h
  · rename_i habsent
    rw [if_pos habsent]
    exact h
  · rename_i hpresent
    rw [if_neg hpresent]
    have hab : a = b := by simpa [equalsPresent, equalTexts, text] using h
    subst hab
    simp [equalsPresent, equalTexts, text]

theorem exists_equals_string (a b : String) (ignoreCase : Bool) :
    ∃ t, (Value.string a).equals (.string b) ignoreCase = .ok t := by
  rw [equals]
  split
  · exact ⟨_, rfl⟩
  · exact ⟨_, rfl⟩

theorem operate_equality_eq_true {negated ignoreCase : Bool} {left right : Value} :
    left.operate (.equality negated ignoreCase) right = .ok (.bool true) ↔
      left.equals right ignoreCase = .ok (!negated) := by
  rw [operate]
  cases left.equals right ignoreCase with
  | error err => simp [Except.map]
  | ok b => cases b <;> cases negated <;> simp [Except.map]

/-- **What holds with regard to case, and without.**  An operator of text search holds with regard
to case where there is an occurrence that it admits, and it holds without where one of these keeps
its sigmas; at either end of the text it does not hold without in any other case.  So it does for
every pattern without a capital sigma, and then the negated operator that holds without regard to
case holds with regard to it.  Equality of texts asks for nothing else. -/
theorem operate_of_exactCase (left right : Value) (s : Search) :
    (left.operate (.search s false true) right = .ok (.bool true) ↔
      ∃ u v, left.chars = u ++ right.chars ++ v ∧ s.Admits u right.chars v) ∧
    (∀ u v, left.chars = u ++ right.chars ++ v → s.Admits u right.chars v →
      (KeepsSigmas u.reverse right.chars v →
        left.operate (.search s false false) right = .ok (.bool true)) ∧
      (s = .start ∨ s = .finish →
        left.operate (.search s false false) right = .ok (.bool true) →
        KeepsSigmas u.reverse right.chars v)) ∧
    ('Σ' ∉ right.chars →
      (left.operate (.search s false true) right = .ok (.bool true) →
        left.operate (.search s false false) right = .ok (.bool true)) ∧
      (left.operate (.search s true false) right = .ok (.bool true) →
        left.operate (.search s true true) right = .ok (.bool true))) ∧
    ∀ a b : String,
      ((string a).operate (.equality false false) (.string b) = .ok (.bool true) →
        (string a).operate (.equality false true) (.string b) = .ok (.bool true)) ∧
      ((string a).operate (.equality true true) (.string b) = .ok (.bool true) →
        (string a).operate (.equality true false) (.string b) = .ok (.bool true)) := by
  have hplain : 'Σ' ∉ right.chars → finds s true left.chars right.chars = true →
      finds s false left.chars right.chars = true := by
    intro hsigma hfinds
    obtain ⟨u, v, htext, hadmits⟩ := finds_iff.1 hfinds
    change left.chars = u ++ right.chars ++ v at htext
    rw [htext]
    exact finds_of_keepsSigmas hadmits (keepsSigmas_of_not_mem hsigma)
  simp only [operate_search_eq_true, operate_equality_eq_true, Bool.not_false, Bool.not_true]
  refine ⟨finds_iff, fun u v htext hadmits => ?_, fun hsigma => ⟨hplain hsigma, fun hnot => ?_⟩,
    fun a b => ⟨equals_ignoreCase, fun hnot => ?_⟩⟩
  · rw [htext]
    exact ⟨finds_of_keepsSigmas hadmits, fun hs => (finds_iff_keepsSigmas hs hadmits).1⟩
  · rw [← Bool.not_eq_true] at hnot ⊢
    exact fun hfinds => hnot (hplain hsigma hfinds)
  · obtain ⟨t, ht⟩ := exists_equals_string a b false
    cases t with
    | true => exact absurd (Except.ok.inj (hnot.symm.trans (equals_ignoreCase ht))) (by decide)
    | false => exact ht

/-- A word that ends in a sigma before a blank, and a pattern without a capital sigma. -/
theorem operate_of_exactCase_of_street :
    let street := Value.string "ΟΔΟΣ ΑΘΗΝΑΣ"
    street.operate (.search .start false true) (.string "ΟΔΟΣ") = .ok (.bool true) ∧
      street.operate (.search .start false false) (.string "ΟΔΟΣ") = .ok (.bool true) ∧
      street.operate (.search .term true false) (.string "ΑΘΗΝ") = .ok (.bool true) ∧
      street.operate (.search .term true true) (.string "ΑΘΗΝ") = .ok (.bool true) := by
  intro street
  obtain ⟨hexact, hplaces, -⟩ := operate_of_exactCase street (.string "ΟΔΟΣ") .start
  obtain ⟨-, -, hplain, -⟩ := operate_of_exactCase street (.string "ΑΘΗΝ") .term
  have htext : street.chars = [] ++ (Value.string "ΟΔΟΣ").chars ++ " ΑΘΗΝΑΣ".toList := by
    decide +kernel
  have hkeeps : KeepsSigmas [] (Value.string "ΟΔΟΣ").chars " ΑΘΗΝΑΣ".toList :=
    keepsSigmas_of_apart (by decide +kernel) (by decide +kernel)
  have hnot : street.operate (.search .term true false) (.string "ΑΘΗΝ") = .ok (.bool true) :=
    operate_search_eq_true.2 (by decide +kernel)
  exact ⟨hexact.2 ⟨[], _, htext, rfl⟩, (hplaces [] _ htext rfl).1 hkeeps, hnot,
    (hplain (by decide +kernel)).2 hnot⟩

/-- **A part that loses its sigma**: on its own it ends a word, and in its place it does not. -/
theorem not_operate_of_exactCase :
    ¬ ∀ (left right : Value) (s : Search),
      left.operate (.search s false true) right = .ok (.bool true) →
        left.operate (.search s false false) right = .ok (.bool true) := by
  intro h
  have hfound := h (.string "ΑΣΑ") (.string "ΑΣ") .contains
    (operate_search_eq_true.2 (by decide +kernel))
  rw [operate_search_eq_true] at hfound
  revert hfound
  decide +kernel

end Value

end EventQuery
