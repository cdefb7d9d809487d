/-
**What a search finds is matched.**

A search works off jobs and ends with one that accepts; a walk leads there from one of the jobs that
it began with.  The instructions of a whole expression note where the walk enters the ones of the
expression and where it leaves them, and no group of the expression notes a place there.

Main definitions:

* `Regex.Place.ofIndex` — the place in a text behind a number of characters;
* `Pattern.MatchesSpan` — **an expression matches a part of a text**.

Main results:

* `Program.run_sound` — a search ends where a walk ends;
* `Program.ofPattern_sound` — a walk through a whole expression notes the ends of a match;
* `Pattern.find_sound` — **what is found is a part of the text that the expression matches**.
-/

import EventQuery.Proofs.Regex.Matching

set_option relaxedAutoImplicit false
set_option autoImplicit false

namespace EventQuery

namespace Regex

/-! ### Places in a text -/

/-- The place in a text behind a number of characters. -/
def Place.ofIndex (text : List Char) (i : Nat) : Place := ⟨i, (text.take i).getLast?, text.drop i⟩

theorem Place.mem_following {front cs : List Char} {p : Place}
    (h : p ∈ Place.following front.length front.getLast? cs) :
    ∃ i, i ≤ (front ++ cs).length ∧ p = Place.ofIndex (front ++ cs) i := by
  have hhere (cs : List Char) : (⟨front.length, front.getLast?, cs⟩ : Place)
      = Place.ofIndex (front ++ cs) front.length := by
    rw [Place.ofIndex, List.take_left, List.drop_left]
  induction cs generalizing front with
  | nil =>
      refine ⟨front.length, ?_, ?_⟩
      · rw [List.length_append]
        exact Nat.le_add_right _ _
      · rw [List.mem_singleton.1 h]
        exact hhere []
  | cons c rest ih =>
      rcases List.mem_cons.1 h with rfl | h
      · refine ⟨front.length, ?_, hhere (c :: rest)⟩
        rw [List.length_append]
        exact Nat.le_add_right _ _
      · have hnext : p ∈ Place.following (front ++ [c]).length (front ++ [c]).getLast? rest := by
          rw [List.length_append, List.getLast?_append]
          exact h
        obtain ⟨i, hi, hp⟩ := ih hnext fun cs => by
          rw [Place.ofIndex, List.take_left, List.drop_left]
        rw [List.append_assoc, List.singleton_append] at hi hp
        exact ⟨i, hi, hp⟩

section Places

variable {text : List Char}

theorem Place.step_ofIndex {i : Nat} {c : Char} {rest : List Char}
    (h : (Place.ofIndex text i).rest = c :: rest) :
    i + 1 ≤ text.length ∧ (Place.ofIndex text i).step c rest = Place.ofIndex text (i + 1) := by
  have hdrop : text.drop i = c :: rest := h
  have hi : i < text.length := by
    by_contra hge
    rw [List.drop_eq_nil_of_le (Nat.le_of_not_lt hge)] at hdrop
    cases hdrop
  refine ⟨hi, ?_⟩
  rw [List.drop_eq_getElem_cons hi] at hdrop
  obtain ⟨hc, hrest⟩ := List.cons_eq_cons.1 hdrop
  rw [Place.step, Place.ofIndex, Place.ofIndex, List.take_succ_eq_append_getElem hi,
    List.getLast?_append, hc, hrest]
  rfl

/-- **A match leads from a place in a text to a later one.** -/
theorem Matches.ofIndex {r : Regex} {i : Nat} {q : Place} (hi : i ≤ text.length)
    (h : r.Matches (Place.ofIndex text i) q) :
    ∃ j, i ≤ j ∧ j ≤ text.length ∧ q = Place.ofIndex text j := by
  induction r generalizing i q with
  | empty =>
      cases h
      exact ⟨i, Nat.le_refl i, hi, rfl⟩
  | set members =>
      obtain ⟨c, rest, hrest, -, rfl⟩ := h
      obtain ⟨hlt, hstep⟩ := Place.step_ofIndex hrest
      exact ⟨i + 1, Nat.le_succ i, hlt, hstep⟩
  | look test =>
      obtain ⟨-, rfl⟩ := h
      exact ⟨i, Nat.le_refl i, hi, rfl⟩
  | seq a b iha ihb =>
      obtain ⟨m, ha, hb⟩ := h
      obtain ⟨k, hik, hk, rfl⟩ := iha hi ha
      obtain ⟨j, hkj, hj, hq⟩ := ihb hk hb
      exact ⟨j, Nat.le_trans hik hkj, hj, hq⟩
  | alt a b iha ihb =>
      rcases h with h | h
      · exact iha hi h
      · exact ihb hi h
  | repeated least most greedy body ih =>
      obtain ⟨n, -, -, hrounds⟩ := h
      induction n generalizing i with
      | zero =>
          cases hrounds
          exact ⟨i, Nat.le_refl i, hi, rfl⟩
      | succ n ihn =>
          obtain ⟨m, hfirst, hrest⟩ := hrounds
          obtain ⟨k, hik, hk, rfl⟩ := ih hi hfirst
          obtain ⟨j, hkj, hj, hq⟩ := ihn hk hrest
          exact ⟨j, Nat.le_trans hik hkj, hj, hq⟩
  | group index body ih => exact ih hi h

end Places

end Regex

/-! ### Searching -/

namespace Program

open Regex

/-- **A search ends where a walk from one of its jobs ends.** -/
theorem run_sound {code : Code} {width fuel : Nat} {jobs : List Job} {tried : Array Bool}
    {slots : Slots} (h : run code width fuel jobs tried = some slots) :
    ∃ j ∈ jobs, ∃ n k, Path code n j k ∧ k.fate code = .found slots := by
  induction fuel generalizing jobs tried with
  | zero => cases h
  | succ fuel ih =>
      cases jobs with
      | nil => cases h
      | cons j rest =>
          rw [run] at h
          split at h
          · obtain ⟨k, hk, hwalk⟩ := ih h
            exact ⟨k, List.mem_cons_of_mem j hk, hwalk⟩
          · split at h
            next found hfate =>
              cases h
              exact ⟨j, List.mem_cons_self, 0, j, .refl j, hfate⟩
            next next hfate =>
              obtain ⟨k, hk, n, l, hwalk, hfound⟩ := ih h
              rcases List.mem_append.1 hk with hk | hk
              · exact ⟨j, List.mem_cons_self, n + 1, l, .step ⟨next, hfate, hk⟩ hwalk, hfound⟩
              · exact ⟨k, List.mem_cons_of_mem j hk, n, l, hwalk, hfound⟩

/-- Only an accepting instruction ends a search. -/
theorem fate_found {code : Code} {j : Job} {slots : Slots} (h : j.fate code = .found slots) :
    code[j.label]? = some .accept ∧ slots = j.slots := by
  rw [Job.fate] at h
  split at h
  · cases h
  next hcode =>
    cases h
    exact ⟨hcode, rfl⟩
  · split at h
    · cases h
    · split at h <;> cases h
  · split at h <;> cases h
  · cases h
  · cases h

section Whole

variable (p : Pattern)

/-- What stands behind the instructions of a whole expression. -/
def closing : Code := #[.accept, .save 1 0]

/-- The instructions of the expression itself. -/
def body : Code × Nat := compile p.regex 1 closing

theorem ofPattern_code : (ofPattern p).code = (body p).1.push (.save 0 (body p).2) := rfl

theorem ofPattern_start : (ofPattern p).start = (body p).1.size := rfl

theorem extends_closing : Extends closing (ofPattern p).code :=
  ((emits_compile p.regex).adds 1 closing).trans (extends_push Instr.noConfusion)

variable {p}

/-- **A walk through a whole expression notes the ends of a match.** -/
theorem ofPattern_sound {n : Nat} {j k : Job} {slots : Slots}
    (hj : j.label = (ofPattern p).start) (hslots : 2 ≤ j.slots.size)
    (hwalk : Path (ofPattern p).code n j k) (hfound : k.fate (ofPattern p).code = .found slots) :
    ∃ q, p.regex.Matches j.place q ∧ slots[0]? = some (some j.place.index)
      ∧ slots[1]? = some (some q.index) := by
  obtain ⟨haccept, rfl⟩ := fate_found hfound
  have hcode := extends_closing p
  have hgrows : closing.size ≤ (body p).1.size := ((emits_compile p.regex).adds 1 closing).grows
  have hk : k.label < closing.size := by
    by_contra hge
    exact hcode.goes (Nat.le_of_not_lt hge) haccept
  -- the walk begins with noting the place
  obtain ⟨m, first, rfl, hleads, hrest⟩ :=
    hwalk.first hk (by rw [hj, ofPattern_start]; exact hgrows)
  have hsave : (ofPattern p).code[j.label]? = some (.save 0 (body p).2) := by
    rw [hj, ofPattern_start, ofPattern_code, Array.getElem?_push, if_pos rfl]
  have hfirst := leads_save hsave hleads
  subst hfirst
  -- it goes through a match
  have hholds : Holds (ofPattern p).code (body p).1 closing.size := fun i _ hi => by
    rw [ofPattern_code, Array.getElem?_push, if_neg (Nat.ne_of_lt hi)]
  obtain ⟨l, last, -, hlast, hmatch, hkeeps, hend⟩ :=
    (emits_compile p.regex).exits hholds rfl hrest hk
  have hzero : last.slots[0]? = some (some j.place.index) := by
    rw [hkeeps.1, Array.getElem?_setIfInBounds_self_of_lt (by omega)]
  have hone : 1 < last.slots.size := by
    by_contra hge
    have hnone : (j.slots.setIfInBounds 0 (some j.place.index))[1]? = none := by
      rw [← hkeeps.2, Array.getElem?_eq_none (Nat.le_of_not_lt hge)]
    rw [Array.getElem?_eq_none_iff, Array.size_setIfInBounds] at hnone
    omega
  -- and notes the place again
  have hsave' : (ofPattern p).code[last.label]? = some (.save 1 0) := by
    rw [hlast, hcode.keeps (by decide)]
    rfl
  cases hend with
  | refl =>
      rw [hsave'] at haccept
      cases haccept
  | step hleads hend =>
      have hmid := leads_save hsave' hleads
      subst hmid
      have hstop : (ofPattern p).code[0]? = some .accept := by
        rw [hcode.keeps (by decide)]
        rfl
      cases hend with
      | refl =>
          refine ⟨last.place, hmatch, ?_, ?_⟩
          · rw [Array.getElem?_setIfInBounds_ne Nat.one_ne_zero]
            exact hzero
          · rw [Array.getElem?_setIfInBounds_self_of_lt hone]
      | step hleads =>
          obtain ⟨jobs, hfate, -⟩ := hleads
          rw [Job.fate] at hfate
          simp only [hstop] at hfate
          cases hfate

end Whole

end Program

namespace Pattern

open Regex

/-- **An expression matches a part of a text**, from one place to another. -/
def MatchesSpan (p : Pattern) (text : List Char) (first last : Nat) : Prop :=
  p.regex.Matches (Place.ofIndex text first) (Place.ofIndex text last)

/-- **What is found is matched.** -/
theorem find_sound {p : Pattern} {text : List Char} {m : Match} (h : p.find text = some m) :
    m.first ≤ m.last ∧ m.last ≤ text.length ∧ p.MatchesSpan text m.first m.last := by
  rw [find, findFrom, if_neg (Nat.not_lt_zero _)] at h
  obtain ⟨slots, hsearch, hslots⟩ := Option.bind_eq_some_iff.1 h
  obtain ⟨j, hj, n, k, hwalk, hfound⟩ := Program.run_sound hsearch
  obtain ⟨place, hplace, rfl⟩ := List.mem_map.1 hj
  obtain ⟨i, hi, rfl⟩ := @Place.mem_following [] text _ hplace
  obtain ⟨q, hmatch, hzero, hone⟩ := Program.ofPattern_sound rfl (by
    rw [Array.size_replicate]
    change 2 ≤ 2 * (p.groups + 1)
    omega) hwalk hfound
  obtain ⟨last, hle, hlast, rfl⟩ := hmatch.ofIndex hi
  rw [Match.ofSlots, hzero, hone] at hslots
  cases hslots
  exact ⟨hle, hlast, hmatch⟩

section Ends

variable {p : Pattern} {text : List Char} {i j : Nat}

/-- Behind a test of the beginning a match begins there. -/
theorem span_of_atStart (hi : i ≤ text.length)
    (h : MatchesSpan { p with regex := .seq (.look .textStart) p.regex } text i j) :
    i = 0 ∧ p.MatchesSpan text 0 j := by
  obtain ⟨mid, ⟨htest, rfl⟩, hmatch⟩ := h
  have hnone : (text.take i).getLast? = none := Option.isNone_iff_eq_none.1 htest
  rw [List.getLast?_eq_none_iff, List.take_eq_nil_iff] at hnone
  have hzero : i = 0 := by
    rcases hnone with hzero | rfl
    · exact hzero
    · exact Nat.le_zero.1 hi
  subst hzero
  exact ⟨rfl, hmatch⟩

/-- In front of a test of the end a match ends there. -/
theorem span_of_atEnd (hj : j ≤ text.length)
    (h : MatchesSpan { p with regex := .seq p.regex (.look .textEnd) } text i j) :
    j = text.length ∧ p.MatchesSpan text i text.length := by
  obtain ⟨mid, hmatch, htest, hmid⟩ := h
  subst hmid
  have hnone : (text.drop j).head? = none := Option.isNone_iff_eq_none.1 htest
  rw [List.head?_eq_none_iff, List.drop_eq_nil_iff] at hnone
  obtain rfl : j = text.length := Nat.le_antisymm hj hnone
  exact ⟨rfl, hmatch⟩

end Ends

end Pattern

end EventQuery
