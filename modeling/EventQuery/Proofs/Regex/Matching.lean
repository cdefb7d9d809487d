/-
**What a regular expression matches, and what its program finds.**

An expression relates the place where a match begins to the places where it may end.  The program of
an expression is a row of instructions, and a search walks from one to the next.  The instructions
of an expression lie above a label; a walk that begins with them and comes below that label leaves
them at their continuation, and has then gone through a match of the expression.

Main definitions:

* `Regex.Matches` — **an expression matches from one place to another**;
* `Regex.Path` — a walk along instructions, with its length;
* `Regex.Exits`, `Regex.Emits` — **instructions of a relation between places**.

Main results:

* `Regex.emits_compile` — the instructions of an expression are those of its matches;
* `Program.run_sound` — a search ends where a walk from one of its jobs ends;
* `Pattern.find_sound` — **what is found is matched**.
-/

import EventQuery.Regex.Search
import Mathlib.Data.List.TakeDrop

set_option relaxedAutoImplicit false
set_option autoImplicit false

namespace EventQuery

namespace Regex

/-! ### Matches -/

/-- So many rounds of a relation between places. -/
def Rounds (R : Place → Place → Prop) : Nat → Place → Place → Prop
  | 0, p, q => q = p
  | n + 1, p, q => ∃ m, R p m ∧ Rounds R n m q

/-- **An expression matches from one place to another.**  A greatest number of rounds below the
least one counts as the least one. -/
def Matches : Regex → Place → Place → Prop
  | .empty, p, q => q = p
  | .set members, p, q => ∃ c rest, p.rest = c :: rest ∧ members.memChar c ∧ q = p.step c rest
  | .look test, p, q => test.holds p.before p.rest.head? ∧ q = p
  | .seq a b, p, q => ∃ m, Matches a p m ∧ Matches b m q
  | .alt a b, p, q => Matches a p q ∨ Matches b p q
  | .repeated least most _ body, p, q =>
      ∃ n, least ≤ n ∧ (∀ m, most = some m → n ≤ max least m) ∧ Rounds (Matches body) n p q
  | .group _ body, p, q => Matches body p q

section Rounds

variable {R : Place → Place → Prop} {m n : Nat} {p q r : Place}

theorem rounds_one (h : R p q) : Rounds R 1 p q := ⟨q, h, rfl⟩

theorem rounds_add (h : Rounds R m p q) (h' : Rounds R n q r) : Rounds R (n + m) p r := by
  induction m generalizing p with
  | zero =>
      cases h
      exact h'
  | succ m ih =>
      obtain ⟨mid, hfirst, hrest⟩ := h
      exact ⟨mid, hfirst, ih hrest⟩

end Rounds

/-! ### Walks -/

/-- A job leads to another. -/
def Job.Leads (code : Code) (j k : Job) : Prop := ∃ next, j.fate code = .jobs next ∧ k ∈ next

/-- **A walk from one job to another**, with its length. -/
inductive Path (code : Code) : Nat → Job → Job → Prop
  | refl (j : Job) : Path code 0 j j
  | step {n : Nat} {j k l : Job} (first : j.Leads code k) (rest : Path code n k l) :
      Path code (n + 1) j l

/-- The places noted for the whole match are the same. -/
def Job.Keeps (j k : Job) : Prop := k.slots[0]? = j.slots[0]? ∧ k.slots[1]? = j.slots[1]?

theorem Job.Keeps.refl (j : Job) : j.Keeps j := ⟨rfl, rfl⟩

theorem Job.Keeps.trans {j k l : Job} (h : j.Keeps k) (h' : k.Keeps l) : j.Keeps l :=
  ⟨h'.1.trans h.1, h'.2.trans h.2⟩

/-- **Instructions above a label that leave at their continuation**: a walk that begins with them
and comes below the label has taken a step of the relation there, and is not longer from there
on. -/
def Exits (code : Code) (lo start next : Nat) (R : Place → Place → Prop) : Prop :=
  ∀ ⦃n : Nat⦄ ⦃j k : Job⦄, j.label = start → Path code n j k → k.label < lo →
    ∃ (m : Nat) (mid : Job), m ≤ n ∧ mid.label = next ∧ R j.place mid.place ∧ j.Keeps mid
      ∧ Path code m mid k

section Walks

variable {code : Code} {lo : Nat} {j k : Job}

/-- A walk that comes below a label takes a step from above it. -/
theorem Path.first {n : Nat} (h : Path code n j k) (hk : k.label < lo) (hj : lo ≤ j.label) :
    ∃ m mid, n = m + 1 ∧ j.Leads code mid ∧ Path code m mid k := by
  cases h with
  | refl => exact absurd hk (Nat.not_lt.2 hj)
  | step first rest => exact ⟨_, _, rfl, first, rest⟩

theorem leads_set {members : Ranges} {next : Nat}
    (hcode : code[j.label]? = some (.set members next)) (h : j.Leads code k) : ∃ c rest, j.place.rest = c :: rest ∧ members.memChar c
      ∧ k = ⟨next, j.place.step c rest, j.slots⟩ := by
  obtain ⟨jobs, hfate, hk⟩ := h
  rw [Job.fate, hcode] at hfate
  simp only at hfate
  split at hfate
  · cases hfate
    cases hk
  next c rest hrest =>
    split at hfate
    next hc =>
      cases hfate
      exact ⟨c, rest, hrest, hc, List.mem_singleton.1 hk⟩
    next =>
      cases hfate
      cases hk

theorem leads_look {test : Look} {next : Nat} (hcode : code[j.label]? = some (.look test next))
    (h : j.Leads code k) : test.holds j.place.before j.place.rest.head?
      ∧ k = ⟨next, j.place, j.slots⟩ := by
  obtain ⟨jobs, hfate, hk⟩ := h
  rw [Job.fate, hcode] at hfate
  simp only at hfate
  split at hfate
  next htest =>
    cases hfate
    exact ⟨htest, List.mem_singleton.1 hk⟩
  next =>
    cases hfate
    cases hk

theorem leads_save {slot next : Nat} (hcode : code[j.label]? = some (.save slot next))
    (h : j.Leads code k) :
    k = ⟨next, j.place, j.slots.setIfInBounds slot (some j.place.index)⟩ := by
  obtain ⟨jobs, hfate, hk⟩ := h
  rw [Job.fate, hcode] at hfate
  cases hfate
  exact List.mem_singleton.1 hk

theorem leads_split {first second : Nat} (hcode : code[j.label]? = some (.split first second))
    (h : j.Leads code k) : k = ⟨first, j.place, j.slots⟩ ∨ k = ⟨second, j.place, j.slots⟩ := by
  obtain ⟨jobs, hfate, hk⟩ := h
  rw [Job.fate, hcode] at hfate
  cases hfate
  rcases List.mem_cons.1 hk with hk | hk
  · exact .inl hk
  · exact .inr (List.mem_singleton.1 hk)

theorem leads_branch {greedy : Bool} {body next : Nat}
    (hcode : code[j.label]? = some (branch greedy body next)) (h : j.Leads code k) :
    k = ⟨body, j.place, j.slots⟩ ∨ k = ⟨next, j.place, j.slots⟩ := by
  cases greedy with
  | true => exact leads_split hcode h
  | false => exact (leads_split hcode h).symm

end Walks

/-! ### Rows of instructions -/

/-- **A longer row of instructions**, none of which accepts beyond the old ones. -/
structure Extends (code code' : Code) : Prop where
  grows : code.size ≤ code'.size
  keeps : ∀ ⦃i⦄, i < code.size → code'[i]? = code[i]?
  goes : ∀ ⦃i⦄, code.size ≤ i → code'[i]? ≠ some .accept

/-- A finished row holds the instructions of another one from a label on. -/
def Holds (full code : Code) (lo : Nat) : Prop :=
  ∀ ⦃i⦄, lo ≤ i → i < code.size → full[i]? = code[i]?

section Rows

variable {code code' code'' full : Code} {lo : Nat} {instr : Instr}

theorem Extends.refl (code : Code) : Extends code code :=
  ⟨Nat.le_refl _, fun _ _ => rfl, fun i hi => by
    rw [Array.getElem?_eq_none hi]
    exact nofun⟩

theorem Extends.trans (h : Extends code code') (h' : Extends code' code'') :
    Extends code code'' := by
  refine ⟨Nat.le_trans h.grows h'.grows, fun i hi => ?_, fun i hi => ?_⟩
  · rw [h'.keeps (Nat.lt_of_lt_of_le hi h.grows), h.keeps hi]
  · by_cases hnew : i < code'.size
    · rw [h'.keeps hnew]
      exact h.goes hi
    · exact h'.goes (Nat.le_of_not_lt hnew)

theorem extends_push (hinstr : instr ≠ .accept) : Extends code (code.push instr) := by
  refine ⟨?_, fun i hi => ?_, fun i hi => ?_⟩
  · rw [Array.size_push]
    exact Nat.le_succ _
  · rw [Array.getElem?_push, if_neg (Nat.ne_of_lt hi)]
  · rw [Array.getElem?_push]
    split
    · exact fun h => hinstr (Option.some_inj.1 h)
    · rw [Array.getElem?_eq_none hi]
      exact nofun

theorem branch_ne_accept (greedy : Bool) (body next : Nat) : branch greedy body next ≠ .accept := by
  cases greedy <;> exact Instr.noConfusion

theorem Holds.mono {lo' : Nat} (h : Holds full code lo) (hlo : lo ≤ lo') : Holds full code lo' :=
  fun _ hi => h (Nat.le_trans hlo hi)

theorem Holds.of_extends (h : Holds full code' lo) (hcode : Extends code code') :
    Holds full code lo := fun _ hlo hi =>
  (h hlo (Nat.lt_of_lt_of_le hi hcode.grows)).trans (hcode.keeps hi)

theorem Holds.last (h : Holds full (code.push instr) lo) (hlo : lo ≤ code.size) :
    full[code.size]? = some instr := by
  rw [h hlo (by rw [Array.size_push]; exact Nat.lt_succ_self _), Array.getElem?_push, if_pos rfl]

end Rows

/-- **The instructions of a relation between places.** -/
structure Emits (emit : Emit) (R : Place → Place → Prop) : Prop where
  adds : ∀ next code, Extends code (emit next code).1
  exits : ∀ ⦃next code full⦄, Holds full (emit next code).1 code.size →
    Exits full code.size (emit next code).2 next R

section Emits

variable {emit emit' : Emit} {R R' : Place → Place → Prop}

theorem Emits.mono (h : Emits emit R) (hR : ∀ p q, R p q → R' p q) : Emits emit R' :=
  ⟨h.adds, fun _ _ _ hfull _ _ _ hj hpath hk =>
    let ⟨m, mid, hm, hmid, hmatch, hkeeps, hrest⟩ := h.exits hfull hj hpath hk
    ⟨m, mid, hm, hmid, hR _ _ hmatch, hkeeps, hrest⟩⟩

theorem emits_empty : Emits (fun next code => (code, next)) fun p q => q = p :=
  ⟨fun _ code => .refl code, fun _ _ _ _ n j _ hj hpath _ =>
    ⟨n, j, Nat.le_refl n, hj, rfl, .refl j, hpath⟩⟩

/-- One instruction whose steps go to the continuation. -/
theorem emits_push {instr : Nat → Instr} (hinstr : ∀ next, instr next ≠ .accept)
    (hleads : ∀ ⦃full : Code⦄ ⦃next : Nat⦄ ⦃j k : Job⦄, full[j.label]? = some (instr next) →
      j.Leads full k → k.label = next ∧ R j.place k.place ∧ j.Keeps k) :
    Emits (fun next code => push (instr next) code) R := by
  refine ⟨fun next code => extends_push (hinstr next),
    fun next code full hfull n j k hj hpath hk => ?_⟩
  have hj : j.label = code.size := hj
  obtain ⟨m, mid, rfl, hfirst, hrest⟩ := hpath.first hk (Nat.le_of_eq hj.symm)
  have hcode : full[j.label]? = some (instr next) := by
    rw [hj]
    exact hfull.last (Nat.le_refl _)
  obtain ⟨hlabel, hR, hkeeps⟩ := hleads hcode hfirst
  exact ⟨m, mid, Nat.le_succ m, hlabel, hR, hkeeps, hrest⟩

theorem emits_set (members : Ranges) :
    Emits (fun next code => push (.set members next) code) (Matches (.set members)) := by
  refine emits_push (fun _ => Instr.noConfusion) fun full next j k hcode hleads => ?_
  obtain ⟨c, rest, hrest, hc, rfl⟩ := leads_set hcode hleads
  exact ⟨rfl, ⟨c, rest, hrest, hc, rfl⟩, .refl j⟩

theorem emits_look (test : Look) :
    Emits (fun next code => push (.look test next) code) (Matches (.look test)) := by
  refine emits_push (fun _ => Instr.noConfusion) fun full next j k hcode hleads => ?_
  obtain ⟨htest, rfl⟩ := leads_look hcode hleads
  exact ⟨rfl, ⟨htest, rfl⟩, .refl j⟩

/-- **One row in front of another.** -/
theorem emits_seq (h : Emits emit R) (h' : Emits emit' R') :
    Emits (fun next code => emit (emit' next code).2 (emit' next code).1)
      fun p q => ∃ m, R p m ∧ R' m q := by
  refine ⟨fun next code => (h'.adds next code).trans (h.adds _ _),
    fun next code full hfull n j k hj hpath hk => ?_⟩
  have hgrows := (h'.adds next code).grows
  obtain ⟨m, mid, hm, hmid, hR, hkeeps, hrest⟩ :=
    h.exits (hfull.mono hgrows) hj hpath (Nat.lt_of_lt_of_le hk hgrows)
  obtain ⟨l, last, hl, hlast, hR', hkeeps', hend⟩ :=
    h'.exits (hfull.of_extends (h.adds _ _)) hmid hrest hk
  exact ⟨l, last, Nat.le_trans hl hm, hlast, ⟨mid.place, hR, hR'⟩, hkeeps.trans hkeeps', hend⟩

/-- **Two rows side by side**, behind a choice. -/
theorem emits_alt (h : Emits emit R) (h' : Emits emit' R') :
    Emits (fun next code =>
        push (.split (emit next code).2 (emit' next (emit next code).1).2)
          (emit' next (emit next code).1).1)
      fun p q => R p q ∨ R' p q := by
  refine ⟨fun next code => ((h.adds next code).trans (h'.adds next _)).trans
    (extends_push Instr.noConfusion), fun next code full hfull n j k hj hpath hk => ?_⟩
  have hfirst := h.adds next code
  have hsecond := h'.adds next (emit next code).1
  have hboth := hfirst.trans hsecond
  have hfull' := hfull.of_extends (extends_push Instr.noConfusion)
  have hj : j.label = (emit' next (emit next code).1).1.size := hj
  obtain ⟨m, mid, rfl, hleads, hrest⟩ := hpath.first hk (hj ▸ hboth.grows)
  have hcode : full[j.label]? = some (.split (emit next code).2
      (emit' next (emit next code).1).2) := by
    rw [hj]
    exact hfull.last hboth.grows
  rcases leads_split hcode hleads with rfl | rfl
  · obtain ⟨l, last, hl, hlast, hR, hkeeps, hend⟩ :=
      h.exits (hfull'.of_extends hsecond) rfl hrest hk
    exact ⟨l, last, Nat.le_succ_of_le hl, hlast, .inl hR, hkeeps, hend⟩
  · obtain ⟨l, last, hl, hlast, hR, hkeeps, hend⟩ :=
      h'.exits (hfull'.mono hfirst.grows) rfl hrest (Nat.lt_of_lt_of_le hk hfirst.grows)
    exact ⟨l, last, Nat.le_succ_of_le hl, hlast, .inr hR, hkeeps, hend⟩

/-- A row that may be left out. -/
theorem emits_maybe (greedy : Bool) (h : Emits emit R) :
    Emits (fun next code => push (branch greedy (emit next code).2 next) (emit next code).1)
      fun p q => R p q ∨ q = p := by
  refine ⟨fun next code => (h.adds next code).trans (extends_push (branch_ne_accept _ _ _)),
    fun next code full hfull n j k hj hpath hk => ?_⟩
  have hgrows := (h.adds next code).grows
  have hj : j.label = (emit next code).1.size := hj
  obtain ⟨m, mid, rfl, hleads, hrest⟩ := hpath.first hk (hj ▸ hgrows)
  have hcode : full[j.label]? = some (branch greedy (emit next code).2 next) := by
    rw [hj]
    exact hfull.last hgrows
  rcases leads_branch hcode hleads with rfl | rfl
  · obtain ⟨l, last, hl, hlast, hR, hkeeps, hend⟩ :=
      h.exits (hfull.of_extends (extends_push (branch_ne_accept _ _ _))) rfl hrest hk
    exact ⟨l, last, Nat.le_succ_of_le hl, hlast, .inl hR, hkeeps, hend⟩
  · exact ⟨m, ⟨next, j.place, j.slots⟩, Nat.le_succ m, rfl, .inr rfl, ⟨rfl, rfl⟩, hrest⟩

/-! ### Repetition -/

theorem emits_copies (h : Emits emit R) (n : Nat) : Emits (copies emit n) (Rounds R n) := by
  induction n with
  | zero => exact emits_empty
  | succ n ih =>
      refine (emits_seq ih h).mono fun p q hpq => ?_
      obtain ⟨m, hmany, hlast⟩ := hpq
      rw [Nat.add_comm n 1]
      exact rounds_add hmany (rounds_one hlast)

theorem emits_upTo (h : Emits emit R) (greedy : Bool) (n : Nat) :
    Emits (fun next code => upTo emit greedy next n code)
      fun p q => ∃ k, k ≤ n ∧ Rounds R k p q := by
  induction n with
  | zero => exact emits_empty.mono fun p q hpq => ⟨0, Nat.le_refl 0, hpq⟩
  | succ n ih =>
      refine (emits_maybe greedy (emits_seq h ih)).mono fun p q hpq => ?_
      rcases hpq with ⟨m, hfirst, k, hk, hrest⟩ | hpq
      · exact ⟨k + 1, Nat.succ_le_succ hk, m, hfirst, hrest⟩
      · exact ⟨0, Nat.zero_le _, hpq⟩

section Loop

variable (emit) (greedy : Bool) (next : Nat) (code : Code)

/-- The body of a loop, in front of its choice. -/
def loopBody : Code × Nat := emit code.size (code.push .accept)

theorem loop_eq : loop emit greedy next code
    = ((loopBody emit code).1.setIfInBounds code.size
        (branch greedy (loopBody emit code).2 next), (loopBody emit code).2, code.size) := rfl

variable {emit greedy next code} (h : Emits emit R)
include h

theorem size_lt_loopBody : code.size < (loopBody emit code).1.size :=
  Nat.lt_of_lt_of_le (by rw [Array.size_push]; exact Nat.lt_succ_self _) (h.adds _ _).grows

theorem extends_loop : Extends code (loop emit greedy next code).1 := by
  have hbody : Extends (code.push .accept) (loopBody emit code).1 := h.adds _ _
  rw [loop_eq]
  refine ⟨?_, fun i hi => ?_, fun i hi => ?_⟩
  · rw [Array.size_setIfInBounds]
    exact Nat.le_of_lt (size_lt_loopBody h)
  · rw [Array.getElem?_setIfInBounds_ne (Nat.ne_of_gt hi),
      hbody.keeps (by rw [Array.size_push]; exact Nat.lt_succ_of_lt hi), Array.getElem?_push,
      if_neg (Nat.ne_of_lt hi)]
  · rcases Nat.eq_or_lt_of_le hi with rfl | hi
    · rw [Array.getElem?_setIfInBounds_self_of_lt (size_lt_loopBody h)]
      exact fun heq => branch_ne_accept _ _ _ (Option.some_inj.1 heq)
    · rw [Array.getElem?_setIfInBounds_ne (Nat.ne_of_lt hi)]
      exact hbody.goes (by rw [Array.size_push]; exact hi)

variable {full : Code} (hfull : Holds full (loop emit greedy next code).1 code.size)
include hfull

theorem loop_choice :
    full[code.size]? = some (branch greedy (loopBody emit code).2 next) := by
  rw [loop_eq] at hfull
  rw [hfull (Nat.le_refl _) (by rw [Array.size_setIfInBounds]; exact size_lt_loopBody h),
    Array.getElem?_setIfInBounds_self_of_lt (size_lt_loopBody h)]

theorem loop_body :
    Exits full (code.push .accept).size (loopBody emit code).2 code.size R := by
  rw [loop_eq] at hfull
  refine h.exits fun i hlo hi => ?_
  have hlt : code.size < i := by
    rw [Array.size_push] at hlo
    exact hlo
  rw [hfull (Nat.le_of_lt hlt) (by rw [Array.size_setIfInBounds]; exact hi),
    Array.getElem?_setIfInBounds_ne (Nat.ne_of_lt hlt)]
  rfl

/-- **From the choice of a loop on** there are some rounds. -/
theorem loop_exits_choice :
    Exits full code.size code.size next fun p q => ∃ k, Rounds R k p q := by
  intro n
  -- a round is not longer than what is left of the walk behind the choice
  induction n using Nat.strongRecOn with
  | ind n ih =>
      intro j k hj hpath hk
      obtain ⟨m, mid, rfl, hleads, hrest⟩ := hpath.first hk (Nat.le_of_eq hj.symm)
      rcases leads_branch (hj ▸ loop_choice h hfull) hleads with rfl | rfl
      · obtain ⟨l, choice, hl, hchoice, hR, hkeeps, hmore⟩ := loop_body h hfull rfl hrest
          (by rw [Array.size_push]; exact Nat.lt_succ_of_lt hk)
        obtain ⟨l', last, hl', hlast, ⟨r, hrounds⟩, hkeeps', hend⟩ :=
          ih l (Nat.lt_succ_of_le hl) hchoice hmore hk
        exact ⟨l', last, Nat.le_trans hl' (Nat.le_succ_of_le hl), hlast,
          ⟨r + 1, choice.place, hR, hrounds⟩, hkeeps.trans hkeeps', hend⟩
      · exact ⟨m, ⟨next, j.place, j.slots⟩, Nat.le_succ m, rfl, ⟨0, rfl⟩, ⟨rfl, rfl⟩, hrest⟩

theorem loop_exits_body :
    Exits full code.size (loopBody emit code).2 next fun p q => ∃ k, Rounds R (k + 1) p q := by
  intro n j k hj hpath hk
  obtain ⟨m, choice, hm, hchoice, hR, hkeeps, hmore⟩ := loop_body h hfull hj hpath
    (by rw [Array.size_push]; exact Nat.lt_succ_of_lt hk)
  obtain ⟨l, last, hl, hlast, ⟨r, hrounds⟩, hkeeps', hend⟩ :=
    loop_exits_choice h hfull hchoice hmore hk
  exact ⟨l, last, Nat.le_trans hl hm, hlast, ⟨r, choice.place, hR, hrounds⟩,
    hkeeps.trans hkeeps', hend⟩

end Loop

theorem emits_loop (h : Emits emit R) (greedy : Bool) :
    Emits (fun next code => ((loop emit greedy next code).1, (loop emit greedy next code).2.1))
      fun p q => ∃ k, Rounds R (k + 1) p q :=
  ⟨fun _ _ => extends_loop h, fun _ _ _ hfull => loop_exits_body h hfull⟩

/-- **Any number of copies.** -/
theorem emits_star (h : Emits emit R) (needsText greedy : Bool) :
    Emits (star emit needsText greedy) fun p q => ∃ k, Rounds R k p q := by
  cases needsText with
  | true => exact ⟨fun _ _ => extends_loop h, fun _ _ _ hfull => loop_exits_choice h hfull⟩
  | false =>
      refine (emits_maybe greedy (emits_loop h greedy)).mono fun p q hpq => ?_
      rcases hpq with ⟨k, hrounds⟩ | hpq
      · exact ⟨k + 1, hrounds⟩
      · exact ⟨0, hpq⟩

/-! ### Expressions -/

theorem emits_save {slot : Nat} (hslot : 2 ≤ slot) :
    Emits (fun next code => push (.save slot next) code) fun p q => q = p := by
  refine emits_push (fun _ => Instr.noConfusion) fun full next j k hcode hleads => ?_
  have hk := leads_save hcode hleads
  subst hk
  exact ⟨rfl, rfl, Array.getElem?_setIfInBounds_ne (by omega),
    Array.getElem?_setIfInBounds_ne (by omega)⟩

theorem emits_capture (h : Emits emit R) (number : Nat) : Emits (capture (number + 1) emit) R := by
  have hfirst := @emits_save (2 * (number + 1)) (by omega)
  have hlast := @emits_save (2 * (number + 1) + 1) (by omega)
  refine (emits_seq hfirst (emits_seq h hlast)).mono fun p q hpq => ?_
  obtain ⟨m, rfl, l, hR, rfl⟩ := hpq
  exact hR

end Emits

/-- **The instructions of an expression** are those of its matches. -/
theorem emits_compile (r : Regex) : Emits (compile r) (Matches r) := by
  induction r with
  | empty => exact emits_empty
  | set members => exact emits_set members
  | look test => exact emits_look test
  | seq a b iha ihb => exact emits_seq iha ihb
  | alt a b iha ihb => exact emits_alt iha ihb
  | repeated least most greedy body ih =>
      cases most with
      | some most =>
          refine (emits_seq (emits_copies ih least) (emits_upTo ih greedy (most - least))).mono
            fun p q hpq => ?_
          obtain ⟨m, hleast, k, hk, hmore⟩ := hpq
          refine ⟨k + least, Nat.le_add_left _ _, fun n hn => ?_, rounds_add hleast hmore⟩
          cases hn
          omega
      | none =>
          cases least with
          | zero =>
              refine (emits_star ih body.needsText greedy).mono fun p q hpq => ?_
              obtain ⟨k, hrounds⟩ := hpq
              exact ⟨k, Nat.zero_le k, nofun, hrounds⟩
          | succ least =>
              refine (emits_seq (emits_copies ih least) (emits_loop ih greedy)).mono
                fun p q hpq => ?_
              obtain ⟨m, hleast, k, hmore⟩ := hpq
              refine ⟨k + 1 + least, by omega, nofun, rounds_add hleast hmore⟩
  | group index body ih => exact emits_capture ih index

end Regex

end EventQuery
