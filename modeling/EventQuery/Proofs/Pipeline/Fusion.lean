/-
**Adjacent stages fuse.**

Two filters in a row are one filter with both conditions, and so on: what the first of two stages
lets out is all that the second one sees.  The two do not go through the same states, though.  Two
counters in a row run apart as soon as the second one is full, and a filter evaluates its condition
only on what came through, so the rows are compared by a relation between their states that every
record keeps.

Such rows may stand for each other inside a longer query, too.  In front of them there must be no
summary: it lets out several records at once, and then a row of two stages meets the errors in
another order than one stage does.

Main definitions:

* `Turn`, `Pipeline.answers` — a run, and what a pipeline answers to each call, errors included;
* `Stage.Direct`, `Processor.Direct` — stages that are not summaries;
* `Processor.Still` — stages that have no state either;
* `Pipeline.IsBisimulation` — **a relation between rows of stages that every record keeps**;
* `Stage.Interchangeable` — rows of stages that may stand for each other.

Main results:

* `Pipeline.push_append_of_ok`, `Pipeline.push_append_of_error` — stages in two groups;
* `Pipeline.IsBisimulation.answers` — rows that are related answer alike, in any surroundings;
* `Pipeline.push_pair_of_still` — two stages without state;
* `Stage.interchangeable_of_adjacent` — **the five laws of fusion**.
-/

import EventQuery.Proofs.Eval.Equations
import EventQuery.Proofs.Pipeline.Run

set_option relaxedAutoImplicit false
set_option autoImplicit false

namespace EventQuery

/-- **One call of a pipeline**, in the environment of its moment: a record comes in, or, when there
is none, the stream ends. -/
structure Turn where
  env : Environment
  record : Option Record

namespace Pipeline

/-! ### Runs that go on after an error -/

/-- One call: the state after it, and the answer. -/
def handle (p : Pipeline) (t : Turn) : Pipeline × Result (List Record) :=
  match t.record with
  | some r => p.next t.env r
  | none => p.complete t.env

/-- **The answers to a run.** -/
def answers (p : Pipeline) : List Turn → List (Result (List Record))
  | [] => []
  | t :: rest => (p.handle t).2 :: (p.handle t).1.answers rest

/-! ### Records through two groups of stages -/

variable {env : Environment} {p p' : Processor} {ps ps' qs : List Processor} {r : Record}
  {rs out : List Record} {e : EvalError}

theorem push_nil_batch : push env ps [] = (ps, .ok []) := by
  rw [push]

theorem push_cons_of_ok (hrs : rs ≠ []) (h : p.nextAll env rs = (p', .ok out)) :
    push env (p :: ps) rs = (p' :: (push env ps out).1, (push env ps out).2) := by
  obtain ⟨r, rest, rfl⟩ := List.exists_cons_of_ne_nil hrs
  simp only [push, h]

theorem push_cons_of_error (hrs : rs ≠ []) (h : p.nextAll env rs = (p', .error e)) :
    push env (p :: ps) rs = (p' :: ps, .error e) := by
  obtain ⟨r, rest, rfl⟩ := List.exists_cons_of_ne_nil hrs
  simp only [push, h]

/-- What the first group lets out is what the second one takes in. -/
theorem push_append_of_ok (h : push env ps rs = (ps', .ok out)) :
    push env (ps ++ qs) rs = (ps' ++ (push env qs out).1, (push env qs out).2) := by
  induction ps generalizing rs ps' with
  | nil =>
      obtain ⟨rfl, rfl⟩ := pushes_no_stage.1 h
      rfl
  | cons p ps ih =>
      obtain ⟨p', mid, ps', hp, hps, rfl⟩ := pushes_cons.1 h
      by_cases hrs : rs = []
      · subst hrs
        obtain ⟨rfl, rfl⟩ := Processor.passes_nil.1 hp
        obtain ⟨rfl, rfl⟩ := pushes_nil.1 hps
        simp only [push_nil_batch]
      · rw [List.cons_append, push_cons_of_ok hrs hp, ih hps]
        rfl

/-- Where the first group fails, the second one is left alone. -/
theorem push_append_of_error (h : push env ps rs = (ps', .error e)) :
    push env (ps ++ qs) rs = (ps' ++ qs, .error e) := by
  induction ps generalizing rs ps' with
  | nil => cases rs <;> cases h
  | cons p ps ih =>
      have hrs : rs ≠ [] := by
        rintro rfl
        cases h
      rcases hp : p.nextAll env rs with ⟨p', _ | mid⟩
      · rw [push_cons_of_error hrs hp] at h
        cases h
        rw [List.cons_append, push_cons_of_error hrs hp]
        rfl
      · rw [push_cons_of_ok hrs hp] at h
        obtain ⟨rfl, hmid⟩ := Prod.mk.inj h
        rw [List.cons_append, push_cons_of_ok hrs hp, ih (Prod.ext rfl hmid)]
        rfl

end Pipeline

namespace Processor

/-! ### Stages that are not summaries -/

variable {env : Environment} {p : Processor} {r : Record}

/-- **The stage is not a summary.** -/
def Direct : Processor → Prop
  | .summarize _ => False
  | _ => True

theorem nextAll_singleton (env : Environment) (p : Processor) (r : Record) :
    p.nextAll env [r] = p.next env r := by
  rw [nextAll]
  rcases p.next env r with ⟨p', _ | out⟩
  · rfl
  · simp only [nextAll, Except.map, List.append_nil]

/-- It holds nothing back. -/
theorem Direct.complete (h : p.Direct) : p.complete = (p, []) := by
  cases p with
  | summarize s => exact h.elim
  | _ => rfl

/-- It lets out at most one record for each one that comes in. -/
theorem Direct.next (h : p.Direct) (env : Environment) (r : Record) :
    (p.next env r).1.Direct ∧ ∀ out, (p.next env r).2 = .ok out → out.length ≤ 1 := by
  cases p with
  | summarize s => exact h.elim
  | filter condition =>
      refine ⟨h, fun out hout => ?_⟩
      obtain ⟨passes, -, rfl⟩ := Except.map_eq_ok_iff.1 hout
      cases passes <;> simp
  | extend _ | project _ | unfold _ _ =>
      refine ⟨h, fun out hout => ?_⟩
      obtain ⟨r', -, rfl⟩ := Except.map_eq_ok_iff.1 hout
      exact Nat.le_refl 1
  | remove _ | keep _ =>
      refine ⟨h, fun out hout => ?_⟩
      cases hout
      exact Nat.le_refl 1
  | take limit passed =>
      rw [Processor.next]
      split
      · refine ⟨trivial, fun out hout => ?_⟩
        cases hout
        exact Nat.le_refl 1
      · refine ⟨trivial, fun out hout => ?_⟩
        cases hout
        exact Nat.zero_le 1

/-- **The stage has no state**: it treats each record alike. -/
def Still : Processor → Prop
  | .summarize _ | .take _ _ => False
  | _ => True

theorem Still.direct (h : p.Still) : p.Direct := by
  cases p with
  | summarize _ | take _ _ => exact h.elim
  | _ => trivial

theorem Still.next (h : p.Still) (env : Environment) (r : Record) : (p.next env r).1 = p := by
  cases p with
  | summarize _ | take _ _ => exact h.elim
  | _ => rfl

theorem Still.nextAll (h : p.Still) (env : Environment) (rs : List Record) :
    (p.nextAll env rs).1 = p := by
  induction rs with
  | nil => rfl
  | cons r rest ih =>
      have hnext := h.next env r
      rw [Processor.nextAll]
      rcases hp : p.next env r with ⟨p', _ | out⟩
      · rw [hp] at hnext
        exact hnext
      · rw [hp] at hnext
        obtain rfl := hnext
        exact ih

end Processor

namespace Pipeline

variable {env : Environment} {p p' q : Processor} {ps qs : List Processor} {r : Record}
  {rs out : List Record} {e : EvalError}

theorem push_singleton_of_ok (h : p.next env r = (p', .ok out)) :
    push env (p :: ps) [r] = (p' :: (push env ps out).1, (push env ps out).2) :=
  push_cons_of_ok (List.cons_ne_nil r []) ((Processor.nextAll_singleton env p r).trans h)

theorem push_singleton_of_error (h : p.next env r = (p', .error e)) :
    push env (p :: ps) [r] = (p' :: ps, .error e) :=
  push_cons_of_error (List.cons_ne_nil r []) ((Processor.nextAll_singleton env p r).trans h)

/-- One record or none. -/
theorem eq_nil_or_singleton (h : rs.length ≤ 1) : rs = [] ∨ ∃ r, rs = [r] := by
  rcases Nat.le_one_iff_eq_zero_or_eq_one.1 h with h | h
  · exact .inl (List.length_eq_zero_iff.1 h)
  · exact .inr (List.length_eq_one_iff.1 h)

/-- A row of such stages lets out at most one record for one that comes in. -/
theorem direct_push (env : Environment) (hps : ∀ p ∈ ps, p.Direct) (hrs : rs.length ≤ 1) :
    (∀ p ∈ (push env ps rs).1, p.Direct)
      ∧ ∀ out, (push env ps rs).2 = .ok out → out.length ≤ 1 := by
  induction ps generalizing rs with
  | nil =>
      have hpush : push env [] rs = ([], .ok rs) := by cases rs <;> rfl
      rw [hpush]
      refine ⟨hps, fun out hout => ?_⟩
      cases hout
      exact hrs
  | cons p ps ih =>
      obtain ⟨hp, hps⟩ := List.forall_mem_cons.1 hps
      obtain rfl | ⟨r, rfl⟩ := eq_nil_or_singleton hrs
      · rw [push_nil_batch]
        refine ⟨List.forall_mem_cons.2 ⟨hp, hps⟩, fun out hout => ?_⟩
        cases hout
        exact Nat.zero_le 1
      · obtain ⟨hp', hone⟩ := hp.next env r
        rcases hnext : p.next env r with ⟨p', e | out⟩
        · rw [hnext] at hp'
          rw [push_singleton_of_error hnext]
          refine ⟨List.forall_mem_cons.2 ⟨hp', hps⟩, fun out hout => ?_⟩
          cases hout
        · rw [hnext] at hp' hone
          obtain ⟨hps', hlast⟩ := ih hps (hone out rfl)
          rw [push_singleton_of_ok hnext]
          exact ⟨List.forall_mem_cons.2 ⟨hp', hps'⟩, hlast⟩

/-- When the stream ends, what stands behind them decides. -/
theorem completeAll_append_of_direct (hps : ∀ p ∈ ps, p.Direct) :
    completeAll env (ps ++ qs) = (ps ++ (completeAll env qs).1, (completeAll env qs).2) := by
  induction ps with
  | nil => rfl
  | cons p ps ih =>
      obtain ⟨hp, hps⟩ := List.forall_mem_cons.1 hps
      rw [List.cons_append, completeAll, hp.complete]
      simp only [push_nil_batch, ih hps]
      cases hqs : (completeAll env qs).2 <;> rfl

/-! ### Rows that are related -/

/-- **A relation between rows of stages that every record keeps.** -/
structure IsBisimulation (related : List Processor → List Processor → Prop) : Prop where
  /-- None of the stages is a summary. -/
  direct : ∀ {ps qs}, related ps qs → (∀ p ∈ ps, p.Direct) ∧ ∀ q ∈ qs, q.Direct
  /-- A record is answered alike. -/
  same : ∀ {ps qs}, related ps qs → ∀ env r, (push env ps [r]).2 = (push env qs [r]).2
  /-- The rows are related again after a record. -/
  keep : ∀ {ps qs}, related ps qs → ∀ env r, related (push env ps [r]).1 (push env qs [r]).1

section IsBisimulation

variable {related : List Processor → List Processor → Prop} {before after : List Processor}

/-- One record or none. -/
theorem IsBisimulation.push (h : IsBisimulation related) (env : Environment)
    (hrel : related ps qs) (hrs : rs.length ≤ 1) :
    (Pipeline.push env ps rs).2 = (Pipeline.push env qs rs).2
      ∧ related (Pipeline.push env ps rs).1 (Pipeline.push env qs rs).1 := by
  obtain rfl | ⟨r, rfl⟩ := eq_nil_or_singleton hrs
  · rw [push_nil_batch, push_nil_batch]
    exact ⟨rfl, hrel⟩
  · exact ⟨h.same hrel env r, h.keep hrel env r⟩

/-- **One record in the same surroundings**: the answers are the same, and the rows are related
again in surroundings that are the same again. -/
theorem IsBisimulation.next (h : IsBisimulation related) (hrel : related ps qs)
    (hbefore : ∀ p ∈ before, p.Direct) (after : List Processor) (env : Environment) (r : Record) :
    ∃ before' ps' qs' after' answer,
      (∀ p ∈ before', p.Direct) ∧ related ps' qs'
      ∧ Pipeline.push env (before ++ (ps ++ after)) [r] = (before' ++ (ps' ++ after'), answer)
      ∧ Pipeline.push env (before ++ (qs ++ after)) [r] = (before' ++ (qs' ++ after'), answer) := by
  obtain ⟨hdirect, hone⟩ := direct_push env hbefore (show [r].length ≤ 1 from Nat.le_refl 1)
  rcases hfirst : Pipeline.push env before [r] with ⟨before', e | mid⟩
  · rw [hfirst] at hdirect
    exact ⟨before', ps, qs, after, .error e, hdirect, hrel, push_append_of_error hfirst,
      push_append_of_error hfirst⟩
  · rw [hfirst] at hdirect hone
    rw [push_append_of_ok hfirst, push_append_of_ok hfirst]
    obtain ⟨hsame, hkeep⟩ := h.push env hrel (hone mid rfl)
    rcases hps : Pipeline.push env ps mid with ⟨ps', e | out⟩
    all_goals
      rcases hqs : Pipeline.push env qs mid with ⟨qs', answer⟩
      rw [hps, hqs] at hsame hkeep
      obtain rfl := hsame
    · rw [push_append_of_error hps, push_append_of_error hqs]
      exact ⟨before', ps', qs', after, .error e, hdirect, hkeep, rfl, rfl⟩
    · rw [push_append_of_ok hps, push_append_of_ok hqs]
      exact ⟨before', ps', qs', _, _, hdirect, hkeep, rfl, rfl⟩

/-- **Rows that are related answer alike**, in any surroundings without a summary in front. -/
theorem IsBisimulation.answers (h : IsBisimulation related) (hrel : related ps qs)
    (hbefore : ∀ p ∈ before, p.Direct) (turns : List Turn) :
    Pipeline.answers ⟨before ++ (ps ++ after)⟩ turns
      = Pipeline.answers ⟨before ++ (qs ++ after)⟩ turns := by
  induction turns generalizing before ps qs after with
  | nil => rfl
  | cons t rest ih =>
      obtain ⟨env, _ | r⟩ := t
      · obtain ⟨hps, hqs⟩ := h.direct hrel
        have hp : (⟨before ++ (ps ++ after)⟩ : Pipeline).complete env
            = (⟨before ++ (ps ++ (completeAll env after).1)⟩, (completeAll env after).2) := by
          simp only [complete, completeAll_append_of_direct hbefore,
            completeAll_append_of_direct hps]
        have hq : (⟨before ++ (qs ++ after)⟩ : Pipeline).complete env
            = (⟨before ++ (qs ++ (completeAll env after).1)⟩, (completeAll env after).2) := by
          simp only [complete, completeAll_append_of_direct hbefore,
            completeAll_append_of_direct hqs]
        simp only [Pipeline.answers, handle, hp, hq, ih hrel hbefore]
      · obtain ⟨before', ps', qs', after', answer, hbefore', hrel', hp, hq⟩ :=
          h.next hrel hbefore after env r
        simp only [Pipeline.answers, handle, Pipeline.next, hp, hq, ih hrel' hbefore']

end IsBisimulation

/-! ### Two stages and one -/

theorem push_singleton : push env [p] [r] = ([(p.next env r).1], (p.next env r).2) := by
  rcases hnext : p.next env r with ⟨p', e | out⟩
  · rw [push_singleton_of_error hnext]
  · rw [push_singleton_of_ok hnext, pushes_no_stage.2 ⟨rfl, rfl⟩]

theorem push_pair_of_none (h : p.next env r = (p', .ok [])) :
    push env [p, q] [r] = ([p', q], .ok []) := by
  rw [push_singleton_of_ok h, push_nil_batch]

theorem push_pair_of_one {r' : Record} (h : p.next env r = (p', .ok [r'])) :
    push env [p, q] [r] = ([p', (q.next env r').1], (q.next env r').2) := by
  rw [push_singleton_of_ok h, push_singleton]

theorem push_of_still (hp : p.Still) : push env [p] rs = ([p], (p.nextAll env rs).2) := by
  have hstill := hp.nextAll env rs
  by_cases hrs : rs = []
  · subst hrs
    rw [push_nil_batch]
    rfl
  · rcases hall : p.nextAll env rs with ⟨p', e | out⟩
    all_goals
      rw [hall] at hstill
      obtain rfl := hstill
    · rw [push_cons_of_error hrs hall]
    · rw [push_cons_of_ok hrs hall, pushes_no_stage.2 ⟨rfl, rfl⟩]

/-- **Two stages without state**: the second one goes on from what the first one lets out. -/
theorem push_pair_of_still (hp : p.Still) (hq : q.Still) : push env [p, q] [r]
    = ([p, q], (p.next env r).2 >>= fun out => (q.nextAll env out).2) := by
  have hstill := hp.next env r
  rcases hnext : p.next env r with ⟨p', e | out⟩
  all_goals
    rw [hnext] at hstill
    obtain rfl := hstill
  · rw [push_singleton_of_error hnext]
    rfl
  · rw [push_singleton_of_ok hnext, push_of_still hq]
    rfl

/-- **Rows that go through the same states** and answer alike in each of them are related. -/
theorem isBisimulation_of_states {σ : Type} (ps qs : σ → List Processor)
    (hps : ∀ s, ∀ p ∈ ps s, p.Direct) (hqs : ∀ s, ∀ q ∈ qs s, q.Direct)
    (h : ∀ s env r, ∃ s' answer,
      push env (ps s) [r] = (ps s', answer) ∧ push env (qs s) [r] = (qs s', answer)) :
    IsBisimulation fun ss ts => ∃ s, ss = ps s ∧ ts = qs s where
  direct := by
    rintro _ _ ⟨s, rfl, rfl⟩
    exact ⟨hps s, hqs s⟩
  same := by
    rintro _ _ ⟨s, rfl, rfl⟩ env r
    obtain ⟨s', answer, hp, hq⟩ := h s env r
    rw [hp, hq]
  keep := by
    rintro _ _ ⟨s, rfl, rfl⟩ env r
    obtain ⟨s', answer, hp, hq⟩ := h s env r
    rw [hp, hq]
    exact ⟨s', rfl, rfl⟩

end Pipeline

namespace Processor

variable {env : Environment} {r : Record}

/-! ### The five laws -/

/-- Both conditions are one condition; the second one is looked at only where the first holds. -/
theorem test_both (a b : Expr) : (Expr.binary (.logic .both) a b).test env r
    = a.test env r >>= fun passes => if passes then b.test env r else .ok false := by
  have hlogic := Expr.evalWith_logic env (Expr.enterInside env 0) r .both a b
  rw [← Expr.evalInside_eq, Expr.evalInside_zero] at hlogic
  simp only [Expr.test, hlogic, bind_assoc]
  refine bind_congr fun v => bind_congr fun passes => ?_
  cases passes with
  | false => rfl
  | true =>
      rw [if_neg (by decide), if_pos rfl, bind_assoc]
      refine bind_congr fun w => ?_
      rw [bind_assoc]
      exact bind_pure w.truth

/-- Two conditions. -/
theorem next_filters (a b : Expr) : ((filter (.binary (.logic .both) a b)).next env r).2
    = ((filter a).next env r).2 >>= fun out => ((filter b).nextAll env out).2 := by
  simp only [next, test_both]
  rcases a.test env r with e | passes
  · rfl
  · cases passes with
    | false => rfl
    | true => exact (congrArg Prod.snd (nextAll_singleton env (filter b) r)).symm

theorem extendRecord_append (cs ds : List Column) : extendRecord env r (cs ++ ds)
    = extendRecord env r cs >>= fun r' => extendRecord env r' ds := by
  induction cs generalizing r with
  | nil => rfl
  | cons column rest ih =>
      simp only [List.cons_append, extendRecord, bind_assoc, ih]

/-- Columns are added one after the other. -/
theorem next_extends (cs ds : List Column) : ((extend (cs ++ ds)).next env r).2
    = ((extend cs).next env r).2 >>= fun out => ((extend ds).nextAll env out).2 := by
  simp only [next, extendRecord_append]
  rcases extendRecord env r cs with e | r'
  · rfl
  · exact (congrArg Prod.snd (nextAll_singleton env (extend ds) r')).symm

/-- Names are taken out one after the other. -/
theorem next_removes (ns ms : List String) : ((remove (ns ++ ms)).next env r).2
    = ((remove ns).next env r).2 >>= fun out => ((remove ms).nextAll env out).2 := by
  have happend : removeFields r (ns ++ ms) = removeFields (removeFields r ns) ms :=
    List.foldl_append
  simp only [next, happend]
  exact (congrArg Prod.snd (nextAll_singleton env (remove ms) (removeFields r ns))).symm

/-- What two projections keep is what they have in common, in whatever order it is listed. -/
theorem next_keeps {ns ms common : List String}
    (hcommon : ∀ name, name ∈ common ↔ name ∈ ns ∧ name ∈ ms) : ((keep common).next env r).2
    = ((keep ns).next env r).2 >>= fun out => ((keep ms).nextAll env out).2 := by
  have hkeep : keepFields r common = keepFields (keepFields r ns) ms := by
    rw [keepFields, keepFields, keepFields, List.filter_filter]
    refine List.filter_congr fun field _ => ?_
    rw [Bool.eq_iff_iff, Bool.and_eq_true, List.contains_iff_mem, List.contains_iff_mem,
      List.contains_iff_mem, hcommon, and_comm]
  simp only [next, hkeep]
  exact (congrArg Prod.snd (nextAll_singleton env (keep ms) (keepFields r ns))).symm

end Processor

namespace Pipeline

variable {env : Environment} {r : Record}

theorem next_take_of_lt {limit passed : Nat} (h : passed < limit) :
    (Processor.take limit passed).next env r = (.take limit (passed + 1), .ok [r]) := by
  rw [Processor.next, if_pos h]

theorem next_take_of_ge {limit passed : Nat} (h : limit ≤ passed) :
    (Processor.take limit passed).next env r = (.take limit passed, .ok []) := by
  rw [Processor.next, if_neg (Nat.not_lt.2 h)]

/-- The second of two counters is as far as the first one until it is full, and the one counter is
as far as the second one. -/
theorem push_takes {m i : Nat} (hi : i ≤ m) (n : Nat) (env : Environment) (r : Record) :
    ∃ j ≤ m, ∃ answer,
    push env [.take m i, .take n (min n i)] [r] = ([.take m j, .take n (min n j)], answer)
      ∧ push env [.take (min m n) (min n i)] [r] = ([.take (min m n) (min n j)], answer) := by
  rw [push_singleton]
  rcases Nat.lt_or_ge i m with him | him
  · rw [push_pair_of_one (next_take_of_lt him)]
    rcases Nat.lt_or_ge i n with hin | hin
    · have hmin : min n (i + 1) = min n i + 1 := by omega
      rw [next_take_of_lt (by omega), next_take_of_lt (by omega), ← hmin]
      exact ⟨i + 1, him, .ok [r], rfl, rfl⟩
    · have hmin : min n (i + 1) = min n i := by omega
      rw [next_take_of_ge (by omega), next_take_of_ge (by omega), ← hmin]
      exact ⟨i + 1, him, .ok [], rfl, rfl⟩
  · rw [push_pair_of_none (next_take_of_ge him), next_take_of_ge (by omega)]
    exact ⟨i, hi, .ok [], rfl, rfl⟩

end Pipeline

/-! ### Queries -/

/-- **What a query does**: the answers of its pipeline to any run, unless it does not compile. -/
def Query.behaviour (q : Query) : Result (List Turn → List (Result (List Record))) :=
  (Pipeline.ofQuery q).map Pipeline.answers

namespace Stage

/-- **The stage is not a summary.** -/
def Direct : Stage → Prop
  | .summarize _ => False
  | _ => True

/-- **Rows of stages that may stand for each other**: as queries of their own they compile and
answer every call of every run alike, and so do longer queries that have the one or the other row
in the same place, where no summary stands in front of it. -/
structure Interchangeable (ss ts : List Stage) : Prop where
  alone : ∀ source, ∃ f,
    Query.behaviour ⟨source, ss⟩ = .ok f ∧ Query.behaviour ⟨source, ts⟩ = .ok f
  within : ∀ source before after, (∀ s ∈ before, s.Direct) →
    Query.behaviour ⟨source, before ++ (ss ++ after)⟩
      = Query.behaviour ⟨source, before ++ (ts ++ after)⟩

theorem Direct.ofStage {s : Stage} {p : Processor} (h : s.Direct)
    (hp : Processor.ofStage s = .ok p) : p.Direct := by
  cases s with
  | summarize summary => exact h.elim
  | _ =>
      cases hp
      trivial

theorem direct_of_mapM {ss : List Stage} {ps : List Processor} (hss : ∀ s ∈ ss, s.Direct)
    (h : ss.mapM Processor.ofStage = .ok ps) : ∀ p ∈ ps, p.Direct := by
  induction ss generalizing ps with
  | nil =>
      cases h
      exact List.forall_mem_nil _
  | cons s rest ih =>
      obtain ⟨p, ps, hp, hps, rfl⟩ := Except.mapM_cons_eq_ok_iff.1 h
      obtain ⟨hs, hrest⟩ := List.forall_mem_cons.1 hss
      exact List.forall_mem_cons.2 ⟨hs.ofStage hp, ih hrest hps⟩

/-- A query does what its stages do, one group behind the other. -/
theorem behaviour_append {before ss after : List Stage} {ps : List Processor}
    (hps : ss.mapM Processor.ofStage = .ok ps) (source : Option String) :
    Query.behaviour ⟨source, before ++ (ss ++ after)⟩ = (do
      let front ← before.mapM Processor.ofStage
      let back ← after.mapM Processor.ofStage
      .ok (Pipeline.answers ⟨front ++ (ps ++ back)⟩)) := by
  rw [Query.behaviour, Pipeline.ofQuery, List.mapM_append, List.mapM_append, hps]
  cases before.mapM Processor.ofStage with
  | error e => rfl
  | ok front => cases after.mapM Processor.ofStage <;> rfl

/-- **Rows of stages may stand for each other** when they compile to rows that are related. -/
theorem interchangeable_of_isBisimulation {related : List Processor → List Processor → Prop}
    (h : Pipeline.IsBisimulation related) {ss ts : List Stage} {ps qs : List Processor}
    (hps : ss.mapM Processor.ofStage = .ok ps) (hqs : ts.mapM Processor.ofStage = .ok qs)
    (hrel : related ps qs) : Interchangeable ss ts := by
  have hwithin : ∀ source before after, (∀ s ∈ before, s.Direct) →
      Query.behaviour ⟨source, before ++ (ss ++ after)⟩
        = Query.behaviour ⟨source, before ++ (ts ++ after)⟩ := by
    intro source before after hbefore
    rw [behaviour_append hps, behaviour_append hqs]
    rcases hfront : before.mapM Processor.ofStage with e | front
    · rfl
    · have hdirect := direct_of_mapM hbefore hfront
      rcases after.mapM Processor.ofStage with e | back
      · rfl
      · exact congrArg Except.ok (funext fun turns => h.answers hrel hdirect turns)
  refine ⟨fun source => ⟨Pipeline.answers ⟨ps⟩, ?_, ?_⟩, hwithin⟩
  · rw [Query.behaviour, Pipeline.ofQuery, hps]
    rfl
  · have halone := hwithin source [] [] (List.forall_mem_nil _)
    rw [List.nil_append, List.nil_append, List.append_nil, List.append_nil] at halone
    rw [← halone, Query.behaviour, Pipeline.ofQuery, hps]
    rfl

section Laws

variable {ss ts : List Stage}

/-- **Two stages without state** may be replaced by one that does what they do in turn. -/
theorem interchangeable_of_still {s t u : Stage} {p q v : Processor}
    (hs : Processor.ofStage s = .ok p) (ht : Processor.ofStage t = .ok q)
    (hu : Processor.ofStage u = .ok v) (hp : p.Still) (hq : q.Still) (hv : v.Still)
    (h : ∀ env r,
      (v.next env r).2 = (p.next env r).2 >>= fun out => (q.nextAll env out).2) :
    Interchangeable [s, t] [u] := by
  have hsim := Pipeline.isBisimulation_of_states (fun _ : Unit => [p, q]) (fun _ => [v])
    (fun _ => by simp [hp.direct, hq.direct]) (fun _ => by simp [hv.direct]) fun _ env r =>
      ⟨(), _, Pipeline.push_pair_of_still hp hq, by
        rw [Pipeline.push_singleton, hv.next, h]⟩
  have hpair : [s, t].mapM Processor.ofStage = .ok [p, q] :=
    Except.mapM_cons_eq_ok_iff.2
      ⟨p, [q], hs, Except.mapM_cons_eq_ok_iff.2 ⟨q, [], ht, rfl, rfl⟩, rfl⟩
  have hone : [u].mapM Processor.ofStage = .ok [v] :=
    Except.mapM_cons_eq_ok_iff.2 ⟨v, [], hu, rfl, rfl⟩
  exact interchangeable_of_isBisimulation hsim hpair hone ⟨(), rfl, rfl⟩

/-- Two counters go through one state for each number of records that the first one has let
through. -/
theorem interchangeable_takes (m n : Nat) :
    Interchangeable [.take m, .take n] [.take (min m n)] := by
  have hsim := Pipeline.isBisimulation_of_states (fun i : { i // i ≤ m } =>
      [.take m i, .take n (min n i)]) (fun i => [.take (min m n) (min n i)])
    (by simp [Processor.Direct]) (by simp [Processor.Direct]) fun i env r => by
      obtain ⟨j, hj, answer, hp, hq⟩ := Pipeline.push_takes i.2 n env r
      exact ⟨⟨j, hj⟩, answer, hp, hq⟩
  have hstart : min n 0 = 0 := Nat.min_zero n
  exact interchangeable_of_isBisimulation hsim rfl rfl
    ⟨⟨0, Nat.zero_le m⟩, by rw [hstart]; rfl, by rw [hstart]; rfl⟩

/-- **Adjacent stages fuse.** -/
theorem interchangeable_of_adjacent (a b : Expr) (cs ds : List Column) (ns ms common : List String)
    (hcommon : ∀ name, name ∈ common ↔ name ∈ ns ∧ name ∈ ms) (m n : Nat) :
    Interchangeable [.filter a, .filter b] [.filter (.binary (.logic .both) a b)]
    ∧ Interchangeable [.extend cs, .extend ds] [.extend (cs ++ ds)]
    ∧ Interchangeable [.remove ns, .remove ms] [.remove (ns ++ ms)]
    ∧ Interchangeable [.keep ns, .keep ms] [.keep common]
    ∧ Interchangeable [.take m, .take n] [.take (min m n)] :=
  ⟨interchangeable_of_still rfl rfl rfl trivial trivial trivial fun _ _ =>
      Processor.next_filters a b,
    interchangeable_of_still rfl rfl rfl trivial trivial trivial fun _ _ =>
      Processor.next_extends cs ds,
    interchangeable_of_still rfl rfl rfl trivial trivial trivial fun _ _ =>
      Processor.next_removes ns ms,
    interchangeable_of_still rfl rfl rfl trivial trivial trivial fun _ _ =>
      Processor.next_keeps hcommon,
    interchangeable_takes m n⟩

/-- A name that two projections share, and two counters of which the second one is full first: three
records of which two go out, with one field each. -/
theorem interchangeable_of_shared_name :
    (∀ name, name ∈ ["b"] ↔ name ∈ ["a", "b"] ∧ name ∈ ["b", "c"])
    ∧ Query.behaviour ⟨none, [.take 3] ++ ([.keep ["a", "b"], .keep ["b", "c"]] ++ [.take 2])⟩
      = Query.behaviour ⟨none, [.take 3] ++ ([.keep ["b"]] ++ [.take 2])⟩
    ∧ ∃ f, Query.behaviour ⟨none, [.take 3, .take 2]⟩ = .ok f
      ∧ f (List.replicate 3 ⟨default, some [("b", .null)]⟩)
        = [.ok [[("b", .null)]], .ok [[("b", .null)]], .ok []] := by
  have hcommon : ∀ name, name ∈ ["b"] ↔ name ∈ ["a", "b"] ∧ name ∈ ["b", "c"] := by
    intro name
    simp only [List.mem_cons, List.not_mem_nil, or_false]
    constructor
    · rintro rfl
      exact ⟨.inr rfl, .inl rfl⟩
    · rintro ⟨rfl | rfl, h⟩
      · exact absurd h (by decide)
      · rfl
  obtain ⟨-, -, -, hkeep, htake⟩ :=
    interchangeable_of_adjacent default default [] [] ["a", "b"] ["b", "c"] ["b"] hcommon 3 2
  refine ⟨hcommon, hkeep.within none [.take 3] [.take 2] (by simp [Direct]), ?_⟩
  obtain ⟨f, hf, hone⟩ := htake.alone none
  refine ⟨f, hf, ?_⟩
  cases hone
  rfl

end Laws

end Stage

end EventQuery
