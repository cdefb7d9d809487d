/-
**Runs of pipelines.**

A run feeds records to a pipeline one after the other and then ends it; what reaches the end of the
pipeline is collected, and the first error ends the run.  Errors aside, a pipeline cannot tell how
its input was cut into batches: `EventQuery/Pipeline/Basic.lean` moves batches from stage to stage,
and the relations of this module say what a batch amounts to, whatever its size.

Main definitions:

* `Processor.Passes` — a stage takes in records without an error;
* `Pipeline.Pushes`, `Pipeline.Ends` — stages take in records, and end, without an error;
* `Pipeline.feed`, `Pipeline.run` — records one after the other, and a whole run.

Main results:

* `Pipeline.pushes_append` — **two batches one after the other are one batch**;
* `Pipeline.pushes_stages_append`, `Pipeline.ends_append` — the same for stages in two groups;
* `Pipeline.run_eq_ok_iff` — a run without an error is one batch and the end.
-/

import EventQuery.Pipeline.Basic
import EventQuery.Proofs.Except

set_option relaxedAutoImplicit false
set_option autoImplicit false

namespace EventQuery

/-! ### One stage -/

namespace Processor

variable {env : Environment}

/-- **A stage takes in records without an error**: the stage after them, and what it lets out. -/
def Passes (env : Environment) (p : Processor) (rs : List Record) (p' : Processor)
    (out : List Record) : Prop :=
  p.nextAll env rs = (p', .ok out)

@[simp] theorem passes_nil {p p' : Processor} {out : List Record} :
    p.Passes env [] p' out ↔ p' = p ∧ out = [] := by
  simp only [Passes, nextAll, Prod.mk.injEq, Except.ok.injEq]
  constructor
  · rintro ⟨rfl, rfl⟩
    exact ⟨rfl, rfl⟩
  · rintro ⟨rfl, rfl⟩
    exact ⟨rfl, rfl⟩

theorem passes_cons {p p' : Processor} {r : Record} {rs out : List Record} :
    p.Passes env (r :: rs) p' out ↔
      ∃ m first rest, p.next env r = (m, .ok first) ∧ m.Passes env rs p' rest ∧
        out = first ++ rest := by
  simp only [Passes, nextAll]
  cases hn : p.next env r with
  | mk m result =>
      cases result with
      | error e => simp
      | ok first =>
          simp only [Prod.mk.injEq, Except.ok.injEq, Except.map_eq_ok_iff]
          constructor
          · rintro ⟨hp, rest, hr, ho⟩
            exact ⟨m, first, rest, ⟨rfl, rfl⟩, Prod.ext hp hr, ho.symm⟩
          · rintro ⟨m', first', rest, ⟨rfl, rfl⟩, hr, ho⟩
            exact ⟨by rw [hr], rest, by rw [hr], ho.symm⟩

/-- **Two batches one after the other are one batch.** -/
theorem passes_append {p p' : Processor} {xs ys out : List Record} :
    p.Passes env (xs ++ ys) p' out ↔
      ∃ m first rest, p.Passes env xs m first ∧ m.Passes env ys p' rest ∧
        out = first ++ rest := by
  induction xs generalizing p out with
  | nil => simp
  | cons r xs ih =>
      simp only [List.cons_append, passes_cons, ih]
      constructor
      · rintro ⟨m, o, rest, hn, ⟨m', o', rest', hx, hy, rfl⟩, rfl⟩
        exact ⟨m', o ++ o', rest', ⟨m, o, o', hn, hx, rfl⟩, hy, by rw [List.append_assoc]⟩
      · rintro ⟨m', first, rest, ⟨m, o, o', hn, hx, rfl⟩, hy, rfl⟩
        exact ⟨m, o, o' ++ rest, hn, ⟨m', o', rest, hx, hy, rfl⟩, by rw [List.append_assoc]⟩

end Processor

namespace Pipeline

variable {env : Environment}

/-! ### A row of stages -/

/-- **Stages take in records without an error**: the stages after them, and what reaches the
end. -/
def Pushes (env : Environment) (ps : List Processor) (rs : List Record) (ps' : List Processor)
    (out : List Record) : Prop :=
  push env ps rs = (ps', .ok out)

@[simp] theorem pushes_nil {ps ps' : List Processor} {out : List Record} :
    Pushes env ps [] ps' out ↔ ps' = ps ∧ out = [] := by
  rw [Pushes, push]
  simp [eq_comm]

@[simp] theorem pushes_no_stage {ps' : List Processor} {rs out : List Record} :
    Pushes env [] rs ps' out ↔ ps' = [] ∧ out = rs := by
  cases rs with
  | nil => simp
  | cons r rs => simp [Pushes, push, eq_comm]

theorem pushes_cons {p : Processor} {ps ss : List Processor} {rs out : List Record} :
    Pushes env (p :: ps) rs ss out ↔
      ∃ p' mid ps', p.Passes env rs p' mid ∧ Pushes env ps mid ps' out ∧ ss = p' :: ps' := by
  cases rs with
  | nil => simp [and_comm]
  | cons r rs =>
      simp only [Pushes, push, Processor.Passes]
      cases hn : p.nextAll env (r :: rs) with
      | mk p' result =>
          cases result with
          | error e => simp
          | ok mid =>
              simp only [Prod.mk.injEq, Except.ok.injEq]
              constructor
              · rintro ⟨hs, ho⟩
                exact ⟨p', mid, _, ⟨rfl, rfl⟩, Prod.ext rfl ho, hs.symm⟩
              · rintro ⟨q, m, ps', ⟨rfl, rfl⟩, hp, rfl⟩
                exact ⟨by rw [hp], by rw [hp]⟩

theorem Pushes.length_eq {ps ps' : List Processor} {rs out : List Record}
    (h : Pushes env ps rs ps' out) : ps'.length = ps.length := by
  have := length_push env ps rs
  rwa [h] at this

/-- **Two batches one after the other are one batch**, also for several stages. -/
theorem pushes_append {ps ps' : List Processor} {xs ys out : List Record} :
    Pushes env ps (xs ++ ys) ps' out ↔
      ∃ ms first rest, Pushes env ps xs ms first ∧ Pushes env ms ys ps' rest ∧
        out = first ++ rest := by
  induction ps generalizing ps' xs ys out with
  | nil =>
      simp only [pushes_no_stage]
      constructor
      · rintro ⟨rfl, rfl⟩
        exact ⟨[], xs, ys, ⟨rfl, rfl⟩, by simp, rfl⟩
      · rintro ⟨ms, first, rest, ⟨rfl, rfl⟩, h, rfl⟩
        obtain ⟨rfl, rfl⟩ := pushes_no_stage.1 h
        exact ⟨rfl, rfl⟩
  | cons p ps ih =>
      constructor
      · intro h
        obtain ⟨p', mid, qs, hp, hq, rfl⟩ := pushes_cons.1 h
        obtain ⟨m, first, rest, hx, hy, rfl⟩ := Processor.passes_append.1 hp
        obtain ⟨ms, o, o', hox, hoy, rfl⟩ := ih.1 hq
        exact ⟨m :: ms, o, o', pushes_cons.2 ⟨m, first, ms, hx, hox, rfl⟩,
          pushes_cons.2 ⟨p', rest, qs, hy, hoy, rfl⟩, rfl⟩
      · rintro ⟨ss, o, o', hx, hy, rfl⟩
        obtain ⟨m, first, ms, hpx, hox, rfl⟩ := pushes_cons.1 hx
        obtain ⟨p', rest, qs, hpy, hoy, rfl⟩ := pushes_cons.1 hy
        exact pushes_cons.2 ⟨p', first ++ rest, qs,
          Processor.passes_append.2 ⟨m, first, rest, hpx, hpy, rfl⟩,
          ih.2 ⟨ms, o, o', hox, hoy, rfl⟩, rfl⟩

/-- Stages in two groups: what the first group lets out is what the second one takes in. -/
theorem pushes_stages_append {ps qs ss : List Processor} {rs out : List Record} :
    Pushes env (ps ++ qs) rs ss out ↔
      ∃ ps' mid qs', Pushes env ps rs ps' mid ∧ Pushes env qs mid qs' out ∧ ss = ps' ++ qs' := by
  induction ps generalizing rs ss with
  | nil =>
      constructor
      · intro h
        exact ⟨[], rs, ss, by simp, h, rfl⟩
      · rintro ⟨ps', mid, qs', hp, hq, rfl⟩
        obtain ⟨rfl, rfl⟩ := pushes_no_stage.1 hp
        exact hq
  | cons p ps ih =>
      simp only [List.cons_append, pushes_cons, ih]
      constructor
      · rintro ⟨p', m, _, hp, ⟨ps', mid, qs', hps, hqs, rfl⟩, rfl⟩
        exact ⟨p' :: ps', mid, qs', ⟨p', m, ps', hp, hps, rfl⟩, hqs, rfl⟩
      · rintro ⟨_, mid, qs', ⟨p', m, ps', hp, hps, rfl⟩, hqs, rfl⟩
        exact ⟨p', m, ps' ++ qs', hp, ⟨ps', mid, qs', hps, hqs, rfl⟩, rfl⟩

/-! ### The end -/

/-- **Stages end without an error**: the stages after it, and what reaches the end. -/
def Ends (env : Environment) (ps ps' : List Processor) (out : List Record) : Prop :=
  completeAll env ps = (ps', .ok out)

@[simp] theorem ends_nil {ps' : List Processor} {out : List Record} :
    Ends env [] ps' out ↔ ps' = [] ∧ out = [] := by
  rw [Ends, completeAll]
  simp [eq_comm]

theorem ends_cons {p : Processor} {ps ss : List Processor} {out : List Record} :
    Ends env (p :: ps) ss out ↔
      ∃ ms first es rest, Pushes env ps p.complete.2 ms first ∧ Ends env ms es rest ∧
        ss = p.complete.1 :: es ∧ out = first ++ rest := by
  rw [Ends, completeAll]
  simp only [Pushes, Ends]
  cases hp : push env ps p.complete.2 with
  | mk ms result =>
      cases result with
      | error e => simp
      | ok first =>
          simp only [Prod.mk.injEq, Except.ok.injEq, Except.map_eq_ok_iff]
          constructor
          · rintro ⟨hs, rest, hr, ho⟩
            exact ⟨ms, first, _, rest, ⟨rfl, rfl⟩, Prod.ext rfl hr, hs.symm, ho.symm⟩
          · rintro ⟨ms', first', es, rest, ⟨rfl, rfl⟩, he, rfl, rfl⟩
            exact ⟨by rw [he], rest, by rw [he], rfl⟩

/-- **Stages in two groups**: when the first group ends, what it held back passes through the second
one, which is still open, and then the second one ends. -/
theorem ends_append {ps qs ss : List Processor} {out : List Record} :
    Ends env (ps ++ qs) ss out ↔
      ∃ ps' held ms qs' first rest, Ends env ps ps' held ∧ Pushes env qs held ms first ∧
        Ends env ms qs' rest ∧ ss = ps' ++ qs' ∧ out = first ++ rest := by
  -- induction on the number of stages, since the stages behind the first one change as it ends
  induction hn : ps.length generalizing ps qs ss out with
  | zero =>
      obtain rfl := List.length_eq_zero_iff.1 hn
      constructor
      · intro h
        exact ⟨[], [], qs, ss, [], out, by simp, by simp, h, rfl, rfl⟩
      · rintro ⟨ps', held, ms, qs', first, rest, hp, hq, he, rfl, rfl⟩
        obtain ⟨rfl, rfl⟩ := ends_nil.1 hp
        obtain ⟨rfl, rfl⟩ := pushes_nil.1 hq
        exact he
  | succ n ih =>
      obtain ⟨p, ps, rfl⟩ : ∃ p rest, ps = p :: rest := List.exists_cons_of_length_eq_add_one hn
      simp only [List.length_cons, Nat.add_right_cancel_iff] at hn
      rw [List.cons_append, ends_cons]
      constructor
      · rintro ⟨_, o, es, o', hpush, hends, rfl, rfl⟩
        obtain ⟨ps₁, mid, qs₁, hps, hqs, rfl⟩ := pushes_stages_append.1 hpush
        obtain ⟨ps', held, ms, qs', first, rest, he, hm, hq, rfl, rfl⟩ :=
          (ih (hps.length_eq.trans hn)).1 hends
        exact ⟨p.complete.1 :: ps', mid ++ held, ms, qs', o ++ first, rest,
          ends_cons.2 ⟨ps₁, mid, ps', held, hps, he, rfl, rfl⟩,
          pushes_append.2 ⟨qs₁, o, first, hqs, hm, rfl⟩, hq, rfl, by rw [List.append_assoc]⟩
      · rintro ⟨_, _, ms, qs', _, rest, hends, hm, hq, rfl, rfl⟩
        obtain ⟨ps₁, mid, ps', held, hps, he, rfl, rfl⟩ := ends_cons.1 hends
        obtain ⟨qs₁, o, first, hqs, hm', rfl⟩ := pushes_append.1 hm
        exact ⟨ps₁ ++ qs₁, o, ps' ++ qs', first ++ rest,
          pushes_stages_append.2 ⟨ps₁, mid, qs₁, hps, hqs, rfl⟩,
          (ih (hps.length_eq.trans hn)).2
            ⟨ps', held, ms, qs', first, rest, he, hm', hq, rfl, rfl⟩,
          rfl, by rw [List.append_assoc]⟩

/-! ### Whole runs -/

/-- Records one after the other; the first error ends it. -/
def feed (env : Environment) (p : Pipeline) : List Record → Pipeline × Result (List Record)
  | [] => (p, .ok [])
  | r :: rest =>
      match p.next env r with
      | (p, .error e) => (p, .error e)
      | (p, .ok out) =>
          let (p, more) := feed env p rest
          (p, more.map (out ++ ·))

/-- **A run**: records one after the other, and the end. -/
def run (env : Environment) (p : Pipeline) (rs : List Record) : Result (List Record) :=
  match p.feed env rs with
  | (_, .error e) => .error e
  | (p, .ok out) => (p.complete env).2.map (out ++ ·)

/-- Records fed one after the other without an error are one batch. -/
theorem feed_eq_ok_iff {ps ps' : List Processor} {rs out : List Record} :
    feed env ⟨ps⟩ rs = (⟨ps'⟩, .ok out) ↔ Pushes env ps rs ps' out := by
  induction rs generalizing ps out with
  | nil => simp [feed, eq_comm]
  | cons r rs ih =>
      rw [← List.singleton_append, pushes_append, List.singleton_append, feed]
      simp only [next, Pushes]
      cases hp : push env ps [r] with
      | mk ms result =>
          cases result with
          | error e => simp
          | ok first =>
              simp only [Prod.mk.injEq, Except.ok.injEq, Except.map_eq_ok_iff]
              constructor
              · rintro ⟨hs, rest, hr, rfl⟩
                exact ⟨ms, first, rest, ⟨rfl, rfl⟩, ih.1 (Prod.ext hs hr), rfl⟩
              · rintro ⟨_, _, rest, ⟨rfl, rfl⟩, hr, rfl⟩
                rw [ih.2 hr]
                exact ⟨rfl, rest, rfl, rfl⟩

/-- **A run without an error is one batch and the end.** -/
theorem run_eq_ok_iff {ps : List Processor} {rs out : List Record} :
    run env ⟨ps⟩ rs = .ok out ↔
      ∃ ms first es rest, Pushes env ps rs ms first ∧ Ends env ms es rest ∧
        out = first ++ rest := by
  rw [run]
  constructor
  · intro h
    cases hf : feed env ⟨ps⟩ rs with
    | mk q result =>
        rw [hf] at h
        cases result with
        | error e => simp at h
        | ok first =>
            obtain ⟨rest, hr, rfl⟩ := Except.map_eq_ok_iff.1 h
            exact ⟨q.stages, first, _, rest, feed_eq_ok_iff.1 hf, Prod.ext rfl hr, rfl⟩
  · rintro ⟨ms, first, es, rest, hp, he, rfl⟩
    rw [feed_eq_ok_iff.2 hp]
    simp only [complete]
    rw [show completeAll env ms = (es, .ok rest) from he]
    rfl

end Pipeline

end EventQuery
