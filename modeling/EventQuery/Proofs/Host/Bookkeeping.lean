/-
**The books of a host.**

A host keeps two lists, of queries and of those that did not build, and gives out numbers.  Whatever
happens to it, the lists are in the order of the numbers, no number is given twice, and what is
written down about a query agrees with itself: the mark, the pipeline and the reason of a failure
are changed in several places, but always together.

Main definitions:

* `StandingQuery.Coherent` — the mark, the pipeline and the reason agree;
* `Host.InOrder` — **the books are in order**;
* `Host.given`, `Host.numbers` — the numbers that an event gives back, and those of a run;
* `HostEvent.isRecord` — the event is a record.

Main results:

* `Host.inOrder_run` — **every run keeps the books in order**;
* `Host.ids_addEach` — queries that come together take the next numbers;
* `Host.mem_queries_step` — where the queries after an event come from;
* `Host.books_of_run` — **what the books of a host say**.
-/

import EventQuery.Proofs.Host.Recovery
import Mathlib.Data.List.Induction

set_option relaxedAutoImplicit false
set_option autoImplicit false

namespace EventQuery

/-- The event is a record. -/
def HostEvent.isRecord : HostEvent → Bool
  | .record .. => true
  | _ => false

namespace StandingQuery

/-! ### One query -/

/-- **What is written down about a query agrees with itself**: there is a pipeline exactly when it
is valid, and there is a reason when it is not. -/
structure Coherent (q : StandingQuery) : Prop where
  pipeline : q.pipeline.isSome = q.valid
  reason : q.valid = false → q.failure.isSome = true

theorem coherent_start (id : Nat) (d : QueryDefinition) : (start id d).Coherent := by
  cases h : Pipeline.read d.text with
  | ok p =>
      rw [start_of_ok h]
      exact ⟨rfl, fun (hv : true = false) => Bool.noConfusion hv⟩
  | error e =>
      rw [start_of_error h]
      exact ⟨rfl, fun _ => rfl⟩

theorem evaluations_start (id : Nat) (d : QueryDefinition) : (start id d).evaluations = 0 := by
  cases h : Pipeline.read d.text with
  | ok p => exact congrArg StandingQuery.evaluations (start_of_ok h)
  | error e => exact congrArg StandingQuery.evaluations (start_of_error h)

/-- Once a reason is written down, a query that begins anew or stops agrees with itself. -/
theorem coherent_recover (recovery : Recovery) (q : StandingQuery) (message : String) :
    (Host.recover recovery q message).Coherent := by
  cases recovery with
  | dispose => exact ⟨rfl, fun _ => rfl⟩
  | resubscribe =>
      cases h : Pipeline.read q.text with
      | ok p =>
          have hanew := resubscribe_of_ok (q := { q with failure := some message }) h
          rw [Host.recover, hanew]
          exact ⟨rfl, fun (hv : true = false) => Bool.noConfusion hv⟩
      | error e =>
          have hanew := resubscribe_of_error (q := { q with failure := some message }) h
          rw [Host.recover, hanew]
          exact ⟨rfl, fun _ => rfl⟩

/-- A query whose text builds is valid once it begins anew. -/
theorem valid_recover {q : StandingQuery} {p : Pipeline} (h : Pipeline.read q.text = .ok p)
    (message : String) : (Host.recover .resubscribe q message).valid = true := by
  have hanew := resubscribe_of_ok (q := { q with failure := some message }) h
  rw [Host.recover, hanew]

/-- A valid query that agrees with itself is active. -/
theorem Coherent.exists_active {q : StandingQuery} (h : q.Coherent) (hv : q.valid = true) :
    ∃ p, q.pipeline = some p ∧ q.active = some p := by
  obtain ⟨p, hp⟩ := Option.isSome_iff_exists.1 (h.pipeline.trans hv)
  exact ⟨p, hp, by rw [active, hp, hv]; rfl⟩

/-- **Feeding an active query** changes its pipeline and counts the record. -/
theorem part_of_active {q : StandingQuery} {p : Pipeline} (h : q.active = some p) (g : Registry)
    (call : Feed) : ∃ p', (call.part g q).1
      = { q with
          pipeline := some p'
          evaluations := q.evaluations + if call.event.isRecord then 1 else 0 } := by
  cases call with
  | record now r => exact ⟨(p.next ⟨g, now⟩ r).1, by simp only [Feed.part, next, h]; rfl⟩
  | finish now => exact ⟨(p.complete ⟨g, now⟩).1, by simp only [Feed.part, complete, h]; rfl⟩

end StandingQuery

namespace Host

variable {h : Host} {q : StandingQuery}

theorem evaluations_recover (recovery : Recovery) (q : StandingQuery) (message : String) :
    (recover recovery q message).evaluations = q.evaluations := by
  cases recovery with
  | dispose => rfl
  | resubscribe =>
      exact (StandingQuery.frame_resubscribe { q with failure := some message }).2.2

/-- **A valid query takes part**: its pipeline goes on, and where that fails it is dealt with. -/
theorem participate_cases (hq : q.Coherent) (hv : q.valid = true) (call : Feed) :
    ∃ p' : Pipeline,
      let fed : StandingQuery := { q with
        pipeline := some p'
        evaluations := q.evaluations + if call.event.isRecord then 1 else 0 }
      (h.participate call.record? (call.part h.registry) q).1 = fed ∨
        ∃ message, (h.participate call.record? (call.part h.registry) q).1
          = recover h.recovery fed message := by
  obtain ⟨p, -, hactive⟩ := hq.exists_active hv
  obtain ⟨p', hpart⟩ := StandingQuery.part_of_active hactive h.registry call
  refine ⟨p', ?_⟩
  rw [participate, if_pos hv]
  generalize call.part h.registry q = made at hpart ⊢
  obtain ⟨after, result⟩ := made
  obtain rfl : after = _ := hpart
  cases result with
  | ok out => exact .inl rfl
  | error e => exact .inr ⟨e.message, rfl⟩

/-- It counts the record, whatever comes of it, and it agrees with itself afterwards. -/
theorem participate_of_valid (hq : q.Coherent) (hv : q.valid = true) (call : Feed) :
    (h.participate call.record? (call.part h.registry) q).1.Coherent ∧
      (h.participate call.record? (call.part h.registry) q).1.evaluations
        = q.evaluations + if call.event.isRecord then 1 else 0 := by
  obtain ⟨p', hfed | ⟨message, hfailed⟩⟩ := participate_cases (h := h) hq hv call
  · rw [hfed]
    exact ⟨⟨hv.symm, fun hinvalid => Bool.noConfusion (hv.symm.trans hinvalid)⟩, rfl⟩
  · rw [hfailed]
    exact ⟨StandingQuery.coherent_recover .., evaluations_recover ..⟩

theorem coherent_participate (hq : q.Coherent) (call : Feed) :
    (h.participate call.record? (call.part h.registry) q).1.Coherent := by
  cases hv : q.valid with
  | true => exact (participate_of_valid hq hv call).1
  | false =>
      rw [participate_of_not_valid hv]
      exact hq

/-- Where queries begin anew, a valid query whose text builds stays valid. -/
theorem valid_participate (hq : q.Coherent) (hv : q.valid = true)
    (hbuilds : ∃ p, Pipeline.read q.text = .ok p) (hrecovery : h.recovery = .resubscribe)
    (call : Feed) :
    (h.participate call.record? (call.part h.registry) q).1.valid = true := by
  obtain ⟨fresh, hfresh⟩ := hbuilds
  obtain ⟨p', hfed | ⟨message, hfailed⟩⟩ := participate_cases (h := h) hq hv call
  · rw [hfed]
    exact hv
  · rw [hfailed, hrecovery]
    exact StandingQuery.valid_recover hfresh message

/-! ### The books are in order -/

/-- **The books are in order.** -/
structure InOrder (h : Host) : Prop where
  /-- Numbers are different, and the next one is above all of them. -/
  numbered : h.Numbered
  /-- The queries stand in the order of their numbers, -/
  queries : (h.queries.map StandingQuery.id).Pairwise (· < ·)
  /-- and so do those that did not build. -/
  failed : (h.failed.map StandingQuery.id).Pairwise (· < ·)
  /-- What is written down about a query agrees with itself. -/
  coherent : ∀ q ∈ h.queries ++ h.failed, q.Coherent
  /-- The text of a query builds, -/
  builds : ∀ q ∈ h.queries, ∃ p, Pipeline.read q.text = .ok p
  /-- and one that did not build is not valid. -/
  invalid : ∀ q ∈ h.failed, q.valid = false
  /-- Where queries begin anew, all of them are valid. -/
  valid : h.recovery = .resubscribe → ∀ q ∈ h.queries, q.valid = true

/-- Without queries the books are in order: all queries may make room. -/
theorem InOrder.clear (h : Host) : ({ h with queries := [], failed := [] } : Host).InOrder where
  numbered := numbered_cleared h
  queries := List.Pairwise.nil
  failed := List.Pairwise.nil
  coherent _ hq := absurd hq List.not_mem_nil
  builds _ hq := absurd hq List.not_mem_nil
  invalid _ hq := absurd hq List.not_mem_nil
  valid _ _ hq := absurd hq List.not_mem_nil

theorem inOrder_empty (recovery : Recovery) (tells : Bool) (g : Registry) :
    (Host.empty recovery tells g).InOrder := InOrder.clear (Host.empty recovery tells g)

/-- A call is delivered. -/
theorem InOrder.deliver (ho : h.InOrder) (call : Feed) :
    (h.deliver call.record? (call.part h.registry)).1.InOrder := by
  have hid := Feed.id_part h.registry call
  have hnumbered : (h.deliver call.record? (call.part h.registry)).1.Numbered :=
    ho.numbered.deliver hid
  rw [deliver_eq] at hnumbered ⊢
  constructor
  case numbered => exact hnumbered
  case queries =>
    rw [List.map_map]
    have hsame : (StandingQuery.id ∘ fun q =>
        (h.participate call.record? (call.part h.registry) q).1) = StandingQuery.id :=
      funext fun q => id_of_participate hid q
    rw [hsame]
    exact ho.queries
  case failed => exact ho.failed
  case coherent =>
    intro q hq
    rcases List.mem_append.1 hq with hactive | hfailed
    · obtain ⟨before, hbefore, rfl⟩ := List.mem_map.1 hactive
      exact coherent_participate (ho.coherent before (List.mem_append_left _ hbefore)) call
    · exact ho.coherent q (List.mem_append_right _ hfailed)
  case builds =>
    intro q hq
    obtain ⟨before, hbefore, rfl⟩ := List.mem_map.1 hq
    rw [text_participate]
    exact ho.builds before hbefore
  case invalid => exact ho.invalid
  case valid =>
    intro hrecovery q hq
    obtain ⟨before, hbefore, rfl⟩ := List.mem_map.1 hq
    exact valid_participate (ho.coherent before (List.mem_append_left _ hbefore))
      (ho.valid hrecovery before hbefore) (ho.builds before hbefore) hrecovery call

/-- The next number behind numbers that are in order. -/
theorem pairwise_concat {qs : List StandingQuery} {new : StandingQuery}
    (hqs : (qs.map StandingQuery.id).Pairwise (· < ·)) (hlt : ∀ q ∈ qs, q.id < new.id) :
    ((qs ++ [new]).map StandingQuery.id).Pairwise (· < ·) := by
  rw [List.map_append, List.pairwise_append]
  refine ⟨hqs, List.pairwise_singleton _ _, fun n hn m hm => ?_⟩
  obtain ⟨q, hq, rfl⟩ := List.mem_map.1 hn
  rw [List.map_singleton, List.mem_singleton] at hm
  rw [hm]
  exact hlt q hq

/-- A query is added. -/
theorem InOrder.add (ho : h.InOrder) (d : QueryDefinition) : (h.add d).1.InOrder := by
  have hlt : ∀ q ∈ h.queries ++ h.failed, q.id < (StandingQuery.start h.nextId d).id := by
    intro q hq
    rw [StandingQuery.id_start]
    exact ho.numbered.lt_next q hq
  have hnew := StandingQuery.coherent_start h.nextId d
  constructor
  case numbered => exact ho.numbered.add d
  case queries =>
    rcases add_cases h d with ⟨-, hqueries, -⟩ | ⟨-, hqueries, -⟩
    · rw [hqueries]
      exact pairwise_concat ho.queries fun q hq => hlt q (List.mem_append_left _ hq)
    · exact hqueries ▸ ho.queries
  case failed =>
    rcases add_cases h d with ⟨-, -, hfailed⟩ | ⟨-, -, hfailed⟩
    · exact hfailed ▸ ho.failed
    · rw [hfailed]
      exact pairwise_concat ho.failed fun q hq => hlt q (List.mem_append_right _ hq)
  case coherent =>
    intro q hq
    rcases List.mem_append.1 hq with hq | hq
    · rcases mem_queries_add hq with hold | ⟨-, rfl⟩
      · exact ho.coherent q (List.mem_append_left _ hold)
      · exact hnew
    · rcases mem_failed_add hq with hold | ⟨-, rfl⟩
      · exact ho.coherent q (List.mem_append_right _ hold)
      · exact hnew
  case builds =>
    intro q hq
    rcases mem_queries_add hq with hold | ⟨hv, rfl⟩
    · exact ho.builds q hold
    · exact builds_of_valid_start hv
  case invalid =>
    intro q hq
    rcases mem_failed_add hq with hold | ⟨hv, -⟩
    · exact ho.invalid q hold
    · exact hv
  case valid =>
    rw [(add_frame h d).2.1]
    intro hrecovery q hq
    rcases mem_queries_add hq with hold | ⟨hv, -⟩
    · exact ho.valid hrecovery q hold
    · exact hv

/-- A query is dropped. -/
theorem InOrder.remove (ho : h.InOrder) (id : Nat) : (h.remove id).1.InOrder where
  numbered := ho.numbered.remove id
  queries := ho.queries.sublist (List.filter_sublist.map _)
  failed := ho.failed.sublist (List.filter_sublist.map _)
  coherent q hq := by
    refine ho.coherent q ?_
    have hsub : ((h.remove id).1.queries ++ (h.remove id).1.failed).Sublist
        (h.queries ++ h.failed) := List.filter_sublist.append List.filter_sublist
    exact hsub.subset hq
  builds q hq := ho.builds q (List.mem_filter.1 hq).1
  invalid q hq := ho.invalid q (List.mem_filter.1 hq).1
  valid hrecovery q hq := ho.valid hrecovery q (List.mem_filter.1 hq).1

/-- The functions are others: no query depends on them for being built. -/
theorem InOrder.withRegistry (ho : h.InOrder) (g : Registry) :
    ({ h with registry := g } : Host).InOrder :=
  ⟨ho.numbered.congr rfl rfl rfl, ho.queries, ho.failed, ho.coherent, ho.builds, ho.invalid,
    ho.valid⟩

/-- **An event keeps the books in order.** -/
theorem InOrder.step (ho : h.InOrder) (e : HostEvent) : (h.step e).1.InOrder :=
  step_preserves (fun _ d ho => ho.add d) (fun _ call ho => ho.deliver call)
    (fun h _ => InOrder.clear h) (fun _ id ho => ho.remove id) (fun _ g ho => ho.withRegistry g)
    ho e

/-- **Every run keeps the books in order.** -/
theorem inOrder_run (ho : h.InOrder) (events : List HostEvent) : (h.run events).1.InOrder :=
  run_preserves (fun _ e ho => ho.step e) ho events

/-! ### Deliveries -/

/-- A query fails at most once in a call. -/
theorem failures_participate (call : Feed) (q : StandingQuery) :
    (h.participate call.record? (call.part h.registry) q).2.failures.length ≤ 1 := by
  unfold participate
  by_cases hv : q.valid = true
  · rw [if_pos hv]
    obtain ⟨after, result⟩ := call.part h.registry q
    cases result with
    | ok out => exact Nat.zero_le 1
    | error e => by_cases ht : h.tellsFailures = true <;> simp [settle, ht]
  · rw [if_neg hv]
    exact Nat.zero_le 1

/-- **A delivery is in the order of the queries**, each of which fails at most once. -/
theorem InOrder.delivery (ho : h.InOrder) (call : Feed) :
    let d := (h.deliver call.record? (call.part h.registry)).2
    d.outputs.Pairwise (fun a b => a.query ≤ b.query) ∧
      d.failures.Pairwise (fun a b => a.query < b.query) := by
  have hid := Feed.id_part h.registry call
  have hlt := List.pairwise_map.1 ho.queries
  rw [deliver_eq]
  constructor
  · refine List.pairwise_flatMap.2 ⟨fun q _ => ?_, hlt.imp fun {q q'} hlt a ha b hb => ?_⟩
    · have hquery : ∀ o ∈ (h.participate call.record? (call.part h.registry) q).2.outputs,
          o.query = q.id := (query_of_participate hid q).1
      exact List.pairwise_of_forall_mem_list fun a ha b hb =>
        Nat.le_of_eq ((hquery a ha).trans (hquery b hb).symm)
    · rw [(query_of_participate hid q).1 a ha, (query_of_participate hid q').1 b hb]
      exact Nat.le_of_lt hlt
  · refine List.pairwise_flatMap.2 ⟨fun q _ => ?_, hlt.imp fun {q q'} hlt a ha b hb => ?_⟩
    · have hone := failures_participate (h := h) call q
      generalize (h.participate call.record? (call.part h.registry) q).2.failures = fs at hone ⊢
      match fs, hone with
      | [], _ => exact List.Pairwise.nil
      | [f], _ => exact List.pairwise_singleton _ f
    · rw [(query_of_participate hid q).2 a ha, (query_of_participate hid q').2 b hb]
      exact hlt

/-- All deliveries of a run are in the order of the queries. -/
theorem deliveries_run (ho : h.InOrder) (events : List HostEvent) :
    ∀ d ∈ (h.run events).2, d.outputs.Pairwise (fun a b => a.query ≤ b.query) ∧
      d.failures.Pairwise (fun a b => a.query < b.query) := by
  induction events generalizing h with
  | nil => exact fun d hd => absurd hd List.not_mem_nil
  | cons e rest ih =>
      intro d hd
      rcases List.mem_append.1 hd with hnow | hlater
      · rcases exists_feed_or e with ⟨call, rfl⟩ | hnone
        · rw [step_event, Option.toList_some, List.mem_singleton] at hnow
          rw [hnow]
          exact ho.delivery call
        · rw [hnone h] at hnow
          exact absurd hnow List.not_mem_nil
      · exact ih (ho.step e) d hlater

/-! ### Numbers that are given back -/

theorem id_add (h : Host) (d : QueryDefinition) : (h.add d).2 = h.nextId := by
  simp only [Host.add]
  split <;> rfl

theorem snd_addEach_cons (h : Host) (d : QueryDefinition) (rest : List QueryDefinition) :
    (h.addEach (d :: rest)).2 = h.nextId :: ((h.add d).1.addEach rest).2 := by
  rw [addEach, ← id_add h d]

/-- **Queries that come together take the next numbers.** -/
theorem ids_addEach (h : Host) (ds : List QueryDefinition) :
    (h.addEach ds).2 = List.range' h.nextId ds.length ∧
      (h.addEach ds).1.nextId = h.nextId + ds.length := by
  induction ds generalizing h with
  | nil => exact ⟨rfl, rfl⟩
  | cons d rest ih =>
      obtain ⟨hids, hnext⟩ := ih (h.add d).1
      rw [(add_frame h d).1] at hids hnext
      constructor
      · rw [snd_addEach_cons, hids, List.length_cons, List.range'_succ]
      · rw [addEach_cons, hnext, List.length_cons]
        omega

/-- Where queries are loaded, the numbers of those that were built are given back. -/
theorem added_loadQueries_sublist (h : Host) (sources : List QuerySource) :
    (h.loadQueries sources).2.1.Sublist (List.range' h.nextId sources.length) := by
  induction sources generalizing h with
  | nil => exact List.Sublist.refl _
  | cons source rest ih =>
      have hids := ih (h.add (.ofSource source)).1
      rw [(add_frame h _).1] at hids
      rw [Host.loadQueries, List.length_cons, List.range'_succ]
      unfold loaded
      rw [id_add]
      split
      · exact hids.cons _
      · exact hids.cons_cons _

/-- **The numbers that an event gives back**: those of the queries that it adds, and where a library
is loaded, of those that were built. -/
def given (h : Host) : HostEvent → List Nat
  | .add d => [(h.add d).2]
  | .addAll ds replace => (h.addAll ds replace).2
  | .load l => (h.load l).2.added
  | _ => []

/-- **The numbers that a run gives back**, in order. -/
def numbers (h : Host) : List HostEvent → List Nat
  | [] => []
  | e :: rest => h.given e ++ numbers (h.step e).1 rest

/-- The numbers that an event gives back are the next ones. -/
theorem given_sublist (h : Host) (e : HostEvent) :
    ∃ n, (h.given e).Sublist (List.range' h.nextId n) ∧
      (h.step e).1.nextId = h.nextId + n := by
  cases e with
  | add d =>
      refine ⟨1, ?_, (add_frame h d).1⟩
      rw [given, id_add]
      exact List.Sublist.refl _
  | addAll ds replace =>
      obtain ⟨hids, hnext⟩ :=
        ids_addEach (if replace then { h with queries := [], failed := [] } else h) ds
      have hsame : (if replace then { h with queries := [], failed := [] } else h : Host).nextId
          = h.nextId := by
        split <;> rfl
      rw [hsame] at hids hnext
      refine ⟨ds.length, ?_, hnext⟩
      rw [given, addAll, hids]
  | load l =>
      refine ⟨l.queries.length, added_loadQueries_sublist _ l.queries, ?_⟩
      change (Host.loadQueries _ l.queries).1.nextId = _
      rw [loadQueries_eq_addEach, (ids_addEach _ _).2, List.length_map]
  | defineText text =>
      refine ⟨0, List.Sublist.refl _, ?_⟩
      simp only [Host.step, Host.defineText]
      split <;> rfl
  | record _ _ | finish _ | remove _ | define _ | undefine _ | supply _ _ | withdraw _ =>
      exact ⟨0, List.Sublist.refl _, rfl⟩

/-- **The numbers of a run are the next ones**, in order and none of them twice. -/
theorem numbers_sublist (h : Host) (events : List HostEvent) :
    ∃ n, (h.numbers events).Sublist (List.range' h.nextId n) ∧
      (h.run events).1.nextId = h.nextId + n := by
  induction events generalizing h with
  | nil => exact ⟨0, List.Sublist.refl _, rfl⟩
  | cons e rest ih =>
      obtain ⟨n, hgiven, hnext⟩ := h.given_sublist e
      obtain ⟨m, hrest, hlast⟩ := ih (h.step e).1
      rw [hnext] at hrest hlast
      refine ⟨n + m, ?_, by rw [run, hlast, Nat.add_assoc]⟩
      rw [numbers, ← List.range'_append_1]
      exact hgiven.append hrest

/-! ### Where the queries come from -/

/-- Queries that come together: each one that stands among the queries is a new one, whose number is
given back, or stood there before. -/
theorem mem_queries_addEach (ds : List QueryDefinition)
    (hq : q ∈ (h.addEach ds).1.queries) :
    q ∈ h.queries ∨ q.id ∈ (h.addEach ds).2 ∧ q.evaluations = 0 := by
  induction ds generalizing h with
  | nil => exact .inl hq
  | cons d rest ih =>
      rw [addEach_cons] at hq
      rw [snd_addEach_cons]
      rcases ih hq with hthere | ⟨hid, hcount⟩
      · rcases mem_queries_add hthere with hold | ⟨-, rfl⟩
        · exact .inl hold
        · refine .inr ⟨?_, StandingQuery.evaluations_start _ d⟩
          rw [StandingQuery.id_start]
          exact List.mem_cons_self ..
      · exact .inr ⟨List.mem_cons_of_mem _ hid, hcount⟩

/-- ... and the same where queries of a library come, because the numbers of those that did not
build are lower. -/
theorem mem_queries_loadQueries (hn : h.Numbered) {sources : List QuerySource}
    (hq : q ∈ (h.loadQueries sources).1.queries) :
    q ∈ h.queries ∨ q.id ∈ (h.loadQueries sources).2.1 ∧ q.evaluations = 0 := by
  induction sources generalizing h with
  | nil => exact .inl hq
  | cons source rest ih =>
      rw [Host.loadQueries] at hq ⊢
      rcases ih (hn.add _) hq with hthere | ⟨hid, hcount⟩
      · rcases add_cases h (.ofSource source) with ⟨-, hqueries, hfailed⟩ | ⟨-, hqueries, -⟩
        · rw [hqueries, List.mem_append, List.mem_singleton] at hthere
          rcases hthere with hold | rfl
          · exact .inl hold
          · refine .inr ⟨List.mem_append_left _ ?_, StandingQuery.evaluations_start ..⟩
            have hnone : (h.failed.find? fun q => q.id == h.nextId) = none := by
              rw [List.find?_eq_none]
              intro x hx
              have := hn.lt_next x (List.mem_append_right _ hx)
              rw [beq_iff_eq]
              omega
            unfold loaded
            rw [hfailed, id_add, hnone, StandingQuery.id_start]
            exact List.mem_singleton.2 rfl
        · exact .inl (hqueries ▸ hthere)
      · exact .inr ⟨List.mem_append_right _ hid, hcount⟩

/-- **Where the queries after an event come from**, when all queries are valid: each of them stood
there before and has counted the event if it is a record, or it is a new one whose number is given
back. -/
theorem mem_queries_step (ho : h.InOrder) (hvalid : ∀ q ∈ h.queries, q.valid = true)
    {e : HostEvent} (hq : q ∈ (h.step e).1.queries) :
    (∃ before ∈ h.queries, q.id = before.id ∧
        q.evaluations = before.evaluations + if e.isRecord then 1 else 0) ∨
      q.id ∈ h.given e ∧ q.evaluations = 0 := by
  have hfed : ∀ call : Feed, q ∈ (h.step call.event).1.queries → ∃ before ∈ h.queries,
      q.id = before.id ∧
        q.evaluations = before.evaluations + if call.event.isRecord then 1 else 0 := by
    intro call hq
    rw [step_event, deliver_eq] at hq
    obtain ⟨before, hbefore, rfl⟩ := List.mem_map.1 hq
    refine ⟨before, hbefore, id_of_participate (Feed.id_part h.registry call) before, ?_⟩
    exact (participate_of_valid (ho.coherent before (List.mem_append_left _ hbefore))
      (hvalid before hbefore) call).2
  have hsame : q ∈ h.queries → ∃ before ∈ h.queries, q.id = before.id ∧
      q.evaluations = before.evaluations + 0 := fun hq => ⟨q, hq, rfl, rfl⟩
  cases e with
  | record now r => exact .inl (hfed (.record now r) hq)
  | finish now => exact .inl (hfed (.finish now) hq)
  | add d =>
      refine (mem_queries_addEach [d] hq).imp hsame fun hnew => ?_
      rwa [snd_addEach_cons, ← id_add h d] at hnew
  | addAll ds replace =>
      cases replace with
      | false => exact (mem_queries_addEach ds hq).imp hsame id
      | true =>
          refine (mem_queries_addEach ds hq).imp (fun hold => ?_) id
          exact absurd hold List.not_mem_nil
  | load l =>
      have hnumbered : ({ h with registry := h.registry.defineAll l.functions } : Host).Numbered :=
        ho.numbered.congr rfl rfl rfl
      exact (mem_queries_loadQueries hnumbered hq).imp hsame id
  | remove id => exact .inl (hsame (List.mem_filter.1 hq).1)
  | defineText text =>
      simp only [Host.step, Host.defineText] at hq
      split at hq <;> exact .inl (hsame hq)
  | define _ | undefine _ | supply _ _ | withdraw _ => exact .inl (hsame hq)

/-- **Where queries begin anew, each of them has counted the records since it came.** -/
theorem counted_run (ho : h.InOrder) (hempty : h.queries = [])
    (hrecovery : h.recovery = .resubscribe) (events : List HostEvent) :
    ∀ q ∈ (h.run events).1.queries, ∃ before e after,
      events = before ++ e :: after ∧ q.id ∈ (h.run before).1.given e ∧
        q.evaluations = after.countP HostEvent.isRecord := by
  induction events using List.reverseRecOn with
  | nil =>
      intro q hq
      rw [run_nil, hempty] at hq
      exact absurd hq List.not_mem_nil
  | append_singleton rest last ih =>
      intro q hq
      rw [run_append, run_singleton] at hq
      have hpolicy : (h.run rest).1.recovery = .resubscribe :=
        (settings_run h rest).1.trans hrecovery
      have ho' := inOrder_run ho rest
      rcases mem_queries_step ho' (ho'.valid hpolicy) hq with ⟨x, hx, hid, hcount⟩ | ⟨hid, hcount⟩
      · obtain ⟨before, e, after, rfl, hgiven, hx⟩ := ih x hx
        refine ⟨before, e, after ++ [last], by rw [List.append_assoc, List.cons_append],
          hid ▸ hgiven, ?_⟩
        rw [hcount, hx, List.countP_append, List.countP_singleton]
      · exact ⟨rest, last, [], rfl, hid, hcount⟩

/-- **What the books of a host say**, whatever has happened to it.  The queries and those that did
not build stand in the order of their numbers, which are different and below the next one, and no
number is given back twice.  What did not build is not valid, has no pipeline and carries a reason;
a query has a pipeline exactly when it is valid, and it carries a reason when it is not.  Every
query can begin anew; where queries do so, all of them are valid and have counted the records since
they came.  What comes of a call is in the order of the queries, each of which fails at most
once. -/
theorem books_of_run (recovery : Recovery) (tells : Bool) (g : Registry)
    (events : List HostEvent) :
    let start := Host.empty recovery tells g
    let h := (start.run events).1
    ((h.queries ++ h.failed).map StandingQuery.id).Nodup ∧
    (h.queries.map StandingQuery.id).Pairwise (· < ·) ∧
    (h.failed.map StandingQuery.id).Pairwise (· < ·) ∧
    (∀ q ∈ h.queries ++ h.failed, q.id < h.nextId) ∧
    (start.numbers events).Pairwise (· < ·) ∧ (∀ n ∈ start.numbers events, n < h.nextId) ∧
    (∀ q ∈ h.failed, q.valid = false ∧ q.pipeline = none ∧ q.failure.isSome = true) ∧
    (∀ q ∈ h.queries, (q.pipeline.isSome = true ↔ q.valid = true) ∧
      (q.valid = false → q.failure.isSome = true) ∧ q.resubscribe.2 = .ok ()) ∧
    (recovery = .resubscribe → ∀ q ∈ h.queries, q.valid = true ∧ ∃ before e after,
      events = before ++ e :: after ∧ q.id ∈ (start.run before).1.given e ∧
        q.evaluations = after.countP HostEvent.isRecord) ∧
    ∀ d ∈ (start.run events).2, d.outputs.Pairwise (fun a b => a.query ≤ b.query) ∧
      d.failures.Pairwise (fun a b => a.query < b.query) := by
  intro start h
  have hstart : start.InOrder := inOrder_empty recovery tells g
  have ho : h.InOrder := inOrder_run hstart events
  obtain ⟨n, hnumbers, hnext⟩ := start.numbers_sublist events
  refine ⟨ho.numbered.nodup, ho.queries, ho.failed, ho.numbered.lt_next,
    List.Pairwise.sublist hnumbers List.pairwise_lt_range', fun m hm => ?_, fun q hq => ?_,
    fun q hq => ?_, fun hrecovery q hq => ?_, deliveries_run hstart events⟩
  · have hm := (List.mem_range'_1.1 (hnumbers.subset hm)).2
    exact Nat.lt_of_lt_of_eq hm hnext.symm
  · have hcoherent := ho.coherent q (List.mem_append_right _ hq)
    have hinvalid := ho.invalid q hq
    have hnone : q.pipeline.isSome = false := hcoherent.pipeline.trans hinvalid
    exact ⟨hinvalid, Option.isNone_iff_eq_none.1 (Option.isSome_eq_false_iff.1 hnone),
      hcoherent.reason hinvalid⟩
  · have hcoherent := ho.coherent q (List.mem_append_left _ hq)
    obtain ⟨p, hp⟩ := ho.builds q hq
    refine ⟨by rw [hcoherent.pipeline], hcoherent.reason, ?_⟩
    rw [StandingQuery.resubscribe_of_ok hp]
  · have hpolicy : h.recovery = .resubscribe := (settings_run start events).1.trans hrecovery
    exact ⟨ho.valid hpolicy q hq, counted_run hstart rfl hrecovery events q hq⟩

/-- A query that fails at each record and begins anew has counted the records since it came. -/
theorem books_of_failing_query :
    let events : List HostEvent := [.record default [], .add ⟨none, none, "", "e|where f()"⟩,
      .record default [], .remove 7, .record default []]
    let start := Host.empty .resubscribe true default
    let h := (start.run events).1
    h.queries.map (fun q => (q.id, q.valid, q.failure.isSome, q.evaluations))
        = [(1, true, true, 2)] ∧
      ∀ q ∈ h.queries, q.valid = true ∧ ∃ before e after,
        events = before ++ e :: after ∧ q.id ∈ (start.run before).1.given e ∧
          q.evaluations = after.countP HostEvent.isRecord := by
  have hqueries : ((Host.empty .resubscribe true default).run [.record default [],
      .add ⟨none, none, "", "e|where f()"⟩, .record default [], .remove 7,
      .record default []]).1.queries.map
        (fun q => (q.id, q.valid, q.failure.isSome, q.evaluations)) = [(1, true, true, 2)] := by
    decide +kernel
  -- The text is out of sight below, where it need not be read again.
  generalize (⟨none, none, "", "e|where f()"⟩ : QueryDefinition) = d at hqueries ⊢
  intro events start h
  obtain ⟨-, -, -, -, -, -, -, -, hcounted, -⟩ := books_of_run .resubscribe true default events
  exact ⟨hqueries, hcounted rfl⟩

end Host

end EventQuery
