/-
**Queries leave one another alone.**

The queries of a host share its functions, the time of a record and the numbers that are given out.
What comes of one of them in a run is what comes of it in a host that holds no other query and sees
the run without the events that are about other queries.

Main definitions:

* `HostEvent.about?` — an event as far as it is about one query;
* `Delivery.about` — the part of a delivery that one query made;
* `Host.Alone` — a second host holds one query of the first, and nothing else.

Main results:

* `Host.alone_step` — one event keeps the second host alone with the query;
* `Host.alone_run` — so does a run, and the query makes the same of it in both;
* `Host.about_run_eq_alone_run` — **a query does not notice the other queries of its host**.
-/

import EventQuery.Proofs.Host.Run

set_option relaxedAutoImplicit false
set_option autoImplicit false

namespace EventQuery

/-- **An event as far as it is about one query**: other queries that come and go are left out, but
the functions of a library are not. -/
def HostEvent.about? (id : Nat) : HostEvent → Option HostEvent
  | .add _ => none
  | .addAll _ replace => if replace then some (.remove id) else none
  | .remove other => if other = id then some (.remove id) else none
  | .load l => some (.load { l with queries := [] })
  | e => some e

/-- **The part of a delivery that one query made.** -/
def Delivery.about (id : Nat) (d : Delivery) : Delivery :=
  ⟨d.outputs.filter fun o => o.query == id, d.failures.filter fun f => f.query == id⟩

namespace Host

/-! ### Hosts that share a query -/

/-- **The second host holds one query of the first**, with what queries depend on.  The numbers that
the hosts give next may differ. -/
structure Alone (id : Nat) (h s : Host) : Prop where
  recovery : s.recovery = h.recovery
  tellsFailures : s.tellsFailures = h.tellsFailures
  registry : s.registry = h.registry
  queries : s.queries = h.queries.filter fun q => q.id == id
  failed : s.failed = h.failed.filter fun q => q.id == id

variable {id : Nat} {h s : Host}

theorem Alone.environment (ha : Alone id h s) (now : Instant) :
    s.environment now = h.environment now := by
  rw [Host.environment, Host.environment, ha.registry]

/-- What a query makes of a record depends on the host only through how failures are dealt with. -/
theorem Alone.participate (ha : Alone id h s) (record : Option Record)
    (part : StandingQuery → StandingQuery × Result (List Record)) (q : StandingQuery) :
    s.participate record part q = h.participate record part q := by
  unfold Host.participate Host.settle
  rw [ha.recovery, ha.tellsFailures]

/-- The hosts agree on who a number belongs to. -/
theorem Alone.query?_eq (ha : Alone id h s) : s.query? id = h.query? id := by
  unfold Host.query?
  rw [ha.queries, ha.failed, ← List.filter_append, List.find?_filter]
  simp only [and_self, Bool.decide_eq_true]

/-! ### Deliveries -/

/-- Outputs and failures bear the number of the query that made them. -/
theorem query_of_participate {record : Option Record}
    {part : StandingQuery → StandingQuery × Result (List Record)}
    (hp : ∀ q, (part q).1.id = q.id) (q : StandingQuery) :
    (∀ o ∈ (h.participate record part q).2.outputs, o.query = q.id) ∧
      ∀ f ∈ (h.participate record part q).2.failures, f.query = q.id := by
  unfold Host.participate
  by_cases hv : q.valid
  · rw [if_pos hv, ← hp q]
    obtain ⟨after, result⟩ := part q
    cases result with
    | ok out => simp [settle]
    | error e => by_cases ht : h.tellsFailures <;> simp [settle, ht]
  · rw [if_neg hv]
    simp [Delivery.empty]

/-- Picking out of everything that several made what some of them made. -/
theorem filter_flatMap_eq {α β : Type} {made : α → List β} {keep : β → Bool} {maker : α → Bool}
    (hk : ∀ a, ∀ b ∈ made a, keep b = maker a) (as : List α) :
    (as.flatMap made).filter keep = (as.filter maker).flatMap made := by
  induction as with
  | nil => rfl
  | cons a rest ih =>
      rw [List.flatMap_cons, List.filter_append, ih]
      cases hm : maker a with
      | true =>
          rw [List.filter_cons_of_pos hm, List.flatMap_cons]
          rw [List.filter_eq_self.2 fun b hb => (hk a b hb).trans hm]
      | false =>
          rw [List.filter_cons_of_neg (by simp [hm])]
          rw [List.filter_eq_nil_iff.2 fun b hb => by simp [hk a b hb, hm], List.nil_append]

/-- **The part of a delivery that one query made** is what the queries of its number made. -/
theorem about_deliver {record : Option Record}
    {part : StandingQuery → StandingQuery × Result (List Record)}
    (hp : ∀ q, (part q).1.id = q.id) (id : Nat) :
    (h.deliver record part).2.about id
      = ⟨(h.queries.filter fun q => q.id == id).flatMap fun q =>
            (h.participate record part q).2.outputs,
          (h.queries.filter fun q => q.id == id).flatMap fun q =>
            (h.participate record part q).2.failures⟩ := by
  rw [deliver_eq, Delivery.about]
  congr 1
  · refine filter_flatMap_eq (fun q o ho => ?_) h.queries
    rw [(query_of_participate hp q).1 o ho]
  · refine filter_flatMap_eq (fun q f hf => ?_) h.queries
    rw [(query_of_participate hp q).2 f hf]

/-- **Records**: each query takes part on its own. -/
theorem Alone.deliver (ha : Alone id h s) (record : Option Record)
    {part : StandingQuery → StandingQuery × Result (List Record)}
    (hp : ∀ q, (part q).1.id = q.id) :
    Alone id (h.deliver record part).1 (s.deliver record part).1 ∧
      (h.deliver record part).2.about id = (s.deliver record part).2 := by
  have hsame : ∀ q, s.participate record part q = h.participate record part q :=
    ha.participate record part
  rw [about_deliver hp, deliver_eq, deliver_eq]
  simp only [hsame]
  constructor
  · refine ⟨ha.recovery, ha.tellsFailures, ha.registry, ?_, ha.failed⟩
    have hid : (fun q => q.id == id) ∘ (fun q => (h.participate record part q).1)
        = fun q => q.id == id := by
      funext q
      rw [Function.comp_apply, id_of_participate hp]
    rw [List.filter_map, hid, ← ha.queries]
  · rw [ha.queries]

/-! ### Queries that come and go -/

/-- Another query comes. -/
theorem Alone.add (ha : Alone id h s) (hlt : id < h.nextId) (d : QueryDefinition) :
    Alone id (h.add d).1 s := by
  obtain ⟨-, hr, ht, hg⟩ := add_frame h d
  have hother : [StandingQuery.start h.nextId d].filter (fun q => q.id == id) = [] := by
    rw [List.filter_eq_nil_iff]
    intro q hq
    rw [List.mem_singleton.1 hq, StandingQuery.id_start, beq_iff_eq]
    omega
  refine ⟨ha.recovery.trans hr.symm, ha.tellsFailures.trans ht.symm, ha.registry.trans hg.symm,
    ?_, ?_⟩
  all_goals rcases add_cases h d with ⟨-, hq, hf⟩ | ⟨-, hq, hf⟩
  · rw [hq, List.filter_append, hother, List.append_nil, ha.queries]
  · rw [hq, ha.queries]
  · rw [hf, ha.failed]
  · rw [hf, List.filter_append, hother, List.append_nil, ha.failed]

/-- Other queries come together. -/
theorem Alone.addEach (ha : Alone id h s) (hlt : id < h.nextId) (ds : List QueryDefinition) :
    Alone id (h.addEach ds).1 s := by
  have hgrow : ∀ (h : Host) d, Alone id h s ∧ id < h.nextId →
      Alone id (h.add d).1 s ∧ id < (h.add d).1.nextId := by
    rintro h d ⟨ha, hlt⟩
    refine ⟨ha.add hlt d, ?_⟩
    rw [(add_frame h d).1]
    exact Nat.lt_succ_of_lt hlt
  exact (addEach_preserves (P := fun h => Alone id h s ∧ id < h.nextId) hgrow ⟨ha, hlt⟩ ds).1

/-- A query is dropped in both hosts. -/
theorem Alone.remove (ha : Alone id h s) (other : Nat) :
    Alone id (h.remove other).1 (s.remove other).1 := by
  refine ⟨ha.recovery, ha.tellsFailures, ha.registry, ?_, ?_⟩
  · simp only [Host.remove, ha.queries, List.filter_filter, Bool.and_comm]
  · simp only [Host.remove, ha.failed, List.filter_filter, Bool.and_comm]

/-- Another query is dropped. -/
theorem Alone.remove_other (ha : Alone id h s) {other : Nat} (hne : other ≠ id) :
    Alone id (h.remove other).1 s := by
  have hkeep : ∀ q : StandingQuery, (q.id == id && q.id != other) = (q.id == id) := by
    intro q
    by_cases hq : q.id = id
    · simp [hq, hne.symm]
    · simp [hq]
  refine ⟨ha.recovery, ha.tellsFailures, ha.registry, ?_, ?_⟩
  · simp only [Host.remove, List.filter_filter, hkeep, ha.queries]
  · simp only [Host.remove, List.filter_filter, hkeep, ha.failed]

/-- All queries make room: the one that is watched goes like the others. -/
theorem Alone.clear (ha : Alone id h s) :
    Alone id { h with queries := [], failed := [] } (s.remove id).1 := by
  refine ⟨ha.recovery, ha.tellsFailures, ha.registry, ?_, ?_⟩
  · simp [Host.remove, ha.queries, List.filter_filter]
  · simp [Host.remove, ha.failed, List.filter_filter]

/-- Functions change, in both hosts alike. -/
theorem Alone.withRegistry (ha : Alone id h s) (change : Registry → Registry) :
    Alone id { h with registry := change h.registry } { s with registry := change s.registry } :=
  ⟨ha.recovery, ha.tellsFailures, congrArg change ha.registry, ha.queries, ha.failed⟩

/-! ### Runs -/

/-- **A call keeps the second host alone with the query**, and the query makes the same of it. -/
theorem alone_step_event (ha : Alone id h s) (call : Feed) :
    Alone id (h.step call.event).1 (s.run [call.event]).1 ∧
      (h.step call.event).2.toList.map (Delivery.about id) = (s.run [call.event]).2 := by
  obtain ⟨hafter, hmade⟩ := ha.deliver call.record? (Feed.id_part h.registry call)
  rw [run_singleton, step_event, step_event, ha.registry]
  exact ⟨hafter, congrArg (fun d => [d]) hmade⟩

/-- **One event keeps the second host alone with the query**, and the query makes the same of it. -/
theorem alone_step (ha : Alone id h s) (hlt : id < h.nextId) (e : HostEvent) :
    Alone id (h.step e).1 (s.run (e.about? id).toList).1 ∧
      (h.step e).2.toList.map (Delivery.about id) = (s.run (e.about? id).toList).2 := by
  cases e with
  | record now r => exact alone_step_event ha (.record now r)
  | finish now => exact alone_step_event ha (.finish now)
  | add d => exact ⟨ha.add hlt d, rfl⟩
  | addAll ds replace =>
      cases replace with
      | false => exact ⟨ha.addEach hlt ds, rfl⟩
      | true => exact ⟨ha.clear.addEach hlt ds, rfl⟩
  | remove other =>
      by_cases hother : other = id
      · rw [HostEvent.about?, if_pos hother, hother]
        exact ⟨ha.remove id, rfl⟩
      · rw [HostEvent.about?, if_neg hother]
        exact ⟨ha.remove_other hother, rfl⟩
  | load l =>
      have hdefined := ha.withRegistry fun g => g.defineAll l.functions
      refine ⟨?_, rfl⟩
      change Alone id (Host.loadQueries _ l.queries).1 _
      rw [loadQueries_eq_addEach]
      exact hdefined.addEach hlt _
  | define f => exact ⟨ha.withRegistry fun g => g.define f, rfl⟩
  | defineText text =>
      change Alone id _ (s.run [.defineText text]).1 ∧ _ = (s.run [.defineText text]).2
      rw [run_singleton]
      refine ⟨?_, rfl⟩
      simp only [Host.step, Host.defineText, ha.registry]
      split
      · exact ha.withRegistry fun _ => _
      · exact ha
  | undefine name => exact ⟨ha.withRegistry fun g => (g.undefine name).2, rfl⟩
  | supply name f => exact ⟨ha.withRegistry fun g => g.supply name f, rfl⟩
  | withdraw name => exact ⟨ha.withRegistry fun g => (g.withdraw name).2, rfl⟩

/-- **A run keeps the second host alone with the query**, and the query makes the same of it. -/
theorem alone_run (ha : Alone id h s) (hlt : id < h.nextId) (events : List HostEvent) :
    Alone id (h.run events).1 (s.run (events.filterMap (HostEvent.about? id))).1 ∧
      (h.run events).2.map (Delivery.about id)
        = (s.run (events.filterMap (HostEvent.about? id))).2 := by
  induction events generalizing h s with
  | nil => exact ⟨ha, rfl⟩
  | cons e rest ih =>
      obtain ⟨hafter, hmade⟩ := alone_step ha hlt e
      obtain ⟨hlast, hothers⟩ := ih hafter (Nat.lt_of_lt_of_le hlt (nextId_le_step h e))
      have hsplit : (e :: rest).filterMap (HostEvent.about? id)
          = (e.about? id).toList ++ rest.filterMap (HostEvent.about? id) := by
        rw [List.filterMap_cons]
        cases e.about? id <;> rfl
      rw [hsplit, run_append, run, List.map_append, hmade, hothers]
      exact ⟨hlast, rfl⟩

/-- Where numbers are different, one query bears the number of a query. -/
theorem filter_id_eq_singleton {queries : List StandingQuery} {q : StandingQuery}
    (hnodup : (queries.map StandingQuery.id).Nodup) (hq : q ∈ queries) :
    queries.filter (fun other => other.id == q.id) = [q] := by
  induction queries with
  | nil => exact absurd hq List.not_mem_nil
  | cons first rest ih =>
      rw [List.map_cons, List.nodup_cons] at hnodup
      rcases List.mem_cons.1 hq with rfl | hrest
      · rw [List.filter_cons, if_pos (beq_self_eq_true q.id), List.cons_eq_cons]
        refine ⟨rfl, List.filter_eq_nil_iff.2 fun other hother => ?_⟩
        rw [beq_iff_eq]
        exact fun he => hnodup.1 (he ▸ List.mem_map_of_mem hother)
      · have hne : ¬ (first.id == q.id) = true := by
          rw [beq_iff_eq]
          exact fun he => hnodup.1 (he ▸ List.mem_map_of_mem hrest)
        rw [List.filter_cons, if_neg hne]
        exact ih hnodup.2 hrest

/-- In a host with separate numbers a query can be put alone. -/
theorem Numbered.alone {q : StandingQuery} (hn : h.Numbered) (hq : q ∈ h.queries) :
    Alone q.id h { h with queries := [q], failed := [] } := by
  have hnodup : (h.queries.map StandingQuery.id ++ h.failed.map StandingQuery.id).Nodup := by
    rw [← List.map_append]
    exact hn.nodup
  obtain ⟨hqueries, -, hapart⟩ := List.nodup_append.1 hnodup
  refine ⟨rfl, rfl, rfl, ?_, ?_⟩
  · exact (filter_id_eq_singleton hqueries hq).symm
  · symm
    rw [List.filter_eq_nil_iff]
    intro other hother
    rw [beq_iff_eq]
    exact fun he => hapart q.id (List.mem_map_of_mem hq) _ (List.mem_map_of_mem hother) he.symm

end Host

end EventQuery
