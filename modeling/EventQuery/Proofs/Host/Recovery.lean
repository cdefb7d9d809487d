/-
**What is left of a query that fails.**

A query can fail at a record or at the end, when stages in front of the one that fails have already
gone on: some of them have counted the record, others have let go of what they held back.  The host
keeps the message and then either stops the query or builds it anew.  Either way nothing of the
pipeline that failed is seen again.

Main definitions:

* `StandingQuery.anew` — the query as it would be built now;
* `StandingQuery.bare`, `Host.bare` — without what no delivery depends on: descriptions, messages
  that are kept, and counts;
* `Host.replace` — the host with another query in the place of one of the same number.

Main results:

* `Host.forall_step` — what feeding keeps true of one query stays true of all queries;
* `Host.bare_run` — **hosts that are bare alike deliver alike**;
* `Host.stopped_run` — **a query that was stopped stays as it is, and nothing comes of it**;
* `Host.gone_or_new_of_failure` — **a query that failed is gone or as new**.
-/

import EventQuery.Proofs.Host.Isolation

set_option relaxedAutoImplicit false
set_option autoImplicit false

namespace EventQuery

namespace StandingQuery

/-- **The query as it would be built now**, from the same text. -/
def anew (q : StandingQuery) : StandingQuery :=
  .start q.id ⟨some q.name, some q.description, q.comment, q.text⟩

/-- The query without what no delivery depends on. -/
def bare (q : StandingQuery) : StandingQuery :=
  { q with description := "", failure := none, evaluations := 0 }

@[simp] theorem id_bare (q : StandingQuery) : q.bare.id = q.id := rfl

@[simp] theorem valid_bare (q : StandingQuery) : q.bare.valid = q.valid := rfl

theorem bare_dispose (q : StandingQuery) : q.bare.dispose = q.dispose.bare := rfl

theorem bare_resubscribe (q : StandingQuery) :
    q.bare.resubscribe.1 = q.resubscribe.1.bare := by
  cases h : Pipeline.read q.text with
  | ok p => rw [resubscribe_of_ok (q := q.bare) h, resubscribe_of_ok h]; rfl
  | error e => rw [resubscribe_of_error (q := q.bare) h, resubscribe_of_error h]; rfl

theorem bare_part (g : Registry) (call : Feed) (q : StandingQuery) :
    (call.part g q.bare).1.bare = (call.part g q).1.bare ∧
      (call.part g q.bare).2 = (call.part g q).2 := by
  have hactive : q.bare.active = q.active := rfl
  cases call with
  | record now r =>
      simp only [Feed.part, next, hactive]
      cases q.active <;> exact ⟨rfl, rfl⟩
  | finish now =>
      simp only [Feed.part, complete, hactive]
      cases q.active <;> exact ⟨rfl, rfl⟩

/-- Feeding a query changes nothing that it was made from. -/
theorem frame_part (g : Registry) (call : Feed) (q : StandingQuery) :
    (call.part g q).1.name = q.name ∧ (call.part g q).1.comment = q.comment ∧
      (call.part g q).1.text = q.text := by
  cases call with
  | record now r => cases h : q.active <;> simp [Feed.part, next, h]
  | finish now => cases h : q.active <;> simp [Feed.part, complete, h]

theorem text_start (id : Nat) (d : QueryDefinition) : (start id d).text = d.text := by
  cases h : Pipeline.read d.text with
  | ok p => exact congrArg StandingQuery.text (start_of_ok h)
  | error e => exact congrArg StandingQuery.text (start_of_error h)

/-- Beginning anew changes the pipeline and nothing else. -/
theorem frame_resubscribe (q : StandingQuery) :
    q.resubscribe.1.text = q.text ∧ q.resubscribe.1.failure = q.failure ∧
      q.resubscribe.1.evaluations = q.evaluations := by
  cases h : Pipeline.read q.text with
  | ok p => rw [resubscribe_of_ok h]; exact ⟨rfl, rfl, rfl⟩
  | error e => rw [resubscribe_of_error h]; exact ⟨rfl, rfl, rfl⟩

/-- A query that begins anew is, as far as deliveries go, one that is built now. -/
theorem bare_anew {q : StandingQuery} (failing : StandingQuery) (hid : failing.id = q.id)
    (hframe : failing.name = q.name ∧ failing.comment = q.comment ∧ failing.text = q.text) :
    q.anew.bare = failing.resubscribe.1.bare := by
  obtain ⟨hname, hcomment, htext⟩ := hframe
  have hsame : (unbuilt q.id ⟨some q.name, some q.description, q.comment, q.text⟩).bare
      = failing.dispose.bare := by
    simp only [unbuilt, dispose, bare, QueryDefinition.nameFor, hid, hname, hcomment, htext]
  cases h : Pipeline.read q.text with
  | ok p =>
      have hanew : q.anew = _ := start_of_ok h
      rw [hanew, resubscribe_of_ok (q := failing) (htext ▸ h)]
      exact congrArg (fun x : StandingQuery => { x with pipeline := some p, valid := true }) hsame
  | error e =>
      have hanew : q.anew = _ := start_of_error h
      rw [hanew, resubscribe_of_error (q := failing) (htext ▸ h)]
      exact hsame

/-- A query that is not active is left alone. -/
theorem part_of_not_valid {q : StandingQuery} (hv : q.valid = false) (g : Registry)
    (call : Feed) : call.part g q = (q, .ok []) := by
  have hactive : q.active = none := by
    rw [active, hv]
    cases q.pipeline <;> rfl
  cases call with
  | record now r => simp only [Feed.part, next, hactive]
  | finish now => simp only [Feed.part, complete, hactive]

end StandingQuery

namespace Host

variable {h s : Host}

/-! ### Properties of each query -/

/-- **What feeding keeps true of one query stays true of all**, where it is true of the queries
that come. -/
theorem forall_step {P : StandingQuery → Prop}
    (hfeed : ∀ (h : Host) (call : Feed) q, P q →
      P (h.participate call.record? (call.part h.registry) q).1)
    (hnew : ∀ n d, h.nextId ≤ n → (StandingQuery.start n d).valid = true → P (.start n d))
    (hall : ∀ q ∈ h.queries, P q) (e : HostEvent) : ∀ q ∈ (h.step e).1.queries, P q := by
  -- The numbers of the queries that come are at least the next one, which has to be carried along.
  refine (step_preserves (P := fun h' => (∀ q ∈ h'.queries, P q) ∧ h.nextId ≤ h'.nextId)
    ?hadd ?hfeed ?hclear ?hremove ?hregistry ⟨hall, Nat.le_refl _⟩ e).1
  case hadd =>
    rintro h' d ⟨hall, hle⟩
    refine ⟨fun q hq => ?_, by rw [(add_frame h' d).1]; exact Nat.le_succ_of_le hle⟩
    rcases mem_queries_add hq with hold | ⟨hv, rfl⟩
    · exact hall q hold
    · exact hnew _ d hle hv
  case hfeed =>
    rintro h' call ⟨hall, hle⟩
    rw [deliver_eq]
    refine ⟨fun q hq => ?_, hle⟩
    obtain ⟨before, hbefore, rfl⟩ := List.mem_map.1 hq
    exact hfeed h' call before (hall before hbefore)
  case hclear => exact fun _ hkept => ⟨fun q hq => absurd hq List.not_mem_nil, hkept.2⟩
  case hremove => exact fun _ _ hkept => ⟨fun q hq => hkept.1 q (List.mem_filter.1 hq).1, hkept.2⟩
  case hregistry => exact fun _ _ hkept => hkept

/-! ### The texts of the queries build -/

theorem text_recover (recovery : Recovery) (q : StandingQuery) (message : String) :
    (recover recovery q message).text = q.text := by
  cases recovery with
  | dispose => rfl
  | resubscribe => exact (StandingQuery.frame_resubscribe { q with failure := some message }).1

theorem text_settle (h : Host) (record : Option Record)
    (made : StandingQuery × Result (List Record)) :
    (h.settle record made).1.text = made.1.text := by
  obtain ⟨q, result⟩ := made
  cases result with
  | ok out => rfl
  | error e => exact text_recover h.recovery q e.message

/-- Taking part does not change the text of a query. -/
theorem text_participate (h : Host) (call : Feed) (q : StandingQuery) :
    (h.participate call.record? (call.part h.registry) q).1.text = q.text := by
  unfold participate
  split
  · rw [text_settle]
    exact (StandingQuery.frame_part h.registry call q).2.2
  · rfl

/-- A new query is active if its text builds. -/
theorem valid_start_iff {id : Nat} {d : QueryDefinition} :
    (StandingQuery.start id d).valid = true ↔ ∃ p, Pipeline.read d.text = .ok p := by
  cases h : Pipeline.read d.text with
  | ok p => simp [StandingQuery.start_of_ok h]
  | error e => simp [StandingQuery.start_of_error h, StandingQuery.unbuilt]

/-- The text of a new query that is active builds. -/
theorem builds_of_valid_start {id : Nat} {d : QueryDefinition}
    (hv : (StandingQuery.start id d).valid = true) :
    ∃ p, Pipeline.read (StandingQuery.start id d).text = .ok p := by
  rw [StandingQuery.text_start]
  exact valid_start_iff.1 hv

/-- **The text of every query that stands in a host builds.** -/
theorem builds_run (hall : ∀ q ∈ h.queries, ∃ p, Pipeline.read q.text = .ok p)
    (events : List HostEvent) :
    ∀ q ∈ (h.run events).1.queries, ∃ p, Pipeline.read q.text = .ok p := by
  refine run_preserves (P := fun h => ∀ q ∈ h.queries, ∃ p, Pipeline.read q.text = .ok p)
    (fun h e hall => forall_step (fun h call q hq => ?_) (fun n d _ hv => builds_of_valid_start hv) hall e)
    hall events
  rw [text_participate]
  exact hq

/-! ### What no delivery depends on -/

/-- **The host without what no delivery depends on.** -/
def bare (h : Host) : Host :=
  { h with queries := h.queries.map StandingQuery.bare, failed := h.failed.map StandingQuery.bare }

theorem bare_recover (recovery : Recovery) {q q' : StandingQuery} (hq : q'.bare = q.bare)
    (message : String) :
    (recover recovery q' message).bare = (recover recovery q message).bare := by
  have hkept : ∀ q : StandingQuery, ({ q with failure := some message } : StandingQuery).bare
      = q.bare := fun _ => rfl
  cases recovery with
  | dispose =>
      simp only [recover]
      rw [← StandingQuery.bare_dispose, ← StandingQuery.bare_dispose, hkept, hkept, hq]
  | resubscribe =>
      simp only [recover]
      rw [← StandingQuery.bare_resubscribe, ← StandingQuery.bare_resubscribe, hkept, hkept, hq]

/-- What comes of a call depends on bare queries only. -/
theorem bare_settle (h : Host) (record : Option Record) {q q' : StandingQuery}
    (hq : q'.bare = q.bare) (result : Result (List Record)) :
    (h.settle record (q', result)).1.bare = (h.settle record (q, result)).1.bare ∧
      (h.settle record (q', result)).2 = (h.settle record (q, result)).2 := by
  have hid : q'.id = q.id := congrArg (·.id) hq
  have hname : q'.name = q.name := congrArg (·.name) hq
  have hcomment : q'.comment = q.comment := congrArg (·.comment) hq
  cases result with
  | ok out => exact ⟨hq, by simp only [settle, hid, hname, hcomment]⟩
  | error e =>
      exact ⟨bare_recover h.recovery hq e.message, by simp only [settle, hid, hname, hcomment]⟩

theorem bare_participate (h : Host) (call : Feed) (q : StandingQuery) :
    (h.participate call.record? (call.part h.registry) q.bare).1.bare
        = (h.participate call.record? (call.part h.registry) q).1.bare ∧
      (h.participate call.record? (call.part h.registry) q.bare).2
        = (h.participate call.record? (call.part h.registry) q).2 := by
  obtain ⟨hafter, hmade⟩ := StandingQuery.bare_part h.registry call q
  unfold participate
  rw [StandingQuery.valid_bare]
  by_cases hv : q.valid = true
  · rw [if_pos hv, if_pos hv]
    generalize call.part h.registry q.bare = made at hafter hmade ⊢
    obtain ⟨q', result⟩ := made
    obtain rfl : result = _ := hmade
    exact h.bare_settle call.record? hafter _
  · rw [if_neg hv, if_neg hv]
    exact ⟨rfl, rfl⟩

/-- Hosts that are bare alike, part by part. -/
theorem bare_eq_iff : s.bare = h.bare ↔
    (s.recovery = h.recovery ∧ s.tellsFailures = h.tellsFailures ∧ s.registry = h.registry ∧
      s.nextId = h.nextId) ∧
    s.queries.map StandingQuery.bare = h.queries.map StandingQuery.bare ∧
      s.failed.map StandingQuery.bare = h.failed.map StandingQuery.bare := by
  simp only [bare, Host.mk.injEq]
  tauto

/-- What is the same for a query and the bare query is read off the bare queries. -/
theorem map_eq_of_bare {β : Type} {f : StandingQuery → β} (hf : ∀ q, f q.bare = f q)
    {qs qs' : List StandingQuery}
    (hqs : qs'.map StandingQuery.bare = qs.map StandingQuery.bare) : qs'.map f = qs.map f := by
  have hthrough : ∀ qs : List StandingQuery, qs.map f = (qs.map StandingQuery.bare).map f := by
    intro qs
    rw [List.map_map]
    exact List.map_congr_left fun q _ => (hf q).symm
  rw [hthrough qs', hthrough qs, hqs]

theorem bare_deliver (hb : s.bare = h.bare) (call : Feed) :
    (s.deliver call.record? (call.part s.registry)).1.bare
        = (h.deliver call.record? (call.part h.registry)).1.bare ∧
      (s.deliver call.record? (call.part s.registry)).2
        = (h.deliver call.record? (call.part h.registry)).2 := by
  obtain ⟨⟨hrecovery, htells, hregistry, hnext⟩, hqueries, hfailed⟩ := bare_eq_iff.1 hb
  have hsame : ∀ q, s.participate call.record? (call.part s.registry) q
      = h.participate call.record? (call.part h.registry) q := by
    intro q
    unfold participate settle
    rw [hrecovery, htells, hregistry]
  have hstate := map_eq_of_bare (f := fun q =>
    (h.participate call.record? (call.part h.registry) q).1.bare)
    (fun q => (h.bare_participate call q).1) hqueries
  have houtputs := map_eq_of_bare (f := fun q =>
    (h.participate call.record? (call.part h.registry) q).2.outputs)
    (fun q => congrArg Delivery.outputs (h.bare_participate call q).2) hqueries
  have hfailures := map_eq_of_bare (f := fun q =>
    (h.participate call.record? (call.part h.registry) q).2.failures)
    (fun q => congrArg Delivery.failures (h.bare_participate call q).2) hqueries
  rw [deliver_eq, deliver_eq]
  simp only [hsame, List.flatMap_def]
  refine ⟨bare_eq_iff.2 ⟨⟨hrecovery, htells, hregistry, hnext⟩, ?_, hfailed⟩, ?_⟩
  · rw [List.map_map, List.map_map]
    exact hstate
  · rw [houtputs, hfailures]

theorem bare_add (hb : s.bare = h.bare) (d : QueryDefinition) :
    (s.add d).1.bare = (h.add d).1.bare := by
  obtain ⟨⟨hrecovery, htells, hregistry, hnext⟩, hqueries, hfailed⟩ := bare_eq_iff.1 hb
  simp only [Host.add, hnext]
  by_cases hv : (StandingQuery.start h.nextId d).valid = true
  · rw [if_pos hv, if_pos hv]
    refine bare_eq_iff.2 ⟨⟨hrecovery, htells, hregistry, rfl⟩, ?_, hfailed⟩
    rw [List.map_append, List.map_append, hqueries]
  · rw [if_neg hv, if_neg hv]
    refine bare_eq_iff.2 ⟨⟨hrecovery, htells, hregistry, rfl⟩, hqueries, ?_⟩
    rw [List.map_append, List.map_append, hfailed]

theorem bare_addEach (hb : s.bare = h.bare) (ds : List QueryDefinition) :
    (s.addEach ds).1.bare = (h.addEach ds).1.bare := by
  induction ds generalizing s h with
  | nil => exact hb
  | cons d rest ih =>
      rw [addEach_cons, addEach_cons]
      exact ih (bare_add hb d)

theorem bare_remove (hb : s.bare = h.bare) (id : Nat) :
    (s.remove id).1.bare = (h.remove id).1.bare := by
  obtain ⟨hframe, hqueries, hfailed⟩ := bare_eq_iff.1 hb
  have hkept : ∀ qs : List StandingQuery,
      (qs.filter fun q => q.id != id).map StandingQuery.bare
        = (qs.map StandingQuery.bare).filter fun q => q.id != id := by
    intro qs
    rw [List.filter_map]
    rfl
  refine bare_eq_iff.2 ⟨hframe, ?_, ?_⟩
  · simp only [Host.remove, hkept, hqueries]
  · simp only [Host.remove, hkept, hfailed]

theorem bare_withRegistry (hb : s.bare = h.bare) (change : Registry → Registry) :
    ({ s with registry := change s.registry } : Host).bare
      = ({ h with registry := change h.registry } : Host).bare := by
  obtain ⟨⟨hrecovery, htells, hregistry, hnext⟩, hall⟩ := bare_eq_iff.1 hb
  exact bare_eq_iff.2 ⟨⟨hrecovery, htells, congrArg change hregistry, hnext⟩, hall⟩

/-- **One event keeps hosts bare alike**, and the same comes of it. -/
theorem bare_step (hb : s.bare = h.bare) (e : HostEvent) :
    (s.step e).1.bare = (h.step e).1.bare ∧ (s.step e).2 = (h.step e).2 := by
  have hfed : ∀ call : Feed, (s.step call.event).1.bare = (h.step call.event).1.bare ∧
      (s.step call.event).2 = (h.step call.event).2 := by
    intro call
    rw [step_event, step_event]
    exact ⟨(bare_deliver hb call).1, congrArg some (bare_deliver hb call).2⟩
  cases e with
  | record now r => exact hfed (.record now r)
  | finish now => exact hfed (.finish now)
  | add d => exact ⟨bare_add hb d, rfl⟩
  | addAll ds replace =>
      cases replace with
      | false => exact ⟨bare_addEach hb ds, rfl⟩
      | true =>
          have hcleared : ({ s with queries := [], failed := [] } : Host).bare
              = ({ h with queries := [], failed := [] } : Host).bare :=
            bare_eq_iff.2 ⟨(bare_eq_iff.1 hb).1, rfl, rfl⟩
          exact ⟨bare_addEach hcleared ds, rfl⟩
  | remove id => exact ⟨bare_remove hb id, rfl⟩
  | load l =>
      have hdefined := bare_withRegistry hb fun g => g.defineAll l.functions
      refine ⟨?_, rfl⟩
      change (Host.loadQueries _ l.queries).1.bare = (Host.loadQueries _ l.queries).1.bare
      rw [loadQueries_eq_addEach, loadQueries_eq_addEach]
      exact bare_addEach hdefined _
  | define f => exact ⟨bare_withRegistry hb fun g => g.define f, rfl⟩
  | defineText text =>
      refine ⟨?_, rfl⟩
      simp only [Host.step, Host.defineText, (bare_eq_iff.1 hb).1.2.2.1]
      split
      · exact bare_withRegistry hb fun _ => _
      · exact hb
  | undefine name => exact ⟨bare_withRegistry hb fun g => (g.undefine name).2, rfl⟩
  | supply name f => exact ⟨bare_withRegistry hb fun g => g.supply name f, rfl⟩
  | withdraw name => exact ⟨bare_withRegistry hb fun g => (g.withdraw name).2, rfl⟩

/-- **Hosts that are bare alike deliver alike.** -/
theorem bare_run (hb : s.bare = h.bare) (events : List HostEvent) :
    (s.run events).1.bare = (h.run events).1.bare ∧ (s.run events).2 = (h.run events).2 := by
  induction events generalizing s h with
  | nil => exact ⟨hb, rfl⟩
  | cons e rest ih =>
      obtain ⟨hafter, hmade⟩ := bare_step hb e
      obtain ⟨hlast, hothers⟩ := ih hafter
      exact ⟨hlast, by rw [run, run, hmade, hothers]⟩

/-! ### A query that is stopped -/

/-- **The query was stopped**: it is not active, and no other one will have its number. -/
structure Stopped (q : StandingQuery) (h : Host) : Prop where
  inactive : q.valid = false
  given : q.id < h.nextId
  unchanged : ∀ x ∈ h.queries, x.id = q.id → x = q

variable {q : StandingQuery}

/-- A query that is not active takes no part. -/
theorem participate_of_not_valid (hv : q.valid = false) (record : Option Record)
    (part : StandingQuery → StandingQuery × Result (List Record)) :
    h.participate record part q = (q, .empty) := by
  rw [participate, hv]
  rfl

/-- Nothing comes of a query that was stopped: whatever bears the number was made by the query
itself, which makes nothing. -/
theorem Stopped.about_deliver (hs : Stopped q h) (call : Feed) :
    (h.deliver call.record? (call.part h.registry)).2.about q.id = .empty := by
  have hnone : ∀ x ∈ h.queries.filter (fun x => x.id == q.id),
      (h.participate call.record? (call.part h.registry) x).2 = .empty := by
    intro x hx
    obtain ⟨hmem, hid⟩ := List.mem_filter.1 hx
    rw [hs.unchanged x hmem (beq_iff_eq.1 hid), participate_of_not_valid hs.inactive]
  rw [Host.about_deliver (Feed.id_part h.registry call)]
  refine congrArg₂ Delivery.mk ?_ ?_
  · exact List.flatMap_eq_nil_iff.2 fun x hx => congrArg Delivery.outputs (hnone x hx)
  · exact List.flatMap_eq_nil_iff.2 fun x hx => congrArg Delivery.failures (hnone x hx)

/-- **One event leaves a query stopped**, and nothing about it comes of it. -/
theorem Stopped.step (hs : Stopped q h) (e : HostEvent) :
    Stopped q (h.step e).1 ∧ ∀ d ∈ (h.step e).2, d.about q.id = .empty := by
  constructor
  · refine ⟨hs.inactive, Nat.lt_of_lt_of_le hs.given (nextId_le_step h e), ?_⟩
    refine forall_step (fun h call x heq hid => ?_) (fun n d hn _ hid => ?_) hs.unchanged e
    · rw [id_of_participate (Feed.id_part h.registry call)] at hid
      obtain rfl := heq hid
      rw [participate_of_not_valid hs.inactive]
    · rw [StandingQuery.id_start] at hid
      have := hs.given
      omega
  · intro d hd
    rcases exists_feed_or e with ⟨call, rfl⟩ | hnone
    · rw [step_event, Option.mem_some] at hd
      obtain rfl := hd
      exact hs.about_deliver call
    · rw [hnone h] at hd
      exact absurd hd (Option.not_mem_none d)

/-- **A query that was stopped stays as it is, and nothing comes of it.** -/
theorem stopped_run (hs : Stopped q h) (events : List HostEvent) :
    Stopped q (h.run events).1 ∧ ∀ d ∈ (h.run events).2, d.about q.id = .empty := by
  induction events generalizing h with
  | nil => exact ⟨hs, fun d hd => absurd hd List.not_mem_nil⟩
  | cons e rest ih =>
      obtain ⟨hafter, hquiet⟩ := hs.step e
      obtain ⟨hlast, hothers⟩ := ih hafter
      refine ⟨hlast, fun d hd => ?_⟩
      rcases List.mem_append.1 hd with hnow | hlater
      · exact hquiet d (Option.mem_toList.1 hnow)
      · exact hothers d hlater

/-! ### A query that fails -/

/-- **The host with a query in the place of the one of its number.** -/
def replace (h : Host) (q : StandingQuery) : Host :=
  { h with queries := h.queries.map fun other => if other.id = q.id then q else other }

/-- Queries with one number are one. -/
theorem Numbered.eq_of_id (hn : h.Numbered) {x : StandingQuery} (hx : x ∈ h.queries)
    (hq : q ∈ h.queries) (hid : x.id = q.id) : x = q :=
  List.inj_on_of_nodup_map hn.nodup (List.mem_append_left _ hx) (List.mem_append_left _ hq) hid

/-- A query is found by its number. -/
theorem Numbered.query?_eq (hn : h.Numbered) (hq : q ∈ h.queries) : h.query? q.id = some q := by
  have hmem : q ∈ h.queries ++ h.failed := List.mem_append_left _ hq
  rw [query?, ← List.head?_filter, filter_id_eq_singleton hn.nodup hmem]
  rfl

/-- A query that is bare alike can take the place of another. -/
theorem Numbered.bare_replace (hn : h.Numbered) {fresh : StandingQuery} (hq : q ∈ h.queries)
    (hfresh : fresh.bare = q.bare) : (h.replace fresh).bare = h.bare := by
  have hid : fresh.bare.id = q.bare.id := congrArg StandingQuery.id hfresh
  rw [StandingQuery.id_bare, StandingQuery.id_bare] at hid
  refine bare_eq_iff.2 ⟨⟨rfl, rfl, rfl, rfl⟩, ?_, rfl⟩
  rw [replace, List.map_map]
  refine List.map_congr_left fun x hx => ?_
  rw [Function.comp_apply]
  split
  · rw [hn.eq_of_id hx hq (by omega), hfresh]
  · rfl

/-- What comes of a call about one query is what that query makes of it. -/
theorem Numbered.about_deliver (hn : h.Numbered) (hq : q ∈ h.queries) (call : Feed) :
    (h.deliver call.record? (call.part h.registry)).2.about q.id
      = (h.participate call.record? (call.part h.registry) q).2 := by
  rw [Host.about_deliver (Feed.id_part h.registry call), ← (hn.alone hq).queries]
  simp only [List.flatMap_singleton]

/-- What becomes of a query whose pipeline fails, and what comes of the call. -/
theorem participate_of_error {call : Feed} {e : EvalError}
    (hfail : (call.part h.registry q).2 = .error e) :
    h.participate call.record? (call.part h.registry) q
      = (recover h.recovery (call.part h.registry q).1 e.message,
        ⟨[], if h.tellsFailures then
          [⟨q.id, q.name, q.comment, e.message, call.record?⟩] else []⟩) := by
  have hv : q.valid = true := by
    by_contra hv
    rw [StandingQuery.part_of_not_valid (Bool.not_eq_true _ ▸ hv)] at hfail
    cases hfail
  obtain ⟨hname, hcomment, -⟩ := StandingQuery.frame_part h.registry call q
  have hid := Feed.id_part h.registry call q
  rw [participate, if_pos hv]
  generalize call.part h.registry q = made at hfail hname hcomment hid ⊢
  obtain ⟨after, result⟩ := made
  obtain rfl : result = .error e := hfail
  simp only [settle] at hname hcomment hid ⊢
  rw [hname, hcomment, hid]

@[simp] theorem failure_recover (recovery : Recovery) (q : StandingQuery) (message : String) :
    (recover recovery q message).failure = some message := by
  cases recovery with
  | dispose => rfl
  | resubscribe => exact (StandingQuery.frame_resubscribe { q with failure := some message }).2.1

/-- A query that failed stands in the host after the call as it was dealt with. -/
theorem mem_step_of_error (hq : q ∈ h.queries) {call : Feed} {e : EvalError}
    (hfail : (call.part h.registry q).2 = .error e) :
    recover h.recovery (call.part h.registry q).1 e.message ∈ (h.step call.event).1.queries := by
  rw [step_event, deliver_eq]
  refine List.mem_map.2 ⟨q, hq, ?_⟩
  rw [participate_of_error hfail]

/-- Where queries are disposed of, one that fails is stopped. -/
theorem Numbered.stopped_of_error (hn : h.Numbered) (hq : q ∈ h.queries) {call : Feed}
    {e : EvalError} (hfail : (call.part h.registry q).2 = .error e)
    (hrecovery : h.recovery = .dispose) :
    Stopped (recover .dispose (call.part h.registry q).1 e.message) (h.step call.event).1 := by
  have hmem := mem_step_of_error hq hfail
  rw [hrecovery] at hmem
  have hn' := hn.step call.event
  exact ⟨rfl, hn'.lt_next _ (List.mem_append_left _ hmem), fun x hx hid => hn'.eq_of_id hx hmem hid⟩

/-- Where queries begin anew, one that fails can be exchanged for one that is built now. -/
theorem Numbered.bare_replace_of_error (hn : h.Numbered) (hq : q ∈ h.queries) {call : Feed}
    {e : EvalError} (hfail : (call.part h.registry q).2 = .error e)
    (hrecovery : h.recovery = .resubscribe) :
    ((h.step call.event).1.replace q.anew).bare = (h.step call.event).1.bare := by
  have hmem := mem_step_of_error hq hfail
  rw [hrecovery] at hmem
  refine (hn.step call.event).bare_replace hmem ?_
  exact StandingQuery.bare_anew { (call.part h.registry q).1 with failure := some e.message }
    (Feed.id_part h.registry call q) (StandingQuery.frame_part h.registry call q)

/-- **A query that failed is gone or as new.**  Let a query stand in a host after any events, and
let its pipeline fail at a call.  Nothing is let out by the query at this call, the message is kept,
and the failure is told once if failures are told.  Where queries are built anew, whatever follows
comes out as it does with a query that is built now in the place of the one that failed.  Where they
are disposed of, nothing comes of the query any more, and it stays as it is. -/
theorem gone_or_new_of_failure (recovery : Recovery) (tells : Bool) (g : Registry)
    (before : List HostEvent) {q : StandingQuery}
    (hq : q ∈ ((Host.empty recovery tells g).run before).1.queries) (call : Feed) {e : EvalError}
    (hfail : (call.part ((Host.empty recovery tells g).run before).1.registry q).2 = .error e) :
    let h := ((Host.empty recovery tells g).run before).1
    let h' := (h.step call.event).1
    (h.step call.event).2.map (Delivery.about q.id)
        = some ⟨[], if tells then
            [⟨q.id, q.name, q.comment, e.message, call.record?⟩] else []⟩ ∧
      ∃ q', h'.query? q.id = some q' ∧ q'.failure = some e.message ∧
        (recovery = .resubscribe → q.anew.valid = true ∧
          ∀ after, (h'.run after).2 = ((h'.replace q.anew).run after).2) ∧
        (recovery = .dispose → ∀ after,
          (∀ d ∈ (h'.run after).2, d.about q.id = .empty) ∧
            ∀ x ∈ (h'.run after).1.queries, x.id = q.id →
              x.valid = false ∧ x.evaluations = q'.evaluations) := by
  intro h h'
  have hn : h.Numbered := numbered_run (numbered_empty recovery tells g) before
  obtain ⟨hrecovery, htells⟩ : h.recovery = recovery ∧ h.tellsFailures = tells :=
    settings_run (Host.empty recovery tells g) before
  -- From here on only these facts about the host count, not how it came about.
  have hbuilds : ∃ p, Pipeline.read q.text = .ok p :=
    builds_run (fun _ hmem => absurd hmem List.not_mem_nil) before q hq
  have hmem : q ∈ h.queries := hq
  have herror : (call.part h.registry q).2 = .error e := hfail
  clear_value h
  subst hrecovery htells
  have hafter := mem_step_of_error hmem herror
  have hnumber : (recover h.recovery (call.part h.registry q).1 e.message).id = q.id := by
    rw [id_recover, Feed.id_part]
  refine ⟨?_, recover h.recovery (call.part h.registry q).1 e.message, ?_, failure_recover ..,
    fun hpolicy => ?_, fun hpolicy after => ?_⟩
  · rw [step_event, Option.map_some, hn.about_deliver hmem, participate_of_error herror]
  · rw [← hnumber]
    exact (hn.step call.event).query?_eq hafter
  · refine ⟨valid_start_iff.2 hbuilds, fun after => ?_⟩
    exact (bare_run (hn.bare_replace_of_error hmem herror hpolicy) after).2.symm
  · have hstopped := hn.stopped_of_error hmem herror hpolicy
    rw [hpolicy] at hnumber ⊢
    obtain ⟨hlast, hquiet⟩ := stopped_run hstopped after
    rw [hnumber] at hquiet
    refine ⟨hquiet, fun x hx hid => ?_⟩
    obtain rfl := hlast.unchanged x hx (hid.trans hnumber.symm)
    exact ⟨hlast.inactive, rfl⟩

/-- A query that lets one record through and then fails at it begins anew with the whole count. -/
theorem anew_after_take :
    let d : QueryDefinition := ⟨none, none, "", "e|take 1|where f()"⟩
    let h := ((Host.empty .resubscribe true default).run [.add d]).1
    let call := Feed.record default []
    let h' := (h.step call.event).1
    StandingQuery.start 1 d ∈ h.queries ∧
      (∃ e, (call.part h.registry (.start 1 d)).2 = .error e) ∧
      ∀ after, (h'.run after).2 = ((h'.replace (StandingQuery.start 1 d).anew).run after).2 := by
  have hbuilt : (StandingQuery.start 1 ⟨none, none, "", "e|take 1|where f()"⟩).valid = true := by
    decide +kernel
  have hfail : ((Feed.record default []).part default
      (StandingQuery.start 1 ⟨none, none, "", "e|take 1|where f()"⟩)).2.isOk = false := by
    decide +kernel
  generalize (⟨none, none, "", "e|take 1|where f()"⟩ : QueryDefinition) = d at hbuilt hfail ⊢
  have hmem : StandingQuery.start 1 d
      ∈ ((Host.empty .resubscribe true default).run [.add d]).1.queries := by
    rw [run_singleton]
    exact mem_add hbuilt
  have hregistry : ((Host.empty .resubscribe true default).run [.add d]).1.registry = default := by
    rw [run_singleton]
    exact (add_frame _ d).2.2.2
  obtain ⟨e, he⟩ : ∃ e, ((Feed.record default []).part default (StandingQuery.start 1 d)).2
      = .error e := by
    generalize ((Feed.record default []).part default (StandingQuery.start 1 d)).2 = made at hfail
    cases made with
    | ok out => cases hfail
    | error e => exact ⟨e, rfl⟩
  rw [← hregistry] at he
  refine ⟨hmem, ⟨e, he⟩, ?_⟩
  obtain ⟨-, -, -, -, hanew, -⟩ := gone_or_new_of_failure .resubscribe true default _ hmem _ he
  exact (hanew rfl).2

end Host

end EventQuery
