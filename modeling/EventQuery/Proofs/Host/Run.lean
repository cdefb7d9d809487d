/-
**Runs of a host.**

A host takes in events: records and the end of the stream, queries that come and go, and functions
that are defined and withdrawn.  A run is a list of events, in any order.  The numbers of queries
are the one thing that events share; they are never given twice.

There are many events but few ways to change a host.  What is kept by each of these elementary
changes is kept by every run.

Main definitions:

* `HostEvent` — what can happen to a host;
* `Feed` — a call that feeds a host: a record, or the end;
* `Host.step`, `Host.run` — one event, and several;
* `Host.Numbered` — no two queries have one number, and the next number is above all of them.

Main results:

* `Host.id_of_participate` — a query keeps its number, whatever comes of a record;
* `Host.step_preserves` — an event is made of a few elementary changes;
* `Host.Numbered.step`, `Host.numbered_run` — **numbers stay apart in every run**.
-/

import EventQuery.Host.Basic
import Mathlib.Data.List.Nodup

set_option relaxedAutoImplicit false
set_option autoImplicit false

namespace EventQuery

/-- **What can happen to a host.**  The time is read when records are fed, and it is an input like
the record. -/
inductive HostEvent where
  | record (now : Instant) (r : Record)
  | finish (now : Instant)
  | add (d : QueryDefinition)
  | addAll (ds : List QueryDefinition) (replace : Bool)
  | remove (id : Nat)
  | load (l : Library)
  | define (f : UserFunction)
  | defineText (text : String)
  | undefine (name : String)
  | supply (name : String) (f : NativeFunction)
  | withdraw (name : String)

namespace StandingQuery

/-! ### Numbers of queries -/

@[simp] theorem id_start (id : Nat) (d : QueryDefinition) : (start id d).id = id := by
  cases h : Pipeline.read d.text with
  | ok p => exact congrArg StandingQuery.id (start_of_ok h)
  | error e => exact congrArg StandingQuery.id (start_of_error h)

@[simp] theorem id_next (env : Environment) (q : StandingQuery) (r : Record) :
    (q.next env r).1.id = q.id := by
  cases h : q.active <;> simp [next, h]

@[simp] theorem id_complete (env : Environment) (q : StandingQuery) :
    (q.complete env).1.id = q.id := by
  cases h : q.active <;> simp [complete, h]

@[simp] theorem id_dispose (q : StandingQuery) : q.dispose.id = q.id := rfl

@[simp] theorem id_resubscribe (q : StandingQuery) : q.resubscribe.1.id = q.id := by
  cases h : Pipeline.read q.text with
  | ok p => rw [resubscribe_of_ok h]
  | error e => rw [resubscribe_of_error h, id_dispose]

end StandingQuery

/-- **A call that feeds a host.** -/
inductive Feed where
  | record (now : Instant) (r : Record)
  | finish (now : Instant)

namespace Feed

/-- The call as an event. -/
def event : Feed → HostEvent
  | .record now r => .record now r
  | .finish now => .finish now

/-- The record of the call; the end has none. -/
def record? : Feed → Option Record
  | .record _ r => some r
  | .finish _ => none

/-- What a query makes of the call. -/
def part (g : Registry) : Feed → StandingQuery → StandingQuery × Result (List Record)
  | .record now r, q => q.next ⟨g, now⟩ r
  | .finish now, q => q.complete ⟨g, now⟩

@[simp] theorem id_part (g : Registry) (call : Feed) (q : StandingQuery) :
    (call.part g q).1.id = q.id := by
  cases call with
  | record now r => exact StandingQuery.id_next _ q r
  | finish now => exact StandingQuery.id_complete _ q

end Feed

namespace Host

variable {h : Host}

/-! ### Events -/

/-- **One event**: the host after it, and what came of it if records were fed. -/
def step (h : Host) : HostEvent → Host × Option Delivery
  | .record now r => ((h.next now r).1, some (h.next now r).2)
  | .finish now => ((h.complete now).1, some (h.complete now).2)
  | .add d => ((h.add d).1, none)
  | .addAll ds replace => ((h.addAll ds replace).1, none)
  | .remove id => ((h.remove id).1, none)
  | .load l => ((h.load l).1, none)
  | .define f => ({ h with registry := h.registry.define f }, none)
  | .defineText text => ((h.defineText text).1, none)
  | .undefine name => ({ h with registry := (h.registry.undefine name).2 }, none)
  | .supply name f => ({ h with registry := h.registry.supply name f }, none)
  | .withdraw name => ({ h with registry := (h.registry.withdraw name).2 }, none)

/-- **A run**: the host after several events, and what came of those that fed records. -/
def run (h : Host) : List HostEvent → Host × List Delivery
  | [] => (h, [])
  | e :: rest => ((run (h.step e).1 rest).1, (h.step e).2.toList ++ (run (h.step e).1 rest).2)

@[simp] theorem run_nil (h : Host) : h.run [] = (h, []) := rfl

theorem run_singleton (h : Host) (e : HostEvent) :
    h.run [e] = ((h.step e).1, (h.step e).2.toList) := by
  rw [run, run_nil, List.append_nil]

theorem run_append (h : Host) (before after : List HostEvent) :
    h.run (before ++ after)
      = (((h.run before).1.run after).1, (h.run before).2 ++ ((h.run before).1.run after).2) := by
  induction before generalizing h with
  | nil => rfl
  | cons e rest ih => simp [run, ih]

/-- A call that feeds a host lets each of its queries take part. -/
theorem step_event (h : Host) (call : Feed) :
    h.step call.event = ((h.deliver call.record? (call.part h.registry)).1,
      some (h.deliver call.record? (call.part h.registry)).2) := by
  cases call <;> rfl

/-- An event feeds a host, or it is about which queries and functions there are. -/
theorem exists_feed_or (e : HostEvent) :
    (∃ call : Feed, e = call.event) ∨ ∀ h : Host, (h.step e).2 = none := by
  cases e with
  | record now r => exact .inl ⟨.record now r, rfl⟩
  | finish now => exact .inl ⟨.finish now, rfl⟩
  | add _ | addAll _ _ | remove _ | load _ | define _ | defineText _ | undefine _ | supply _ _
  | withdraw _ => exact .inr fun _ => rfl

/-! ### One query in a delivery -/

/-- What a query makes of a record, and what comes of it; a query that is not active takes no
part. -/
def participate (h : Host) (record : Option Record)
    (part : StandingQuery → StandingQuery × Result (List Record)) (q : StandingQuery) :
    StandingQuery × Delivery :=
  if q.valid then h.settle record (part q) else (q, .empty)

theorem deliver_eq (h : Host) (record : Option Record)
    (part : StandingQuery → StandingQuery × Result (List Record)) :
    h.deliver record part
      = ({ h with queries := h.queries.map fun q => (h.participate record part q).1 },
        ⟨h.queries.flatMap fun q => (h.participate record part q).2.outputs,
          h.queries.flatMap fun q => (h.participate record part q).2.failures⟩) := by
  simp only [deliver, participate, Delivery.concat, List.map_map, List.flatMap_map]
  rfl

@[simp] theorem id_recover (recovery : Recovery) (q : StandingQuery) (message : String) :
    (recover recovery q message).id = q.id := by
  cases recovery <;> simp [recover]

theorem id_settle (h : Host) (record : Option Record)
    (made : StandingQuery × Result (List Record)) : (h.settle record made).1.id = made.1.id := by
  obtain ⟨q, result⟩ := made
  cases result <;> simp [settle]

/-- A query keeps its number, whatever comes of a record. -/
theorem id_of_participate {record : Option Record}
    {part : StandingQuery → StandingQuery × Result (List Record)}
    (hp : ∀ q, (part q).1.id = q.id) (q : StandingQuery) :
    (h.participate record part q).1.id = q.id := by
  unfold participate
  split
  · rw [id_settle, hp]
  · rfl

/-! ### Elementary changes -/

/-- **A new query stands behind the others**, among those that were built or among those that were
not. -/
theorem add_cases (h : Host) (d : QueryDefinition) :
    (StandingQuery.start h.nextId d).valid = true ∧
        (h.add d).1.queries = h.queries ++ [.start h.nextId d] ∧ (h.add d).1.failed = h.failed ∨
      (StandingQuery.start h.nextId d).valid = false ∧
        (h.add d).1.queries = h.queries ∧ (h.add d).1.failed = h.failed ++ [.start h.nextId d] := by
  simp only [Host.add]
  by_cases hv : (StandingQuery.start h.nextId d).valid = true
  · rw [if_pos hv]
    exact .inl ⟨hv, rfl, rfl⟩
  · rw [if_neg hv]
    exact .inr ⟨Bool.not_eq_true _ ▸ hv, rfl, rfl⟩

/-- A query of the host after a new one came: the new one stands among the queries only if it was
built. -/
theorem mem_queries_add {d : QueryDefinition} {q : StandingQuery}
    (hq : q ∈ (h.add d).1.queries) :
    q ∈ h.queries ∨ q.valid = true ∧ q = .start h.nextId d := by
  rcases add_cases h d with ⟨hv, hqueries, -⟩ | ⟨-, hqueries, -⟩
  · rw [hqueries] at hq
    rcases List.mem_append.1 hq with hold | hnew
    · exact .inl hold
    · rw [List.mem_singleton.1 hnew]
      exact .inr ⟨hv, rfl⟩
  · exact .inl (hqueries ▸ hq)

/-- ... and the same of those that were not built. -/
theorem mem_failed_add {d : QueryDefinition} {q : StandingQuery} (hq : q ∈ (h.add d).1.failed) :
    q ∈ h.failed ∨ q.valid = false ∧ q = .start h.nextId d := by
  rcases add_cases h d with ⟨-, -, hfailed⟩ | ⟨hv, -, hfailed⟩
  · exact .inl (hfailed ▸ hq)
  · rw [hfailed] at hq
    rcases List.mem_append.1 hq with hold | hnew
    · exact .inl hold
    · rw [List.mem_singleton.1 hnew]
      exact .inr ⟨hv, rfl⟩

/-- A new query that is built is one of the queries. -/
theorem mem_add {d : QueryDefinition}
    (hv : (StandingQuery.start h.nextId d).valid = true) :
    StandingQuery.start h.nextId d ∈ (h.add d).1.queries := by
  rcases add_cases h d with ⟨-, hq, -⟩ | ⟨hinvalid, -, -⟩
  · rw [hq]
    exact List.mem_append_right _ (List.mem_singleton.2 rfl)
  · cases hv.symm.trans hinvalid

/-- A new query takes the next number, and nothing else about the host changes. -/
theorem add_frame (h : Host) (d : QueryDefinition) :
    (h.add d).1.nextId = h.nextId + 1 ∧ (h.add d).1.recovery = h.recovery ∧
      (h.add d).1.tellsFailures = h.tellsFailures ∧ (h.add d).1.registry = h.registry := by
  simp only [Host.add]
  by_cases hv : (StandingQuery.start h.nextId d).valid = true
  · rw [if_pos hv]
    exact ⟨rfl, rfl, rfl, rfl⟩
  · rw [if_neg hv]
    exact ⟨rfl, rfl, rfl, rfl⟩

theorem addEach_cons (h : Host) (d : QueryDefinition) (rest : List QueryDefinition) :
    (h.addEach (d :: rest)).1 = ((h.add d).1.addEach rest).1 := by
  rw [addEach]

/-- Loading queries is adding them. -/
theorem loadQueries_eq_addEach (h : Host) (sources : List QuerySource) :
    (h.loadQueries sources).1 = (h.addEach (sources.map QueryDefinition.ofSource)).1 := by
  induction sources generalizing h with
  | nil => rfl
  | cons source rest ih => rw [loadQueries, List.map_cons, addEach_cons, ih]

section Changes

variable {P : Host → Prop}

theorem addEach_preserves (hadd : ∀ h d, P h → P (Host.add h d).1) (hp : P h)
    (ds : List QueryDefinition) : P (h.addEach ds).1 := by
  induction ds generalizing h with
  | nil => exact hp
  | cons d rest ih =>
      rw [addEach_cons]
      exact ih (hadd h d hp)

/-- **An event is made of a few elementary changes**: a call is delivered, a query is added or
dropped, all queries make room, or the functions are others. -/
theorem step_preserves (hadd : ∀ h d, P h → P (Host.add h d).1)
    (hfeed : ∀ h call, P h → P (Host.deliver h (Feed.record? call) (call.part h.registry)).1)
    (hclear : ∀ h, P h → P { h with queries := [], failed := [] })
    (hremove : ∀ h id, P h → P (Host.remove h id).1)
    (hregistry : ∀ h g, P h → P { h with registry := g }) (hp : P h) (e : HostEvent) :
    P (h.step e).1 := by
  cases e with
  | record now r => exact hfeed h (.record now r) hp
  | finish now => exact hfeed h (.finish now) hp
  | add d => exact hadd h d hp
  | addAll ds replace =>
      cases replace with
      | false => exact addEach_preserves hadd hp ds
      | true => exact addEach_preserves hadd (hclear h hp) ds
  | remove id => exact hremove h id hp
  | load l =>
      change P (loadQueries _ l.queries).1
      rw [loadQueries_eq_addEach]
      exact addEach_preserves hadd (hregistry h _ hp) _
  | defineText text =>
      simp only [Host.step, Host.defineText]
      split
      · exact hregistry h _ hp
      · exact hp
  | define _ | undefine _ | supply _ _ | withdraw _ => exact hregistry h _ hp

/-- What every event keeps is kept by every run. -/
theorem run_preserves (hstep : ∀ h e, P h → P (Host.step h e).1) (hp : P h)
    (events : List HostEvent) : P (h.run events).1 := by
  induction events generalizing h with
  | nil => exact hp
  | cons e rest ih => exact ih (hstep h e hp)

end Changes

/-! ### Numbers stay apart -/

/-- **No two queries have one number, and the next number is above all of them.** -/
structure Numbered (h : Host) : Prop where
  /-- Numbers are different. -/
  nodup : ((h.queries ++ h.failed).map StandingQuery.id).Nodup
  /-- Numbers have been given before. -/
  lt_next : ∀ q ∈ h.queries ++ h.failed, q.id < h.nextId

theorem numbered_empty (recovery : Recovery) (tells : Bool) (g : Registry) :
    (Host.empty recovery tells g).Numbered :=
  ⟨List.nodup_nil, by simp [Host.empty]⟩

/-- Numbers alone decide whether a host is numbered. -/
theorem Numbered.congr {h' : Host} (hn : h.Numbered)
    (hq : h'.queries.map StandingQuery.id = h.queries.map StandingQuery.id)
    (hf : h'.failed.map StandingQuery.id = h.failed.map StandingQuery.id)
    (hi : h'.nextId = h.nextId) : h'.Numbered := by
  have hall : (h'.queries ++ h'.failed).map StandingQuery.id
      = (h.queries ++ h.failed).map StandingQuery.id := by
    rw [List.map_append, List.map_append, hq, hf]
  refine ⟨hall ▸ hn.nodup, fun q hmem => ?_⟩
  have hid : q.id ∈ (h.queries ++ h.failed).map StandingQuery.id :=
    hall ▸ List.mem_map_of_mem hmem
  obtain ⟨q', hq', he⟩ := List.mem_map.1 hid
  rw [hi, ← he]
  exact hn.lt_next q' hq'

theorem Numbered.deliver (hn : h.Numbered) {record : Option Record}
    {part : StandingQuery → StandingQuery × Result (List Record)}
    (hp : ∀ q, (part q).1.id = q.id) : (h.deliver record part).1.Numbered := by
  refine hn.congr ?_ ?_ ?_
  · rw [deliver_eq]
    simp only [List.map_map]
    exact List.map_congr_left fun q _ => id_of_participate hp q
  · rw [deliver_eq]
  · rw [deliver_eq]

/-- A host with one query more, which bears the next number. -/
theorem Numbered.grow {h' : Host} (hn : h.Numbered) {q : StandingQuery} (hid : q.id = h.nextId)
    (hperm : (h'.queries ++ h'.failed).Perm (q :: (h.queries ++ h.failed)))
    (hnext : h'.nextId = h.nextId + 1) : h'.Numbered := by
  constructor
  · refine (hperm.map StandingQuery.id).nodup_iff.2 ?_
    rw [List.map_cons, List.nodup_cons]
    refine ⟨fun hmem => ?_, hn.nodup⟩
    obtain ⟨q', hq', he⟩ := List.mem_map.1 hmem
    have := hn.lt_next q' hq'
    omega
  · intro q' hmem
    rw [hnext]
    rcases List.mem_cons.1 (hperm.mem_iff.1 hmem) with rfl | hold
    · omega
    · exact Nat.lt_succ_of_lt (hn.lt_next q' hold)

theorem Numbered.add (hn : h.Numbered) (d : QueryDefinition) : (h.add d).1.Numbered := by
  refine hn.grow (StandingQuery.id_start h.nextId d) ?_ (add_frame h d).1
  rcases add_cases h d with ⟨-, hq, hf⟩ | ⟨-, hq, hf⟩
  · rw [hq, hf, List.append_assoc, List.singleton_append]
    exact List.perm_middle
  · rw [hq, hf, ← List.append_assoc]
    exact List.perm_append_singleton ..

/-- The host without queries, which keeps everything else. -/
theorem numbered_cleared (h : Host) : ({ h with queries := [], failed := [] } : Host).Numbered :=
  ⟨List.nodup_nil, fun _ hq => absurd hq List.not_mem_nil⟩

theorem Numbered.remove (hn : h.Numbered) (id : Nat) :
    (h.remove id).1.Numbered := by
  have hsub : ((h.remove id).1.queries ++ (h.remove id).1.failed).Sublist
      (h.queries ++ h.failed) := List.filter_sublist.append List.filter_sublist
  exact ⟨hn.nodup.sublist (hsub.map _), fun q hq => hn.lt_next q (hsub.subset hq)⟩

/-- **One event keeps numbers apart.** -/
theorem Numbered.step (hn : h.Numbered) (e : HostEvent) : (h.step e).1.Numbered :=
  step_preserves (fun _ d hn => hn.add d) (fun _ call hn => hn.deliver (Feed.id_part _ call))
    (fun h _ => numbered_cleared h) (fun _ id hn => hn.remove id)
    (fun _ _ hn => hn.congr rfl rfl rfl) hn e

/-- **Numbers stay apart in every run.** -/
theorem numbered_run (hn : h.Numbered) (events : List HostEvent) : (h.run events).1.Numbered :=
  run_preserves (fun _ e hn => hn.step e) hn events

/-- Numbers are never given twice: the next one only grows. -/
theorem nextId_le_step (h : Host) (e : HostEvent) : h.nextId ≤ (h.step e).1.nextId := by
  refine step_preserves (P := fun h' => h.nextId ≤ h'.nextId) (fun h' d hle => ?_)
    (fun _ _ hle => hle) (fun _ hle => hle) (fun _ _ hle => hle) (fun _ _ hle => hle)
    (Nat.le_refl _) e
  rw [(add_frame h' d).1]
  exact Nat.le_succ_of_le hle

/-- How failures are dealt with never changes. -/
theorem settings_step (h : Host) (e : HostEvent) :
    (h.step e).1.recovery = h.recovery ∧ (h.step e).1.tellsFailures = h.tellsFailures := by
  refine step_preserves
    (P := fun h' => h'.recovery = h.recovery ∧ h'.tellsFailures = h.tellsFailures)
    (fun h' d hsame => ?_) (fun _ _ hsame => hsame) (fun _ hsame => hsame)
    (fun _ _ hsame => hsame) (fun _ _ hsame => hsame) ⟨rfl, rfl⟩ e
  obtain ⟨-, hrecovery, htells, -⟩ := add_frame h' d
  exact ⟨hrecovery.trans hsame.1, htells.trans hsame.2⟩

theorem settings_run (h : Host) (events : List HostEvent) :
    (h.run events).1.recovery = h.recovery ∧ (h.run events).1.tellsFailures = h.tellsFailures := by
  refine run_preserves
    (P := fun h' => h'.recovery = h.recovery ∧ h'.tellsFailures = h.tellsFailures)
    (fun h' e hsame => ?_) ⟨rfl, rfl⟩ events
  obtain ⟨hrecovery, htells⟩ := settings_step h' e
  exact ⟨hrecovery.trans hsame.1, htells.trans hsame.2⟩

end Host

end EventQuery
