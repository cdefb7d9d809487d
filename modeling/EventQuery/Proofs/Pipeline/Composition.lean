/-
**Pipelines compose.**

Stages written one behind the other do what the first ones do, followed by what the others do: a run
of all of them is a run of the last ones over the output of a run of the first ones.  Inside the
long pipeline things happen in another order — a window that closes early is seen at once by the
stages behind it, and what the first stages hold back at the end passes through stages that are
still open — but the records that reach each stage, and their order, are the same.

Main results:

* `Pipeline.ofQuery_stages_append` — stages compile one by one;
* `Pipeline.run_stages_append` — **the law of composition**;
* `Pipeline.run_take` — `take` lets the first records through.
-/

import EventQuery.Proofs.Pipeline.Run

set_option relaxedAutoImplicit false
set_option autoImplicit false

namespace EventQuery

namespace Pipeline

variable {env : Environment}

/-! ### Compilation -/

/-- Stages compile one by one. -/
theorem ofQuery_stages_append {q₁ q₂ : Query} {p₁ p₂ : Pipeline} (h₁ : ofQuery q₁ = .ok p₁)
    (h₂ : ofQuery q₂ = .ok p₂) (source : Option String) :
    ofQuery ⟨source, q₁.stages ++ q₂.stages⟩ = .ok ⟨p₁.stages ++ p₂.stages⟩ := by
  obtain ⟨ps, hps, rfl⟩ := Except.map_eq_ok_iff.1 h₁
  obtain ⟨qs, hqs, rfl⟩ := Except.map_eq_ok_iff.1 h₂
  rw [ofQuery, List.mapM_append, hps, hqs]
  rfl

/-! ### Composition -/

/-- A run through two groups of stages is a run through the first group and then one through the
second. -/
theorem run_append_eq_ok_iff {ps qs : List Processor} {rs out : List Record} :
    run env ⟨ps ++ qs⟩ rs = .ok out ↔
      ∃ mid, run env ⟨ps⟩ rs = .ok mid ∧ run env ⟨qs⟩ mid = .ok out := by
  simp only [run_eq_ok_iff]
  constructor
  · rintro ⟨_, first, es, rest, hpush, hends, rfl⟩
    obtain ⟨ps', mid, qs', hp, hq, rfl⟩ := pushes_stages_append.1 hpush
    obtain ⟨ps'', held, ms, qs'', o, o', he, hm, hq', -, rfl⟩ := ends_append.1 hends
    -- the second group takes in what the first one lets out at once and what it held back
    have hall : Pushes env qs (mid ++ held) ms (first ++ o) :=
      pushes_append.2 ⟨qs', first, o, hq, hm, rfl⟩
    exact ⟨mid ++ held, ⟨ps', mid, ps'', held, hp, he, rfl⟩, ms, first ++ o, qs'', o', hall, hq',
      by rw [List.append_assoc]⟩
  · rintro ⟨_, ⟨ps', mid, ps'', held, hp, he, rfl⟩, ms, _, qs'', o', hall, hq', rfl⟩
    obtain ⟨qs', first, o, hq, hm, rfl⟩ := pushes_append.1 hall
    exact ⟨ps' ++ qs', first, ps'' ++ qs'', o ++ o',
      pushes_stages_append.2 ⟨ps', mid, qs', hp, hq, rfl⟩,
      ends_append.2 ⟨ps'', held, ms, qs'', o, o', he, hm, hq', rfl, rfl⟩,
      by rw [List.append_assoc]⟩

/-! ### The first records -/

/-- A stage that has let some records through lets as many through as are missing. -/
theorem passes_take {limit passed : Nat} (h : passed ≤ limit) (rs : List Record) :
    ∃ now, (Processor.take limit passed).Passes env rs (.take limit now)
      (rs.take (limit - passed)) := by
  induction rs generalizing passed with
  | nil => exact ⟨passed, by simp⟩
  | cons r rs ih =>
      rcases Nat.lt_or_ge passed limit with hlt | hge
      · have hle : passed + 1 ≤ limit := hlt
        obtain ⟨now, hnow⟩ := ih hle
        have hstep : (Processor.take limit passed).next env r
            = (.take limit (passed + 1), .ok [r]) := by rw [Processor.next, if_pos hlt]
        have hleft : limit - passed = limit - (passed + 1) + 1 := by omega
        refine ⟨now, Processor.passes_cons.2 ⟨_, [r], _, hstep, hnow, ?_⟩⟩
        rw [hleft, List.take_succ_cons, List.singleton_append]
      · obtain rfl : passed = limit := by omega
        obtain ⟨now, hnow⟩ := ih h
        have hstep : (Processor.take passed passed).next env r
            = (.take passed passed, .ok []) := by
          rw [Processor.next, if_neg (Nat.lt_irrefl _)]
        refine ⟨now, Processor.passes_cons.2 ⟨_, [], _, hstep, hnow, ?_⟩⟩
        rw [Nat.sub_self, List.take_zero, List.take_zero, List.nil_append]

/-- **`take` lets the first records through.** -/
theorem run_take (n : Nat) (rs : List Record) :
    run env ⟨[.take n 0]⟩ rs = .ok (rs.take n) := by
  obtain ⟨now, hnow⟩ : ∃ now, (Processor.take n 0).Passes env rs (.take n now) (rs.take n) :=
    passes_take (Nat.zero_le n) rs
  refine run_eq_ok_iff.2 ⟨[.take n now], rs.take n, [.take n now], [], ?_, ?_, by simp⟩
  · exact pushes_cons.2 ⟨_, _, [], hnow, by simp, rfl⟩
  · exact ends_cons.2 ⟨[], [], [], [], by simp [Processor.complete], by simp, rfl, rfl⟩

/-- **The law of composition.**  Two lists of stages that compile also compile one behind the other,
and a run of the whole that meets no error is a run of the second list over the output of a run of
the first one; in particular a `take` between them lets the first records through. -/
theorem run_stages_append (env : Environment) (source : Option String) (q₁ q₂ : Query)
    {p₁ p₂ : Pipeline} (h₁ : ofQuery q₁ = .ok p₁) (h₂ : ofQuery q₂ = .ok p₂) :
    ∃ p, ofQuery ⟨source, q₁.stages ++ q₂.stages⟩ = .ok p ∧
      (∀ rs out, p.run env rs = .ok out ↔
        ∃ mid, p₁.run env rs = .ok mid ∧ p₂.run env mid = .ok out) ∧
      ∀ n, ∃ t, ofQuery ⟨source, q₁.stages ++ .take n :: q₂.stages⟩ = .ok t ∧
        ∀ rs out, t.run env rs = .ok out ↔
          ∃ mid, p₁.run env rs = .ok mid ∧ p₂.run env (mid.take n) = .ok out := by
  refine ⟨⟨p₁.stages ++ p₂.stages⟩, ofQuery_stages_append h₁ h₂ source,
    fun rs out => run_append_eq_ok_iff, fun n => ?_⟩
  have ht : ofQuery ⟨source, [.take n]⟩ = .ok ⟨[.take n 0]⟩ := rfl
  have h₃ := ofQuery_stages_append ht h₂ source
  refine ⟨_, ofQuery_stages_append h₁ h₃ source, fun rs out => ?_⟩
  rw [run_append_eq_ok_iff]
  constructor
  · rintro ⟨mid, hm, ho⟩
    obtain ⟨first, hf, ho⟩ := run_append_eq_ok_iff.1 ho
    rw [run_take, Except.ok.injEq] at hf
    exact ⟨mid, hm, hf ▸ ho⟩
  · rintro ⟨mid, hm, ho⟩
    exact ⟨mid, hm, run_append_eq_ok_iff.2 ⟨mid.take n, run_take n mid, ho⟩⟩

/-- Groups are counted by a summary behind another one: what the first one holds back reaches the
second one before that one ends. -/
theorem run_chained_summaries :
    ∃ p, ofQuery ⟨none, [.summarize ⟨[⟨"n", "count", []⟩], [⟨"k", .property "k"⟩], none⟩]
        ++ [.summarize ⟨[⟨"groups", "count", []⟩], [], none⟩]⟩ = .ok p ∧
      p.run default [[("k", .string "a")], [("k", .string "b")], [("k", .string "a")]]
        = .ok [[("groups", .long 2)]] := by
  obtain ⟨p, hp, hrun, -⟩ := run_stages_append default none
    ⟨none, [.summarize ⟨[⟨"n", "count", []⟩], [⟨"k", .property "k"⟩], none⟩]⟩
    ⟨none, [.summarize ⟨[⟨"groups", "count", []⟩], [], none⟩]⟩ rfl rfl
  refine ⟨p, hp, (hrun _ _).2
    ⟨[[("k", .string "a"), ("n", .long 2)], [("k", .string "b"), ("n", .long 1)]], ?_, ?_⟩⟩
  · exact run_eq_ok_iff.2
      ⟨_, _, _, _, rfl, ends_cons.2 ⟨_, _, _, _, rfl, ends_nil.2 ⟨rfl, rfl⟩, rfl, rfl⟩, rfl⟩
  · exact run_eq_ok_iff.2
      ⟨_, _, _, _, rfl, ends_cons.2 ⟨_, _, _, _, rfl, ends_nil.2 ⟨rfl, rfl⟩, rfl, rfl⟩, rfl⟩

end Pipeline

end EventQuery
