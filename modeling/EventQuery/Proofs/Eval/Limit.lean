/-
**The limit of calls inside one another.**

A call at the limit fails, and so does every evaluation that needs it: no construct of the language
turns that failure into a value or into another failure.  So what an evaluation gives, unless it is
the failure of the limit, does not depend on how many calls it is inside, nor on what calls behind
the limit would give.

Main definitions:

* `Expr.evalBehind` — evaluation that goes on behind the limit in a given way;
* `Result.UnlessStopped` — a result is another one unless the limit stopped it.

Main results:

* `Expr.evalAt_unlessStopped` — **the limit changes nothing but where it stops**;
* `Expr.evalInside_of_le` — fewer calls around an evaluation leave its result as it is.
-/

import EventQuery.Proofs.Eval.Needs

set_option relaxedAutoImplicit false
set_option autoImplicit false

namespace EventQuery

/-! ### Results that the limit may have stopped -/

/-- **A result is another one unless the limit of calls stopped it.** -/
def Result.UnlessStopped {α : Type} (x y : Result α) : Prop :=
  x = y ∨ ∃ name, x = .error (Expr.callLimit name)

namespace Result

variable {α : Type} {x y : Result α}

/-- A failure of the limit is passed on by every step behind it. -/
theorem lifting_unlessStopped : Lifting UnlessStopped where
  refl _ := .inl rfl
  bind := by
    rintro α β x y f g (rfl | ⟨name, rfl⟩) hfg
    · cases x with
      | error e => exact .inl rfl
      | ok a => exact hfg a
    · exact .inr ⟨name, rfl⟩

/-- Values are not failures of the limit. -/
theorem UnlessStopped.eq_ok (h : UnlessStopped x y) {a : α} (hx : x = .ok a) : y = .ok a := by
  rcases h with rfl | ⟨name, hname⟩
  · exact hx
  · rw [hx] at hname
    cases hname

/-- Other failures are the same without the limit. -/
theorem UnlessStopped.eq_error (h : UnlessStopped x y) {e : EvalError} (hx : x = .error e)
    (he : ∀ name, e ≠ Expr.callLimit name) : y = .error e := by
  rcases h with rfl | ⟨name, hname⟩
  · exact hx
  · exact absurd (Except.error.inj (hx.symm.trans hname)) (he name)

end Result

namespace Expr

/-! ### Behind the limit -/

/-- **Evaluation with a number of levels of calls**, which goes on behind the last level in a given
way. -/
def evalBehind (env : Environment) (behind : Enter) : Nat → Record → Expr → Result Value
  | 0 => evalWith env behind
  | levels + 1 => evalWith env (some (evalBehind env behind levels))

section Behind

variable {env : Environment}

/-- More levels are levels behind the limit. -/
theorem evalBehind_evalAt (env : Environment) (more levels : Nat) :
    evalBehind env (some (evalAt env more)) levels = evalAt env (more + 1 + levels) := by
  induction levels with
  | zero => rfl
  | succ levels ih => rw [evalBehind, ih, ← Nat.add_assoc, evalAt]

/-- **The limit changes nothing but where it stops**, whatever there is behind it. -/
theorem evalAt_unlessStopped (env : Environment) (behind : Enter) (levels : Nat) (r : Record)
    (e : Expr) :
    Result.UnlessStopped (evalAt env levels r e) (evalBehind env behind levels r e) := by
  induction levels generalizing r e with
  | zero =>
      have hentering : Entering Result.UnlessStopped none behind := by
        cases behind with
        | none => exact .closed
        | some body => exact .limited fun name x => .inr ⟨name, rfl⟩
      exact evalWith_related ⟨Result.lifting_unlessStopped, rfl, fun _ _ => rfl, hentering⟩
        (.refl r e)
  | succ levels ih =>
      exact evalWith_related ⟨Result.lifting_unlessStopped, rfl, fun _ _ => rfl, .opened ih⟩
        (.refl r e)

/-- Fewer calls around an evaluation leave its result as it is, unless the limit stopped it. -/
theorem evalInside_unlessStopped (env : Environment) {depth less : Nat} (h : less ≤ depth)
    (r : Record) (e : Expr) :
    Result.UnlessStopped (evalInside env depth r e) (evalInside env less r e) := by
  unfold evalInside
  obtain ⟨more, hmore⟩ := Nat.exists_eq_add_of_le (Nat.sub_le_sub_left h maxCalls)
  rw [hmore]
  cases more with
  | zero => exact .inl rfl
  | succ more =>
      rw [Nat.add_comm, ← evalBehind_evalAt]
      exact evalAt_unlessStopped env _ _ r e

/-- **The limit of calls never changes a value.**  A value, and a failure other than that of the
limit, is the same inside fewer calls.  A value does not even depend on what the calls behind the
limit would give.  No construct turns the failure of the limit into a value: where it comes up in
anything that an evaluation needs, the evaluation fails with it. -/
theorem evalInside_of_le (env : Environment) {depth less : Nat} (h : less ≤ depth) (r : Record)
    (e : Expr) :
    (∀ v, evalInside env depth r e = .ok v → evalInside env less r e = .ok v) ∧
    (∀ err, evalInside env depth r e = .error err → (∀ name, err ≠ callLimit name) →
      evalInside env less r e = .error err) ∧
    (∀ v, evalInside env depth r e = .ok v →
      ∀ behind, evalBehind env behind (maxCalls - depth) r e = .ok v) ∧
    ∀ needed : Task, Relation.ReflTransGen (Task.Needs env) ⟨depth, r, e⟩ needed →
      ∀ name, needed.result env = .error (callLimit name) →
        evalInside env depth r e = .error (callLimit name) := by
  have hless := evalInside_unlessStopped env h r e
  refine ⟨fun v hv => hless.eq_ok hv, fun err herr hlimit => hless.eq_error herr hlimit,
    fun v hv behind => ?_, fun needed hneeded name hname => ?_⟩
  · exact (evalAt_unlessStopped env behind (maxCalls - depth) r e).eq_ok hv
  · exact Task.fails_of_needs hneeded hname

/-- A function that calls itself for an argument and inside a test of a list.  Two levels are enough
for it here, and one is not. -/
theorem evalInside_of_le_of_descent :
    let pick : UserFunction := ⟨"Pick", [⟨"x", "string"⟩],
      .call "iif" [.among false false (.property "x") [.const (.string "a"), .const (.string "b")],
        .property "x", .call "Pick" [.call "Pick" [.const (.string "b")]]], ""⟩
    let env : Environment := ⟨⟨[("Pick", pick)], []⟩, default⟩
    let e : Expr := .call "Pick" [.const (.string "c")]
    0 ≤ 62 ∧ evalInside env 62 [] e = .ok (.string "b") ∧
      evalInside env 0 [] e = .ok (.string "b") ∧
      (∀ behind, evalBehind env behind 2 [] e = .ok (.string "b")) ∧
      evalInside env 63 [] e = .error (callLimit "Pick") := by
  intro pick env e
  have hvalue : evalInside env 62 [] e = .ok (.string "b") := rfl
  obtain ⟨hless, -, hbehind, -⟩ := evalInside_of_le env (Nat.zero_le 62) [] e
  have hbody : Task.Needs env ⟨63, [], e⟩ ⟨64, [("x", .string "c")], pick.body⟩ := by
    have hname : "Pick" ∉ specialForms := by decide
    have hpick : env.registry.definition? "Pick" = some pick := rfl
    have hvalues : valuesInside env 63 [] [.const (.string "c")] = .ok [.string "c"] := rfl
    exact .body hname hpick rfl (by decide) hvalues
  have hagain : Task.Needs env ⟨64, [("x", .string "c")], pick.body⟩
      ⟨64, [("x", .string "c")], .call "Pick" [.call "Pick" [.const (.string "b")]]⟩ :=
    .part (.chosen (.inl rfl) (b := false) rfl)
  have hlimit := (evalInside_of_le env (Nat.zero_le 63) [] e).2.2.2 _
    (.tail (.single hbody) hagain) "Pick" rfl
  exact ⟨Nat.zero_le 62, hvalue, hless _ hvalue, hbehind _ hvalue, hlimit⟩

end Behind

end Expr

end EventQuery
