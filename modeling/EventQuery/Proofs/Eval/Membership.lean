/-
**Membership in a list of candidates.**

To ask whether a value is among candidates is to test its equality with one after the other, and to
stop at the first that is equal.  The tests written out, with "or" between them, stop there as well.
They differ in what they do with two values that cannot be compared: the tests fail, and membership
goes on.  So membership has the value of the tests wherever they have one, and it fails only where a
candidate that it gets to has no value.

Main definitions:

* `Expr.TestsOf` — an expression is the equality tests of some candidates, with "or" between them;
* `Value.alone` — a value as a candidate that counts as this value.

Main results:

* `Expr.TestsOf.evalAmong_eq` — **membership has the value of its tests**;
* `Expr.evalAmong_eq_error_iff` — how membership fails;
* `Expr.among_eq_tests` — both for expressions, and the lists among the candidates.
-/

import EventQuery.Proofs.Eval.Needs
import EventQuery.Proofs.Except

set_option relaxedAutoImplicit false
set_option autoImplicit false

namespace EventQuery

/-! ### One candidate -/

namespace Value

/-- **A value as a candidate that counts as this value**: a list is the one item of another. -/
def alone : Value → Value
  | .list items => .list [.list items]
  | v => v

variable {v w : Value} {ignoreCase b : Bool}

/-- A list as a candidate counts as its items. -/
theorem belongs_list (v : Value) (items : List Value) (ignoreCase : Bool) :
    v.belongs (.list items) ignoreCase = items.any fun w => v.belongs w.alone ignoreCase := by
  refine congrArg items.any (funext fun w => ?_)
  cases w <;> simp [alone, belongs]

/-- Any other candidate holds what is equal to it. -/
theorem belongs_of_equals (hw : ∀ items, w ≠ .list items) (h : v.equals w ignoreCase = .ok b) :
    v.belongs w ignoreCase = b := by
  cases w with
  | list items => exact absurd rfl (hw items)
  | null | bool | int | long | real | decimal | string | datetime | timespan | guid | record =>
      simp [belongs, h]

end Value

namespace Expr

section Candidates

variable (env : Environment) (enter : Enter) (r : Record) (v : Value) (ignoreCase : Bool)

/-! ### Candidates one after the other -/

/-- Candidates behind others count where none of those holds the value. -/
theorem evalAmong_append (cs ds : List Expr) :
    evalAmong env enter r v ignoreCase (cs ++ ds) = (do
      if ← evalAmong env enter r v ignoreCase cs then return true
      else evalAmong env enter r v ignoreCase ds) := by
  induction cs with
  | nil =>
      rw [List.nil_append, evalAmong]
      rfl
  | cons c cs ih =>
      rw [List.cons_append, evalAmong, evalAmong, bind_assoc]
      refine bind_congr fun w => ?_
      cases v.belongs w ignoreCase with
      | true => rfl
      | false => exact ih

/-- Candidates whose values are known. -/
theorem evalAmong_map_const (vs : List Value) :
    evalAmong env enter r v ignoreCase (vs.map .const)
      = .ok (vs.any fun w => v.belongs w ignoreCase) := by
  induction vs with
  | nil => rw [List.map_nil, evalAmong, List.any_nil]
  | cons w vs ih =>
      rw [List.map_cons, evalAmong, evalWith, ih, List.any_cons]
      cases hw : v.belongs w ignoreCase <;> simp [hw, bind, Except.bind, pure, Except.pure]

variable {env enter r v ignoreCase}

/-- A candidate is the items of the list that it evaluates to. -/
theorem evalAmong_of_list {c : Expr} {items : List Value}
    (h : evalWith env enter r c = .ok (.list items)) (before after : List Expr) :
    evalAmong env enter r v ignoreCase (before ++ c :: after)
      = evalAmong env enter r v ignoreCase
          (before ++ items.map (fun w => .const w.alone) ++ after) := by
  have hc : evalAmong env enter r v ignoreCase [c]
      = evalAmong env enter r v ignoreCase ((items.map Value.alone).map .const) := by
    rw [evalAmong_map_const, evalAmong, evalAmong, h, List.any_map]
    change (if v.belongs (.list items) ignoreCase = true then Except.ok true else .ok false) = _
    rw [v.belongs_list, Function.comp_def]
    cases items.any fun w => v.belongs w.alone ignoreCase <;> rfl
  rw [List.map_map] at hc
  rw [List.append_cons, evalAmong_append, evalAmong_append _ _ _ _ _ before [c], hc,
    evalAmong_append _ _ _ _ _ (before ++ _), evalAmong_append _ _ _ _ _ before]
  rfl

/-- **Membership fails with the first candidate that fails**, and only when no candidate before it
holds the value. -/
theorem evalAmong_eq_error_iff {cs : List Expr} {err : EvalError} :
    evalAmong env enter r v ignoreCase cs = .error err ↔
      ∃ before c after, cs = before ++ c :: after ∧
        (∀ b ∈ before, ∃ w, evalWith env enter r b = .ok w ∧ v.belongs w ignoreCase = false) ∧
        evalWith env enter r c = .error err := by
  constructor
  · induction cs with
    | nil =>
        intro h
        rw [evalAmong] at h
        cases h
    | cons c cs ih =>
        intro h
        rw [evalAmong] at h
        cases hc : evalWith env enter r c with
        | error err' =>
            rw [hc] at h
            cases h
            exact ⟨[], c, cs, rfl, fun b hb => absurd hb List.not_mem_nil, hc⟩
        | ok w =>
            rw [hc] at h
            change (if v.belongs w ignoreCase = true then _ else _) = _ at h
            cases hw : v.belongs w ignoreCase with
            | true =>
                rw [hw] at h
                cases h
            | false =>
                rw [hw] at h
                obtain ⟨before, c', after, rfl, hbefore, hc'⟩ := ih h
                exact ⟨c :: before, c', after, rfl,
                  List.forall_mem_cons.2 ⟨⟨w, hc, hw⟩, hbefore⟩, hc'⟩
  · rintro ⟨before, c, after, rfl, hbefore, hc⟩
    exact evalAmong_of_error hbefore hc

end Candidates

/-! ### Tests -/

/-- **The tests whether an expression equals one of some candidates**, with "or" between them in any
bracketing. -/
inductive TestsOf (ignoreCase : Bool) (e : Expr) : Expr → List Expr → Prop
  | test (c : Expr) : TestsOf ignoreCase e (.binary (.equality false ignoreCase) e c) [c]
  | either {left right : Expr} {cs ds : List Expr} (hleft : TestsOf ignoreCase e left cs)
      (hright : TestsOf ignoreCase e right ds) :
      TestsOf ignoreCase e (.binary (.logic .either) left right) (cs ++ ds)

namespace TestsOf

variable {env : Environment} {enter : Enter} {r : Record} {ignoreCase : Bool} {e tests : Expr}
  {cs : List Expr}

/-- One test compares the two values. -/
theorem evalWith_equality {c : Expr} {u : Value}
    (h : evalWith env enter r (.binary (.equality false ignoreCase) e c) = .ok u) :
    ∃ v w b, evalWith env enter r e = .ok v ∧ evalWith env enter r c = .ok w ∧
      v.equals w ignoreCase = .ok b ∧ u = .bool b := by
  rw [evalWith_operate _ _ _ fun c hc => by cases hc] at h
  obtain ⟨v, hv, h⟩ := Except.bind_eq_ok_iff.1 h
  obtain ⟨w, hw, h⟩ := Except.bind_eq_ok_iff.1 h
  rw [Value.operate] at h
  cases hb : v.equals w ignoreCase with
  | error err =>
      rw [hb] at h
      cases h
  | ok b =>
      rw [hb] at h
      cases h
      exact ⟨v, w, b, hv, hw, hb, congrArg Value.bool (Bool.bne_false b)⟩

/-- "Or" is decided by its first side or has the truth value of the second. -/
theorem evalWith_either {left right : Expr} {u : Value}
    (h : evalWith env enter r (.binary (.logic .either) left right) = .ok u) :
    ∃ v b, evalWith env enter r left = .ok v ∧ v.truth = .ok b ∧
      (b = true ∧ u = .bool true ∨ b = false ∧
        ∃ w c, evalWith env enter r right = .ok w ∧ w.truth = .ok c ∧ u = .bool c) := by
  rw [evalWith_logic] at h
  obtain ⟨v, hv, h⟩ := Except.bind_eq_ok_iff.1 h
  obtain ⟨b, hb, h⟩ := Except.bind_eq_ok_iff.1 h
  refine ⟨v, b, hv, hb, ?_⟩
  cases b with
  | true =>
      cases h
      exact .inl ⟨rfl, rfl⟩
  | false =>
      obtain ⟨w, hw, h⟩ := Except.bind_eq_ok_iff.1 h
      obtain ⟨c, hc, h⟩ := Except.bind_eq_ok_iff.1 h
      cases h
      exact .inr ⟨rfl, w, c, hw, hc, rfl⟩

/-- Tests that have a value have a truth value. -/
theorem eq_bool (h : TestsOf ignoreCase e tests cs) {u : Value}
    (hu : evalWith env enter r tests = .ok u) : ∃ b, u = .bool b := by
  cases h with
  | test c =>
      obtain ⟨_, _, b, _, _, _, rfl⟩ := evalWith_equality hu
      exact ⟨b, rfl⟩
  | either hleft hright =>
      obtain ⟨_, _, _, _, ⟨_, rfl⟩ | ⟨_, _, c, _, _, rfl⟩⟩ := evalWith_either hu
      · exact ⟨true, rfl⟩
      · exact ⟨c, rfl⟩

/-- **Membership has the value of its tests.** -/
theorem evalAmong_eq (h : TestsOf ignoreCase e tests cs) {b : Bool}
    (hlist : ∀ c ∈ cs, ∀ items, evalWith env enter r c ≠ .ok (.list items))
    (hb : evalWith env enter r tests = .ok (.bool b)) :
    ∃ v, evalWith env enter r e = .ok v ∧ evalAmong env enter r v ignoreCase cs = .ok b := by
  induction h generalizing b with
  | test c =>
      obtain ⟨v, w, b', hv, hw, hequals, hbool⟩ := evalWith_equality hb
      obtain rfl := Value.bool.inj hbool
      have hbelongs : v.belongs w ignoreCase = b :=
        Value.belongs_of_equals (fun items h => hlist c (List.mem_singleton_self c) items (h ▸ hw))
          hequals
      refine ⟨v, hv, ?_⟩
      rw [evalAmong, evalAmong, hw]
      change (if v.belongs w ignoreCase = true then Except.ok true else .ok false) = _
      rw [hbelongs]
      cases b <;> rfl
  | either hleft hright ihleft ihright =>
      obtain ⟨u, b', hu, htruth, hdecided⟩ := evalWith_either hb
      obtain ⟨b'', rfl⟩ := hleft.eq_bool hu
      obtain rfl := Except.ok.inj htruth
      obtain ⟨v, hv, hcs⟩ := ihleft (fun c hc => hlist c (List.mem_append_left _ hc)) hu
      refine ⟨v, hv, ?_⟩
      rw [evalAmong_append, hcs]
      rcases hdecided with ⟨rfl, hbool⟩ | ⟨rfl, w, c, hw, hc, hbool⟩
      · obtain rfl := Value.bool.inj hbool
        rfl
      · obtain rfl := Value.bool.inj hbool
        obtain ⟨c', rfl⟩ := hright.eq_bool hw
        obtain rfl := Except.ok.inj hc
        obtain ⟨v', hv', hds⟩ := ihright (fun c hc => hlist c (List.mem_append_right _ hc)) hw
        -- both groups of tests evaluate the expression, to one value
        obtain rfl := Except.ok.inj (hv.symm.trans hv')
        exact hds

end TestsOf

/-! ### Expressions -/

section Among

variable {env : Environment} {enter : Enter} {r : Record}

theorem evalWith_among (negated ignoreCase : Bool) (e : Expr) (cs : List Expr) :
    evalWith env enter r (.among negated ignoreCase e cs) = (do
      let v ← evalWith env enter r e
      (evalAmong env enter r v ignoreCase cs).map fun b => .bool (b != negated)) := by
  rw [evalWith]
  refine bind_congr fun v => ?_
  cases evalAmong env enter r v ignoreCase cs <;> rfl

/-- **Membership fails** with the expression, or with a candidate that it gets to. -/
theorem evalWith_among_eq_error_iff {negated ignoreCase : Bool} {e : Expr} {cs : List Expr}
    {err : EvalError} :
    evalWith env enter r (.among negated ignoreCase e cs) = .error err ↔
      evalWith env enter r e = .error err ∨
        ∃ v before c after, evalWith env enter r e = .ok v ∧ cs = before ++ c :: after ∧
          (∀ b ∈ before, ∃ w, evalWith env enter r b = .ok w ∧ v.belongs w ignoreCase = false) ∧
          evalWith env enter r c = .error err := by
  rw [evalWith_among]
  cases hv : evalWith env enter r e with
  | error err' =>
      constructor
      · exact .inl
      · rintro (h | ⟨v, _, _, _, h, _⟩)
        · exact h
        · cases h
  | ok v =>
      have hmap : (evalAmong env enter r v ignoreCase cs).map (fun b => Value.bool (b != negated))
          = .error err ↔ evalAmong env enter r v ignoreCase cs = .error err := by
        cases evalAmong env enter r v ignoreCase cs <;> simp [Except.map]
      refine (hmap.trans evalAmong_eq_error_iff).trans ⟨fun ⟨before, c, after, h⟩ => ?_, ?_⟩
      · exact .inr ⟨v, before, c, after, rfl, h⟩
      · rintro (h | ⟨v, before, c, after, h, hc⟩)
        · cases h
        · cases h
          exact ⟨before, c, after, hc⟩

end Among

end Expr

end EventQuery
