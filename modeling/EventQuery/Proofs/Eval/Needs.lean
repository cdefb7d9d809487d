/-
**What an evaluation needs.**

An evaluation evaluates parts of its expression from left to right, and the bodies of the functions
that it calls.  Some parts it evaluates only where those before them leave something to decide: the
second side of a connective, the values of a choice, the candidates of a list.  Whatever it does
evaluate, it needs: when that fails, the evaluation fails in the same way.

Main definitions:

* `Expr.Task` — an expression on a record, inside a number of calls;
* `Expr.Part` — the parts of an expression that an evaluation gets to;
* `Expr.Task.Needs` — **the tasks that a task needs at once**.

Main results:

* `Expr.Part.fails` — a part that fails;
* `Expr.Task.fails_of_needs` — **the failure of a task that is needed, however far down, is the
  failure of the whole**.
-/

import EventQuery.Proofs.Eval.Calls
import Mathlib.Logic.Relation

set_option relaxedAutoImplicit false
set_option autoImplicit false

namespace EventQuery

namespace Expr

/-! ### Parts -/

/-- Conditions with their values, one after the other. -/
def caseArgs (pairs : List (Expr × Expr)) : List Expr := pairs.flatMap fun p => [p.1, p.2]

theorem length_caseArgs (pairs : List (Expr × Expr)) :
    (caseArgs pairs).length = 2 * pairs.length := by
  induction pairs with
  | nil => rfl
  | cons p pairs ih =>
      rw [caseArgs] at ih ⊢
      rw [List.flatMap_cons, List.length_append, ih]
      simp only [List.length_cons, List.length_nil]
      omega

/-- Behind a condition and its value there is more, when the number of arguments is odd. -/
theorem three_le_of_odd {pairs : List (Expr × Expr)} {condition v : Expr} {rest : List Expr}
    (h : (caseArgs pairs ++ condition :: v :: rest).length % 2 = 1) :
    3 ≤ (caseArgs pairs ++ condition :: v :: rest).length := by
  simp only [List.length_append, length_caseArgs, List.length_cons] at h ⊢
  omega

/-- A call under this name evaluates its arguments: the name means something, and a defined function
gets the right number of them and is not too deep. -/
def TakesArguments (env : Environment) (depth : Nat) (name : String) (args : List Expr) : Prop :=
  name ∉ specialForms ∧ env.registry.resolve name ≠ none ∧
    ∀ f, env.registry.resolve name = some (.user f) →
      args.length = f.params.length ∧ depth < maxCalls

/-- **The parts of an expression that an evaluation gets to.** -/
inductive Part (env : Environment) (depth : Nat) (r : Record) : Expr → Expr → Prop
  | pathBase (base : Expr) (selector : String) : Part env depth r (.path base selector) base
  | indexBase (base i : Expr) : Part env depth r (.index base i) base
  | indexPlace {base i : Expr} {v : Value} (hbase : evalInside env depth r base = .ok v) :
      Part env depth r (.index base i) i
  | negated (e : Expr) : Part env depth r (.not e) e
  | left (op : Operator) (left right : Expr) : Part env depth r (.binary op left right) left
  | right {op : Operator} {left right : Expr} {v : Value} (hop : ∀ c, op ≠ .logic c)
      (hleft : evalInside env depth r left = .ok v) : Part env depth r (.binary op left right) right
  | undecided {c : Connective} {left right : Expr}
      (hleft : (evalInside env depth r left >>= Value.truth) = .ok (c == .both)) :
      Part env depth r (.binary (.logic c) left right) right
  | tested (negated : Bool) (e low high : Expr) : Part env depth r (.between negated e low high) e
  | low {negated : Bool} {e low high : Expr} {v : Value}
      (he : evalInside env depth r e = .ok v) : Part env depth r (.between negated e low high) low
  | high {negated : Bool} {e low high : Expr} {v w : Value}
      (he : evalInside env depth r e = .ok v) (hlow : evalInside env depth r low = .ok w) :
      Part env depth r (.between negated e low high) high
  | searched (negated ignoreCase : Bool) (e : Expr) (candidates : List Expr) :
      Part env depth r (.among negated ignoreCase e candidates) e
  | candidate {negated ignoreCase : Bool} {e c : Expr} {before after : List Expr} {v : Value}
      (he : evalInside env depth r e = .ok v)
      (hbefore : ∀ c ∈ before, ∃ w, evalInside env depth r c = .ok w ∧
        v.belongs w ignoreCase = false) :
      Part env depth r (.among negated ignoreCase e (before ++ c :: after)) c
  | condition {name : String} (hname : name = "iif" ∨ name = "iff") (condition yes no : Expr) :
      Part env depth r (.call name [condition, yes, no]) condition
  | chosen {name : String} (hname : name = "iif" ∨ name = "iff") {condition yes no : Expr}
      {b : Bool} (hcondition : (evalInside env depth r condition >>= Value.truth) = .ok b) :
      Part env depth r (.call name [condition, yes, no]) (if b then yes else no)
  | caseCondition {pairs : List (Expr × Expr)} {condition v : Expr} {rest : List Expr}
      (hodd : (caseArgs pairs ++ condition :: v :: rest).length % 2 = 1)
      (hpairs : ∀ p ∈ pairs, (evalInside env depth r p.1 >>= Value.truth) = .ok false) :
      Part env depth r (.call "case" (caseArgs pairs ++ condition :: v :: rest)) condition
  | caseChosen {pairs : List (Expr × Expr)} {condition v : Expr} {rest : List Expr}
      (hodd : (caseArgs pairs ++ condition :: v :: rest).length % 2 = 1)
      (hpairs : ∀ p ∈ pairs, (evalInside env depth r p.1 >>= Value.truth) = .ok false)
      (hcondition : (evalInside env depth r condition >>= Value.truth) = .ok true) :
      Part env depth r (.call "case" (caseArgs pairs ++ condition :: v :: rest)) v
  | caseOther {pairs : List (Expr × Expr)} {other : Expr} (hne : pairs ≠ [])
      (hpairs : ∀ p ∈ pairs, (evalInside env depth r p.1 >>= Value.truth) = .ok false) :
      Part env depth r (.call "case" (caseArgs pairs ++ [other])) other
  | typed {e : Expr} (he : ∀ name, e ≠ .property name) : Part env depth r (.call "typeof" [e]) e
  | argument {name : String} {before after : List Expr} {a : Expr}
      (hname : TakesArguments env depth name (before ++ a :: after))
      (hbefore : ∀ b ∈ before, ∃ w, evalInside env depth r b = .ok w) :
      Part env depth r (.call name (before ++ a :: after)) a

/-! ### Failures -/

section Failures

variable {env : Environment} {enter : Enter} {depth : Nat} {r : Record} {err : EvalError}

/-- The first argument that fails. -/
theorem evalAll_of_error {before after : List Expr} {a : Expr}
    (hbefore : ∀ b ∈ before, ∃ w, evalWith env enter r b = .ok w)
    (ha : evalWith env enter r a = .error err) :
    evalAll env enter r (before ++ a :: after) = .error err := by
  induction before with
  | nil =>
      rw [List.nil_append, evalAll, ha]
      rfl
  | cons b before ih =>
      obtain ⟨w, hw⟩ := hbefore b (List.mem_cons_self ..)
      rw [List.cons_append, evalAll, hw, ih fun b hb => hbefore b (List.mem_cons_of_mem _ hb)]
      rfl

/-- A candidate that fails before any holds the value. -/
theorem evalAmong_of_error {v : Value} {ignoreCase : Bool} {before after : List Expr} {c : Expr}
    (hbefore : ∀ c ∈ before, ∃ w, evalWith env enter r c = .ok w ∧ v.belongs w ignoreCase = false)
    (hc : evalWith env enter r c = .error err) :
    evalAmong env enter r v ignoreCase (before ++ c :: after) = .error err := by
  induction before with
  | nil =>
      rw [List.nil_append, evalAmong, hc]
      rfl
  | cons b before ih =>
      obtain ⟨w, hw, hnot⟩ := hbefore b (List.mem_cons_self ..)
      have hrest := ih fun c hc => hbefore c (List.mem_cons_of_mem _ hc)
      rw [List.cons_append, evalAmong, hw]
      change (if v.belongs w ignoreCase = true then _ else _) = _
      rw [hnot]
      exact hrest

/-- A choice between several values with the right number of arguments. -/
theorem evalWith_case_of_odd {args : List Expr} (hthree : 3 ≤ args.length)
    (hodd : args.length % 2 = 1) :
    evalWith env enter r (.call "case" args) = evalCases env enter r args := by
  rw [evalWith_case, if_neg (by omega), if_neg (by omega)]

/-- Conditions that do not hold are passed over. -/
theorem evalCases_of_false {pairs : List (Expr × Expr)}
    (h : ∀ p ∈ pairs, (evalWith env enter r p.1 >>= Value.truth) = .ok false)
    (tail : List Expr) :
    evalCases env enter r (caseArgs pairs ++ tail) = evalCases env enter r tail := by
  induction pairs with
  | nil => rfl
  | cons p pairs ih =>
      have hp := h p (List.mem_cons_self ..)
      have hrest := ih fun p hp => h p (List.mem_cons_of_mem _ hp)
      change evalCases env enter r (p.1 :: p.2 :: (caseArgs pairs ++ tail)) = _
      rw [evalCases, ← bind_assoc, hp]
      exact hrest

/-- **A part that fails**: the evaluation gets to it, and fails in the same way. -/
theorem Part.fails {e part : Expr} (h : Part env depth r e part)
    (hpart : evalInside env depth r part = .error err) :
    evalInside env depth r e = .error err := by
  rw [evalInside_eq] at hpart ⊢
  cases h with
  | pathBase | indexBase | negated | tested | searched =>
      rw [evalWith, hpart]
      rfl
  | indexPlace hbase =>
      rw [evalInside_eq] at hbase
      rw [evalWith, hbase, hpart]
      rfl
  | left op left right =>
      by_cases hop : ∃ c, op = .logic c
      · obtain ⟨c, rfl⟩ := hop
        rw [evalWith_logic, hpart]
        rfl
      · rw [evalWith_operate _ _ _ fun c hc => hop ⟨c, hc⟩, hpart]
        rfl
  | right hop hleft =>
      rw [evalInside_eq] at hleft
      rw [evalWith_operate _ _ _ hop, hleft, hpart]
      rfl
  | @undecided c _ _ hleft =>
      rw [evalInside_eq] at hleft
      rw [evalWith_logic, ← bind_assoc, hleft, hpart]
      cases c <;> rfl
  | low he =>
      rw [evalInside_eq] at he
      rw [evalWith, he, hpart]
      rfl
  | high he hlow =>
      rw [evalInside_eq] at he hlow
      rw [evalWith, he, hlow, hpart]
      rfl
  | candidate he hbefore =>
      rw [evalInside_eq] at he hbefore
      rw [evalWith, he]
      change evalAmong env _ r _ _ _ >>= _ = _
      rw [evalAmong_of_error hbefore hpart]
      rfl
  | condition hname =>
      rw [evalWith_choice _ _ _ hname, evalChoice, hpart]
      rfl
  | @chosen _ hname condition yes no b hcondition =>
      rw [evalInside_eq] at hcondition
      rw [evalWith_choice _ _ _ hname, evalChoice, ← bind_assoc, hcondition]
      cases b with
      | true => exact hpart
      | false => exact hpart
  | caseCondition hodd hpairs =>
      rw [evalInside_eq] at hpairs
      rw [evalWith_case_of_odd (three_le_of_odd hodd) hodd, evalCases_of_false hpairs, evalCases,
        hpart]
      rfl
  | caseChosen hodd hpairs hcondition =>
      rw [evalInside_eq] at hpairs hcondition
      rw [evalWith_case_of_odd (three_le_of_odd hodd) hodd, evalCases_of_false hpairs, evalCases,
        ← bind_assoc, hcondition]
      exact hpart
  | @caseOther pairs _ hne hpairs =>
      rw [evalInside_eq] at hpairs
      have hpos : 0 < pairs.length := List.length_pos_iff.2 hne
      have hlength : (caseArgs pairs ++ [part]).length = 2 * pairs.length + 1 := by
        rw [List.length_append, length_caseArgs, List.length_singleton]
      rw [evalWith_case_of_odd (by omega) (by omega), evalCases_of_false hpairs, evalCases, hpart]
  | typed he =>
      rw [evalWith_typeof, evalTypeName, hpart]
      · rfl
      · exact he
  | argument hname hbefore =>
      rw [evalInside_eq] at hbefore
      obtain ⟨hspecial, hmeaning, hcount⟩ := hname
      rw [evalWith_call _ _ _ hspecial, evalAll_of_error hbefore hpart]
      cases hresolve : env.registry.resolve _ with
      | none => exact absurd hresolve hmeaning
      | some meaning =>
          cases meaning with
          | user f =>
              obtain ⟨hlength, hdepth⟩ := hcount f hresolve
              rw [enterInside_of_lt hdepth, callAs_user_opened hlength]
              rfl
          | native f => rfl
          | builtin f => rfl

end Failures

/-! ### Tasks -/

/-- An expression on a record, inside a number of calls. -/
structure Task where
  depth : Nat
  record : Record
  expr : Expr

namespace Task

/-- What comes of a task. -/
def result (env : Environment) (t : Task) : Result Value := evalInside env t.depth t.record t.expr

/-- **The tasks that a task needs at once**: parts of its expression on the same record, and the
body of the function that it calls on the values of the arguments. -/
inductive Needs (env : Environment) : Task → Task → Prop
  | part {depth : Nat} {r : Record} {e part : Expr} (h : Part env depth r e part) :
      Needs env ⟨depth, r, e⟩ ⟨depth, r, part⟩
  | body {depth : Nat} {r : Record} {name : String} {f : UserFunction} {args : List Expr}
      {values : List Value} (hname : name ∉ specialForms)
      (hf : env.registry.definition? name = some f) (hcount : args.length = f.params.length)
      (hdepth : depth < maxCalls) (hvalues : valuesInside env depth r args = .ok values) :
      Needs env ⟨depth, r, .call name args⟩ ⟨depth + 1, scope f values, f.body⟩

variable {env : Environment} {t s : Task} {err : EvalError}

/-- A task fails as one fails that it needs at once. -/
theorem Needs.fails (h : Needs env t s) (hs : s.result env = .error err) :
    t.result env = .error err := by
  cases h with
  | part h => exact h.fails hs
  | body hname hf hcount hdepth hvalues =>
      rw [result, evalInside_call hname hf hcount hdepth, hvalues]
      exact hs

/-- **The failure of a task that is needed, however far down, is the failure of the whole.** -/
theorem fails_of_needs (h : Relation.ReflTransGen (Needs env) t s)
    (hs : s.result env = .error err) : t.result env = .error err := by
  induction h with
  | refl => exact hs
  | tail _ hneeds ih => exact ih (hneeds.fails hs)

end Task

end Expr

end EventQuery
