/-
**The equations of evaluation.**

A few names have calls of their own kind, in which the arguments are evaluated lazily or not at all.
A call of any other name evaluates its arguments and hands them to what the name means.  How deep an
evaluation is in calls matters only for the bodies of functions that it enters.

Main definitions:

* `Expr.specialForms` — the names whose calls the evaluation treats by itself;
* `Expr.callAs` — what a call of any other name amounts to;
* `Expr.evalInside` — evaluation inside a number of calls;
* `Expr.enterInside` — the way into the bodies of functions there.

Main results:

* `Expr.induct` — induction over expressions;
* `Expr.evalWith_call` — a call of any name but the special ones;
* `Expr.evalInside_eq` — each depth has its way into the bodies of functions.
-/

import EventQuery.Eval.Evaluator

set_option relaxedAutoImplicit false
set_option autoImplicit false

namespace EventQuery

namespace Expr

/-! ### Induction -/

/-- **Induction over expressions**: what holds of the parts of an expression holds of it. -/
@[elab_as_elim]
theorem induct {motive : Expr → Prop} (const : ∀ v, motive (.const v))
    (property : ∀ name, motive (.property name))
    (path : ∀ base selector, motive base → motive (.path base selector))
    (index : ∀ base i, motive base → motive i → motive (.index base i))
    (call : ∀ name args, (∀ e ∈ args, motive e) → motive (.call name args))
    (not : ∀ e, motive e → motive (.not e))
    (binary : ∀ op left right, motive left → motive right → motive (.binary op left right))
    (between : ∀ negated e low high, motive e → motive low → motive high →
      motive (.between negated e low high))
    (among : ∀ negated ignoreCase e candidates, motive e → (∀ c ∈ candidates, motive c) →
      motive (.among negated ignoreCase e candidates)) (e : Expr) : motive e := by
  refine @Expr.rec motive (fun es => ∀ e ∈ es, motive e) const property path index call not binary
    between among ?_ ?_ e
  · intro e he
    cases he
  · intro head rest hhead hrest e he
    rcases List.mem_cons.1 he with rfl | he
    · exact hhead
    · exact hrest e he

/-! ### Calls -/

/-- **The names whose calls the evaluation treats by itself.** -/
def specialForms : List String := ["iif", "iff", "case", "typeof"]

/-- The error of the call limit. -/
def callLimit (name : String) : EvalError :=
  .invalidArgument s!"call depth limit of {Function.numeral maxCalls} exceeded in '{name}'"

/-- The error of a name that means nothing. -/
def undefinedError (name : String) : EvalError :=
  if isAggregation name then
    .invalidArgument s!"aggregation '{name}' is only valid inside summarize"
  else .unknownFunction name

/-- **What a call of a name other than the special ones amounts to**, given what the name means and
the values of the arguments. -/
def callAs (now : Instant) (enter : Enter) (name : String) (args : List Expr)
    (values : Result (List Value)) : Option Resolved → Result Value
  | some (.user f) => do
      let body ← enterable enter f args
      body (scope f (← values)) f.body
  | some (.native f) => values >>= f
  | some (.builtin f) => values >>= f now
  | none => .error (undefinedError name)

section UserCalls

variable {f : UserFunction} {args : List Expr}

/-- The number of arguments is looked at first. -/
theorem callAs_user_of_count_ne (h : args.length ≠ f.params.length) (now : Instant) (enter : Enter)
    (name : String) (values : Result (List Value)) :
    callAs now enter name args values (some (.user f))
      = .error (argumentError f.name (Function.numeral f.params.length) args) := by
  rw [callAs, enterable, if_pos (bne_iff_ne.2 h)]
  rfl

/-- No body is entered when no level is left. -/
theorem callAs_user_closed (h : args.length = f.params.length) (now : Instant) (name : String)
    (values : Result (List Value)) :
    callAs now none name args values (some (.user f)) = .error (callLimit f.name) := by
  rw [callAs, enterable, if_neg (by simp [h])]
  rfl

/-- **A body sees the values of the arguments and nothing else.** -/
theorem callAs_user_opened (h : args.length = f.params.length) (now : Instant)
    (body : Record → Expr → Result Value) (name : String) (values : Result (List Value)) :
    callAs now (some body) name args values (some (.user f))
      = values >>= fun values => body (scope f values) f.body := by
  rw [callAs, enterable, if_neg (by simp [h])]
  rfl

end UserCalls

section Equations

variable (env : Environment) (enter : Enter) (r : Record)

/-- A call of any name but the special ones. -/
theorem evalWith_call {name : String} (h : name ∉ specialForms) (args : List Expr) :
    evalWith env enter r (.call name args)
      = callAs env.now enter name args (evalAll env enter r args)
          (env.registry.resolve name) := by
  simp only [specialForms, List.mem_cons, List.not_mem_nil, or_false, not_or] at h
  obtain ⟨hiif, hiff, hcase, htypeof⟩ := h
  rw [evalWith]
  · cases env.registry.resolve name with
    | none => simp only [callAs, undefinedError, apply_ite Except.error]
    | some meaning => cases meaning <;> rfl
  · exact hiif
  · exact hiff
  · exact hcase
  · exact htypeof

/-- A choice between two values under either of its names. -/
theorem evalWith_choice {name : String} (h : name = "iif" ∨ name = "iff") (args : List Expr) :
    evalWith env enter r (.call name args) = evalChoice env enter r name args := by
  rcases h with rfl | rfl <;> rw [evalWith]

/-- A choice between several values. -/
theorem evalWith_case (args : List Expr) :
    evalWith env enter r (.call "case" args)
      = if args.length < 3 then .error (argumentError "case" "at least 3" args)
        else if args.length % 2 = 0 then
          .error (.invalidArgument "case expects predicate/value pairs followed by an else value")
        else evalCases env enter r args := by
  rw [evalWith]

/-- The name of a type. -/
theorem evalWith_typeof (args : List Expr) :
    evalWith env enter r (.call "typeof" args) = evalTypeName env enter r args := by
  rw [evalWith]

/-- Connectives look at the second side only where the first does not decide. -/
theorem evalWith_logic (c : Connective) (left right : Expr) :
    evalWith env enter r (.binary (.logic c) left right) = (do
      let b ← (← evalWith env enter r left).truth
      if b = (c == .either) then return .bool b
      else return .bool (← (← evalWith env enter r right).truth)) := by
  cases c with
  | both =>
      rw [evalWith]
      refine bind_congr fun v => bind_congr fun b => ?_
      cases b <;> rfl
  | either =>
      rw [evalWith]
      refine bind_congr fun v => bind_congr fun b => ?_
      cases b <;> rfl

/-- Operators other than the connectives look at both sides. -/
theorem evalWith_operate {op : Operator} (h : ∀ c, op ≠ .logic c) (left right : Expr) :
    evalWith env enter r (.binary op left right) = (do
      let left ← evalWith env enter r left
      let right ← evalWith env enter r right
      left.operate op right) := by
  rw [evalWith]
  · exact h .both
  · exact h .either

end Equations

/-! ### Depth -/

/-- **Evaluation inside a number of calls.** -/
def evalInside (env : Environment) (depth : Nat) : Record → Expr → Result Value :=
  evalAt env (maxCalls - depth)

section Depth

variable {env : Environment} {depth : Nat}

/-- Outside of all calls it is evaluation as such. -/
theorem evalInside_zero (env : Environment) : evalInside env 0 = eval env := rfl

/-- The way into the bodies of functions inside a number of calls: below the limit a body is
evaluated one call deeper, and at the limit it is not entered. -/
def enterInside (env : Environment) (depth : Nat) : Enter :=
  if depth < maxCalls then some (evalInside env (depth + 1)) else none

theorem enterInside_of_lt (h : depth < maxCalls) :
    enterInside env depth = some (evalInside env (depth + 1)) := if_pos h

theorem enterInside_of_ge (h : maxCalls ≤ depth) : enterInside env depth = none :=
  if_neg (Nat.not_lt.2 h)

/-- **Each depth has its way into the bodies of functions.** -/
theorem evalInside_eq (env : Environment) (depth : Nat) :
    evalInside env depth = evalWith env (enterInside env depth) := by
  unfold evalInside
  rcases Nat.lt_or_ge depth maxCalls with h | h
  · rw [enterInside_of_lt h, evalInside, ← Nat.succ_pred_eq_of_pos (Nat.sub_pos_of_lt h), evalAt,
      Nat.sub_succ]
  · rw [enterInside_of_ge h, Nat.sub_eq_zero_of_le h, evalAt]

end Depth

end Expr

end EventQuery
