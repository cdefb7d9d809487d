/-
**Two evaluations side by side.**

Besides the expression, an evaluation depends on the fields of the record, the current time, the
meaning of function names and the way into the bodies of functions.  Steps follow one another, and
the first that fails ends the evaluation.  So a relation between results that holds of every result
and itself and is kept when related steps follow related ones holds between two evaluations as soon
as it holds between the bodies that they enter.

Main definitions:

* `Result.Lifting` — the relations between results that are kept by steps after one another;
* `Expr.fieldNames` — the names under which an expression looks for fields;
* `Expr.Entering`, `Expr.Related` — two evaluations that find related things.

Main results:

* `Expr.evalWith_related` — **related surroundings give related results**;
* `Expr.evalInside_congr` — an evaluation depends only on the fields that the expression names;
* `Expr.evalInside_congr_environment` — and, of the environment, only on the time and on what names
  mean.
-/

import EventQuery.Proofs.Eval.Equations

set_option relaxedAutoImplicit false
set_option autoImplicit false

namespace EventQuery

/-- **A relation between results that steps after one another keep.** -/
structure Result.Lifting (R : {α : Type} → Result α → Result α → Prop) : Prop where
  refl : ∀ {α : Type} (x : Result α), R x x
  bind : ∀ {α β : Type} {x y : Result α} {f g : α → Result β},
    R x y → (∀ a, R (f a) (g a)) → R (x >>= f) (y >>= g)

/-- Equality is such a relation. -/
theorem Result.lifting_eq : Result.Lifting fun x y => x = y where
  refl _ := rfl
  bind hxy hfg := by rw [hxy, funext hfg]

namespace Expr

/-! ### Fields -/

mutual

/-- **The names under which an expression looks for fields.** -/
def fieldNames : Expr → List String
  | .const _ => []
  | .property name => [name]
  | .path base selector => fieldNames base ++ (dottedName? (.path base selector)).toList
  | .index base i => fieldNames base ++ fieldNames i
  | .call _ args => fieldNamesAll args
  | .not e => fieldNames e
  | .binary _ left right => fieldNames left ++ fieldNames right
  | .between _ e low high => fieldNames e ++ fieldNames low ++ fieldNames high
  | .among _ _ e candidates => fieldNames e ++ fieldNamesAll candidates

/-- Expression by expression. -/
def fieldNamesAll : List Expr → List String
  | [] => []
  | e :: rest => fieldNames e ++ fieldNamesAll rest

end

theorem fieldNamesAll_eq (es : List Expr) : fieldNamesAll es = es.flatMap fieldNames := by
  induction es with
  | nil => rfl
  | cons e rest ih => rw [fieldNamesAll, List.flatMap_cons, ih]

/-- **The records have the same fields** under the names that an expression looks for. -/
def SameFields (r₁ r₂ : Record) (e : Expr) : Prop :=
  ∀ name ∈ e.fieldNames, r₁.fieldOrEmpty name = r₂.fieldOrEmpty name

section SameFields

variable {r₁ r₂ : Record}

theorem SameFields.refl (r : Record) (e : Expr) : SameFields r r e := fun _ _ => rfl

/-- The fields of an expression are those of its parts. -/
theorem sameFields_iff_of_append {e left right : Expr}
    (h : e.fieldNames = left.fieldNames ++ right.fieldNames) :
    SameFields r₁ r₂ e ↔ SameFields r₁ r₂ left ∧ SameFields r₁ r₂ right := by
  simp only [SameFields, h, List.mem_append, or_imp, forall_and]

theorem sameFields_call_iff {name : String} {args : List Expr} :
    SameFields r₁ r₂ (.call name args) ↔ ∀ e ∈ args, SameFields r₁ r₂ e := by
  simp only [SameFields, fieldNames, fieldNamesAll_eq, List.mem_flatMap, forall_exists_index,
    and_imp]
  exact ⟨fun h e he name hname => h name e he hname, fun h name e he hname => h e he name hname⟩

theorem sameFields_among_iff {negated ignoreCase : Bool} {e : Expr} {candidates : List Expr} :
    SameFields r₁ r₂ (.among negated ignoreCase e candidates)
      ↔ SameFields r₁ r₂ e ∧ ∀ c ∈ candidates, SameFields r₁ r₂ c := by
  have hcall : SameFields r₁ r₂ (.call "" candidates) ↔ ∀ c ∈ candidates, SameFields r₁ r₂ c :=
    sameFields_call_iff
  simp only [SameFields, fieldNames, List.mem_append, or_imp, forall_and] at hcall ⊢
  rw [hcall]

end SameFields

/-! ### Related surroundings -/

section Related

variable {R : {α : Type} → Result α → Result α → Prop} {env₁ env₂ : Environment}
  {enter₁ enter₂ : Enter} {r₁ r₂ : Record}

/-- **Two ways into the bodies of functions.**  Where only the second one leads in, the relation has
to hold between the error of the call limit and everything. -/
inductive Entering (R : {α : Type} → Result α → Result α → Prop) : Enter → Enter → Prop
  | closed : Entering R none none
  | opened {body₁ body₂ : Record → Expr → Result Value}
      (h : ∀ r e, R (body₁ r e) (body₂ r e)) : Entering R (some body₁) (some body₂)
  | limited {body : Record → Expr → Result Value}
      (h : ∀ {α : Type} (name : String) (x : Result α), R (.error (callLimit name)) x) :
      Entering R none (some body)

/-- **Two surroundings of an evaluation** with the same time, the same meaning of all names that are
looked up, and related ways into the bodies of functions. -/
structure Related (R : {α : Type} → Result α → Result α → Prop) (env₁ env₂ : Environment)
    (enter₁ enter₂ : Enter) : Prop where
  lifting : Result.Lifting R
  now : env₁.now = env₂.now
  resolve : ∀ name ∉ specialForms, env₁.registry.resolve name = env₂.registry.resolve name
  entering : Entering R enter₁ enter₂

/-- Related values of the arguments give related calls. -/
theorem Entering.callAs (hR : Result.Lifting R) (h : Entering R enter₁ enter₂) (now : Instant)
    (name : String) (args : List Expr) {values₁ values₂ : Result (List Value)}
    (hvalues : R values₁ values₂) (meaning : Option Resolved) :
    R (callAs now enter₁ name args values₁ meaning)
      (callAs now enter₂ name args values₂ meaning) := by
  match meaning with
  | none => exact hR.refl _
  | some (.native f) => exact hR.bind hvalues fun values => hR.refl _
  | some (.builtin f) => exact hR.bind hvalues fun values => hR.refl _
  | some (.user f) =>
      by_cases hcount : args.length = f.params.length
      · cases h with
        | closed =>
            rw [callAs_user_closed hcount, callAs_user_closed hcount]
            exact hR.refl _
        | opened hbody =>
            rw [callAs_user_opened hcount, callAs_user_opened hcount]
            exact hR.bind hvalues fun values => hbody _ _
        | limited hlimit =>
            rw [callAs_user_closed hcount]
            exact hlimit f.name _
      · rw [callAs_user_of_count_ne hcount, callAs_user_of_count_ne hcount]
        exact hR.refl _

/-! ### Lists of arguments -/

/-- Conditions and values in turn. -/
theorem evalCases_related (hR : Result.Lifting R) : ∀ {args : List Expr},
    (∀ e ∈ args, R (evalWith env₁ enter₁ r₁ e) (evalWith env₂ enter₂ r₂ e)) →
      R (evalCases env₁ enter₁ r₁ args) (evalCases env₂ enter₂ r₂ args)
  | [], _ => hR.refl _
  | [other], h => by
      rw [evalCases, evalCases]
      exact h other (List.mem_singleton_self _)
  | condition :: v :: rest, h => by
      simp only [List.mem_cons, forall_eq_or_imp] at h
      rw [evalCases, evalCases]
      refine hR.bind h.1 fun b => hR.bind (hR.refl _) fun b => ?_
      cases b with
      | true => exact h.2.1
      | false => exact evalCases_related hR h.2.2

section Arguments

variable (hR : Result.Lifting R) {args : List Expr}
  (h : ∀ e ∈ args, R (evalWith env₁ enter₁ r₁ e) (evalWith env₂ enter₂ r₂ e))
include hR h

theorem evalAll_related : R (evalAll env₁ enter₁ r₁ args) (evalAll env₂ enter₂ r₂ args) := by
  induction args with
  | nil => exact hR.refl _
  | cons e rest ih =>
      rw [evalAll, evalAll]
      refine hR.bind (h e (List.mem_cons_self ..)) fun v => ?_
      exact hR.bind (ih fun e he => h e (List.mem_cons_of_mem _ he)) fun values => hR.refl _

theorem evalChoice_related (name : String) :
    R (evalChoice env₁ enter₁ r₁ name args) (evalChoice env₂ enter₂ r₂ name args) := by
  match args with
  | [condition, yes, no] =>
      simp only [List.mem_cons, List.not_mem_nil, or_false, forall_eq_or_imp, forall_eq] at h
      rw [evalChoice, evalChoice]
      refine hR.bind h.1 fun v => hR.bind (hR.refl _) fun b => ?_
      cases b with
      | true => exact h.2.1
      | false => exact h.2.2
  | [] | [_] | [_, _] | _ :: _ :: _ :: _ :: _ => exact hR.refl _

theorem evalTypeName_related :
    R (evalTypeName env₁ enter₁ r₁ args) (evalTypeName env₂ enter₂ r₂ args) := by
  match args with
  | [] => exact hR.refl _
  | e :: _ :: _ => cases e <;> exact hR.refl _
  | [e] =>
      have he := h e (List.mem_singleton_self _)
      cases e with
      | property name => exact hR.refl _
      | _ => exact hR.bind he fun v => hR.refl _

theorem evalAmong_related (v : Value) (ignoreCase : Bool) :
    R (evalAmong env₁ enter₁ r₁ v ignoreCase args)
      (evalAmong env₂ enter₂ r₂ v ignoreCase args) := by
  induction args with
  | nil => exact hR.refl _
  | cons e rest ih =>
      rw [evalAmong, evalAmong]
      refine hR.bind (h e (List.mem_cons_self ..)) fun candidate => ?_
      by_cases hfound : v.belongs candidate ignoreCase = true
      · rw [if_pos hfound, if_pos hfound]
        exact hR.refl _
      · rw [if_neg hfound, if_neg hfound]
        exact ih fun e he => h e (List.mem_cons_of_mem _ he)

end Arguments

/-! ### Evaluation -/

/-- Related arguments give related calls, also of the special names. -/
theorem Related.call (h : Related R env₁ env₂ enter₁ enter₂) (name : String) {args : List Expr}
    (hargs : ∀ e ∈ args, R (evalWith env₁ enter₁ r₁ e) (evalWith env₂ enter₂ r₂ e)) :
    R (evalWith env₁ enter₁ r₁ (.call name args)) (evalWith env₂ enter₂ r₂ (.call name args)) := by
  have hR := h.lifting
  by_cases hname : name ∈ specialForms
  · simp only [specialForms, List.mem_cons, List.not_mem_nil, or_false] at hname
    rcases hname with hiif | hiff | rfl | rfl
    · rw [evalWith_choice _ _ _ (.inl hiif), evalWith_choice _ _ _ (.inl hiif)]
      exact evalChoice_related hR hargs name
    · rw [evalWith_choice _ _ _ (.inr hiff), evalWith_choice _ _ _ (.inr hiff)]
      exact evalChoice_related hR hargs name
    · rw [evalWith_case, evalWith_case]
      split
      · exact hR.refl _
      · split
        · exact hR.refl _
        · exact evalCases_related hR hargs
    · rw [evalWith_typeof, evalWith_typeof]
      exact evalTypeName_related hR hargs
  · rw [evalWith_call _ _ _ hname, evalWith_call _ _ _ hname, h.now, h.resolve name hname]
    exact h.entering.callAs hR _ _ _ (evalAll_related hR hargs) _

/-- **Related surroundings give related results.** -/
theorem evalWith_related (h : Related R env₁ env₂ enter₁ enter₂) {e : Expr}
    (hfields : SameFields r₁ r₂ e) :
    R (evalWith env₁ enter₁ r₁ e) (evalWith env₂ enter₂ r₂ e) := by
  have hR := h.lifting
  induction e using induct with
  | const v => exact hR.refl _
  | property name =>
      rw [evalWith, evalWith, hfields name (List.mem_singleton_self _)]
      exact hR.refl _
  | path base selector ih =>
      rw [evalWith, evalWith]
      refine hR.bind (ih fun name hname => hfields name (List.mem_append_left _ hname)) fun v => ?_
      cases v with
      | record fields => exact hR.refl _
      | _ =>
          -- The dotted name is looked up in the records themselves, so it is one of the names.
          have hdotted : (dottedName? (.path base selector)).map (r₁.fieldOrEmpty ·)
              = (dottedName? (.path base selector)).map (r₂.fieldOrEmpty ·) := by
            cases hname : dottedName? (.path base selector) with
            | none => rfl
            | some name =>
                refine congrArg some (hfields name (List.mem_append_right _ ?_))
                rw [hname]
                exact List.mem_singleton_self _
          simp only [hdotted]
          exact hR.refl _
  | index base i ihbase ihi =>
      obtain ⟨hbase, hi⟩ := (sameFields_iff_of_append rfl).1 hfields
      rw [evalWith, evalWith]
      exact hR.bind (ihbase hbase) fun v => hR.bind (ihi hi) fun w => hR.refl _
  | call name args ih =>
      exact h.call name fun e he => ih e he (sameFields_call_iff.1 hfields e he)
  | not e ih =>
      rw [evalWith, evalWith]
      exact hR.bind (ih hfields) fun v => hR.refl _
  | binary op left right ihl ihr =>
      obtain ⟨hleft, hright⟩ := (sameFields_iff_of_append rfl).1 hfields
      by_cases hop : ∃ c, op = .logic c
      · obtain ⟨c, rfl⟩ := hop
        rw [evalWith_logic, evalWith_logic]
        refine hR.bind (ihl hleft) fun v => hR.bind (hR.refl _) fun b => ?_
        split
        · exact hR.refl _
        · exact hR.bind (ihr hright) fun w => hR.refl _
      · have hop : ∀ c, op ≠ .logic c := fun c hc => hop ⟨c, hc⟩
        rw [evalWith_operate _ _ _ hop, evalWith_operate _ _ _ hop]
        exact hR.bind (ihl hleft) fun v => hR.bind (ihr hright) fun w => hR.refl _
  | between negated e low high ihe ihlow ihhigh =>
      simp only [SameFields, fieldNames, List.mem_append, or_imp, forall_and] at hfields
      obtain ⟨⟨he, hlow⟩, hhigh⟩ := hfields
      rw [evalWith, evalWith]
      exact hR.bind (ihe he) fun v => hR.bind (ihlow hlow) fun low =>
        hR.bind (ihhigh hhigh) fun high => hR.refl _
  | among negated ignoreCase e candidates ihe ihcandidates =>
      obtain ⟨he, hcandidates⟩ := sameFields_among_iff.1 hfields
      rw [evalWith, evalWith]
      refine hR.bind (ihe he) fun v => hR.bind ?_ fun b => hR.refl _
      exact evalAmong_related hR (fun c hc => ihcandidates c hc (hcandidates c hc)) v ignoreCase

/-- A way into the bodies of functions is related to itself. -/
theorem Entering.refl (hR : Result.Lifting R) (enter : Enter) : Entering R enter enter := by
  cases enter with
  | none => exact .closed
  | some body => exact .opened fun r e => hR.refl _

end Related

/-! ### Depth -/

/-- **An evaluation depends only on the fields that the expression names**, whatever functions it
calls. -/
theorem evalInside_congr {env : Environment} {depth : Nat} {r₁ r₂ : Record} {e : Expr}
    (h : SameFields r₁ r₂ e) : evalInside env depth r₁ e = evalInside env depth r₂ e := by
  rw [evalInside_eq]
  exact evalWith_related ⟨Result.lifting_eq, rfl, fun _ _ => rfl, .refl Result.lifting_eq _⟩ h

/-- **Environments that mean the same evaluate the same**, at every depth.  Special names need not
mean the same. -/
theorem evalInside_congr_environment {env₁ env₂ : Environment} (hnow : env₁.now = env₂.now)
    (hresolve : ∀ name ∉ specialForms, env₁.registry.resolve name = env₂.registry.resolve name)
    (depth : Nat) : evalInside env₁ depth = evalInside env₂ depth := by
  unfold evalInside
  induction maxCalls - depth with
  | zero =>
      funext r e
      exact evalWith_related ⟨Result.lifting_eq, hnow, hresolve, .closed⟩ (.refl r e)
  | succ levels ih =>
      funext r e
      exact evalWith_related ⟨Result.lifting_eq, hnow, hresolve,
        .opened fun r e => congrFun (congrFun ih r) e⟩ (.refl r e)

end Expr

end EventQuery
