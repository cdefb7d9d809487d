/-
**Calls of defined functions.**

The body of a defined function is evaluated on a record of the arguments, one call deeper.  It sees
nothing of the record on which it is called, and neither does anything that it calls in turn.

A definition comes before anything else that its name may mean, with one exception: the calls of
special forms never look for a definition, so that one under such a name changes nothing anywhere.

Main results:

* `Expr.evalInside_call` — **a call is its body on the values of the arguments**;
* `Expr.call_congr_values` — a call depends on the record only through the arguments;
* `Expr.call_of_definition` — definitions come first except under the names of special forms;
* `Expr.not_call_of_special_form` — a definition that is never called.
-/

import EventQuery.Proofs.Eval.Related
import Mathlib.Data.List.Forall2

set_option relaxedAutoImplicit false
set_option autoImplicit false

namespace EventQuery

/-! ### What names mean -/

namespace Registry

/-- **A definition comes first.** -/
theorem resolve_of_definition? {g : Registry} {name : String} {f : UserFunction}
    (h : g.definition? name = some f) : g.resolve name = some (.user f) := by
  rw [definition?] at h
  rw [resolve, h]

/-- A definition leaves all other names alone. -/
theorem resolve_define_of_ne {f : UserFunction} {name : String} (h : f.name ≠ name)
    (g : Registry) : (g.define f).resolve name = g.resolve name := by
  simp only [resolve, define, Fields.get?_put, if_neg h]

end Registry

namespace Expr

section Calls

variable {env : Environment} {name : String} {f : UserFunction} {depth : Nat} {r : Record}
  {args : List Expr}

/-! ### Arguments -/

/-- The values of arguments inside a number of calls, from left to right. -/
def valuesInside (env : Environment) (depth : Nat) (r : Record) (args : List Expr) :
    Result (List Value) := args.mapM (evalInside env depth r)

theorem evalAll_eq_mapM (enter : Enter) (r : Record) (args : List Expr) :
    evalAll env enter r args = args.mapM (evalWith env enter r) := by
  induction args with
  | nil => rfl
  | cons e rest ih => rw [evalAll, List.mapM_cons, ih]

theorem valuesInside_eq_ok {values : List Value}
    (h : List.Forall₂ (fun e v => evalInside env depth r e = .ok v) args values) :
    valuesInside env depth r args = .ok values := by
  induction h with
  | nil => rfl
  | cons hv _ ih =>
      rw [valuesInside] at ih ⊢
      rw [List.mapM_cons, hv, ih]
      rfl

/-- Constants have the same values everywhere. -/
theorem forall₂_const (env : Environment) (depth : Nat) (r : Record) (values : List Value) :
    List.Forall₂ (fun e v => evalInside env depth r e = .ok v) (values.map .const) values := by
  rw [evalInside_eq]
  refine List.forall₂_map_left_iff.2 (List.forall₂_same.2 fun v _ => ?_)
  rw [evalWith]

/-! ### Calls -/

variable (hname : name ∉ specialForms) (hf : env.registry.definition? name = some f)
include hname hf

/-- The number of arguments is checked at every depth and before anything else. -/
theorem evalInside_call_of_count_ne (hcount : args.length ≠ f.params.length) :
    evalInside env depth r (.call name args)
      = .error (.argumentCount f.name (Function.numeral f.params.length) args.length) := by
  rw [evalInside_eq, evalWith_call _ _ _ hname, Registry.resolve_of_definition? hf,
    callAs_user_of_count_ne hcount, argumentError]

/-- At the limit a call fails, whatever the arguments are. -/
theorem evalInside_call_of_ge (hcount : args.length = f.params.length) (h : maxCalls ≤ depth) :
    evalInside env depth r (.call name args) = .error (callLimit f.name) := by
  rw [evalInside_eq, enterInside_of_ge h, evalWith_call _ _ _ hname,
    Registry.resolve_of_definition? hf, callAs_user_closed hcount]

/-- **A call is its body on the values of the arguments**, one call deeper. -/
theorem evalInside_call (hcount : args.length = f.params.length) (h : depth < maxCalls) :
    evalInside env depth r (.call name args)
      = valuesInside env depth r args >>= fun values =>
          evalInside env (depth + 1) (scope f values) f.body := by
  rw [valuesInside, evalInside_eq env depth, ← evalAll_eq_mapM, evalWith_call _ _ _ hname,
    Registry.resolve_of_definition? hf, enterInside_of_lt h, callAs_user_opened hcount]

/-- **A call depends on its arguments only through their values**, at every depth and whatever their
number is. -/
theorem evalInside_call_congr {r₁ r₂ : Record} {args₁ args₂ : List Expr} {values : List Value}
    (h₁ : List.Forall₂ (fun e v => evalInside env depth r₁ e = .ok v) args₁ values)
    (h₂ : List.Forall₂ (fun e v => evalInside env depth r₂ e = .ok v) args₂ values) :
    evalInside env depth r₁ (.call name args₁) = evalInside env depth r₂ (.call name args₂) := by
  have hlength : args₁.length = args₂.length := h₁.length_eq.trans h₂.length_eq.symm
  by_cases hcount : args₁.length = f.params.length
  · rcases Nat.lt_or_ge depth maxCalls with h | h
    · rw [evalInside_call hname hf hcount h, evalInside_call hname hf (hlength ▸ hcount) h,
        valuesInside_eq_ok h₁, valuesInside_eq_ok h₂]
    · rw [evalInside_call_of_ge hname hf hcount h,
        evalInside_call_of_ge hname hf (hlength ▸ hcount) h]
  · rw [evalInside_call_of_count_ne hname hf hcount,
      evalInside_call_of_count_ne hname hf (hlength ▸ hcount), hlength]

end Calls

/-! ### What a body sees -/

/-- Arguments that agree pair by pair have common values. -/
theorem exists_common_values {env : Environment} {depth : Nat} {r₁ r₂ : Record}
    {args₁ args₂ : List Expr}
    (h : List.Forall₂ (fun e₁ e₂ => ∃ v, evalInside env depth r₁ e₁ = .ok v ∧
      evalInside env depth r₂ e₂ = .ok v) args₁ args₂) :
    ∃ values, List.Forall₂ (fun e v => evalInside env depth r₁ e = .ok v) args₁ values ∧
      List.Forall₂ (fun e v => evalInside env depth r₂ e = .ok v) args₂ values := by
  induction h with
  | nil => exact ⟨[], .nil, .nil⟩
  | cons hv _ ih =>
      obtain ⟨v, hv₁, hv₂⟩ := hv
      obtain ⟨values, h₁, h₂⟩ := ih
      exact ⟨v :: values, .cons hv₁ h₁, .cons hv₂ h₂⟩

/-- **The body of a defined function sees the arguments and nothing else of the record.**  Two calls
whose arguments have the same values agree, whatever the two records hold.  So the call of constants
on the record without fields is as good as any, and fields that the arguments do not name make no
difference. -/
theorem call_sees_only_arguments {env : Environment} {name : String} {f : UserFunction}
    (hname : name ∉ specialForms) (hf : env.registry.definition? name = some f) (depth : Nat) :
    (∀ (r₁ r₂ : Record) (args₁ args₂ : List Expr),
      List.Forall₂ (fun e₁ e₂ => ∃ v, evalInside env depth r₁ e₁ = .ok v ∧
        evalInside env depth r₂ e₂ = .ok v) args₁ args₂ →
      evalInside env depth r₁ (.call name args₁) = evalInside env depth r₂ (.call name args₂)) ∧
    (∀ (r : Record) (args : List Expr) (values : List Value),
      List.Forall₂ (fun e v => evalInside env depth r e = .ok v) args values →
      evalInside env depth r (.call name args)
        = evalInside env depth [] (.call name (values.map .const))) ∧
    ∀ (r₁ r₂ : Record) (args : List Expr), (∀ e ∈ args, SameFields r₁ r₂ e) →
      evalInside env depth r₁ (.call name args) = evalInside env depth r₂ (.call name args) := by
  refine ⟨fun r₁ r₂ args₁ args₂ h => ?_, fun r args values h => ?_, fun r₁ r₂ args h => ?_⟩
  · obtain ⟨values, h₁, h₂⟩ := exists_common_values h
    exact evalInside_call_congr hname hf h₁ h₂
  · exact evalInside_call_congr hname hf h (forall₂_const env depth [] values)
  · exact evalInside_congr (sameFields_call_iff.2 h)

/-- Two functions that call each other, the second of which asks for a field of the first record. -/
theorem call_sees_only_arguments_of_mutual :
    let ping : UserFunction := ⟨"Ping", [⟨"x", "string"⟩], .call "Pong" [.property "x"], ""⟩
    let pong : UserFunction := ⟨"Pong", [⟨"y", "string"⟩],
      .call "iif" [.binary (.equality false false) (.property "y") (.const (.string "stop")),
        .path (.property "Outer") "name", .call "Ping" [.const (.string "stop")]], ""⟩
    let env : Environment := ⟨⟨[("Ping", ping), ("Pong", pong)], []⟩, default⟩
    let r : Record := [("Outer", .record [("name", .string "go")]), ("x", .string "stop")]
    "Ping" ∉ specialForms ∧ env.registry.definition? "Ping" = some ping ∧
      evalInside env 3 r (.call "Ping" [.path (.property "Outer") "name"])
        = evalInside env 3 [] (.call "Ping" [.const (.string "go")]) ∧
      evalInside env 3 r (.call "Ping" [.path (.property "Outer") "name"]) = .ok (.string "") := by
  intro ping pong env r
  have hname : "Ping" ∉ specialForms := by decide
  have hping : env.registry.definition? "Ping" = some ping := rfl
  have hsame := (call_sees_only_arguments hname hping 3).1 r []
    [.path (.property "Outer") "name"] [.const (.string "go")]
    (.cons ⟨.string "go", rfl, rfl⟩ .nil)
  exact ⟨hname, hping, hsame, hsame.trans rfl⟩

/-! ### What comes first -/

/-- **A definition under the name of a special form changes nothing**, in whatever expression and at
whatever depth. -/
theorem evalInside_define_special {f : UserFunction} (h : f.name ∈ specialForms)
    (env : Environment) (depth : Nat) :
    evalInside { env with registry := env.registry.define f } depth = evalInside env depth := by
  refine evalInside_congr_environment ?_ (fun name hname => ?_) depth
  · rfl
  · have hne : f.name ≠ name := by
      rintro rfl
      exact hname h
    exact Registry.resolve_define_of_ne hne env.registry

/-- **A definition comes before all else that its name may mean, except a special form.**  Under any
other name a call is the body on the values of the arguments, one call deeper, and fails when their
number is wrong.  Under the name of a special form a definition makes no difference to any
evaluation. -/
theorem call_of_definition (env : Environment) (name : String) :
    (name ∉ specialForms → ∀ f, env.registry.definition? name = some f →
      (∀ depth < maxCalls, ∀ (r : Record) (args : List Expr) (values : List Value),
        args.length = f.params.length →
        List.Forall₂ (fun e v => evalInside env depth r e = .ok v) args values →
        evalInside env depth r (.call name args)
          = evalInside env (depth + 1)
              (Fields.ofPairs ((f.params.map Parameter.name).zip values)) f.body) ∧
      ∀ (depth : Nat) (r : Record) (args : List Expr), args.length ≠ f.params.length →
        evalInside env depth r (.call name args)
          = .error (.argumentCount f.name (Function.numeral f.params.length) args.length)) ∧
    (name ∈ specialForms → ∀ f : UserFunction, f.name = name → ∀ (depth : Nat) (r : Record)
      (e : Expr), evalInside { env with registry := env.registry.define f } depth r e
        = evalInside env depth r e) := by
  constructor
  · intro hname f hf
    refine ⟨fun depth hdepth r args values hcount hvalues => ?_, fun depth r args hcount => ?_⟩
    · rw [evalInside_call hname hf hcount hdepth, valuesInside_eq_ok hvalues]
      rfl
    · exact evalInside_call_of_count_ne hname hf hcount
  · rintro hname f rfl depth r e
    rw [evalInside_define_special hname]

/-- A definition under the name of a built-in function, of a supplied one and of an aggregation, and
one under the name of a special form. -/
theorem call_of_definition_of_count :
    let f : UserFunction := ⟨"count", [⟨"x", "string"⟩, ⟨"y", "string"⟩], .property "y", ""⟩
    let g : UserFunction := ⟨"typeof", [⟨"x", "string"⟩], .property "x", ""⟩
    let env : Environment :=
      ⟨⟨[("count", f)], [("count", fun _ => .error (.thrown "supplied"))]⟩, default⟩
    "count" ∉ specialForms ∧ env.registry.definition? "count" = some f ∧
      isAggregation "count" = true ∧
      evalInside env 0 [("a", .bool true)] (.call "count" [.property "b", .property "a"])
        = .ok (.bool true) ∧
      evalInside env 64 [] (.call "count" []) = .error (.argumentCount "count" "2" 0) ∧
      evalInside { env with registry := env.registry.define g } 0 [("a", .bool true)]
        (.call "typeof" [.call "count" [.property "b", .property "a"]])
          = evalInside env 0 [("a", .bool true)]
              (.call "typeof" [.call "count" [.property "b", .property "a"]]) := by
  intro f g env
  have hname : "count" ∉ specialForms := by decide
  have hlaw := (call_of_definition env "count").1 hname f rfl
  have hcall := hlaw.1 0 (by decide) [("a", .bool true)] [.property "b", .property "a"]
    [.string "", .bool true] rfl (.cons rfl (.cons rfl .nil))
  refine ⟨hname, rfl, by decide, hcall.trans rfl, hlaw.2 64 [] [] (by decide), ?_⟩
  exact (call_of_definition env "typeof").2 (by decide) g rfl 0 _ _

/-- **A definition that is never called**: its name is that of a special form. -/
theorem not_call_of_special_form :
    ¬ ∀ (env : Environment) (name : String) (f : UserFunction),
      env.registry.definition? name = some f → ∀ depth < maxCalls,
      ∀ (r : Record) (args : List Expr) (values : List Value), args.length = f.params.length →
        List.Forall₂ (fun e v => evalInside env depth r e = .ok v) args values →
        evalInside env depth r (.call name args)
          = evalInside env (depth + 1)
              (Fields.ofPairs ((f.params.map Parameter.name).zip values)) f.body := by
  intro h
  let f : UserFunction :=
    ⟨"iif", [⟨"a", "bool"⟩, ⟨"b", "string"⟩, ⟨"c", "string"⟩], .const (.string "mine"), ""⟩
  let args : List Expr := [.const (.bool true), .const (.string "yes"), .const (.string "no")]
  have hcall := h ⟨⟨[("iif", f)], []⟩, default⟩ "iif" f rfl 0 (by decide) [] args
    [.bool true, .string "yes", .string "no"] rfl (.cons rfl (.cons rfl (.cons rfl .nil)))
  have hform : evalInside ⟨⟨[("iif", f)], []⟩, default⟩ 0 [] (.call "iif" args)
      = .ok (.string "yes") := rfl
  have hbody : evalInside ⟨⟨[("iif", f)], []⟩, default⟩ 1
      (Fields.ofPairs ((f.params.map Parameter.name).zip
        [.bool true, .string "yes", .string "no"])) f.body = .ok (.string "mine") := rfl
  rw [hform, hbody] at hcall
  exact absurd (Value.string.inj (Except.ok.inj hcall)) (by decide)

end Expr

end EventQuery
