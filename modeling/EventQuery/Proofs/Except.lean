/-
**Steps that may fail.**

Reading a text, evaluating an expression and adding up a timespan are chains of steps, any of which
may fail with an error of its own kind.  A chain has a result when every step has one from what the
steps before it gave, and fails where the first of them fails.

Main results:

* `Except.bind_eq_ok_iff`, `Except.bind_eq_error_iff` — what becomes of two steps;
* `Except.map_eq_ok_iff`, `Except.map_eq_error_iff` — a step that cannot fail;
* `Except.mapM_cons_eq_ok_iff` — the same step for every item of a list;
* `EventQuery.Result.ofOption_eq_ok_iff` — a value that must be there.
-/

import EventQuery.Eval.Error
import Mathlib.Tactic.Common

set_option relaxedAutoImplicit false
set_option autoImplicit false

namespace Except

variable {ε α β : Type} {x : Except ε α}

/-- **Two steps have a result** when the first has one and the second has one from there. -/
theorem bind_eq_ok_iff {f : α → Except ε β} {b : β} :
    x >>= f = .ok b ↔ ∃ a, x = .ok a ∧ f a = .ok b := by
  cases x with
  | error e => simp [bind, Except.bind]
  | ok a => simp [bind, Except.bind]

/-- **Two steps fail** where the first does, or where the second does from there. -/
theorem bind_eq_error_iff {f : α → Except ε β} {e : ε} :
    x >>= f = .error e ↔ x = .error e ∨ ∃ a, x = .ok a ∧ f a = .error e := by
  cases x with
  | error e => simp [bind, Except.bind]
  | ok a => simp [bind, Except.bind]

theorem map_eq_ok_iff {f : α → β} {b : β} : x.map f = .ok b ↔ ∃ a, x = .ok a ∧ f a = b := by
  cases x with
  | error e => simp [Except.map]
  | ok a => simp [Except.map]

theorem map_eq_error_iff {f : α → β} {e : ε} : x.map f = .error e ↔ x = .error e := by
  cases x with
  | error e => simp [Except.map]
  | ok a => simp [Except.map]

/-- A list of results is good when all of them are. -/
theorem mapM_cons_eq_ok_iff {f : α → Except ε β} {a : α} {as : List α} {bs : List β} :
    (a :: as).mapM f = .ok bs
      ↔ ∃ b rest, f a = .ok b ∧ as.mapM f = .ok rest ∧ b :: rest = bs := by
  rw [List.mapM_cons, bind_eq_ok_iff]
  refine exists_congr fun b => ?_
  rw [bind_eq_ok_iff]
  constructor
  · rintro ⟨ha, rest, hrest, hbs⟩
    exact ⟨rest, ha, hrest, Except.ok.inj hbs⟩
  · rintro ⟨rest, ha, hrest, rfl⟩
    exact ⟨ha, rest, hrest, rfl⟩

end Except

namespace EventQuery

namespace Result

variable {α : Type} {e : EvalError} {x : Option α}

theorem ofOption_eq_ok_iff {a : α} : ofOption e x = .ok a ↔ x = some a := by
  cases x <;> simp [ofOption]

theorem ofOption_eq_error_iff {e' : EvalError} :
    ofOption e x = .error e' ↔ x = none ∧ e = e' := by
  cases x <;> simp [ofOption]

end Result

end EventQuery
