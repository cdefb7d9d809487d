/-
**Equality of values is transitive.**

Equality is not that of the terms: zeros of either sign are equal, decimals are compared by value,
records whatever the order of their fields, and the undefined number differs from itself.  What is
left is that two values that are equal to a third one on both sides are equal.

Main results:

* `Binary.beq_trans`, `Decimal.cmp_eq_trans` — numbers;
* `Value.beq_trans` — **values**.
-/

import Mathlib
import EventQuery.Proofs.Number.Order

set_option relaxedAutoImplicit false
set_option autoImplicit false

namespace EventQuery

-- Powers are those of the core library, whatever other instances are in scope.
attribute [local instance (2000)] instPowNat

open Float.Model (UnpackedFloat)

/-! ### Numbers -/

namespace Binary

/-- A number without the sign of zero. -/
def withoutZeroSign : UnpackedFloat → UnpackedFloat
  | .zero _ => .zero .positive
  | x => x

theorem compare_eq_eq_sign {s t : UnpackedFloat.Sign} : compare s t = .eq ↔ s = t := by
  cases s <;> cases t <;> simp [compare]

/-- Numbers taken apart are equal exactly if they are defined and differ at most in the sign of
zero. -/
theorem compare_eq_eq_iff_unpacked (x y : UnpackedFloat) :
    x.compare y = some .eq ↔ x.isNaN = false ∧ withoutZeroSign x = withoutZeroSign y := by
  rcases x with (_ | _) | - | (_ | _) | ⟨_ | _, m, e, hm⟩ <;>
    rcases y with (_ | _) | - | (_ | _) | ⟨_ | _, n, f, hn⟩ <;>
    simp [UnpackedFloat.compare, UnpackedFloat.isNaN, withoutZeroSign, Ordering.then_eq_eq,
      compare_eq_eq_sign, and_comm]

theorem beq_trans {x y z : Float} (hxy : (x == y) = true) (hyz : (y == z) = true) :
    (x == z) = true := by
  rw [beq_iff_compare, compare_eq_eq_iff_unpacked] at *
  exact ⟨hxy.1, hxy.2.trans hyz.2⟩

end Binary

namespace Decimal

theorem cmp_eq_eq_iff {a b : Decimal} :
    a.cmp b = .eq ↔ a.signed * 10 ^ b.scale = b.signed * 10 ^ a.scale := by
  rw [cmp, Int.compare_eq_eq]

theorem cmp_eq_trans {a b c : Decimal} (hab : a.cmp b = .eq) (hbc : b.cmp c = .eq) :
    a.cmp c = .eq := by
  rw [cmp_eq_eq_iff] at *
  have hpos : (10 : Int) ^ b.scale ≠ 0 := by positivity
  refine Int.eq_of_mul_eq_mul_right hpos ?_
  calc a.signed * 10 ^ c.scale * 10 ^ b.scale
      = a.signed * 10 ^ b.scale * 10 ^ c.scale := by ring
    _ = b.signed * 10 ^ c.scale * 10 ^ a.scale := by rw [hab]; ring
    _ = c.signed * 10 ^ a.scale * 10 ^ b.scale := by rw [hbc]; ring

end Decimal

/-! ### Values -/

namespace Value

/-- The fields of one record are found in another: so is each of them by its name. -/
theorem exists_of_beqFields {fields others : List (String × Value)} {name : String} {x : Value}
    (h : beqFields fields others = true) (hx : Fields.get? fields name = some x) :
    ∃ y, Fields.get? others name = some y ∧ beq x y = true := by
  induction fields with
  | nil => cases hx
  | cons field rest ih =>
      obtain ⟨k, v⟩ := field
      rw [beqFields, Bool.and_eq_true] at h
      rw [Fields.get?] at hx
      split at hx
      · rename_i hk
        subst hk
        cases hx
        cases hfound : Fields.get? others k with
        | none => simp [hfound] at h
        | some y => exact ⟨y, rfl, by simpa [hfound] using h.1⟩
      · exact ih h.2 hx

mutual

/-- **Two values that are equal to a third one on both sides are equal.** -/
theorem beq_trans {a b c : Value} (hab : beq a b = true) (hbc : beq b c = true) :
    beq a c = true := by
  -- values of different types are not equal
  cases a <;> cases b <;> first | (cases hab; done) | (cases c <;> first | (cases hbc; done) | skip)
  case null.null.null => rfl
  case real.real.real => exact Binary.beq_trans hab hbc
  case decimal.decimal.decimal =>
    rw [beq, beq_iff_eq] at *
    exact Decimal.cmp_eq_trans hab hbc
  case record.record.record as bs cs =>
    rw [beq, Bool.and_eq_true, beq_iff_eq] at *
    exact ⟨hab.1.trans hbc.1, beqFields_trans hab.2 hbc.2⟩
  case list.list.list as bs cs => exact beqItems_trans hab hbc
  all_goals
    rw [beq, beq_iff_eq] at *
    exact hab.trans hbc
termination_by sizeOf a

theorem beqFields_trans : {as bs cs : List (String × Value)} → beqFields as bs = true →
    beqFields bs cs = true → beqFields as cs = true
  | [], _, _, _, _ => rfl
  | (name, x) :: rest, bs, cs, hab, hbc => by
      rw [beqFields, Bool.and_eq_true] at hab ⊢
      refine ⟨?_, beqFields_trans hab.2 hbc⟩
      cases hfound : Fields.get? bs name with
      | none => simp [hfound] at hab
      | some y =>
          obtain ⟨z, hz, hyz⟩ := exists_of_beqFields hbc hfound
          have hxy : beq x y = true := by simpa [hfound] using hab.1
          simpa [hz] using beq_trans hxy hyz
termination_by as => sizeOf as

theorem beqItems_trans : {as bs cs : List Value} → beqItems as bs = true →
    beqItems bs cs = true → beqItems as cs = true
  | [], [], _, _, hbc => hbc
  | x :: xs, y :: ys, z :: zs, hab, hbc => by
      rw [beqItems, Bool.and_eq_true] at *
      exact ⟨beq_trans hab.1 hbc.1, beqItems_trans hab.2 hbc.2⟩
termination_by as => sizeOf as

end

end Value

end EventQuery
