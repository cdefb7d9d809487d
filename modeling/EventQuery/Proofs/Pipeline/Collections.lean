/-
**Lists and sets of values.**

A list takes in the values that are not null until it is full.  A set takes in only those that equal
none before them; that it looks for a value among its own items, of which there are at most as many
as it may hold, makes no difference, since a value that equals one that was not taken in equals one
that was, or the set is full.  Equality is that of values, which an undefined number fails to have
even with itself.

Main definitions:

* `Value.present` — the values that are not null;
* `Value.distinct` — **the values that equal none before them**.

Main results:

* `Value.contains_distinct` — a value equals one of the values exactly if it equals a distinct one;
* `Aggregate.kind_of_makeList`, `Aggregate.kind_of_makeSet` — collections have room for between one
  and `maxItems` items;
* `Aggregate.result_list`, `Aggregate.result_set` — what lists and sets hold;
* `Aggregate.result_of_collection` — **what compiled collections hold**.
-/

import EventQuery.Proofs.Except
import EventQuery.Proofs.Pipeline.Totals
import EventQuery.Proofs.Value.Equality
import Mathlib

set_option relaxedAutoImplicit false
set_option autoImplicit false

namespace EventQuery

/-! ### Values without repetition -/

namespace Value

variable {before values more : List Value} {v w : Value}

/-- The values that are not null. -/
def present (values : List Value) : List Value := values.filter fun v => !Aggregate.isNull v

/-- The values that equal none before them, among which are those of `before`. -/
def distinctAfter (before : List Value) : List Value → List Value
  | [] => []
  | v :: rest =>
      if before.contains v then distinctAfter (before ++ [v]) rest
      else v :: distinctAfter (before ++ [v]) rest

/-- **The values that equal none before them.** -/
def distinct (values : List Value) : List Value := distinctAfter [] values

theorem contains_append :
    (values ++ more).contains v = (values.contains v || more.contains v) := by
  simp only [List.contains_eq_any_beq, List.any_append]

theorem contains_iff_exists : values.contains v = true ↔ ∃ w ∈ values, (v == w) = true := by
  rw [List.contains_eq_any_beq, List.any_eq_true]

theorem distinctAfter_append :
    distinctAfter before (values ++ more)
      = distinctAfter before values ++ distinctAfter (before ++ values) more := by
  induction values generalizing before with
  | nil => rw [List.append_nil, List.nil_append, distinctAfter, List.nil_append]
  | cons v rest ih =>
      rw [List.cons_append, distinctAfter, distinctAfter, ih, List.append_assoc,
        List.singleton_append]
      split <;> rfl

theorem distinct_append_singleton (values : List Value) (v : Value) :
    distinct (values ++ [v])
      = if values.contains v then distinct values else distinct values ++ [v] := by
  rw [distinct, distinctAfter_append, List.nil_append, ← distinct, distinctAfter, distinctAfter]
  split
  · rw [List.append_nil]
  · rfl

/-- **A value equals one of the values exactly if it equals a distinct one**: what is not distinct
equals a value before it. -/
theorem contains_distinct (values : List Value) (v : Value) :
    (distinct values).contains v = values.contains v := by
  induction values using List.reverseRecOn with
  | nil => rfl
  | append_singleton values w ih =>
      rw [distinct_append_singleton, contains_append]
      split
      · rename_i hw
        rw [ih, Bool.eq_iff_iff, Bool.or_eq_true]
        refine ⟨.inl, fun h => h.elim id fun hvw => ?_⟩
        obtain ⟨x, hx, hwx⟩ := contains_iff_exists.1 hw
        obtain ⟨y, hy, hvy⟩ := contains_iff_exists.1 hvw
        rw [List.mem_singleton.1 hy] at hvy
        exact contains_iff_exists.2 ⟨x, hx, beq_trans hvy hwx⟩
      · rw [contains_append, ih]

/-- No distinct value equals one before it. -/
theorem pairwise_distinct (values : List Value) :
    (distinct values).Pairwise fun v w => (w == v) = false := by
  induction values using List.reverseRecOn with
  | nil => exact .nil
  | append_singleton values w ih =>
      rw [distinct_append_singleton]
      split
      · exact ih
      · rename_i hw
        refine List.pairwise_append.2 ⟨ih, List.pairwise_singleton .., fun v hv x hx => ?_⟩
        rw [List.mem_singleton.1 hx, Bool.eq_false_iff]
        intro hwv
        refine hw ?_
        rw [← contains_distinct]
        exact contains_iff_exists.2 ⟨v, hv, hwv⟩

/-- A value that equals one that is not null is not null. -/
theorem isNull_eq_of_beq (h : (v == w) = true) : Aggregate.isNull v = Aggregate.isNull w := by
  cases v <;> cases w <;> first | rfl | cases h

theorem present_append_singleton (values : List Value) (v : Value) :
    present (values ++ [v])
      = if Aggregate.isNull v then present values else present values ++ [v] := by
  rw [present, List.filter_append, ← present, List.filter_singleton]
  cases Aggregate.isNull v with
  | true => exact List.append_nil _
  | false => rfl

end Value

open Value

namespace Aggregate

/-! ### Compilation -/

/-- The bound of a collection is positive, and at most the greatest number of items. -/
theorem bound_eq_ok {function : String} {e : Expr} {cap : Nat} (h : bound function e = .ok cap) :
    1 ≤ cap ∧ cap ≤ maxItems := by
  rw [bound.eq_def] at h
  split at h
  · split at h
    · split at h
      · obtain rfl := Except.ok.inj h
        rw [maxItems]
        omega
      · cases h
    · cases h
  · cases h

theorem collection_eq_ok {kind : Nat → Kind} {function : String} {fallback : Nat}
    {args : List Expr} {k : Kind} (hfallback : 1 ≤ fallback ∧ fallback ≤ maxItems)
    (h : collection kind function fallback args = .ok k) :
    ∃ cap, k = kind cap ∧ 1 ≤ cap ∧ cap ≤ maxItems := by
  rw [collection.eq_def] at h
  split at h
  · exact ⟨fallback, (Except.ok.inj h).symm, hfallback⟩
  · obtain ⟨cap, hcap, rfl⟩ := Except.map_eq_ok_iff.1 h
    exact ⟨cap, rfl, bound_eq_ok hcap⟩
  · cases h

variable {call : Aggregation} {a : Aggregate}

/-- **Compiled lists** hold between one and `maxItems` items. -/
theorem kind_of_makeList (h : ofCall call = .ok a)
    (hname : call.function = "make_list" ∨ call.function = "makelist") :
    ∃ cap, a.kind = .list cap ∧ 1 ≤ cap ∧ cap ≤ maxItems := by
  obtain ⟨kind, hkind, rfl⟩ := Except.map_eq_ok_iff.1 h
  obtain hname | hname := hname <;> rw [hname] at hkind
  · exact collection_eq_ok (by decide) hkind
  · exact collection_eq_ok (by decide) hkind

/-- **Compiled sets** hold between one and `maxItems` items. -/
theorem kind_of_makeSet (h : ofCall call = .ok a)
    (hname : call.function = "make_set" ∨ call.function = "makeset") :
    ∃ cap, a.kind = .set cap ∧ 1 ≤ cap ∧ cap ≤ maxItems := by
  obtain ⟨kind, hkind, rfl⟩ := Except.map_eq_ok_iff.1 h
  obtain hname | hname := hname <;> rw [hname] at hkind
  · exact collection_eq_ok (by decide) hkind
  · exact collection_eq_ok (by decide) hkind

/-! ### Items -/

variable {cap : Nat}

theorem take_eq_of_length_lt {items : List Value} (h : (items.take cap).length < cap) :
    items.take cap = items := by
  rw [List.length_take] at h
  exact List.take_of_length_le (by omega)

/-- One more item among the first ones, as long as there is room. -/
theorem take_append_singleton (items : List Value) (v : Value) :
    (items ++ [v]).take cap
      = if (items.take cap).length < cap then items.take cap ++ [v] else items.take cap := by
  split
  · rename_i hroom
    rw [take_eq_of_length_lt hroom]
    rw [List.length_take] at hroom
    exact List.take_of_length_le (by simp; omega)
  · rename_i hfull
    rw [List.length_take] at hfull
    exact List.take_append_of_le_length (by omega)

/-- **A list holds the first inputs that are not null.** -/
theorem result_list (ha : a.kind = .list cap) (inputs : List Value) :
    a.result inputs = .list ((present inputs).take cap) := by
  induction inputs using List.reverseRecOn with
  | nil => simp only [result, seed, ha, present, List.filter_nil, List.take_nil, List.foldl_nil]
  | append_singleton inputs v ih =>
      rw [result_append_singleton, ih, present_append_singleton]
      simp only [fold, ha]
      cases isNull v with
      | true => rfl
      | false =>
          simp only [Bool.not_false, Bool.true_and, decide_eq_true_eq, Bool.false_eq_true, if_false,
            take_append_singleton]
          split <;> rfl

/-- **A set holds the first distinct inputs that are not null.** -/
theorem result_set (ha : a.kind = .set cap) (inputs : List Value) :
    a.result inputs = .list ((distinct (present inputs)).take cap) := by
  induction inputs using List.reverseRecOn with
  | nil => simp only [result, seed, ha, present, List.filter_nil, distinct, distinctAfter,
      List.take_nil, List.foldl_nil]
  | append_singleton inputs v ih =>
      rw [result_append_singleton, ih, present_append_singleton]
      simp only [fold, ha]
      cases isNull v with
      | true => rfl
      | false =>
          simp only [Bool.not_false, Bool.true_and, Bool.and_eq_true, decide_eq_true_eq,
            Bool.not_eq_true', Bool.false_eq_true, if_false, distinct_append_singleton]
          by_cases hroom : ((distinct (present inputs)).take cap).length < cap
          · -- as long as there is room, the items are all the distinct inputs
            have hitems := take_eq_of_length_lt hroom
            rw [hitems] at hroom ⊢
            rw [contains_distinct]
            cases hseen : (present inputs).contains v with
            | true => simp [hitems]
            | false => simp [hroom, hitems, take_append_singleton]
          · rw [if_neg fun h => hroom h.1]
            split
            · rfl
            · rw [take_append_singleton, if_neg hroom]

/-- **An input that equals one before it changes nothing**, whether the set is full or not. -/
theorem result_append_seen (ha : a.kind = .set cap) {inputs : List Value} {v w : Value}
    (hw : w ∈ inputs) (hvw : (v == w) = true) : a.result (inputs ++ [v]) = a.result inputs := by
  rw [result_set ha, result_set ha, present_append_singleton]
  split
  · rfl
  · rename_i hnull
    rw [isNull_eq_of_beq hvw] at hnull
    have hpresent : w ∈ present inputs := List.mem_filter.2 ⟨hw, by simp [hnull]⟩
    rw [distinct_append_singleton, if_pos (contains_iff_exists.2 ⟨w, hpresent, hvw⟩)]

/-- Inputs only add items at the end. -/
theorem exists_result_append (ha : (∃ cap, a.kind = .list cap) ∨ ∃ cap, a.kind = .set cap)
    {inputs items : List Value} (hitems : a.result inputs = .list items) (more : List Value) :
    ∃ later, a.result (inputs ++ more) = .list (items ++ later) := by
  induction more using List.reverseRecOn with
  | nil => exact ⟨[], by rw [List.append_nil, List.append_nil, hitems]⟩
  | append_singleton more v ih =>
      obtain ⟨later, hlater⟩ := ih
      rw [← List.append_assoc, result_append_singleton, hlater]
      obtain ⟨cap, ha⟩ | ⟨cap, ha⟩ := ha <;> simp only [fold, ha]
      all_goals
        split
        · exact ⟨later ++ [v], by rw [List.append_assoc]⟩
        · exact ⟨later, rfl⟩

/-- **What compiled lists and sets hold.**  They have room for between one and 1,048,576 items.  A
list holds the first inputs that are not null.  A set holds the first of those that equal none
before them: no item equals one before it, and an input that equals one before it changes nothing.
Later inputs only add items at the end. -/
theorem result_of_collection (h : ofCall call = .ok a) :
    (call.function = "make_list" ∨ call.function = "makelist" →
      ∃ cap, a.kind = .list cap ∧ 1 ≤ cap ∧ cap ≤ 1048576 ∧
        ∀ inputs, a.result inputs = .list ((present inputs).take cap) ∧
          ∀ more, ∃ later,
            a.result (inputs ++ more) = .list ((present inputs).take cap ++ later)) ∧
    (call.function = "make_set" ∨ call.function = "makeset" →
      ∃ cap, a.kind = .set cap ∧ 1 ≤ cap ∧ cap ≤ 1048576 ∧
        ∀ inputs, a.result inputs = .list ((distinct (present inputs)).take cap) ∧
          ((distinct (present inputs)).take cap).Pairwise (fun v w => (w == v) = false) ∧
          (∀ v w, w ∈ inputs → (v == w) = true → a.result (inputs ++ [v]) = a.result inputs) ∧
          ∀ more, ∃ later,
            a.result (inputs ++ more) = .list ((distinct (present inputs)).take cap ++ later)) := by
  refine ⟨fun hname => ?_, fun hname => ?_⟩
  · obtain ⟨cap, ha, hpos, hmax⟩ := kind_of_makeList h hname
    exact ⟨cap, ha, hpos, hmax, fun inputs => ⟨result_list ha inputs,
      exists_result_append (.inl ⟨cap, ha⟩) (result_list ha inputs)⟩⟩
  · obtain ⟨cap, ha, hpos, hmax⟩ := kind_of_makeSet h hname
    exact ⟨cap, ha, hpos, hmax, fun inputs => ⟨result_set ha inputs,
      (pairwise_distinct _).take, fun v w => result_append_seen ha,
      exists_result_append (.inr ⟨cap, ha⟩) (result_set ha inputs)⟩⟩

/-- A set of four items: integers of different types differ, and an undefined number differs from
itself. -/
theorem result_of_repeated_inputs :
    let call : Aggregation := ⟨"xs", "make_set", [.property "x", .const (.long 4)]⟩
    let a : Aggregate := ⟨"xs", "make_set", .set 4, some (.property "x")⟩
    let nan : Value := .real Binary.nan
    let inputs : List Value := [.long 1, .null, .long 1, nan, .int 1, .long 1, nan, .long 2]
    ofCall call = .ok a ∧ a.result inputs = .list [.long 1, nan, .int 1, nan] := by
  intro call a nan inputs
  have h : ofCall call = .ok a := rfl
  obtain ⟨cap, hcap, -, -, hinputs⟩ := (result_of_collection h).2 (.inl rfl)
  obtain rfl : 4 = cap := Kind.set.inj hcap
  exact ⟨h, (hinputs inputs).1⟩

end Aggregate

end EventQuery
