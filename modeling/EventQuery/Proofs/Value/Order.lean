/-
**Order and equality of values.**

Numbers, instants and timespans each have a domain, and two values one of which has a domain are
both read in it and compared there.  Which of the two has the domain does not matter, so the order
the other way round is the reverse order.  Equality reads the right value in the domain of the left
one, which is the same comparison.

Main definitions:

* `Domain`, `Value.domain?` — what a value is compared as;
* `Reading`, `Value.readAs?` — a value as it is read in a domain;
* `Value.orderIn?` — two values read in a domain and compared there;
* `Relation.converse` — a relation of order the other way round;
* `Value.isNaN` — a value that is, or holds as text, the undefined number.

Main results:

* `Value.toOption_order` — **the order is that of the domain**;
* `Value.toOption_order_swap` — the order the other way round;
* `Value.toOption_equals` — equality in the domain of the left value;
* `Value.order_coherent` — order agrees with itself and with equality.
-/

import Mathlib
import EventQuery.Proofs.Number.Order
import EventQuery.Value.Comparison

set_option relaxedAutoImplicit false
set_option autoImplicit false

namespace EventQuery

/-! ### Relations -/

namespace Relation

/-- **A relation of order the other way round.** -/
def converse : Relation → Relation
  | .less => .greater
  | .atMost => .atLeast
  | .greater => .less
  | .atLeast => .atMost

theorem holds_converse (r : Relation) (o : Ordering) : r.converse.holds o.swap = r.holds o := by
  cases r <;> cases o <;> rfl

end Relation

/-! ### Results without their errors -/

namespace Result

variable {α β : Type}

@[simp] theorem toOption_ofOption (e : EvalError) (x : Option α) :
    (ofOption e x).toOption = x := by
  cases x <;> rfl

@[simp] theorem toOption_map (f : α → β) (x : Result α) :
    (x.map f).toOption = x.toOption.map f := by
  cases x <;> rfl

@[simp] theorem toOption_bind (f : α → Result β) (x : Result α) :
    (x >>= f).toOption = x.toOption.bind fun a => (f a).toOption := by
  cases x <;> rfl

@[simp] theorem toOption_pure (a : α) : (pure a : Result α).toOption = some a := rfl

theorem toOption_eq_some_iff {x : Result α} {a : α} : x.toOption = some a ↔ x = .ok a := by
  cases x <;> simp [Except.toOption]

end Result

/-! ### Equality and order of times -/

theorem Instant.beq_eq_cmp (s t : Instant) : (s == t) = (some (s.cmp t) == some .eq) := by
  have hcmp : s.cmp t = .eq ↔ s = t := by
    rw [Instant.cmp, Ordering.then_eq_eq, Int.compare_eq_eq, Nat.compare_eq_eq, Instant.mk.injEq]
  rw [Bool.eq_iff_iff, beq_iff_eq, beq_iff_eq, Option.some_inj, hcmp]

theorem Timespan.beq_eq_cmp (c d : Timespan) : (c == d) = (some (c.cmp d) == some .eq) := by
  have hcmp : c.cmp d = .eq ↔ c = d := by
    rw [Timespan.cmp, Int.compare_eq_eq, Timespan.mk.injEq]
  rw [Bool.eq_iff_iff, beq_iff_eq, beq_iff_eq, Option.some_inj, hcmp]

/-! ### Domains -/

/-- **What values are compared as**, texts apart. -/
inductive Domain where
  | number
  | instant
  | timespan
  deriving DecidableEq, Repr

/-- A value as it is read in a domain. -/
inductive Reading where
  | number (n : Numeric)
  | instant (t : Instant)
  | timespan (d : Timespan)

namespace Reading

/-- The order of what is read in one domain. -/
def cmp? : Reading → Reading → Option Ordering
  | .number m, .number n => m.cmp? n
  | .instant s, .instant t => some (s.cmp t)
  | .timespan c, .timespan d => some (c.cmp d)
  | _, _ => none

theorem cmp?_swap (k l : Reading) : (k.cmp? l).map Ordering.swap = l.cmp? k := by
  cases k <;> cases l <;> simp [cmp?, Numeric.cmp?_swap, Instant.cmp_swap, Timespan.cmp_swap]

end Reading

namespace Value

/-- **The domain of a value**: numbers, instants and timespans have one. -/
def domain? : Value → Option Domain
  | .int _ | .long _ | .real _ | .decimal _ => some .number
  | .datetime _ => some .instant
  | .timespan _ => some .timespan
  | _ => none

/-- **A value as it is read in a domain.** -/
def readAs? (v : Value) : Domain → Option Reading
  | .number => v.toNumeric?.map .number
  | .instant => v.toInstant?.map .instant
  | .timespan => v.toTimespan?.map .timespan

/-- Two values read in a domain and compared there. -/
def orderIn? (d : Domain) (a b : Value) : Option (Option Ordering) :=
  (a.readAs? d).bind fun k => (b.readAs? d).map k.cmp?

section Domains

variable {a b v : Value} {d e : Domain}

theorem isNumeric_iff : v.isNumeric = true ↔ v.domain? = some .number := by
  cases v <;> simp [isNumeric, domain?]

theorem domain?_eq_instant : v.domain? = some .instant ↔ ∃ t, v = .datetime t := by
  cases v <;> simp [domain?]

theorem domain?_eq_timespan : v.domain? = some .timespan ↔ ∃ d, v = .timespan d := by
  cases v <;> simp [domain?]

/-- What has a domain is there. -/
theorem isAbsent_of_domain (h : v.domain? = some d) : v.isAbsent = false := by
  cases v <;> simp [domain?, isAbsent] at h ⊢

/-- A value is read in no domain besides its own. -/
theorem readAs?_eq_none (h : v.domain? = some e) (hne : e ≠ d) : v.readAs? d = none := by
  cases d <;> cases v <;>
    simp_all [domain?, readAs?, toNumeric?, toInstant?, toTimespan?]

theorem orderIn?_swap (d : Domain) (a b : Value) :
    (orderIn? d a b).map (Option.map Ordering.swap) = orderIn? d b a := by
  unfold orderIn?
  cases a.readAs? d <;> cases b.readAs? d <;> simp [Reading.cmp?_swap]

/-- Where both values have a domain, it makes no difference whose is taken. -/
theorem orderIn?_eq_of_domain (hd : a.domain? = some d ∨ b.domain? = some d)
    (he : a.domain? = some e ∨ b.domain? = some e) : orderIn? d a b = orderIn? e a b := by
  by_cases hde : d = e
  · rw [hde]
  · rcases hd with hd | hd <;> rcases he with he | he
    · exact absurd (Option.some.inj (hd.symm.trans he)) hde
    · simp [orderIn?, readAs?_eq_none hd hde, readAs?_eq_none he (Ne.symm hde)]
    · simp [orderIn?, readAs?_eq_none hd hde, readAs?_eq_none he (Ne.symm hde)]
    · exact absurd (Option.some.inj (hd.symm.trans he)) hde

/-! ### Order -/

theorem toOption_orderPresent (h : a.domain? = some d ∨ b.domain? = some d) :
    (orderPresent a b).toOption = orderIn? d a b := by
  fun_cases orderPresent a b with
  | case1 l r => simp [domain?] at h
  | case2 l r => simp [domain?] at h
  | case3 l =>
      rw [orderIn?_eq_of_domain (e := .instant) h (.inl rfl)]
      simp only [Result.toOption_map, Result.toOption_ofOption, orderIn?, readAs?, Option.map_map]
      rfl
  | case4 r =>
      rw [orderIn?_eq_of_domain (e := .instant) h (.inr rfl)]
      simp only [Result.toOption_map, Result.toOption_ofOption, orderIn?, readAs?, Option.bind_map]
      cases a.toInstant? <;> rfl
  | case5 l =>
      rw [orderIn?_eq_of_domain (e := .timespan) h (.inl rfl)]
      simp only [Result.toOption_map, Result.toOption_ofOption, orderIn?, readAs?, Option.map_map]
      rfl
  | case6 r =>
      rw [orderIn?_eq_of_domain (e := .timespan) h (.inr rfl)]
      simp only [Result.toOption_map, Result.toOption_ofOption, orderIn?, readAs?, Option.bind_map]
      cases a.toTimespan? <;> rfl
  | case7 =>
      rename_i hnum _ _
      rw [if_pos hnum]
      rw [Bool.or_eq_true, isNumeric_iff, isNumeric_iff] at hnum
      rw [orderIn?_eq_of_domain h hnum]
      simp only [orderIn?, readAs?, numericBeside, Result.toOption_bind, Result.toOption_ofOption,
        Result.toOption_pure, Option.bind_map, Option.map_map]
      cases a.toNumeric? <;> cases b.toNumeric? <;> rfl
  | case8 =>
      -- what is no number, no instant and no timespan has no domain
      rename_i hia hta hib htb hnum _ _
      simp only [Bool.or_eq_true, isNumeric_iff, not_or] at hnum
      have hnone : ∀ v : Value, v.domain? ≠ some .number → (∀ t, v = .datetime t → False) →
          (∀ c, v = .timespan c → False) → v.domain? = none := by
        intro v hn hi ht
        cases v <;> simp [domain?] at hn hi ht ⊢
      rcases h with h | h
      · rw [hnone a hnum.1 hia hta] at h
        cases h
      · rw [hnone b hnum.2 hib htb] at h
        cases h

/-- No value is ordered against an absent one. -/
theorem order_of_absent (h : a.isAbsent = true ∨ b.isAbsent = true) : a.order b = .ok none :=
  if_pos (Bool.or_eq_true_iff.2 h)

/-- **The order of two values is that of the domain** of either. -/
theorem toOption_order (h : a.domain? = some d ∨ b.domain? = some d) (ha : a.isAbsent = false)
    (hb : b.isAbsent = false) : (a.order b).toOption = orderIn? d a b := by
  rw [order, ha, hb]
  exact toOption_orderPresent h

/-- **The order the other way round is the reverse one.** -/
theorem toOption_order_swap (a b : Value) :
    (a.order b).toOption.map (Option.map Ordering.swap) = (b.order a).toOption := by
  by_cases habsent : a.isAbsent = true ∨ b.isAbsent = true
  · rw [order_of_absent habsent, order_of_absent habsent.symm]
    rfl
  · simp only [not_or, Bool.not_eq_true] at habsent
    obtain ⟨ha, hb⟩ := habsent
    cases hda : a.domain? with
    | some d =>
        rw [toOption_order (.inl hda) ha hb, toOption_order (.inr hda) hb ha, orderIn?_swap]
    | none =>
        cases hdb : b.domain? with
        | some d =>
            rw [toOption_order (.inr hdb) ha hb, toOption_order (.inl hdb) hb ha, orderIn?_swap]
        | none =>
            rw [order, order, ha, hb]
            -- only texts and truth values are ordered without a domain
            cases a <;> cases b <;> simp [domain?] at hda hdb <;>
              simp [orderPresent, isNumeric, Except.toOption, Nat.compare_swap]
            exact Std.OrientedCmp.eq_swap.symm

/-! ### Equality -/

/-- **Equality reads the right value in the domain of the left one** and compares there. -/
theorem toOption_equals (h : a.domain? = some d) (hb : b.isAbsent = false) (ignoreCase : Bool) :
    (a.equals b ignoreCase).toOption = (a.order b).toOption.map (· == some .eq) := by
  rw [toOption_order (.inl h) (isAbsent_of_domain h) hb, equals, isAbsent_of_domain h, hb]
  change (equalsPresent a b ignoreCase).toOption = _
  cases d with
  | number =>
      have hnumbers : equalsPresent a b ignoreCase = (do
          let l ← Result.ofOption (incomparable b a) a.toNumeric?
          let r ← numericBeside b a
          return l.cmp? r == some .eq) := by
        cases a <;> simp [domain?] at h <;> rfl
      simp only [hnumbers, numericBeside, orderIn?, readAs?, Result.toOption_bind,
        Result.toOption_ofOption, Result.toOption_pure]
      cases a.toNumeric? <;> cases b.toNumeric? <;> rfl
  | instant =>
      obtain ⟨t, rfl⟩ := domain?_eq_instant.1 h
      simp only [equalsPresent, orderIn?, Result.toOption_map, Result.toOption_ofOption]
      change b.toInstant?.map (t == ·) =
        (((b.toInstant?.map Reading.instant).map (Reading.instant t).cmp?).map (· == some .eq))
      simp [Function.comp_def, Reading.cmp?, Instant.beq_eq_cmp]
  | timespan =>
      obtain ⟨c, rfl⟩ := domain?_eq_timespan.1 h
      simp only [equalsPresent, orderIn?, Result.toOption_map, Result.toOption_ofOption]
      change b.toTimespan?.map (c == ·) =
        (((b.toTimespan?.map Reading.timespan).map (Reading.timespan c).cmp?).map (· == some .eq))
      simp [Function.comp_def, Reading.cmp?, Timespan.beq_eq_cmp]

/-! ### Relations of values -/

theorem toOption_relate (r : Relation) (a b : Value) :
    (a.relate (.relation r) b).toOption = (a.order b).toOption.map fun o => o.any r.holds := by
  rw [relate]
  cases a.order b with
  | error e => rfl
  | ok o => cases o <;> rfl

theorem relate_of_order {o : Option Ordering} (h : a.order b = .ok o) (r : Relation) :
    a.relate (.relation r) b = .ok (o.any r.holds) := by
  rw [← Result.toOption_eq_some_iff, toOption_relate, h]
  rfl

/-- **A relation holds exactly if its converse holds the other way round.** -/
theorem toOption_relate_converse (r : Relation) (a b : Value) :
    (a.relate (.relation r) b).toOption = (b.relate (.relation r.converse) a).toOption := by
  rw [toOption_relate, toOption_relate, ← toOption_order_swap a b, Option.map_map]
  congr 1
  funext o
  cases o with
  | none => rfl
  | some o => exact (r.holds_converse o).symm

/-! ### The undefined number -/

/-- **The value is the undefined number**, or a text that is read as it. -/
def isNaN (v : Value) : Bool := v.toNumeric?.any Numeric.isNaN

/-- Values that are compared are ordered unless one of them is the undefined number. -/
theorem eq_none_of_order {o : Option Ordering} (h : a.domain? = some d) (hb : b.isAbsent = false)
    (ho : a.order b = .ok o) :
    o = none ↔ d = .number ∧ (a.isNaN = true ∨ b.isNaN = true) := by
  rw [← Result.toOption_eq_some_iff, toOption_order (.inl h) (isAbsent_of_domain h) hb, orderIn?]
    at ho
  simp only [Option.bind_eq_some_iff, Option.map_eq_some_iff] at ho
  obtain ⟨k, hk, l, hl, rfl⟩ := ho
  cases d with
  | number =>
      obtain ⟨m, hm, rfl⟩ := Option.map_eq_some_iff.1 hk
      obtain ⟨n, hn, rfl⟩ := Option.map_eq_some_iff.1 hl
      simp [Reading.cmp?, Numeric.cmp?_eq_none_iff, isNaN, hm, hn]
  | instant =>
      obtain ⟨s, -, rfl⟩ := Option.map_eq_some_iff.1 hk
      obtain ⟨t, -, rfl⟩ := Option.map_eq_some_iff.1 hl
      simp [Reading.cmp?]
  | timespan =>
      obtain ⟨c, -, rfl⟩ := Option.map_eq_some_iff.1 hk
      obtain ⟨c', -, rfl⟩ := Option.map_eq_some_iff.1 hl
      simp [Reading.cmp?]

end Domains

/-- **Order agrees with itself and with equality.**  The order the other way round succeeds on the
same values and is the reverse one, so each relation holds exactly if its converse holds the other
way round.  Equality with a number, an instant or a timespan on the left succeeds on the same values
as their order and says whether the order is `eq`; exactly one of less, equal and greater holds
then, unless a number is the undefined one, and then none does. -/
theorem order_coherent (a b : Value) :
    (∀ o, a.order b = .ok o ↔ b.order a = .ok (o.map Ordering.swap)) ∧
    (∀ r t, a.relate (.relation r) b = .ok t ↔ b.relate (.relation r.converse) a = .ok t) ∧
    ∀ d, a.domain? = some d → b.isAbsent = false → ∀ ignoreCase,
      (∀ t, a.equals b ignoreCase = .ok t ↔ ∃ o, a.order b = .ok o ∧ (o == some .eq) = t) ∧
      ∀ o, a.order b = .ok o →
        let outcome := (a.relate (.relation .less) b, a.equals b ignoreCase,
          a.relate (.relation .greater) b)
        (¬ (d = .number ∧ (a.isNaN = true ∨ b.isNaN = true)) →
          outcome ∈ [(.ok true, .ok false, .ok false), (.ok false, .ok true, .ok false),
            (.ok false, .ok false, .ok true)]) ∧
        (d = .number ∧ (a.isNaN = true ∨ b.isNaN = true) →
          outcome = (.ok false, .ok false, .ok false)) := by
  refine ⟨fun o => ?_, fun r t => ?_, fun d h hb ignoreCase => ?_⟩
  · have hback : (o.map Ordering.swap).map Ordering.swap = o := by
      cases o <;> simp
    constructor
    · intro ho
      rw [← Result.toOption_eq_some_iff, ← toOption_order_swap a b, ho]
      rfl
    · intro ho
      rw [← Result.toOption_eq_some_iff, ← toOption_order_swap b a, ho]
      exact congrArg some hback
  · rw [← Result.toOption_eq_some_iff, toOption_relate_converse, Result.toOption_eq_some_iff]
  · have hequals := toOption_equals h hb ignoreCase
    refine ⟨fun t => ?_, fun o ho => ?_⟩
    · rw [← Result.toOption_eq_some_iff, hequals, Option.map_eq_some_iff]
      simp only [Result.toOption_eq_some_iff]
    · intro outcome
      have heq : a.equals b ignoreCase = .ok (o == some .eq) := by
        rw [← Result.toOption_eq_some_iff, hequals, ho]
        rfl
      have houtcome : outcome = (.ok (o.any Relation.less.holds), .ok (o == some .eq),
          .ok (o.any Relation.greater.holds)) := by
        rw [← heq, ← relate_of_order ho, ← relate_of_order ho]
      rw [houtcome, ← eq_none_of_order h hb ho]
      refine ⟨fun hsome => ?_, fun hnone => ?_⟩
      · cases o with
        | none => exact absurd rfl hsome
        | some o => cases o <;> simp [Relation.holds]
      · rw [hnone]
        rfl

/-- An integer beside a text that holds a fraction: the text is greater, whichever side it is on. -/
theorem order_coherent_of_text :
    (Value.long 2).order (.string " 2.5") = .ok (some .lt) ∧
      (Value.string " 2.5").order (.long 2) = .ok (some .gt) ∧
      (Value.long 2).equals (.string " 2.5") false = .ok false := by
  have horder : (Value.long 2).order (.string " 2.5") = .ok (some .lt) := by decide
  obtain ⟨hswap, -, hdomain⟩ := order_coherent (.long 2) (.string " 2.5")
  obtain ⟨hequals, -⟩ := hdomain .number rfl (by decide) false
  exact ⟨horder, (hswap _).1 horder, (hequals false).2 ⟨_, horder, rfl⟩⟩

end Value

end EventQuery
