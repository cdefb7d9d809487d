/-
**Sums, minima and maxima.**

Inputs that pass the check are integers, binary numbers and absent values.  The running value begins
as null, becomes a `long` or a binary number with the first number, and stays a binary number once
it is one; a step never looks for a number where there is none.  Over integers alone the minimum and
the maximum are those of the integers, and the sum is theirs as long as it fits in 64 bits, partial
sums included; the first one that does not fit makes it a binary number.

Main definitions:

* `Aggregate.result` — what an aggregation makes of inputs;
* `Aggregate.Kind.Folds` — **one step**, by the types of the running value and the input;
* `Aggregate.IsSum` — what the sum of integers is, and from which partial sum on a binary number;
* `Value.longs` — the integers among values;
* `Number.FitsLong`, `Number.total` — integers of 64 bits, and their sum.

Main results:

* `Aggregate.folds_result` — a step for a checked input;
* `Aggregate.result_eq_longs` — absent values count for nothing, and the width of integers neither;
* `Aggregate.result_min`, `Aggregate.result_max` — minimum and maximum of integers;
* `Aggregate.isSum_foldl` — sums of integers;
* `Aggregate.result_of_numbers` — **what sums, minima and maxima make of checked inputs**.
-/

import EventQuery.Pipeline.Aggregate
import Mathlib

set_option relaxedAutoImplicit false
set_option autoImplicit false

namespace EventQuery

/-! ### Integers -/

namespace Number

/-- **The integer fits in 64 bits.** -/
def FitsLong (n : Int) : Prop := -0x8000000000000000 ≤ n ∧ n < 0x8000000000000000

/-- The sum of integers, as an unbounded one. -/
def total (ns : List Int64) : Int := (ns.map Int64.toInt).sum

@[simp] theorem total_nil : total [] = 0 := rfl

@[simp] theorem total_append_singleton (ns : List Int64) (n : Int64) :
    total (ns ++ [n]) = total ns + n.toInt := by
  simp [total]

theorem fitsLong_toInt (n : Int64) : FitsLong n.toInt := ⟨Int64.le_toInt n, Int64.toInt_lt n⟩

theorem exists_long?_of_fitsLong {n : Int} (h : FitsLong n) :
    ∃ m, long? n = some m ∧ m.toInt = n := by
  obtain ⟨m, hm⟩ := Option.isSome_iff_exists.1 (long?_isSome_iff.2 h)
  exact ⟨m, hm, toInt_of_long? hm⟩

theorem long?_of_not_fitsLong {n : Int} (h : ¬ FitsLong n) : long? n = none := by
  rw [← Option.not_isSome_iff_eq_none, long?_isSome_iff]
  exact h

end Number

open Number

/-- **The integers among values**, all of 64 bits. -/
def Value.longs (vs : List Value) : List Int64 := vs.filterMap Value.asLong?

theorem Value.perm_longs {vs ws : List Value} (h : vs.Perm ws) : (longs vs).Perm (longs ws) :=
  h.filterMap asLong?

namespace Aggregate

/-! ### One step -/

/-- The aggregation is a sum, a minimum or a maximum. -/
def Kind.IsNumeric (kind : Kind) : Prop := kind = .sum ∨ kind = .min ∨ kind = .max

/-- **One step of a sum, a minimum or a maximum**: the running value, the input and the next running
value.  What is folded as an integer is one, and what is folded as a binary number has one. -/
inductive Kind.Folds (kind : Kind) : Value → Value → Value → Prop
  | absent {running input : Value} (h : input.isAbsent = true) : kind.Folds running input running
  | firstLong {input : Value} {n : Int64} (h : input.asLong? = some n) :
      kind.Folds .null input (.long n)
  | firstReal (x : Float) : kind.Folds .null (.real x) (.real x)
  | longs {a b : Int64} {input : Value} (h : input.asLong? = some b) :
      kind.Folds (.long a) input (foldLong kind a b)
  | realInput {a : Int64} (y : Float) :
      kind.Folds (.long a) (.real y) (.real (foldReal kind (Binary.ofInt a.toInt) y))
  | realRunning {x y : Float} {input : Value} (h : input.asFloat? = some y) :
      kind.Folds (.real x) input (.real (foldReal kind x y))

/-- The value is one that a sum, a minimum or a maximum can have. -/
def IsRunning (v : Value) : Prop := v = .null ∨ (∃ n, v = .long n) ∨ ∃ x, v = .real x

theorem foldLong_cases {kind : Kind} (a b : Int64) :
    (∃ n, foldLong kind a b = .long n) ∨ ∃ x, foldLong kind a b = .real x := by
  cases kind with
  | sum =>
      rw [foldLong, addLong]
      split
      · exact .inl ⟨_, rfl⟩
      · exact .inr ⟨_, rfl⟩
  | _ => exact .inl ⟨_, rfl⟩

/-- A step does not leave these values. -/
theorem Kind.Folds.isRunning {kind : Kind} {running input next : Value}
    (h : kind.Folds running input next) (hrunning : IsRunning running) : IsRunning next := by
  cases h with
  | absent => exact hrunning
  | firstLong => exact .inr (.inl ⟨_, rfl⟩)
  | longs => exact .inr (foldLong_cases _ _)
  | firstReal | realInput | realRunning => exact .inr (.inr ⟨_, rfl⟩)

/-- A binary number stays one. -/
theorem Kind.Folds.exists_real {kind : Kind} {x : Float} {input next : Value}
    (h : kind.Folds (.real x) input next) : ∃ y, next = .real y := by
  cases h with
  | absent | realRunning => exact ⟨_, rfl⟩

theorem foldNumber_of_isAbsent {kind : Kind} {input : Value} (h : input.isAbsent = true)
    (running : Value) : foldNumber kind running input = running := if_pos h

/-- **A step with an input that passes the check.** -/
theorem folds_foldNumber {kind : Kind} {running input : Value} (hrunning : IsRunning running)
    (hinput : isAddend input = true) :
    kind.Folds running input (foldNumber kind running input) := by
  rw [foldNumber.eq_def]
  split
  · exact .absent ‹_›
  · rename_i hpresent
    obtain rfl | ⟨a, rfl⟩ | ⟨x, rfl⟩ := hrunning
    · cases input with
      | int n => exact .firstLong rfl
      | long n => exact .firstLong rfl
      | real x => exact .firstReal x
      | _ => exact absurd hinput hpresent
    · cases input with
      | int n => exact .longs rfl
      | long n => exact .longs rfl
      | real y => exact .realInput y
      | _ => exact absurd hinput hpresent
    · cases input with
      | int n => exact .realRunning rfl
      | long n => exact .realRunning rfl
      | real y => exact .realRunning rfl
      | _ => exact absurd hinput hpresent

/-! ### All inputs -/

/-- **What an aggregation makes of inputs**, from its seed on. -/
def result (a : Aggregate) (inputs : List Value) : Value := inputs.foldl a.fold a.seed

variable {a : Aggregate} {inputs more : List Value}

theorem result_append (a : Aggregate) (inputs more : List Value) :
    a.result (inputs ++ more) = more.foldl a.fold (a.result inputs) := List.foldl_append

theorem result_append_singleton (a : Aggregate) (inputs : List Value) (v : Value) :
    a.result (inputs ++ [v]) = a.fold (a.result inputs) v := List.foldl_concat ..

section Numeric

variable (ha : a.kind.IsNumeric)
include ha

theorem seed_of_isNumeric : a.seed = .null := by
  obtain h | h | h := ha <;> rw [seed, h]

theorem fold_of_isNumeric (running input : Value) :
    a.fold running input = foldNumber a.kind running input := by
  rw [fold.eq_def]
  obtain h | h | h := ha <;> rw [h]

theorem check_eq_ok_iff {input : Value} : a.check input = .ok () ↔ isAddend input = true := by
  obtain h | h | h := ha <;> rw [check, h] <;> cases isAddend input <;> simp

end Numeric

/-! ### Integers alone -/

section Integers

variable {kind : Kind}

/-- The width of an integer makes no difference. -/
theorem foldNumber_of_asLong? {input : Value} {n : Int64} (h : input.asLong? = some n)
    (running : Value) : foldNumber kind running input = foldNumber kind running (.long n) := by
  cases input with
  | long m =>
      cases h
      rfl
  | int m =>
      cases h
      have hfloat : (Value.int m).asFloat? = (Value.long m.toInt64).asFloat? := by
        simp only [Value.asFloat?, Int32.toInt_toInt64]
      cases running with
      | null | long => rfl
      | _ =>
          change Value.real (foldReal kind _ ((Value.int m).asFloat?.getD 0)) = _
          rw [hfloat]
          rfl
  | _ => cases h

/-- **Only the integers among the inputs count.** -/
theorem foldl_eq_longs (haddends : ∀ v ∈ inputs, isAddend v = true)
    (hreal : ∀ x, Value.real x ∉ inputs) (running : Value) :
    inputs.foldl (foldNumber kind) running
      = (Value.longs inputs).foldl (fun r n => foldNumber kind r (.long n)) running := by
  induction inputs generalizing running with
  | nil => rfl
  | cons v rest ih =>
      replace ih := ih (fun w hw => haddends w (List.mem_cons_of_mem _ hw))
        fun x hx => hreal x (List.mem_cons_of_mem _ hx)
      cases hv : v.asLong? with
      | some n =>
          rw [Value.longs, List.filterMap_cons_some hv, List.foldl_cons, List.foldl_cons,
            foldNumber_of_asLong? hv]
          exact ih _
      | none =>
          have habsent : v.isAbsent = true := by
            have haddend := haddends v (List.mem_cons_self ..)
            cases v with
            | int | long => cases hv
            | real x => exact absurd (List.mem_cons_self ..) (hreal x)
            | _ => exact haddend
          rw [Value.longs, List.filterMap_cons_none hv, List.foldl_cons,
            foldNumber_of_isAbsent habsent]
          exact ih _

/-- A choice between integers, all along a list. -/
theorem foldl_longs_of_choice {f : Int64 → Int64 → Int64}
    (hf : ∀ a b, foldLong kind a b = .long (f a b)) (n : Int64) (ns : List Int64) :
    ns.foldl (fun r m => foldNumber kind r (.long m)) (.long n) = .long (ns.foldl f n) := by
  induction ns generalizing n with
  | nil => rfl
  | cons m ns ih =>
      have hstep : foldNumber kind (.long n) (.long m) = .long (f n m) := hf n m
      rw [List.foldl_cons, hstep, ih, List.foldl_cons]

theorem foldLong_min (a b : Int64) : foldLong .min a b = .long (min a b) := by
  change Value.long (if b < a then b else a) = .long (if a ≤ b then a else b)
  by_cases hle : a ≤ b
  · rw [if_pos hle, if_neg (Int64.not_lt.2 hle)]
  · rw [if_neg hle, if_pos (Int64.not_le.1 hle)]

theorem foldLong_max (a b : Int64) : foldLong .max a b = .long (max a b) := by
  change Value.long (if a < b then b else a) = .long (if a ≤ b then b else a)
  by_cases hlt : a < b
  · rw [if_pos hlt, if_pos (Int64.le_of_lt hlt)]
  · rw [if_neg hlt]
    split
    · rw [Int64.le_antisymm ‹a ≤ b› (Int64.not_lt.1 hlt)]
    · rfl

theorem min?_eq_of_perm {ns ms : List Int64} (h : ns.Perm ms) : ns.min? = ms.min? := by
  ext n
  rw [List.min?_eq_some_iff, List.min?_eq_some_iff]
  simp only [h.mem_iff]

theorem lawfulOrderMax_long : Std.LawfulOrderMax Int64 := by
  have hmax : ∀ a b : Int64, max a b = if a ≤ b then b else a := fun _ _ => rfl
  refine .of_max_le_iff (fun a b c => ?_) fun a b => ?_
  · rw [hmax]
    split <;> simp only [Int64.le_iff_toInt_le] at * <;> omega
  · rw [hmax]
    split
    · exact .inr rfl
    · exact .inl rfl

theorem max?_eq_of_perm {ns ms : List Int64} (h : ns.Perm ms) : ns.max? = ms.max? := by
  have := lawfulOrderMax_long
  ext n
  rw [List.max?_eq_some_iff, List.max?_eq_some_iff]
  simp only [h.mem_iff]

/-- A sum that has become a binary number. -/
theorem foldl_longs_real (x : Float) (ns : List Int64) :
    ns.foldl (fun r n => foldNumber .sum r (.long n)) (.real x)
      = .real (ns.foldl (fun x n => x + Binary.ofInt n.toInt) x) := by
  induction ns generalizing x with
  | nil => rfl
  | cons n ns ih => exact ih _

/-- **The sum of integers whose partial sums fit.** -/
theorem foldl_longs_of_fits {ns : List Int64} (hns : ns ≠ [])
    (hfits : ∀ p, p <+: ns → FitsLong (total p)) :
    ∃ s : Int64, s.toInt = total ns ∧
      ns.foldl (fun r n => foldNumber .sum r (.long n)) .null = .long s := by
  induction ns using List.reverseRecOn with
  | nil => exact absurd rfl hns
  | append_singleton ns n ih =>
      rw [List.foldl_append]
      by_cases hfirst : ns = []
      · subst hfirst
        exact ⟨n, (Int.zero_add _).symm.trans (total_append_singleton [] n).symm, rfl⟩
      · obtain ⟨s, hs, hfold⟩ := ih hfirst fun p hp => hfits p (hp.trans (List.prefix_append ..))
        have hfit := hfits _ List.prefix_rfl
        rw [total_append_singleton, ← hs] at hfit
        obtain ⟨m, hm, hvalue⟩ := exists_long?_of_fitsLong hfit
        refine ⟨m, by rw [hvalue, total_append_singleton, hs], ?_⟩
        have hstep : foldNumber .sum (.long s) (.long n) = addLong s n := rfl
        rw [hfold, List.foldl_cons, List.foldl_nil, hstep, addLong, hm]

/-- **The sum of integers from the first partial sum on that does not fit.** -/
theorem foldl_longs_of_overflow {before after : List Int64} {n : Int64}
    (hfits : ∀ p, p <+: before → FitsLong (total p))
    (hover : ¬ FitsLong (total before + n.toInt)) :
    (before ++ n :: after).foldl (fun r n => foldNumber .sum r (.long n)) .null
      = .real (after.foldl (fun x m => x + Binary.ofInt m.toInt)
          (Binary.ofInt (total before) + Binary.ofInt n.toInt)) := by
  have hbefore : before ≠ [] := by
    rintro rfl
    rw [total_nil, Int.zero_add] at hover
    exact hover (fitsLong_toInt n)
  obtain ⟨s, hs, hfold⟩ := foldl_longs_of_fits hbefore hfits
  have hstep : foldNumber .sum (.long s) (.long n) = addLong s n := rfl
  rw [List.foldl_append, hfold, List.foldl_cons, hstep, addLong, hs, long?_of_not_fitsLong hover]
  exact foldl_longs_real _ _

/-- A partial sum that does not fit: there is a first one. -/
theorem exists_first_overflow {ns : List Int64} (h : ∃ p, p <+: ns ∧ ¬ FitsLong (total p)) :
    ∃ before n after, ns = before ++ n :: after ∧ (∀ p, p <+: before → FitsLong (total p)) ∧
      ¬ FitsLong (total before + n.toInt) := by
  induction ns using List.reverseRecOn with
  | nil =>
      obtain ⟨p, hp, hover⟩ := h
      rw [List.prefix_nil.1 hp] at hover
      exact absurd ⟨by decide, by decide⟩ hover
  | append_singleton ns n ih =>
      by_cases hns : ∃ p, p <+: ns ∧ ¬ FitsLong (total p)
      · obtain ⟨before, m, after, rfl, hfits, hover⟩ := ih hns
        exact ⟨before, m, after ++ [n], by simp, hfits, hover⟩
      · simp only [not_exists, not_and, not_not] at hns
        obtain ⟨p, hp, hover⟩ := h
        obtain rfl | hp := List.prefix_concat_iff.1 hp
        · rw [total_append_singleton] at hover
          exact ⟨ns, n, [], rfl, hns, hover⟩
        · exact absurd (hns p hp) hover

end Integers

/-! ### The results -/

section Results

variable (ha : a.kind.IsNumeric) (haccepted : ∀ v ∈ inputs, a.check v = .ok ())
include ha haccepted

/-- The result is null, a `long` or a binary number. -/
theorem isRunning_result : IsRunning (a.result inputs) := by
  induction inputs using List.reverseRecOn with
  | nil => exact .inl (seed_of_isNumeric ha)
  | append_singleton inputs v ih =>
      have hrunning := ih fun w hw => haccepted w (List.mem_append_left _ hw)
      have hv := (check_eq_ok_iff ha).1 (haccepted v (by simp))
      rw [result_append_singleton, fold_of_isNumeric ha]
      exact (folds_foldNumber hrunning hv).isRunning hrunning

/-- **One more input.** -/
theorem folds_result {v : Value} (hv : a.check v = .ok ()) :
    a.kind.Folds (a.result inputs) v (a.result (inputs ++ [v])) := by
  rw [result_append_singleton, fold_of_isNumeric ha]
  exact folds_foldNumber (isRunning_result ha haccepted) ((check_eq_ok_iff ha).1 hv)

/-- **Over integers only the integers count.** -/
theorem result_eq_longs (hreal : ∀ x, Value.real x ∉ inputs) :
    a.result inputs
      = (Value.longs inputs).foldl (fun r n => foldNumber a.kind r (.long n)) .null := by
  rw [result, seed_of_isNumeric ha, ← foldl_eq_longs _ hreal]
  · congr
    funext running input
    exact fold_of_isNumeric ha running input
  · exact fun v hv => (check_eq_ok_iff ha).1 (haccepted v hv)

/-- **A minimum or a maximum of integers.** -/
theorem result_of_choice (hreal : ∀ x, Value.real x ∉ inputs) {f : Int64 → Int64 → Int64}
    (hf : ∀ m n, foldLong a.kind m n = .long (f m n)) :
    a.result inputs = match Value.longs inputs with
      | [] => .null
      | n :: ns => .long (ns.foldl f n) := by
  rw [result_eq_longs ha haccepted hreal]
  cases Value.longs inputs with
  | nil => rfl
  | cons n ns => exact foldl_longs_of_choice hf n ns

/-- **The minimum of integers.** -/
theorem result_min (hreal : ∀ x, Value.real x ∉ inputs) (hmin : a.kind = .min) :
    a.result inputs = ((Value.longs inputs).min?.map Value.long).getD .null := by
  rw [result_of_choice ha haccepted hreal (hmin ▸ foldLong_min)]
  cases Value.longs inputs <;> rfl

/-- **The maximum of integers.** -/
theorem result_max (hreal : ∀ x, Value.real x ∉ inputs) (hmax : a.kind = .max) :
    a.result inputs = ((Value.longs inputs).max?.map Value.long).getD .null := by
  rw [result_of_choice ha haccepted hreal (hmax ▸ foldLong_max)]
  cases Value.longs inputs <;> rfl

/-- Once a binary number, always one. -/
theorem exists_real_of_append (hmore : ∀ v ∈ more, a.check v = .ok ()) {x : Float}
    (hx : a.result inputs = .real x) : ∃ y, a.result (inputs ++ more) = .real y := by
  induction more using List.reverseRecOn with
  | nil => exact ⟨x, by rwa [List.append_nil]⟩
  | append_singleton more v ih =>
      have hbefore := fun w hw => hmore w (List.mem_append_left _ hw)
      obtain ⟨y, hy⟩ := ih hbefore
      have haccepted' : ∀ w ∈ inputs ++ more, a.check w = .ok () := fun w hw =>
        (List.mem_append.1 hw).elim (haccepted w) (hbefore w)
      have hstep := folds_result ha haccepted' (hmore v (by simp))
      rw [hy, List.append_assoc] at hstep
      exact hstep.exists_real

end Results

/-- An absent value changes nothing, wherever it stands. -/
theorem result_append_absent (ha : a.kind.IsNumeric) {v : Value} (hv : v.isAbsent = true) :
    a.result (inputs ++ v :: more) = a.result (inputs ++ more) := by
  rw [result_append, result_append, List.foldl_cons, fold_of_isNumeric ha,
    foldNumber_of_isAbsent hv]

/-- **The value is the sum of integers**: null without any; their sum as a `long` as long as all
partial sums fit in 64 bits; and from the first one on that does not, what is added up in binary. -/
structure IsSum (ns : List Int64) (v : Value) : Prop where
  of_nil : ns = [] → v = .null
  of_fits : ns ≠ [] → (∀ p, p <+: ns → FitsLong (total p)) →
    ∃ s : Int64, s.toInt = total ns ∧ v = .long s
  of_overflow : ∀ before n after, ns = before ++ n :: after →
    (∀ p, p <+: before → FitsLong (total p)) → ¬ FitsLong (total before + n.toInt) →
    v = .real (after.foldl (fun x m => x + Binary.ofInt m.toInt)
      (Binary.ofInt (total before) + Binary.ofInt n.toInt))
  exists_real : (∃ p, p <+: ns ∧ ¬ FitsLong (total p)) → ∃ x, v = .real x

theorem isSum_foldl (ns : List Int64) :
    IsSum ns (ns.foldl (fun r n => foldNumber .sum r (.long n)) .null) where
  of_nil := by
    rintro rfl
    rfl
  of_fits := foldl_longs_of_fits
  of_overflow := by
    rintro before n after rfl hfits hover
    exact foldl_longs_of_overflow hfits hover
  exists_real := by
    intro h
    obtain ⟨before, n, after, rfl, hfits, hover⟩ := exists_first_overflow h
    exact ⟨_, foldl_longs_of_overflow hfits hover⟩

/-- **What sums, minima and maxima make of inputs that pass the check.**  The result is null, a
`long` or a binary number; absent values change nothing; each step folds two integers or two binary
numbers that are there; and a binary number stays one.  Over integers alone the minimum and the
maximum are those of the integers, in whatever order these come, and the sum is theirs. -/
theorem result_of_numbers (ha : a.kind.IsNumeric) (haccepted : ∀ v ∈ inputs, a.check v = .ok ()) :
    IsRunning (a.result inputs) ∧
    (∀ v more, v.isAbsent = true → a.result (inputs ++ v :: more) = a.result (inputs ++ more)) ∧
    (∀ v, a.check v = .ok () → a.kind.Folds (a.result inputs) v (a.result (inputs ++ [v]))) ∧
    (∀ x more, a.result inputs = .real x → (∀ v ∈ more, a.check v = .ok ()) →
      ∃ y, a.result (inputs ++ more) = .real y) ∧
    ((∀ x, Value.real x ∉ inputs) →
      (a.kind = .min →
        a.result inputs = ((Value.longs inputs).min?.map Value.long).getD .null ∧
        ∀ inputs', inputs.Perm inputs' → a.result inputs' = a.result inputs) ∧
      (a.kind = .max →
        a.result inputs = ((Value.longs inputs).max?.map Value.long).getD .null ∧
        ∀ inputs', inputs.Perm inputs' → a.result inputs' = a.result inputs) ∧
      (a.kind = .sum → IsSum (Value.longs inputs) (a.result inputs))) := by
  have haccepted' : ∀ {inputs'}, inputs.Perm inputs' → ∀ v ∈ inputs', a.check v = .ok () :=
    fun hperm v hv => haccepted v (hperm.mem_iff.2 hv)
  refine ⟨isRunning_result ha haccepted, fun v more => result_append_absent ha,
    fun v => folds_result ha haccepted,
    fun x more hx hmore => exists_real_of_append ha haccepted hmore hx, fun hreal => ?_⟩
  have hreal' : ∀ {inputs'}, inputs.Perm inputs' → ∀ x, Value.real x ∉ inputs' :=
    fun hperm x hx => hreal x (hperm.mem_iff.2 hx)
  refine ⟨fun hmin => ⟨result_min ha haccepted hreal hmin, fun inputs' hperm => ?_⟩,
    fun hmax => ⟨result_max ha haccepted hreal hmax, fun inputs' hperm => ?_⟩, fun hsum => ?_⟩
  · rw [result_min ha haccepted hreal hmin, result_min ha (haccepted' hperm) (hreal' hperm) hmin,
      min?_eq_of_perm (Value.perm_longs hperm)]
  · rw [result_max ha haccepted hreal hmax, result_max ha (haccepted' hperm) (hreal' hperm) hmax,
      max?_eq_of_perm (Value.perm_longs hperm)]
  · rw [result_eq_longs ha haccepted hreal, hsum]
    exact isSum_foldl _

/-- A sum that overflows over an absent value. -/
theorem result_of_overflowing_sum :
    let a : Aggregate := ⟨"sum", "sum", .sum, none⟩
    let inputs : List Value := [.long 9223372036854775807, .null, .int 1, .long 5]
    a.kind.IsNumeric ∧ (∀ v ∈ inputs, a.check v = .ok ()) ∧
      a.result inputs
        = .real (Binary.ofInt 9223372036854775807 + Binary.ofInt 1 + Binary.ofInt 5) := by
  intro a inputs
  have ha : a.kind.IsNumeric := .inl rfl
  have haccepted : ∀ v ∈ inputs, a.check v = .ok () := by
    intro v hv
    rw [check_eq_ok_iff ha]
    simp only [inputs, List.mem_cons, List.not_mem_nil, or_false] at hv
    obtain rfl | rfl | rfl | rfl := hv <;> rfl
  have hreal : ∀ x, Value.real x ∉ inputs := by simp [inputs]
  obtain ⟨-, -, -, -, hlongs⟩ := result_of_numbers ha haccepted
  obtain ⟨-, -, hsum⟩ := hlongs hreal
  refine ⟨ha, haccepted, ((hsum rfl).of_overflow [9223372036854775807] 1 [5] rfl ?_ ?_)⟩
  · intro p hp
    obtain rfl | ⟨t, rfl, ht⟩ := List.prefix_cons_iff.1 hp
    · exact ⟨by decide, by decide⟩
    · rw [List.prefix_nil.1 ht]
      exact ⟨by decide, by decide⟩
  · exact fun hfits => absurd hfits.2 (by decide)

end Aggregate

end EventQuery
