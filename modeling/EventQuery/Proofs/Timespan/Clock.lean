/-
**The clock form of timespans.**

A text in the clock form is `[-][d.]hh:mm[:ss[.f]]`.  What the reader takes is this form with a sign
allowed inside each field as well, and with upper bounds only: hours reach at most 23, minutes and
seconds at most 59.  Where no field has a sign of its own the value is the sum of the fields, and
every amount on the way is in range.  A sign inside a field can make an amount that no timespan
holds.

Main definitions:

* `Timespan.ClockForm` — **the clock form** without its sign, over a way of writing fields;
* `Timespan.Written` — the clock form with its sign;
* `Timespan.ClockFields.value` — the sum of the fields in nanoseconds;
* `Timespan.ClockFields.Overruns` — an amount comes up that no timespan holds.

Main results:

* `Timespan.readFields?_of_form`, `Timespan.form_of_readFields?` — the fields that are read;
* `Timespan.ClockFields.sum_eq_ok_iff`, `Timespan.ClockFields.sum_eq_overrun_iff` — what becomes of
  them;
* `Timespan.ClockFields.Nonneg.sum_eq_ok_iff`, `Timespan.ClockFields.Nonneg.sum_ne_overrun` — **fields
  that are not negative** give their sum, and never overrun.
-/

import EventQuery.Proofs.Except
import EventQuery.Proofs.Number.Digits
import EventQuery.Proofs.Text.Splitting
import EventQuery.Timespan.Text
import Mathlib.Algebra.Order.BigOperators.Group.List
import Mathlib.Algebra.Order.Ring.Int
import Mathlib.Data.List.Basic

set_option relaxedAutoImplicit false
set_option autoImplicit false

namespace EventQuery

-- Powers are those of the core library, whatever other instances are in scope.
attribute [local instance (2000)] instPowNat

namespace Timespan

open Digits (IsNumber Signed)

/-! ### The form of a text -/

section Forms

variable (Field : List Char → Int → Prop)

/-- Hours with or without days in front: `hh` or `d.hh`. -/
inductive HeadForm : List Char → Int → Int → Prop
  | hours {hours : List Char} {h : Int} (hh : Field hours h) : HeadForm hours 0 h
  | days {days hours : List Char} {d h : Int} (hd : Field days d) (hh : Field hours h) :
      HeadForm (days ++ '.' :: hours) d h

/-- Seconds with or without a fraction of one to nine digits: `ss` or `ss.f`. -/
inductive TailForm : List Char → Int → Int → Prop
  | whole {seconds : List Char} {s : Int} (hs : Field seconds s) : TailForm seconds s 0
  | fraction {seconds digits : List Char} {s : Int} (hs : Field seconds s)
      (hf : IsNumber digits) (hlength : digits.length ≤ 9) :
      TailForm (seconds ++ '.' :: digits) s (Digits.read digits * 10 ^ (9 - digits.length) : Nat)

/-- **The clock form without its sign**: `[d.]hh:mm` or `[d.]hh:mm:ss[.f]`. -/
inductive ClockForm : List Char → ClockFields → Prop
  | short {head minutes : List Char} {d h m : Int} (hhead : HeadForm Field head d h)
      (hm : Field minutes m) :
      ClockForm (head ++ ':' :: minutes) { days := d, hours := h, minutes := m }
  | long {head minutes tail : List Char} {d h m s n : Int} (hhead : HeadForm Field head d h)
      (hm : Field minutes m) (htail : TailForm Field tail s n) :
      ClockForm (head ++ ':' :: (minutes ++ ':' :: tail))
        { days := d, hours := h, minutes := m, seconds := s, nanos := n }

/-- **The clock form with its sign.**  A minus sign in front belongs to the whole text and not to
the first field. -/
def Written (cs : List Char) (negative : Bool) (c : ClockFields) : Prop :=
  ∃ body, cs = (if negative then '-' :: body else body) ∧ ClockForm Field body c
    ∧ (negative = false → body.head? ≠ some '-')

end Forms

/-- A field of digits only. -/
def Plain (cs : List Char) (n : Int) : Prop := IsNumber cs ∧ n = Digits.read cs

theorem Plain.signed {cs : List Char} {n : Int} (h : Plain cs n) : Signed cs n := by
  obtain ⟨hnumber, rfl⟩ := h
  exact .plain hnumber

theorem Plain.nonneg {cs : List Char} {n : Int} (h : Plain cs n) : 0 ≤ n := by
  obtain ⟨-, rfl⟩ := h
  exact Int.natCast_nonneg _

/-! ### Ways of writing fields -/

section Monotone

variable {F G : List Char → Int → Prop} (hFG : ∀ cs n, F cs n → G cs n)

include hFG

theorem HeadForm.mono {cs : List Char} {d h : Int} (hform : HeadForm F cs d h) :
    HeadForm G cs d h := by
  cases hform with
  | hours hh => exact .hours (hFG _ _ hh)
  | days hd hh => exact .days (hFG _ _ hd) (hFG _ _ hh)

theorem TailForm.mono {cs : List Char} {s n : Int} (hform : TailForm F cs s n) :
    TailForm G cs s n := by
  cases hform with
  | whole hs => exact .whole (hFG _ _ hs)
  | fraction hs hf hlength => exact .fraction (hFG _ _ hs) hf hlength

theorem ClockForm.mono {cs : List Char} {c : ClockFields} (hform : ClockForm F cs c) :
    ClockForm G cs c := by
  cases hform with
  | short hhead hm => exact .short (hhead.mono hFG) (hFG _ _ hm)
  | long hhead hm htail => exact .long (hhead.mono hFG) (hFG _ _ hm) (htail.mono hFG)

theorem Written.mono {cs : List Char} {negative : Bool} {c : ClockFields}
    (h : Written F cs negative c) : Written G cs negative c := by
  obtain ⟨body, hcs, hform, hsign⟩ := h
  exact ⟨body, hcs, hform.mono hFG, hsign⟩

end Monotone

/-! ### Reading the fields -/

/-- A number of 64 bits. -/
def Fits (n : Int) : Prop := -0x8000000000000000 ≤ n ∧ n < 0x8000000000000000

instance (n : Int) : Decidable (Fits n) := inferInstanceAs (Decidable (_ ∧ _))

theorem notMem_of_signed {cs : List Char} {n : Int} (h : Signed cs n) : '.' ∉ cs ∧ ':' ∉ cs := by
  have hdigits {ds : List Char} (hds : IsNumber ds) : '.' ∉ ds ∧ ':' ∉ ds :=
    ⟨hds.notMem (by decide), hds.notMem (by decide)⟩
  have hsign {d : Char} {ds : List Char} (hd : d ≠ '.' ∧ d ≠ ':') (hds : IsNumber ds) :
      '.' ∉ d :: ds ∧ ':' ∉ d :: ds := by
    obtain ⟨hpoint, hcolon⟩ := hdigits hds
    simp only [List.mem_cons, not_or]
    exact ⟨⟨hd.1.symm, hpoint⟩, hd.2.symm, hcolon⟩
  cases h with
  | plain hds => exact hdigits hds
  | plus hds => exact hsign (by decide) hds
  | minus hds => exact hsign (by decide) hds

/-- A number with an optional sign is a field when it fits. -/
theorem field?_of_signed {cs : List Char} {n : Int} (h : Signed cs n) :
    field? cs = if Fits n then some n else none := by
  rw [field?, Number.readLong?, Digits.readInt?_eq_some_iff.2 h, Option.bind_some]
  by_cases hn : Fits n
  · obtain ⟨x, hx⟩ := Option.isSome_iff_exists.1 (Number.long?_isSome_iff.2 hn)
    rw [hx, if_pos hn, Option.map_some, Number.toInt_of_long? hx]
  · have hnone : Number.long? n = none := if_neg hn
    rw [hnone, if_neg hn, Option.map_none]

theorem signed_of_field? {cs : List Char} {n : Int} (h : field? cs = some n) :
    Signed cs n ∧ Fits n := by
  obtain ⟨x, hx, rfl⟩ := Option.map_eq_some_iff.1 h
  obtain ⟨m, hm, hlong⟩ := Option.bind_eq_some_iff.1 hx
  rw [Number.toInt_of_long? hlong]
  refine ⟨Digits.readInt?_eq_some_iff.1 hm, Number.long?_isSome_iff.1 ?_⟩
  rw [hlong]
  rfl

/-- One to nine digits are a fraction of a second. -/
theorem fractionNanos?_eq_some_iff {cs : List Char} {n : Int} : fractionNanos? cs = some n
    ↔ IsNumber cs ∧ cs.length ≤ 9 ∧ n = (Digits.read cs * 10 ^ (9 - cs.length) : Nat) := by
  have hcond : (cs.isEmpty || decide (9 < cs.length) || !cs.all Digits.isDigit) = true
      ↔ ¬ (IsNumber cs ∧ cs.length ≤ 9) := by
    simp only [IsNumber, Bool.or_eq_true, List.isEmpty_iff, decide_eq_true_eq, Bool.not_eq_true',
      ← Bool.not_eq_true, not_and_or, not_not, not_le, ne_eq]
    exact or_right_comm
  rw [fractionNanos?, Digits.read_append_zeros]
  by_cases hfraction : IsNumber cs ∧ cs.length ≤ 9
  · rw [if_neg (fun h => hcond.1 h hfraction), Option.some.injEq, eq_comm, and_assoc.symm]
    exact (and_iff_right hfraction).symm
  · rw [if_pos (hcond.2 hfraction), ← and_assoc]
    exact ⟨fun h => absurd h (Option.some_ne_none n).symm, fun h => absurd h.1 hfraction⟩

/-- The fields that are read fit. -/
def ClockFields.Fits (c : ClockFields) : Prop :=
  Timespan.Fits c.days ∧ Timespan.Fits c.hours ∧ Timespan.Fits c.minutes ∧ Timespan.Fits c.seconds

instance (c : ClockFields) : Decidable c.Fits := inferInstanceAs (Decidable (_ ∧ _))

theorem readHead?_of_form {cs : List Char} {d h : Int} (hform : HeadForm Signed cs d h) :
    readHead? cs = if Fits d ∧ Fits h then some (d, h) else none := by
  cases hform with
  | hours hh =>
      have hnone : Text.split2 '.' cs = none := Text.split2_eq_none_iff.2 (notMem_of_signed hh).1
      have hzero : Fits 0 := by decide
      rw [readHead?, hnone, field?_of_signed hh]
      by_cases hfits : Fits h <;> simp [hfits, hzero]
  | days hd hh =>
      rw [readHead?, Text.split2_eq_some_iff.2 ⟨rfl, (notMem_of_signed hd).1⟩]
      simp only [field?_of_signed hd, field?_of_signed hh]
      by_cases hdays : Fits d <;> by_cases hhours : Fits h <;> simp [hdays, hhours]

theorem form_of_readHead? {cs : List Char} {d h : Int} (hread : readHead? cs = some (d, h)) :
    HeadForm Signed cs d h ∧ Fits d ∧ Fits h := by
  unfold readHead? at hread
  split at hread
  · next days hours hsplit =>
      obtain ⟨rfl, -⟩ := Text.split2_eq_some_iff.1 hsplit
      simp only [Option.bind_eq_bind, Option.bind_eq_some_iff, Option.pure_def, Option.some.injEq,
        Prod.mk.injEq] at hread
      obtain ⟨m, hm, n, hn, rfl, rfl⟩ := hread
      obtain ⟨hdays, hfits⟩ := signed_of_field? hm
      obtain ⟨hhours, hfits'⟩ := signed_of_field? hn
      exact ⟨.days hdays hhours, hfits, hfits'⟩
  · obtain ⟨n, hn, heq⟩ := Option.map_eq_some_iff.1 hread
    cases heq
    obtain ⟨hhours, hfits⟩ := signed_of_field? hn
    exact ⟨.hours hhours, by decide, hfits⟩

theorem readTail?_of_form {cs : List Char} {s n : Int} (hform : TailForm Signed cs s n) :
    readTail? cs = if Fits s then some (s, n) else none := by
  cases hform with
  | whole hs =>
      have hnone : Text.split2 '.' cs = none := Text.split2_eq_none_iff.2 (notMem_of_signed hs).1
      rw [readTail?, hnone, field?_of_signed hs]
      by_cases hfits : Fits s <;> simp [hfits]
  | fraction hs hf hlength =>
      rw [readTail?, Text.split2_eq_some_iff.2 ⟨rfl, (notMem_of_signed hs).1⟩]
      simp only [field?_of_signed hs, fractionNanos?_eq_some_iff.2 ⟨hf, hlength, rfl⟩]
      by_cases hfits : Fits s <;> simp [hfits]

theorem form_of_readTail? {cs : List Char} {s n : Int} (hread : readTail? cs = some (s, n)) :
    TailForm Signed cs s n ∧ Fits s := by
  unfold readTail? at hread
  split at hread
  · next whole fraction hsplit =>
      obtain ⟨rfl, -⟩ := Text.split2_eq_some_iff.1 hsplit
      simp only [Option.bind_eq_bind, Option.bind_eq_some_iff, Option.pure_def, Option.some.injEq,
        Prod.mk.injEq] at hread
      obtain ⟨m, hm, k, hk, rfl, rfl⟩ := hread
      obtain ⟨hseconds, hfits⟩ := signed_of_field? hm
      obtain ⟨hf, hlength, rfl⟩ := fractionNanos?_eq_some_iff.1 hk
      exact ⟨.fraction hseconds hf hlength, hfits⟩
  · obtain ⟨m, hm, heq⟩ := Option.map_eq_some_iff.1 hread
    cases heq
    obtain ⟨hseconds, hfits⟩ := signed_of_field? hm
    exact ⟨.whole hseconds, hfits⟩

theorem HeadForm.noColon {cs : List Char} {d h : Int} (hform : HeadForm Signed cs d h) :
    ':' ∉ cs := by
  cases hform with
  | hours hh => exact (notMem_of_signed hh).2
  | days hd hh => simp [notMem_of_signed hd, notMem_of_signed hh]

theorem TailForm.noColon {cs : List Char} {s n : Int} (hform : TailForm Signed cs s n) :
    ':' ∉ cs := by
  cases hform with
  | whole hs => exact (notMem_of_signed hs).2
  | fraction hs hf _ =>
      have hdigits : ':' ∉ _ := hf.notMem (by decide)
      simp [notMem_of_signed hs, hdigits]

/-- **The fields of a text in the clock form are read** when they fit. -/
theorem readFields?_of_form {cs : List Char} {c : ClockFields} (hform : ClockForm Signed cs c) :
    readFields? cs = if c.Fits then some c else none := by
  cases hform with
  | @short head minutes d h m hhead hm =>
      have hparts : Text.splitOn [':'] (head ++ ':' :: minutes) = [head, minutes] := by
        refine Text.splitOn_eq_iff.2 ⟨by simp, by simp [List.intercalate], ?_⟩
        intro part hpart
        simp only [List.mem_cons, List.not_mem_nil, or_false] at hpart
        rcases hpart with rfl | rfl
        · exact hhead.noColon
        · exact (notMem_of_signed hm).2
      have hzero : Fits 0 := by decide
      rw [readFields?, hparts]
      simp only [readHead?_of_form hhead, field?_of_signed hm, ClockFields.Fits, hzero]
      by_cases hfits : Fits d ∧ Fits h <;> by_cases hminutes : Fits m <;>
        simp [hfits, hminutes]
  | @long head minutes tail d h m s n hhead hm htail =>
      have hparts : Text.splitOn [':'] (head ++ ':' :: (minutes ++ ':' :: tail))
          = [head, minutes, tail] := by
        refine Text.splitOn_eq_iff.2 ⟨by simp, by simp [List.intercalate], ?_⟩
        intro part hpart
        simp only [List.mem_cons, List.not_mem_nil, or_false] at hpart
        rcases hpart with rfl | rfl | rfl
        · exact hhead.noColon
        · exact (notMem_of_signed hm).2
        · exact htail.noColon
      rw [readFields?, hparts]
      simp only [readHead?_of_form hhead, field?_of_signed hm, readTail?_of_form htail,
        ClockFields.Fits]
      by_cases hfits : Fits d ∧ Fits h <;> by_cases hminutes : Fits m <;>
        by_cases hseconds : Fits s <;> simp [hfits, hminutes, hseconds]

/-- **What is read as fields is in the clock form**, with signs inside the fields allowed. -/
theorem form_of_readFields? {cs : List Char} {c : ClockFields} (hread : readFields? cs = some c) :
    ClockForm Signed cs c ∧ c.Fits := by
  have hzero : Fits 0 := by decide
  unfold readFields? at hread
  split at hread
  · next head minutes hparts =>
      obtain ⟨-, rfl, -⟩ := Text.splitOn_eq_iff.1 hparts
      simp only [Option.bind_eq_bind, Option.bind_eq_some_iff, Option.pure_def, Option.some.injEq,
        Prod.exists] at hread
      obtain ⟨d, h, hhead, m, hm, rfl⟩ := hread
      obtain ⟨hhead, hd, hh⟩ := form_of_readHead? hhead
      obtain ⟨hminutes, hm⟩ := signed_of_field? hm
      rw [show [':'].intercalate [head, minutes] = head ++ ':' :: minutes by
        simp [List.intercalate]]
      exact ⟨.short hhead hminutes, hd, hh, hm, hzero⟩
  · next head minutes tail hparts =>
      obtain ⟨-, rfl, -⟩ := Text.splitOn_eq_iff.1 hparts
      simp only [Option.bind_eq_bind, Option.bind_eq_some_iff, Option.pure_def, Option.some.injEq,
        Prod.exists] at hread
      obtain ⟨d, h, hhead, m, hm, s, n, htail, rfl⟩ := hread
      obtain ⟨hhead, hd, hh⟩ := form_of_readHead? hhead
      obtain ⟨hminutes, hm⟩ := signed_of_field? hm
      obtain ⟨htail, hs⟩ := form_of_readTail? htail
      rw [show [':'].intercalate [head, minutes, tail] = head ++ ':' :: (minutes ++ ':' :: tail) by
        simp [List.intercalate]]
      exact ⟨.long hhead hminutes htail, hd, hh, hm, hs⟩
  · cases hread

/-! ### Adding amounts -/

/-- A timespan is its number of nanoseconds. -/
theorem nanos_inj {s t : Timespan} : s.nanos = t.nanos ↔ s = t := by
  cases s
  cases t
  simp

namespace Failure

variable {α : Type}

theorem unless_eq_ok_iff {failure : Failure} {o : Option α} {a : α} :
    failure.unless o = .ok a ↔ o = some a := by
  cases o <;> simp [Failure.unless]

theorem unless_eq_error_iff {failure other : Failure} {o : Option α} :
    failure.unless o = .error other ↔ o = none ∧ other = failure := by
  cases o <;> simp [Failure.unless, eq_comm]

end Failure

/-- A number of nanoseconds that is a timespan. -/
def InRange (n : Int) : Prop := -limit ≤ n ∧ n ≤ limit

theorem ofNanos?_eq_none_iff {n : Int} : ofNanos? n = none ↔ ¬ InRange n := by
  rw [ofNanos?]
  split
  · next h => simp [InRange, h]
  · next h => simp [InRange, h]

/-- A number of seconds in nanoseconds. -/
def ofWhole (seconds : Int) : Int := seconds * 1000000000

theorem ofSeconds?_eq_some_iff {seconds : Int} {t : Timespan} :
    ofSeconds? seconds = some t ↔ t.nanos = ofWhole seconds := ofNanos?_eq_some_iff

/-- **Amounts that can be added** one after the other: each of them and each sum is in range. -/
def Adds (n : Int) : List Int → Prop
  | [] => True
  | a :: amounts => InRange a ∧ InRange (n + a) ∧ Adds (n + a) amounts

/-- Adding amounts one after the other comes to **an amount out of range**. -/
def Overruns (n : Int) : List Int → Prop
  | [] => False
  | a :: amounts => ¬ InRange a ∨ InRange a ∧ InRange (n + a) ∧ Overruns (n + a) amounts

theorem Adds.inRange_sum {n : Int} {amounts : List Int} (hn : InRange n) (h : Adds n amounts) :
    InRange (n + amounts.sum) := by
  induction amounts generalizing n with
  | nil => simpa using hn
  | cons a amounts ih =>
      rw [List.sum_cons, ← Int.add_assoc]
      exact ih h.2.1 h.2.2

/-- Amounts that are not negative can be added when their sum is in range. -/
theorem adds_of_nonneg {n : Int} {amounts : List Int} (hn : 0 ≤ n) (h : ∀ a ∈ amounts, 0 ≤ a)
    (hsum : n + amounts.sum ≤ limit) : Adds n amounts := by
  induction amounts generalizing n with
  | nil => trivial
  | cons a amounts ih =>
      obtain ⟨ha, hrest⟩ := List.forall_mem_cons.1 h
      rw [List.sum_cons, ← Int.add_assoc] at hsum
      have hnonneg : 0 ≤ amounts.sum := List.sum_nonneg hrest
      have hlimit : 0 ≤ limit := by decide
      exact ⟨⟨by omega, by omega⟩, ⟨by omega, by omega⟩, ih (by omega) hrest hsum⟩

theorem not_overruns_of_inRange {n : Int} {amounts : List Int} (h : ∀ a ∈ amounts, InRange a) :
    ¬ Overruns n amounts := by
  induction amounts generalizing n with
  | nil => exact id
  | cons a amounts ih =>
      obtain ⟨ha, hrest⟩ := List.forall_mem_cons.1 h
      rintro (hout | ⟨-, -, hover⟩)
      · exact hout ha
      · exact ih hrest hover

section Amounts

variable {total t : Timespan}

theorem addAmount_eq_ok_iff {amount : Int} : addAmount total amount = .ok t
    ↔ InRange (ofWhole amount) ∧ t.nanos = total.nanos + ofWhole amount := by
  rw [addAmount, Except.bind_eq_ok_iff]
  constructor
  · rintro ⟨part, hpart, hsum⟩
    rw [Failure.unless_eq_ok_iff, ofSeconds?_eq_some_iff] at hpart
    rw [Failure.unless_eq_ok_iff, add?, ofNanos?_eq_some_iff, hpart] at hsum
    exact ⟨hpart ▸ part.in_range, hsum⟩
  · rintro ⟨hpart, hsum⟩
    exact ⟨⟨_, hpart⟩, Failure.unless_eq_ok_iff.2 (ofSeconds?_eq_some_iff.2 rfl),
      Failure.unless_eq_ok_iff.2 (ofNanos?_eq_some_iff.2 hsum)⟩

theorem addAmount_eq_overrun_iff {amount : Int} :
    addAmount total amount = .error .overrun ↔ ¬ InRange (ofWhole amount) := by
  rw [addAmount, Except.bind_eq_error_iff]
  constructor
  · rintro (hpart | ⟨part, -, hsum⟩)
    · exact ofNanos?_eq_none_iff.1 (Failure.unless_eq_error_iff.1 hpart).1
    · cases (Failure.unless_eq_error_iff.1 hsum).2
  · intro hout
    exact .inl (Failure.unless_eq_error_iff.2 ⟨ofNanos?_eq_none_iff.2 hout, rfl⟩)

/-- **Adding amounts** gives their sum when they can be added. -/
theorem foldlM_addAmount_eq_ok_iff {amounts : List Int} : amounts.foldlM addAmount total = .ok t
    ↔ Adds total.nanos (amounts.map ofWhole)
      ∧ t.nanos = total.nanos + (amounts.map ofWhole).sum := by
  induction amounts generalizing total with
  | nil =>
      simp [Adds, pure, Except.pure, nanos_inj, eq_comm]
  | cons amount amounts ih =>
      rw [List.foldlM_cons, Except.bind_eq_ok_iff, List.map_cons, Adds, List.sum_cons,
        ← Int.add_assoc]
      constructor
      · rintro ⟨next, hadd, hrest⟩
        obtain ⟨hpart, hnext⟩ := addAmount_eq_ok_iff.1 hadd
        obtain ⟨hadds, hsum⟩ := ih.1 hrest
        rw [hnext] at hadds hsum
        exact ⟨⟨hpart, hnext ▸ next.in_range, hadds⟩, hsum⟩
      · rintro ⟨⟨hpart, hnext, hadds⟩, hsum⟩
        exact ⟨⟨_, hnext⟩, addAmount_eq_ok_iff.2 ⟨hpart, rfl⟩, ih.2 ⟨hadds, hsum⟩⟩

/-- **Adding amounts overruns** where one of them is out of range. -/
theorem foldlM_addAmount_eq_overrun_iff {amounts : List Int} :
    amounts.foldlM addAmount total = .error .overrun
      ↔ Overruns total.nanos (amounts.map ofWhole) := by
  induction amounts generalizing total with
  | nil => simp [Overruns, pure, Except.pure]
  | cons amount amounts ih =>
      rw [List.foldlM_cons, Except.bind_eq_error_iff, List.map_cons, Overruns,
        addAmount_eq_overrun_iff]
      refine or_congr_right ?_
      constructor
      · rintro ⟨next, hadd, hrest⟩
        obtain ⟨hpart, hnext⟩ := addAmount_eq_ok_iff.1 hadd
        exact ⟨hpart, hnext ▸ next.in_range, hnext ▸ ih.1 hrest⟩
      · rintro ⟨hpart, hnext, hover⟩
        exact ⟨⟨_, hnext⟩, addAmount_eq_ok_iff.2 ⟨hpart, rfl⟩, ih.2 hover⟩

end Amounts

/-! ### The sum of the fields -/

namespace ClockFields

variable (c : ClockFields)

/-- Hours are at most 23, minutes and seconds at most 59. -/
def Bounded : Prop := c.hours ≤ 23 ∧ c.minutes ≤ 59 ∧ c.seconds ≤ 59

/-- The days in nanoseconds. -/
def front : Int := ofWhole (c.days * 86400)

/-- Hours, minutes and seconds in nanoseconds. -/
def amounts : List Int := [c.hours * 3600, c.minutes * 60, c.seconds].map ofWhole

/-- **The sum of the fields** in nanoseconds. -/
def total : Int := c.front + c.amounts.sum + c.nanos

/-- The sum with the sign of the whole text. -/
def value (negative : Bool) : Int := if negative then -c.total else c.total

/-- **The sum comes to an amount out of range**, from days that are in range. -/
def Overruns : Prop := InRange c.front ∧ Timespan.Overruns c.front c.amounts

/-- No field is negative, and the fraction is less than a second. -/
def Nonneg : Prop :=
  0 ≤ c.days ∧ 0 ≤ c.hours ∧ 0 ≤ c.minutes ∧ 0 ≤ c.seconds ∧ 0 ≤ c.nanos

variable {c}

theorem bounded_iff : c.Bounded ↔ ¬ (23 < c.hours ∨ 59 < c.minutes ∨ 59 < c.seconds) := by
  rw [Bounded]
  omega

/-- **When the fields give a timespan.** -/
theorem sum_eq_ok_iff {t : Timespan} : c.sum = .ok t
    ↔ c.Bounded ∧ InRange c.front ∧ Adds c.front c.amounts ∧ t.nanos = c.total := by
  rw [sum, bounded_iff]
  split
  · next hbound => simp [hbound]
  · next hbound =>
      simp only [Except.bind_eq_ok_iff, Failure.unless_eq_ok_iff, ofSeconds?_eq_some_iff,
        ofNanos?_eq_some_iff, foldlM_addAmount_eq_ok_iff]
      constructor
      · rintro ⟨first, (hfirst : first.nanos = c.front), last, ⟨hadds, hlast⟩, hsum⟩
        rw [hfirst] at hadds hlast
        rw [hlast] at hsum
        exact ⟨hbound, hfirst ▸ first.in_range, hadds, hsum⟩
      · rintro ⟨-, hfront, hadds, hsum⟩
        exact ⟨⟨_, hfront⟩, rfl, ⟨_, hadds.inRange_sum hfront⟩, ⟨hadds, rfl⟩, hsum⟩

/-- **When the sum of the fields overruns.** -/
theorem sum_eq_overrun_iff : c.sum = .error .overrun ↔ c.Bounded ∧ c.Overruns := by
  rw [sum, bounded_iff]
  split
  · next hbound => simp [hbound]
  · next hbound =>
      simp only [Except.bind_eq_error_iff, Failure.unless_eq_error_iff, Failure.unless_eq_ok_iff,
        ofSeconds?_eq_some_iff, foldlM_addAmount_eq_overrun_iff, reduceCtorEq, and_false,
        exists_false, or_false, false_or]
      constructor
      · rintro ⟨first, (hfirst : first.nanos = c.front), hover⟩
        exact ⟨hbound, hfirst ▸ first.in_range, hfirst ▸ hover⟩
      · rintro ⟨-, hfront, hover⟩
        exact ⟨⟨_, hfront⟩, rfl, hover⟩

theorem Nonneg.amounts_nonneg (h : c.Nonneg) : ∀ a ∈ c.amounts, 0 ≤ a := by
  obtain ⟨-, hhours, hminutes, hseconds, -⟩ := h
  simp only [amounts, ofWhole, List.map_cons, List.map_nil, List.forall_mem_cons,
    List.not_mem_nil, false_implies, implies_true, and_true]
  omega

theorem Nonneg.front_nonneg (h : c.Nonneg) : 0 ≤ c.front := by
  have hdays := h.1
  rw [front, ofWhole]
  omega

theorem Nonneg.front_le_total (h : c.Nonneg) : c.front ≤ c.total := by
  have hamounts : 0 ≤ c.amounts.sum := List.sum_nonneg h.amounts_nonneg
  have hnanos := h.2.2.2.2
  rw [total]
  omega

/-- **Fields that are not negative** give their sum whenever it is in range, and never overrun. -/
theorem Nonneg.sum_eq_ok_iff (h : c.Nonneg) {t : Timespan} :
    c.sum = .ok t ↔ c.Bounded ∧ t.nanos = c.total := by
  rw [ClockFields.sum_eq_ok_iff]
  refine ⟨fun ht => ⟨ht.1, ht.2.2.2⟩, fun ht => ?_⟩
  have hamounts : 0 ≤ c.amounts.sum := List.sum_nonneg h.amounts_nonneg
  have hfront := h.front_nonneg
  have hrange := t.in_range
  have hnanos := h.2.2.2.2
  have hlimit : 0 ≤ limit := by decide
  rw [ht.2, total] at hrange
  exact ⟨ht.1, ⟨by omega, by omega⟩, adds_of_nonneg hfront h.amounts_nonneg (by omega), ht.2⟩

theorem Nonneg.sum_ne_overrun (h : c.Nonneg) : c.sum ≠ .error .overrun := by
  intro hover
  obtain ⟨⟨hhours, hminutes, hseconds⟩, -, hover⟩ := sum_eq_overrun_iff.1 hover
  obtain ⟨-, hhours', hminutes', hseconds', -⟩ := h
  refine not_overruns_of_inRange ?_ hover
  simp only [amounts, ofWhole, InRange, limit, List.map_cons, List.map_nil, List.forall_mem_cons,
    List.not_mem_nil, false_implies, implies_true, and_true]
  omega

/-- **Fields that are bounded, not negative and add up to a timespan fit** 64 bits each. -/
theorem Nonneg.fits (h : c.Nonneg) (hbound : c.Bounded) (hsum : c.total ≤ limit) : c.Fits := by
  have hfront := h.front_le_total
  obtain ⟨hdays, hhours, hminutes, hseconds, -⟩ := h
  obtain ⟨hhours', hminutes', hseconds'⟩ := hbound
  rw [front, ofWhole] at hfront
  rw [limit] at hsum
  exact ⟨⟨by omega, by omega⟩, ⟨by omega, by omega⟩, ⟨by omega, by omega⟩, by omega, by omega⟩

end ClockFields

/-! ### Texts of digits -/

/-- The fields of a text with digits only are not negative. -/
theorem ClockForm.nonneg {cs : List Char} {c : ClockFields} (h : ClockForm Plain cs c) :
    c.Nonneg := by
  have hhead {cs : List Char} {d h : Int} (hform : HeadForm Plain cs d h) : 0 ≤ d ∧ 0 ≤ h := by
    cases hform with
    | hours hh => exact ⟨Int.le_refl 0, hh.nonneg⟩
    | days hd hh => exact ⟨hd.nonneg, hh.nonneg⟩
  have htail {cs : List Char} {s n : Int} (hform : TailForm Plain cs s n) : 0 ≤ s ∧ 0 ≤ n := by
    cases hform with
    | whole hs => exact ⟨hs.nonneg, Int.le_refl 0⟩
    | fraction hs => exact ⟨hs.nonneg, Int.natCast_nonneg _⟩
  cases h with
  | short hform hm =>
      exact ⟨(hhead hform).1, (hhead hform).2, hm.nonneg, Int.le_refl 0, Int.le_refl 0⟩
  | long hform hm hform' =>
      exact ⟨(hhead hform).1, (hhead hform).2, hm.nonneg, (htail hform').1, (htail hform').2⟩

/-- **There is no sign** in a text whose fields are digits only: nothing but digits, points and
colons. -/
theorem ClockForm.digits {cs : List Char} {c : ClockFields} (h : ClockForm Plain cs c) {d : Char}
    (hd : d ∈ cs) : Digits.isDigit d = true ∨ d = '.' ∨ d = ':' := by
  have hfield {cs : List Char} {n : Int} (hplain : Plain cs n) (hd : d ∈ cs) :
      Digits.isDigit d = true := hplain.1.isDigit hd
  have hhead {cs : List Char} {n m : Int} (hform : HeadForm Plain cs n m) (hd : d ∈ cs) :
      Digits.isDigit d = true ∨ d = '.' := by
    cases hform with
    | hours hh => exact .inl (hfield hh hd)
    | days hdays hh =>
        rcases List.mem_append.1 hd with hd | hd
        · exact .inl (hfield hdays hd)
        · exact (List.mem_cons.1 hd).symm.imp_left (hfield hh)
  have htail {cs : List Char} {n m : Int} (hform : TailForm Plain cs n m) (hd : d ∈ cs) :
      Digits.isDigit d = true ∨ d = '.' := by
    cases hform with
    | whole hs => exact .inl (hfield hs hd)
    | fraction hs hf =>
        rcases List.mem_append.1 hd with hd | hd
        · exact .inl (hfield hs hd)
        · exact (List.mem_cons.1 hd).symm.imp_left hf.isDigit
  cases h with
  | short hform hm =>
      simp only [List.mem_append, List.mem_cons] at hd
      rcases hd with hd | rfl | hd
      · exact (hhead hform hd).imp_right .inl
      · exact .inr (.inr rfl)
      · exact .inl (hfield hm hd)
  | long hform hm hform' =>
      simp only [List.mem_append, List.mem_cons] at hd
      rcases hd with hd | rfl | hd | rfl | hd
      · exact (hhead hform hd).imp_right .inl
      · exact .inr (.inr rfl)
      · exact .inl (hfield hm hd)
      · exact .inr (.inr rfl)
      · exact (htail hform' hd).imp_right .inl

end Timespan

end EventQuery
