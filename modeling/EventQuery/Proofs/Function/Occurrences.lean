/-
**Occurrences in a window.**

A text is looked for at one place after the other, and the occurrences are counted until the one
that is asked for.  Occurrences may overlap, and an empty text occurs everywhere.  A place is passed
over without a comparison when the text would end behind the window there, so that only parts that
lie in the text are compared.

Main definitions:

* `Function.OccursAt` — **a text occurs at a place** of another one;
* `Function.FitsAt` — it occurs there and lies between two bounds;
* `Function.IsNth` — a number is the first, second, … one with a property;
* `Function.Gives`, `Function.Admits` — the integers of the optional arguments, and whether they
  admit a window.

Main results:

* `Function.standsAt?_eq` — a comparison finds the occurrences that fit in the window;
* `Function.seekFrom?_spec` — **the search** from a place on, with the occurrences before it counted;
* `Function.indexOf_eq_nth` — **the place of an occurrence**, and when there is none.
-/

import EventQuery.Function.Text
import EventQuery.Proofs.Except
import Mathlib.Data.Nat.Count

set_option relaxedAutoImplicit false
set_option autoImplicit false

namespace EventQuery

namespace Function

/-! ### Occurrences -/

section Occurrence

variable {text sought : List Char} {i : Nat}

/-- **The text occurs at a place.** -/
def OccursAt (text sought : List Char) (i : Nat) : Prop :=
  ∃ before after, text = before ++ sought ++ after ∧ before.length = i

/-- A text occurs where the part of its length is this text. -/
theorem occursAt_iff : OccursAt text sought i ↔
    i + sought.length ≤ text.length ∧ (text.drop i).take sought.length = sought := by
  constructor
  · rintro ⟨before, after, rfl, rfl⟩
    constructor
    · rw [List.length_append, List.length_append]
      omega
    · rw [List.append_assoc, List.drop_left, List.take_left]
  · rintro ⟨hle, hpart⟩
    refine ⟨text.take i, (text.drop i).drop sought.length, ?_, List.length_take_of_le (by omega)⟩
    calc text = text.take i ++ text.drop i := (List.take_append_drop i text).symm
      _ = text.take i ++ (sought ++ (text.drop i).drop sought.length) := by
          conv_lhs => rw [← List.take_append_drop sought.length (text.drop i), hpart]
      _ = text.take i ++ sought ++ (text.drop i).drop sought.length :=
          (List.append_assoc ..).symm

instance (text sought : List Char) (i : Nat) : Decidable (OccursAt text sought i) :=
  decidable_of_iff _ occursAt_iff.symm

/-- **The text occurs at a place and lies between two bounds.** -/
def FitsAt (text sought : List Char) (first last : Int) (i : Nat) : Prop :=
  first ≤ i ∧ (i : Int) + sought.length ≤ last ∧ OccursAt text sought i

instance (text sought : List Char) (first last : Int) : DecidablePred (FitsAt text sought first last) :=
  fun _ => inferInstanceAs (Decidable (_ ∧ _ ∧ _))

end Occurrence

/-! ### Numbers in order -/

section Order

variable {p : Nat → Prop} [DecidablePred p] {k n : Nat}

/-- **The number is the `k`-th one with a property**, the smallest being the first. -/
def IsNth (p : Nat → Prop) [DecidablePred p] (k i : Nat) : Prop := p i ∧ Nat.count p i + 1 = k

/-- Behind the last number with the property the count stays. -/
theorem count_le_of_forall_not (h : ∀ i, n ≤ i → ¬ p i) (m : Nat) :
    Nat.count p m ≤ Nat.count p n := by
  rcases Nat.le_total m n with hmn | hnm
  · exact Nat.count_monotone p hmn
  · obtain ⟨d, rfl⟩ := Nat.exists_eq_add_of_le hnm
    have hnone : Nat.count (fun i => p (n + i)) d = 0 :=
      Nat.count_of_forall_not fun i _ => h (n + i) (Nat.le_add_right n i)
    rw [Nat.count_add, hnone, Nat.add_zero]

end Order

/-! ### The search -/

section Search

variable {text sought : List Char} {w : Window} (hstop : w.stop ≤ text.length)
include hstop

/-- **A comparison** finds the occurrences that end inside the window. -/
theorem standsAt?_eq (place : Nat) : standsAt? text sought w place
    = some (decide (place + sought.length ≤ w.stop ∧ OccursAt text sought place)) := by
  rw [standsAt?]
  by_cases hfits : place + sought.length ≤ w.stop
  · have hinside : place ≤ place + sought.length ∧ place + sought.length ≤ text.length := by omega
    have hoccurs : (text.drop place).take sought.length = sought ↔ OccursAt text sought place := by
      rw [occursAt_iff, and_iff_right hinside.2]
    rw [if_pos hfits, part?, if_pos hinside, Nat.add_sub_cancel_left, Option.map_some,
      Option.some.injEq, Bool.eq_iff_iff, beq_iff_eq, decide_eq_true_iff, hoccurs,
      and_iff_right hfits]
  · rw [if_neg hfits, decide_eq_false fun h => hfits h.1]

/-- **The search** from a place on: the occurrences before this place were counted and are too few,
and behind the last round the text has no room in the window.  It comes to an end with the
occurrence asked for, or when there are too few of them. -/
theorem seekFrom?_spec {passed place rounds : Nat} (hstart : w.start ≤ place)
    (hpassed : Nat.count (FitsAt text sought w.start w.stop) place = passed)
    (hfew : passed < w.occurrence) (hlast : w.stop - sought.length + 1 ≤ place + rounds) :
    ∃ found, seekFrom? text sought w passed place rounds = some found
      ∧ (∀ i, found = some i → IsNth (FitsAt text sought w.start w.stop) w.occurrence i)
      ∧ (found = none → ∀ n, Nat.count (FitsAt text sought w.start w.stop) n < w.occurrence) := by
  have hfits (i : Nat) (hi : w.start ≤ i) : FitsAt text sought w.start w.stop i ↔
      i + sought.length ≤ w.stop ∧ OccursAt text sought i := by
    rw [FitsAt, and_iff_right (Int.ofNat_le.2 hi), ← Int.natCast_add, Int.ofNat_le]
  induction rounds generalizing passed place with
  | zero =>
      refine ⟨none, rfl, (fun _ hi => nomatch hi), fun _ n => ?_⟩
      have hnone : ∀ i, place ≤ i → ¬ FitsAt text sought w.start w.stop i := by
        intro i hi hfit
        have hroom := ((hfits i (by omega)).1 hfit).1
        omega
      exact Nat.lt_of_le_of_lt (count_le_of_forall_not hnone n) (hpassed ▸ hfew)
  | succ rounds ih =>
      have hcount := Nat.count_succ (FitsAt text sought w.start w.stop) place
      rw [seekFrom?, standsAt?_eq hstop, Option.bind_eq_bind, Option.bind_some]
      by_cases hhere : FitsAt text sought w.start w.stop place
      · rw [if_pos hhere, hpassed] at hcount
        rw [if_pos (decide_eq_true ((hfits place hstart).1 hhere))]
        by_cases hasked : passed + 1 = w.occurrence
        · rw [if_pos hasked]
          refine ⟨some place, rfl, fun i hi => ?_, (fun h => nomatch h)⟩
          cases hi
          exact ⟨hhere, hpassed ▸ hasked⟩
        · rw [if_neg hasked]
          exact ih (by omega) hcount (by omega) (by omega)
      · rw [if_neg hhere, hpassed] at hcount
        rw [decide_eq_false fun h => hhere ((hfits place hstart).2 h), if_neg Bool.false_ne_true]
        exact ih (by omega) hcount hfew (by omega)

end Search

/-! ### The place of an occurrence -/

/-- **Where a window ends**: with the text when the length is minus one, and after so many
characters, but not behind the text, otherwise. -/
def windowEnd (size : Nat) (start length : Int) : Int :=
  if length = -1 then size else min (start + length) size

section Place

variable (size : Nat) (start length occurrence : Int64)

/-- **The optional arguments give three integers**: a start, which is zero where none is given, a
length, which is then minus one, and an occurrence, which is then the first. -/
structure Gives (name : String) (args : List Value) (start length occurrence : Int64) : Prop where
  start : longArgument? name args[0]? 0 = .ok start
  length : longArgument? name args[1]? (-1) = .ok length
  occurrence : longArgument? name args[2]? 1 = .ok occurrence

/-- **The arguments admit a window**: it begins in the text, and there is a first occurrence or a
later one to look for. -/
def Admits : Prop :=
  (0 ≤ start.toInt ∧ start.toInt ≤ size) ∧ -1 ≤ length.toInt ∧ 1 ≤ occurrence.toInt

/-- The window of the arguments that admit one. -/
def windowOf : Window :=
  ⟨start.toInt.toNat, (windowEnd size start.toInt length.toInt).toNat, occurrence.toInt.toNat⟩

variable {size start length occurrence} {name : String} {args : List Value}

/-- With three integers the window is refused, or it is cut off at the end of the text. -/
theorem Gives.window?_eq (h : Gives name args start length occurrence) : window? name args size
    = if start.toInt < 0 ∨ (size : Int) < start.toInt ∨ length.toInt < -1 ∨ occurrence.toInt < 1
      then .ok none
      else .ok (some ⟨start.toInt.toNat, if length.toInt = -1 then size
        else min (start.toInt.toNat + length.toInt.toNat) size, occurrence.toInt.toNat⟩) := by
  rw [window?, h.start, h.length, h.occurrence]
  rfl

theorem window?_of_admits (hgives : Gives name args start length occurrence)
    (h : Admits size start length occurrence) :
    window? name args size = .ok (some (windowOf size start length occurrence)) := by
  obtain ⟨⟨hstart, hsize⟩, hlength, hoccurrence⟩ := h
  have hrefused : ¬ (start.toInt < 0 ∨ (size : Int) < start.toInt ∨ length.toInt < -1
      ∨ occurrence.toInt < 1) := by omega
  have hstop : (if length.toInt = -1 then size
      else min (start.toInt.toNat + length.toInt.toNat) size)
        = (windowEnd size start.toInt length.toInt).toNat := by
    rw [windowEnd]
    split <;> omega
  rw [hgives.window?_eq, if_neg hrefused, hstop]
  rfl

theorem window?_of_not_admits (hgives : Gives name args start length occurrence)
    (h : ¬ Admits size start length occurrence) : window? name args size = .ok none := by
  have hrefused : start.toInt < 0 ∨ (size : Int) < start.toInt ∨ length.toInt < -1
      ∨ occurrence.toInt < 1 := by
    rw [Admits] at h
    omega
  rw [hgives.window?_eq, if_pos hrefused]

/-- **The search in the window of the arguments** comes to an end, with the occurrence asked for or
when there are too few of them. -/
theorem seek?_windowOf (text sought : List Char)
    (h : Admits text.length start length occurrence) :
    ∃ found, seek? text sought (windowOf text.length start length occurrence) = some found
      ∧ (∀ i, found = some i → IsNth (FitsAt text sought start.toInt
          (windowEnd text.length start.toInt length.toInt)) occurrence.toInt.toNat i)
      ∧ (found = none → ∀ n, Nat.count (FitsAt text sought start.toInt
          (windowEnd text.length start.toInt length.toInt)) n < occurrence.toInt.toNat) := by
  obtain ⟨⟨hstart, hsize⟩, hlength, hoccurrence⟩ := h
  have hend : start.toInt ≤ windowEnd text.length start.toInt length.toInt
      ∧ windowEnd text.length start.toInt length.toInt ≤ text.length := by
    rw [windowEnd]
    split <;> omega
  have hbefore : Nat.count (FitsAt text sought start.toInt
      (windowEnd text.length start.toInt length.toInt)) start.toInt.toNat = 0 := by
    refine Nat.count_of_forall_not fun i hi hfit => ?_
    have hfirst := hfit.1
    omega
  obtain ⟨last, hlast⟩ := Int.eq_ofNat_of_zero_le (Int.le_trans hstart hend.1)
  obtain ⟨first, hfirst⟩ := Int.eq_ofNat_of_zero_le hstart
  rw [seek?, windowOf]
  rw [hlast, hfirst] at hend hbefore ⊢
  simp only [Int.toNat_natCast] at hbefore ⊢
  refine seekFrom?_spec ?_ (Nat.le_refl _) hbefore ?_ ?_
  · exact Int.ofNat_le.1 hend.2
  · change 0 < occurrence.toInt.toNat
    omega
  · change last - sought.length + 1 ≤ first + (last - sought.length + 1 - first)
    omega

end Place

/-- **The place of an occurrence.**  The window begins at `start` and ends with the text, or after
`length` characters.  The answer is the place of the `occurrence`-th occurrence that lies in the
window, overlapping ones counted, and minus one when there are fewer; it is minus one as well when
the arguments admit no window.  Every part that is compared lies in the text. -/
theorem indexOf_eq_nth (t u : Value) {args : List Value} {start length occurrence : Int64}
    (hgives : Gives "indexof" args start length occurrence) :
    (Admits t.chars.length start length occurrence →
      (seek? t.chars u.chars (windowOf t.chars.length start length occurrence)).isSome
      ∧ ((∃ i, IsNth (FitsAt t.chars u.chars start.toInt
            (windowEnd t.chars.length start.toInt length.toInt)) occurrence.toInt.toNat i
          ∧ (t.chars.length < 2 ^ 63 → (Int64.ofNat i).toInt = i)
          ∧ indexOf (t :: u :: args) = .ok (.long (Int64.ofNat i)))
        ∨ (∀ n, Nat.count (FitsAt t.chars u.chars start.toInt
            (windowEnd t.chars.length start.toInt length.toInt)) n < occurrence.toInt.toNat)
          ∧ indexOf (t :: u :: args) = .ok (.long (-1))))
    ∧ (¬ Admits t.chars.length start length occurrence →
        indexOf (t :: u :: args) = .ok (.long (-1))) := by
  constructor
  · intro h
    obtain ⟨found, hseek, hnth, hfew⟩ := seek?_windowOf t.chars u.chars h
    have hindex : indexOf (t :: u :: args) = .ok (placeValue found) := by
      rw [indexOf, window?_of_admits hgives h]
      change Except.ok (placeValue (seek? _ _ _).join) = _
      rw [hseek]
      rfl
    refine ⟨Option.isSome_of_eq_some hseek, ?_⟩
    cases found with
    | some i =>
        have hi := hnth i rfl
        refine .inl ⟨i, hi, fun hsize => ?_, hindex⟩
        obtain ⟨before, after, htext, hbefore⟩ := hi.1.2.2
        have hle : i ≤ t.chars.length := by
          rw [htext, List.length_append, List.length_append]
          omega
        exact Int64.toInt_ofNat_of_lt (by omega)
    | none => exact .inr ⟨hfew rfl, hindex⟩
  · intro h
    rw [indexOf, window?_of_not_admits hgives h]
    rfl

/-- Of two occurrences that overlap the second one is at the second place. -/
theorem indexOf_of_overlap :
    Gives "indexof" [.long 0, .long (-1), .long 2] 0 (-1) 2
    ∧ ∃ i, IsNth (FitsAt ['a', 'a', 'a'] ['a', 'a'] 0 3) 2 i
      ∧ indexOf [.string "aaa", .string "aa", .long 0, .long (-1), .long 2]
        = .ok (.long (Int64.ofNat i)) := by
  have hgives : Gives "indexof" [.long 0, .long (-1), .long 2] 0 (-1) 2 := ⟨rfl, rfl, rfl⟩
  have hadmits : Admits (Value.string "aaa").chars.length 0 (-1) 2 :=
    ⟨by decide, by decide, by decide⟩
  have hplace := ((indexOf_eq_nth (.string "aaa") (.string "aa") hgives).1 hadmits).2
  refine ⟨hgives, ?_⟩
  rcases hplace with ⟨i, hnth, -, hindex⟩ | ⟨hfew, -⟩
  · exact ⟨i, hnth, hindex⟩
  · exact absurd (hfew 2) (by decide)

end Function

end EventQuery
