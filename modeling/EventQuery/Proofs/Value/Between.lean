/-
**Ranges and relations.**

The test of a range picks what it reads the value as from the two ends, and a relation of order
picks it from its two sides.  Where both ends have one domain the two choices are the same, so a
value lies in a range exactly if it is at least the lower end and at most the upper one; and the
test cannot be made exactly where one of the two relations cannot.

Main definitions:

* `Reading.inside` — what is read lies between two ends.

Main results:

* `Value.toOption_between` — **the range is that of the domain** of its ends;
* `Value.between_eq_relations` — a range is its two relations, and a range of instants that is given
  by its length is the one that is given by its end.
-/

import Mathlib
import EventQuery.Proofs.Value.Order
import EventQuery.Value.Arithmetic

set_option relaxedAutoImplicit false
set_option autoImplicit false

namespace EventQuery

/-- **What is read lies between two ends**: it is at least the one and at most the other. -/
def Reading.inside (k low high : Reading) : Bool :=
  (k.cmp? low).any Relation.atLeast.holds && (k.cmp? high).any Relation.atMost.holds

namespace Value

section Ranges

variable {v low high : Value} {d : Domain}

/-- A value is read in its own domain. -/
theorem exists_readAs? (h : v.domain? = some d) : ∃ k, v.readAs? d = some k := by
  cases v <;> cases h <;> exact ⟨_, rfl⟩

/-- An absent value lies in no range. -/
theorem between_of_absent (h : v.isAbsent = true) : v.between low high = .ok false :=
  if_pos h

/-- **The test of a range reads the value in the domain of the ends** and compares there. -/
theorem toOption_between (hv : v.isAbsent = false) {l h : Reading} (hlow : low.domain? = some d)
    (hl : low.readAs? d = some l) (hhigh : high.domain? = some d) (hh : high.readAs? d = some h) :
    (v.between low high).toOption = (v.readAs? d).map fun k => k.inside l h := by
  cases d with
  | number =>
      have hnumbers : v.between low high = betweenNumbers v low high := by
        unfold between
        rw [hv, isNumeric_iff.2 hlow, isNumeric_iff.2 hhigh]
        rfl
      obtain ⟨m, hm, rfl⟩ := Option.map_eq_some_iff.1 hl
      obtain ⟨n, hn, rfl⟩ := Option.map_eq_some_iff.1 hh
      rw [hnumbers, betweenNumbers, hm, hn]
      cases hx : v.toNumeric? with
      | none => simp [readAs?, hx, Result.ofOption, Except.toOption, bind, Except.bind]
      | some x =>
          simp only [readAs?, hx, Result.toOption_bind, Result.toOption_ofOption, Option.map_some,
            Option.bind_some, Reading.inside, Reading.cmp?]
          cases x.cmp? m <;> cases x.cmp? n <;> simp [inside, Relation.holds]
  | instant =>
      obtain ⟨s, rfl⟩ := domain?_eq_instant.1 hlow
      obtain ⟨t, rfl⟩ := domain?_eq_instant.1 hhigh
      cases hl
      cases hh
      have hinstants : v.between (.datetime s) (.datetime t) = betweenInstants v s t := by
        unfold between
        rw [hv]
        rfl
      simp only [hinstants, betweenInstants, Result.toOption_map, Result.toOption_ofOption, readAs?,
        Option.map_map]
      rfl
  | timespan =>
      obtain ⟨s, rfl⟩ := domain?_eq_timespan.1 hlow
      obtain ⟨t, rfl⟩ := domain?_eq_timespan.1 hhigh
      cases hl
      cases hh
      have htimespans : v.between (.timespan s) (.timespan t) = betweenTimespans v s t := by
        unfold between
        rw [hv]
        rfl
      simp only [htimespans, betweenTimespans, Result.toOption_map, Result.toOption_ofOption,
        readAs?, Option.map_map]
      rfl

/-- **A range is its two relations**: the test of the one succeeds where both of the others do, and
is their conjunction. -/
theorem toOption_between_eq_relate (hlow : low.domain? = some d) (hhigh : high.domain? = some d) :
    (v.between low high).toOption =
      (v.relate (.relation .atLeast) low).toOption.bind fun x =>
        (v.relate (.relation .atMost) high).toOption.map fun y => x && y := by
  cases hv : v.isAbsent with
  | true =>
      rw [between_of_absent hv, relate_of_order (order_of_absent (.inl hv)),
        relate_of_order (order_of_absent (.inl hv))]
      rfl
  | false =>
      obtain ⟨l, hl⟩ := exists_readAs? hlow
      obtain ⟨h, hh⟩ := exists_readAs? hhigh
      rw [toOption_between hv hlow hl hhigh hh, toOption_relate, toOption_relate,
        toOption_order (.inr hlow) hv (isAbsent_of_domain hlow),
        toOption_order (.inr hhigh) hv (isAbsent_of_domain hhigh), orderIn?, orderIn?, hl, hh]
      cases v.readAs? d <;> rfl

end Ranges

/-- A range of instants that is given by its length is the one that is given by its end. -/
theorem between_timespan_of_add? (v : Value) {start finish : Instant} {length : Timespan}
    (h : start.add? length = some finish) :
    v.between (.datetime start) (.timespan length)
      = v.between (.datetime start) (.datetime finish) := by
  unfold between
  cases v.isAbsent with
  | true => rfl
  | false =>
      simp only [isNumeric, h, betweenInstants]
      cases v.toInstant? <;> rfl

/-- **A range is its two relations.**  Between two numbers, two instants or two timespans the test
succeeds exactly if the value can be compared with both ends, and says whether it is at least the
lower and at most the upper one.  Between an instant and a timespan that can be added to it, it is
the test between that instant and the sum. -/
theorem between_eq_relations (v : Value) :
    (∀ low high d, low.domain? = some d → high.domain? = some d → ∀ t,
      v.between low high = .ok t ↔
        ∃ x y, v.relate (.relation .atLeast) low = .ok x ∧
          v.relate (.relation .atMost) high = .ok y ∧ (x && y) = t) ∧
    ∀ start length sum,
      (Value.datetime start).arithmetic (.arithmetic .add) (.timespan length) = .ok sum →
        v.between (.datetime start) (.timespan length) = v.between (.datetime start) sum := by
  refine ⟨fun low high d hlow hhigh t => ?_, fun start length sum hsum => ?_⟩
  · rw [← Result.toOption_eq_some_iff, toOption_between_eq_relate hlow hhigh]
    simp only [Option.bind_eq_some_iff, Option.map_eq_some_iff, Result.toOption_eq_some_iff]
    simp only [exists_and_left]
  · have hadd : (start.add? length).map Value.datetime = some sum := by
      rw [← Result.toOption_eq_some_iff.2 hsum]
      change _ = ((Result.ofOption .overflow (start.add? length)).map Value.datetime).toOption
      simp
    obtain ⟨finish, hfinish, rfl⟩ := Option.map_eq_some_iff.1 hadd
    exact between_timespan_of_add? v hfinish

/-- A text that holds a fraction lies between two whole numbers; and the text of a day lies in the
two days from the start of 1970, however the end of the range is given. -/
theorem between_eq_relations_of_text :
    let start : Instant := ⟨0, 0, by decide, by decide, by decide, by decide⟩
    let finish : Instant := ⟨172800, 0, by decide, by decide, by decide, by decide⟩
    let length : Timespan := ⟨172800000000000, by decide⟩
    (Value.string " 2.5").between (.long 2) (.int 3) = .ok true ∧
      (Value.string "1970-01-02").between (.datetime start) (.datetime finish) = .ok true ∧
      (Value.string "1970-01-02").between (.datetime start) (.timespan length) = .ok true := by
  intro start finish length
  have hnumber : (Value.string " 2.5").between (.long 2) (.int 3) = .ok true :=
    ((between_eq_relations _).1 _ _ .number rfl rfl true).2
      ⟨true, true, by decide, by decide +kernel, rfl⟩
  have hday : (Value.string "1970-01-02").between (.datetime start) (.datetime finish) = .ok true :=
    ((between_eq_relations _).1 _ _ .instant rfl rfl true).2
      ⟨true, true, by decide, by decide +kernel, rfl⟩
  have hsum : start.add? length = some finish := by decide
  have hlength := (between_eq_relations (.string "1970-01-02")).2 start length (.datetime finish)
    (by simp only [arithmetic, isAbsent, arithmeticPresent, hsum]; rfl)
  exact ⟨hnumber, hday, hlength.trans hday⟩

end Value
end EventQuery
