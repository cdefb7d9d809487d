/-
**Days and dates are the same thing counted in two ways.**

An era of 146097 days is three centuries of 36524 days and one that has a day more; a century is
twenty-four runs of 1461 days and one that may be a day short; a run is three years of 365 days and
one that may have a day more.  Years begin in March, so the day that comes and goes is always the
last one of a year.

Main definitions:

* `Calendar.Place` — the place of a day in its era.

Main results:

* `Calendar.exists_place`, `Calendar.Place.yearOfEra` — every day has a place, and its year is the
  one that is computed;
* `Calendar.daysOf_dateOf` — **counting the days of the date of a day gives the day**;
* `Calendar.isValid_dateOf` — the date of a day exists;
* `Calendar.year_dateOf` — the years of the days that instants have.
-/

import EventQuery.Instant.Calendar

set_option relaxedAutoImplicit false
set_option autoImplicit false

namespace EventQuery

namespace Calendar

/-! ### The place of a day in its era -/

/-- **The place of a day in its era**: its century, its run of four years, its year and its day, all
counted from zero.  Only the last year of a run has a day more, and the last run of a century has it
in the last century only. -/
structure Place (e : Int) where
  century : Int
  run : Int
  year : Int
  day : Int
  century_bounds : 0 ≤ century ∧ century ≤ 3
  run_bounds : 0 ≤ run ∧ run ≤ 24
  year_bounds : 0 ≤ year ∧ year ≤ 3
  day_bounds : 0 ≤ day ∧ day ≤ 365
  leap : day = 365 → year = 3 ∧ (run < 24 ∨ century = 3)
  eq : e = 36524 * century + 1461 * run + 365 * year + day

/-- Every day of an era has a place. -/
theorem exists_place {e : Int} (h : 0 ≤ e) (h' : e < 146097) : Nonempty (Place e) := by
  have hcentury : ∃ c r, e = 36524 * c + r ∧ 0 ≤ c ∧ c ≤ 3 ∧ 0 ≤ r ∧ r ≤ 36524
      ∧ (r = 36524 → c = 3) :=
    ⟨min (e / 36524) 3, e - 36524 * min (e / 36524) 3, by omega, by omega, by omega, by omega,
      by omega, by omega⟩
  obtain ⟨c, r, he, hc, hc', hr, hr', hlast⟩ := hcentury
  have hyear : ∃ y n, r % 1461 = 365 * y + n ∧ 0 ≤ y ∧ y ≤ 3 ∧ 0 ≤ n ∧ n ≤ 365
      ∧ (n = 365 → y = 3) :=
    ⟨min (r % 1461 / 365) 3, r % 1461 - 365 * min (r % 1461 / 365) 3, by omega, by omega, by omega,
      by omega, by omega, by omega⟩
  obtain ⟨y, n, hs, hy, hy', hn, hn', hleap⟩ := hyear
  exact ⟨⟨c, r / 1461, y, n, ⟨hc, hc'⟩, by omega, ⟨hy, hy'⟩, ⟨hn, hn'⟩, by omega, by omega⟩⟩

namespace Place

variable {e : Int} (p : Place e)

/-- The year in the era. -/
def ofEra : Int := 100 * p.century + 4 * p.run + p.year

theorem ofEra_bounds : 0 ≤ p.ofEra ∧ p.ofEra < 400 := by
  obtain ⟨hc, hr, hy⟩ := And.intro p.century_bounds (And.intro p.run_bounds p.year_bounds)
  rw [ofEra]
  omega

/-- The day is what remains of the days before its year. -/
theorem day_eq : p.day = e - (365 * p.ofEra + p.ofEra / 4 - p.ofEra / 100) := by
  obtain ⟨hc, hr, hy⟩ := And.intro p.century_bounds (And.intro p.run_bounds p.year_bounds)
  have heq := p.eq
  have hfours : p.ofEra / 4 = 25 * p.century + p.run := by
    rw [ofEra]
    omega
  have hhundreds : p.ofEra / 100 = p.century := by
    rw [ofEra]
    omega
  rw [hfours, hhundreds, ofEra]
  omega

/-- **The year is the one that is computed** from the day of the era. -/
theorem yearOfEra : (e - e / 1460 + e / 36524 - e / 146096) / 365 = p.ofEra := by
  obtain ⟨hc, hr, hy⟩ := And.intro p.century_bounds (And.intro p.run_bounds p.year_bounds)
  obtain ⟨hd, hd'⟩ := p.day_bounds
  have heq := p.eq
  have hleap := p.leap
  -- The days over full runs of 1460 are those of the century and the run, and no more than one run.
  have hruns : e / 1460 = 25 * p.century + p.run
      ∨ e / 1460 = 25 * p.century + p.run + 1 ∧ 1363 < 365 * p.year + p.day := by
    omega
  by_cases hlast : e = 146096
  · rw [ofEra]
    omega
  · have hcentury : e / 36524 = p.century := by omega
    have hera : e / 146096 = 0 := by omega
    rw [hcentury, hera, ofEra]
    rcases hruns with hruns | ⟨hruns, hover⟩
    · rw [hruns]
      omega
    · rw [hruns]
      omega

end Place

/-! ### Years that begin in March -/

/-- The date of a day, counted from zero, of a year that begins in March. -/
def ofMarch (year dayOfYear : Int) : Date :=
  let month := (5 * dayOfYear + 2) / 153
  let day := dayOfYear - (153 * month + 2) / 5 + 1
  if month < 10 then ⟨year, month + 3, day⟩ else ⟨year + 1, month - 9, day⟩

section OfMarch

variable {year d : Int} (h : 0 ≤ d ∧ d ≤ 365)

include h

theorem month_bounds : 0 ≤ (5 * d + 2) / 153 ∧ (5 * d + 2) / 153 ≤ 11 := by omega

/-- January and February belong to the next year. -/
theorem year_ofMarch : (ofMarch year d).year = if d < 306 then year else year + 1 := by
  have hmonth : (5 * d + 2) / 153 < 10 ↔ d < 306 := by omega
  simp only [ofMarch, hmonth]
  split <;> rfl

/-- **Counting the days** leads back to the year and its day. -/
theorem daysOf_ofMarch : daysOf (ofMarch year d)
    = year / 400 * 146097 + year % 400 * 365 + year % 400 / 4 - year % 400 / 100 + d - 719468 := by
  obtain ⟨hlow, hhigh⟩ := month_bounds h
  rw [ofMarch, daysOf]
  by_cases hmonth : (5 * d + 2) / 153 < 10
  · have hspring : ¬ (5 * d + 2) / 153 + 3 ≤ 2 := by omega
    simp only [hmonth, if_true, hspring, if_false, Int.add_sub_cancel]
    omega
  · have hwinter : (5 * d + 2) / 153 - 9 ≤ 2 := by omega
    simp only [hmonth, if_false, hwinter, if_true, Int.add_sub_cancel, Int.sub_add_cancel]
    omega

/-- **The date exists**; the last day of the year is that of a leap year. -/
theorem isValid_ofMarch (hleap : d = 365 → isLeap (year + 1) = true) :
    isValid (ofMarch year d) = true := by
  obtain ⟨hlow, hhigh⟩ := month_bounds h
  have hmonth : (5 * d + 2) / 153 = 11 ∨ (5 * d + 2) / 153 = 0 ∨ (5 * d + 2) / 153 = 1
      ∨ (5 * d + 2) / 153 = 2 ∨ (5 * d + 2) / 153 = 3 ∨ (5 * d + 2) / 153 = 4
      ∨ (5 * d + 2) / 153 = 5 ∨ (5 * d + 2) / 153 = 6 ∨ (5 * d + 2) / 153 = 7
      ∨ (5 * d + 2) / 153 = 8 ∨ (5 * d + 2) / 153 = 9 ∨ (5 * d + 2) / 153 = 10 := by omega
  rcases hmonth with hm | hmonth
  · -- The last month is February, and only here does the year count.
    have hlength : d - 337 + 1 ≤ if isLeap (year + 1) = true then 29 else 28 := by
      split
      · omega
      · next hshort =>
          have hd : d ≠ 365 := fun hd => hshort (hleap hd)
          omega
    have hfirst : 1 ≤ d - 337 + 1 := by omega
    simp [ofMarch, isValid, monthLength, hm, hfirst, hlength]
  · rcases hmonth with hm | hm | hm | hm | hm | hm | hm | hm | hm | hm | hm <;>
      simp [ofMarch, isValid, monthLength, hm] <;> omega

end OfMarch

/-! ### Every day -/

/-- The leap days are those of the leap years. -/
theorem Place.isLeap {e : Int} (p : Place e) (era : Int) (h : p.day = 365) :
    isLeap (p.ofEra + era * 400 + 1) = true := by
  obtain ⟨hy, hlast⟩ := p.leap h
  obtain ⟨hc, hr⟩ := And.intro p.century_bounds p.run_bounds
  have hfour : (p.ofEra + era * 400 + 1) % 4 = 0 := by
    rw [ofEra]
    omega
  have hhundred : (p.ofEra + era * 400 + 1) % 100 ≠ 0 ∨ (p.ofEra + era * 400 + 1) % 400 = 0 := by
    rw [ofEra]
    omega
  simpa [Calendar.isLeap, hfour] using hhundred

theorem dateOf_eq (n : Int) (p : Place ((n + 719468) % 146097)) :
    dateOf n = ofMarch (p.ofEra + (n + 719468) / 146097 * 400) p.day := by
  simp only [dateOf, p.yearOfEra, ← p.day_eq]
  rfl

theorem place (n : Int) : Nonempty (Place ((n + 719468) % 146097)) :=
  exists_place (by omega) (by omega)

/-- **Counting the days of the date of a day gives the day.** -/
theorem daysOf_dateOf (n : Int) : daysOf (dateOf n) = n := by
  obtain ⟨p⟩ := place n
  obtain ⟨hlow, hhigh⟩ := p.ofEra_bounds
  have hday := p.day_eq
  have hera : (p.ofEra + (n + 719468) / 146097 * 400) / 400 = (n + 719468) / 146097 := by omega
  have hyear : (p.ofEra + (n + 719468) / 146097 * 400) % 400 = p.ofEra := by omega
  rw [dateOf_eq n p, daysOf_ofMarch p.day_bounds, hera, hyear]
  omega

/-- **The date of a day exists.** -/
theorem isValid_dateOf (n : Int) : isValid (dateOf n) = true := by
  obtain ⟨p⟩ := place n
  rw [dateOf_eq n p]
  exact isValid_ofMarch p.day_bounds fun h => p.isLeap _ h

/-- **The years of the days** from 1 January -262143 to 31 December 262142. -/
theorem year_dateOf {n : Int} (hlow : -96465292 ≤ n) (hhigh : n ≤ 95026236) :
    -262143 ≤ (dateOf n).year ∧ (dateOf n).year ≤ 262142 := by
  obtain ⟨p⟩ := place n
  obtain ⟨hzero, hlast⟩ := p.ofEra_bounds
  obtain ⟨hday, hday'⟩ := p.day_bounds
  have heq := p.day_eq
  rw [dateOf_eq n p, year_ofMarch p.day_bounds]
  have hera : -656 ≤ (n + 719468) / 146097 ∧ (n + 719468) / 146097 ≤ 655 := by omega
  -- Only the first and the last year of the first and the last era come near the bounds.
  have hfirst : (n + 719468) / 146097 = -656 → 256 < p.ofEra ∨ p.ofEra = 256 ∧ 306 ≤ p.day := by
    omega
  have hlast : (n + 719468) / 146097 = 655 → p.ofEra < 142 ∨ p.ofEra = 142 ∧ p.day < 306 := by
    omega
  split <;> omega

end Calendar

end EventQuery
