/-
**What is read as a timespan.**

A text is read as a timespan when it is a decimal number directly followed by the word of a unit, or
when it is in the clock form.  The clock form is taken with signs inside its fields as well.  Where
every field is digits only, the value is plus or minus the sum of the fields, and reading never
makes an amount out of range.

Main definitions:

* `Timespan.Decimal`, `Timespan.LiteralForm` — a number with a unit.

Main results:

* `Timespan.literalForm_of_readLiteral?` — what is read as a number with a unit;
* `Timespan.read_cases` — **the ways in which reading ends**;
* `Timespan.read_of_forms` — the two forms, and what becomes of signs inside fields;
* `Timespan.not_forms_of_signed_field` — a sign inside a field.
-/

import EventQuery.Proofs.Grammar.Strip
import EventQuery.Proofs.Json.Scalar
import EventQuery.Proofs.Timespan.Clock

set_option relaxedAutoImplicit false
set_option autoImplicit false

namespace EventQuery

-- Powers are those of the core library, whatever other instances are in scope.
attribute [local instance (2000)] instPowNat

namespace Timespan

open Digits (IsNumber Signed)

/-! ### A number with a unit -/

/-- **A decimal number**: digits, with a point before, between or behind them. -/
inductive Decimal : List Char → Prop
  | whole {digits : List Char} (h : IsNumber digits) : Decimal digits
  | point {whole part : List Char} (hwhole : whole.all Digits.isDigit = true)
      (hpart : part.all Digits.isDigit = true) (hne : whole ++ part ≠ []) :
      Decimal (whole ++ '.' :: part)

/-- The words of the units. -/
def unitWords : List String :=
  ["d", "day", "days", "h", "hr", "hrs", "hour", "hours", "m", "min", "mins", "minute", "minutes",
    "s", "sec", "secs", "second", "seconds", "ms", "milli", "millis", "millisecond",
    "milliseconds", "microsecond", "microseconds", "tick", "ticks"]

/-- **A decimal number directly followed by the word of a unit.** -/
def LiteralForm (cs : List Char) : Prop :=
  ∃ number, ∃ unit ∈ unitWords, Decimal number ∧ cs = number ++ unit.toList

theorem mem_unitWords {name : String} {size : Float} (h : unitNanos? name = some size) :
    name ∈ unitWords := by
  unfold unitNanos? at h
  simp only [List.contains_eq_mem, decide_eq_true_eq] at h
  have hsub : ∀ words : List String, name ∈ words → words ⊆ unitWords → name ∈ unitWords :=
    fun words hmem hwords => hwords hmem
  repeat' split at h
  all_goals first
    | exact hsub _ ‹name ∈ _› (by decide)
    | cases h

/-- Digits and points. -/
def isNumeral (c : Char) : Bool := Digits.isDigit c || c == '.'

theorem isNumeral_cases {c : Char} (h : isNumeral c = true) :
    Digits.isDigit c = true ∨ c = '.' := by
  rw [isNumeral, Bool.or_eq_true, beq_iff_eq] at h
  exact h

/-- An exponent behind digits and points would begin with a letter. -/
theorem eq_nil_of_readExponent? {cs : List Char} {n : Int} (hcs : ∀ c ∈ cs, isNumeral c = true)
    (h : Number.readExponent? cs = some n) : cs = [] := by
  cases cs with
  | nil => rfl
  | cons c more =>
      have hletters : isNumeral 'e' = false ∧ isNumeral 'E' = false := by decide
      have hc := hcs c List.mem_cons_self
      rw [Number.readExponent?] at h
      split at h
      · next hexponent =>
          rw [Bool.or_eq_true, beq_iff_eq, beq_iff_eq] at hexponent
          rcases hexponent with rfl | rfl
          · rw [hletters.1] at hc
            cases hc
          · rw [hletters.2] at hc
            cases hc
      · cases h

/-- Behind the digits at the front there is nothing, or a point. -/
theorem dropWhile_of_isNumeral {cs : List Char} (hcs : ∀ c ∈ cs, isNumeral c = true) :
    cs.dropWhile Digits.isDigit = []
      ∨ ∃ more, cs.dropWhile Digits.isDigit = '.' :: more ∧ ∀ c ∈ more, isNumeral c = true := by
  cases hdrop : cs.dropWhile Digits.isDigit with
  | nil => exact .inl rfl
  | cons c more =>
      right
      have hrest : ∀ d ∈ c :: more, isNumeral d = true := by
        intro d hd
        rw [← hdrop] at hd
        exact hcs d ((List.dropWhile_suffix _).subset hd)
      have hhead : Digits.isDigit c = false := by
        have hnot := List.head?_dropWhile_not Digits.isDigit cs
        rwa [hdrop] at hnot
      rcases isNumeral_cases (hrest c List.mem_cons_self) with hdigit | rfl
      · rw [hhead] at hdigit
        cases hdigit
      · exact ⟨more, rfl, fun d hd => hrest d (List.mem_cons_of_mem _ hd)⟩

/-- **Digits and points that are a number** of binary arithmetic are a decimal number. -/
theorem decimal_of_readMagnitude? {cs : List Char} {negative : Bool} {x : Float}
    (hcs : ∀ c ∈ cs, isNumeral c = true) (h : Number.readMagnitude? negative cs = some x) :
    Decimal cs := by
  have hspan (cs : List Char) : Digits.span cs = (cs.takeWhile Digits.isDigit,
      cs.dropWhile Digits.isDigit) := List.span_eq_takeWhile_dropWhile _ cs
  have hdigits (cs : List Char) : (cs.takeWhile Digits.isDigit).all Digits.isDigit = true :=
    List.all_takeWhile
  have hsplit : cs.takeWhile Digits.isDigit ++ cs.dropWhile Digits.isDigit = cs :=
    List.takeWhile_append_dropWhile
  rw [Number.readMagnitude?, hspan] at h
  rcases dropWhile_of_isNumeral hcs with hdrop | ⟨more, hdrop, hmore⟩
  · simp only [hdrop, List.isEmpty_nil, Bool.and_true] at h
    rw [hdrop, List.append_nil] at hsplit
    split at h
    · cases h
    · next hne =>
        rw [hsplit] at hne
        exact .whole ⟨by simpa using hne, by rw [← hsplit]; exact hdigits cs⟩
  · simp only [hdrop, hspan] at h
    split at h
    · cases h
    · next hne =>
        obtain ⟨n, hexponent, -⟩ := Option.map_eq_some_iff.1 h
        have hnil : more.dropWhile Digits.isDigit = [] :=
          eq_nil_of_readExponent? (fun c hc => hmore c ((List.dropWhile_suffix _).subset hc))
            hexponent
        have hpart : more.takeWhile Digits.isDigit = more := by
          have hwhole : more.takeWhile Digits.isDigit ++ more.dropWhile Digits.isDigit = more :=
            List.takeWhile_append_dropWhile
          rwa [hnil, List.append_nil] at hwhole
        rw [← hsplit, hdrop]
        refine .point (hdigits cs) (by rw [← hpart]; exact hdigits more) ?_
        intro hnone
        rw [List.append_eq_nil_iff] at hnone
        simp [hnone] at hne

/-- Digits and points are read as a magnitude: there is no sign, and no word of such letters. -/
theorem readFloat?_of_isNumeral {cs : List Char} (hcs : ∀ c ∈ cs, isNumeral c = true) :
    Number.readFloat? cs = Number.readMagnitude? false cs := by
  have hlower : ∀ c, isNumeral c = true → c.toLower ≠ 'n' := by
    intro c hc
    rcases isNumeral_cases hc with hdigit | rfl
    · exact Digits.of_isDigit (fun c => c.toLower ≠ 'n') (by decide) hdigit
    · decide
  have hword (word : String) (hn : 'n' ∈ word.toList) : Number.isWord word cs = false := by
    rw [Number.isWord, beq_eq_false_iff_ne]
    intro heq
    rw [← heq] at hn
    obtain ⟨c, hc, hcn⟩ := List.mem_map.1 hn
    exact hlower c (hcs c hc) hcn
  have hsign (c : Char) (more : List Char) (hc : isNumeral c = false) : cs ≠ c :: more := by
    rintro rfl
    rw [hcs c List.mem_cons_self] at hc
    cases hc
  unfold Number.readFloat?
  split
  · exact absurd rfl (hsign '+' _ (by decide))
  · exact absurd rfl (hsign '-' _ (by decide))
  · simp [Number.readUnsigned?, hword "inf" (by decide), hword "infinity" (by decide),
      hword "nan" (by decide)]

/-- **What is read as a number with a unit** is one. -/
theorem literalForm_of_readLiteral? {s : String} {t : Timespan} (h : readLiteral? s = some t) :
    LiteralForm (Text.strip s.toList) := by
  unfold readLiteral? at h
  dsimp only at h
  rw [List.span_eq_takeWhile_dropWhile] at h
  dsimp only at h
  split at h
  · cases h
  · simp only [Option.bind_eq_bind, Option.bind_eq_some_iff] at h
    obtain ⟨x, hnumber, size, hunit, -⟩ := h
    have hnumeral : ∀ c ∈ (Text.strip s.toList).takeWhile (fun c => Digits.isDigit c || c == '.'),
        isNumeral c = true := List.all_eq_true.1 List.all_takeWhile
    rw [readFloat?_of_isNumeral hnumeral] at hnumber
    refine ⟨_, _, mem_unitWords hunit, decimal_of_readMagnitude? hnumeral hnumber, ?_⟩
    rw [String.toList_ofList, List.takeWhile_append_dropWhile]

/-- A number with a unit has no colon. -/
theorem LiteralForm.noColon {cs : List Char} (h : LiteralForm cs) : ':' ∉ cs := by
  obtain ⟨number, unit, hunit, hnumber, rfl⟩ := h
  have hwords : ∀ unit ∈ unitWords, ':' ∉ unit.toList := by decide
  have hdigits {ds : List Char} (hds : ds.all Digits.isDigit = true) : ':' ∉ ds := by
    intro hmem
    have hcolon := List.all_eq_true.1 hds ':' hmem
    cases hcolon
  have hnone : ':' ∉ number := by
    cases hnumber with
    | whole hds => exact hdigits hds.2
    | point hwhole hpart => simp [hdigits hwhole, hdigits hpart]
  simp [hnone, hwords unit hunit]

/-! ### Either form -/

theorem Written.colon {cs : List Char} {negative : Bool} {c : ClockFields}
    {Field : List Char → Int → Prop} (h : Written Field cs negative c) : ':' ∈ cs := by
  obtain ⟨body, rfl, hform, -⟩ := h
  have hbody : ':' ∈ body := by cases hform <;> simp
  split
  · exact List.mem_cons_of_mem _ hbody
  · exact hbody

/-- The timespan with the sign of its text. -/
def withSign (negative : Bool) (t : Timespan) : Timespan := if negative then t.neg else t

/-- **A text in the clock form** gives what its fields add up to, when they fit. -/
theorem read_of_written {s : String} {negative : Bool} {c : ClockFields}
    (h : Written Signed (Text.strip s.toList) negative c) :
    read s = if c.Fits then c.sum.map (withSign negative) else .error .refused := by
  have hliteral : readLiteral? s = none := by
    cases hread : readLiteral? s with
    | none => rfl
    | some t => exact absurd h.colon (literalForm_of_readLiteral? hread).noColon
  obtain ⟨body, hbody, hform, hminus⟩ := h
  have hclock : readClock body = if c.Fits then c.sum else .error .refused := by
    rw [readClock, readFields?_of_form hform]
    split <;> rfl
  rw [read, hliteral]
  dsimp only
  cases negative with
  | true =>
      rw [hbody]
      change (readClock body).map neg = _
      rw [hclock]
      split <;> rfl
  | false =>
      have hplain : Text.strip s.toList = body := hbody
      rw [hplain]
      split
      · exact absurd rfl (hminus rfl)
      · rw [hclock]
        split
        · cases c.sum <;> rfl
        · rfl

/-- **The ways in which reading ends**: a number with a unit, a sum of fields, or a refusal. -/
theorem read_cases (s : String) : (∃ t, readLiteral? s = some t ∧ read s = .ok t)
    ∨ (∃ negative c, Written Signed (Text.strip s.toList) negative c ∧ c.Fits
      ∧ read s = c.sum.map (withSign negative))
    ∨ read s = .error .refused := by
  have hclock (body : List Char) : (∃ c, ClockForm Signed body c ∧ c.Fits ∧ readClock body = c.sum)
      ∨ readClock body = .error .refused := by
    rw [readClock]
    cases hfields : readFields? body with
    | none => exact .inr rfl
    | some c =>
        obtain ⟨hform, hfits⟩ := form_of_readFields? hfields
        exact .inl ⟨c, hform, hfits, rfl⟩
  have hwritten {negative : Bool} {c : ClockFields}
      (h : Written Signed (Text.strip s.toList) negative c) (hfits : c.Fits) :
      read s = c.sum.map (withSign negative) := by
    rw [read_of_written h, if_pos hfits]
  cases hliteral : readLiteral? s with
  | some t => exact .inl ⟨t, rfl, by rw [read, hliteral]⟩
  | none =>
      right
      by_cases hminus : ∃ body, Text.strip s.toList = '-' :: body
      · obtain ⟨body, hbody⟩ := hminus
        rcases hclock body with ⟨c, hform, hfits, -⟩ | hrefused
        · have h : Written Signed (Text.strip s.toList) true c :=
            ⟨body, hbody, hform, fun h => by cases h⟩
          exact .inl ⟨true, c, h, hfits, hwritten h hfits⟩
        · right
          rw [read, hliteral, hbody]
          change (readClock body).map neg = _
          rw [hrefused]
          rfl
      · have hread : read s = readClock (Text.strip s.toList) := by
          rw [read, hliteral]
          dsimp only
          split
          · next body hbody => exact absurd ⟨body, hbody⟩ hminus
          · rfl
        rcases hclock (Text.strip s.toList) with ⟨c, hform, hfits, -⟩ | hrefused
        · have h : Written Signed (Text.strip s.toList) false c := by
            refine ⟨_, rfl, hform, fun _ hhead => ?_⟩
            obtain ⟨body, hbody⟩ := List.head?_eq_some_iff.1 hhead
            exact hminus ⟨body, hbody⟩
          exact .inl ⟨false, c, h, hfits, hwritten h hfits⟩
        · exact .inr (hread.trans hrefused)

theorem withSign_withSign (negative : Bool) (t : Timespan) :
    withSign negative (withSign negative t) = t := by
  cases negative
  · rfl
  · simp [withSign, neg]

theorem map_withSign_eq_ok_iff {negative : Bool} {c : ClockFields} {t : Timespan} :
    c.sum.map (withSign negative) = .ok t ↔ c.sum = .ok (withSign negative t) := by
  rw [Except.map_eq_ok_iff]
  constructor
  · rintro ⟨u, hsum, rfl⟩
    rw [withSign_withSign, hsum]
  · intro hsum
    exact ⟨_, hsum, withSign_withSign negative t⟩

theorem nanos_withSign_eq_total_iff {negative : Bool} {c : ClockFields} {t : Timespan} :
    (withSign negative t).nanos = c.total ↔ t.nanos = c.value negative := by
  cases negative
  · rfl
  · simp only [withSign, neg, ClockFields.value, if_true]
    omega

/-- **What becomes of a text whose fields are digits only**: plus or minus the sum of its fields,
when they are bounded and it is in range, and no amount on the way is out of range. -/
theorem read_of_plain {s : String} {negative : Bool} {c : ClockFields}
    (h : Written Plain (Text.strip s.toList) negative c) :
    read s ≠ .error .overrun ∧ 0 ≤ c.total
      ∧ ∀ t, read s = .ok t ↔ c.Bounded ∧ t.nanos = c.value negative := by
  have hnonneg : c.Nonneg := by
    obtain ⟨body, -, hform, -⟩ := h
    exact hform.nonneg
  have htotal : 0 ≤ c.total := Int.le_trans hnonneg.front_nonneg hnonneg.front_le_total
  have hread := read_of_written (h.mono fun _ _ => Plain.signed)
  by_cases hfits : c.Fits
  · rw [if_pos hfits] at hread
    rw [hread]
    refine ⟨?_, htotal, fun t => ?_⟩
    · rw [ne_eq, Except.map_eq_error_iff]
      exact hnonneg.sum_ne_overrun
    · rw [map_withSign_eq_ok_iff, hnonneg.sum_eq_ok_iff, nanos_withSign_eq_total_iff]
  · rw [if_neg hfits] at hread
    rw [hread]
    refine ⟨by simp, htotal, fun t => ?_⟩
    simp only [reduceCtorEq, false_iff, not_and]
    intro hbound hvalue
    -- Bounded fields that do not fit are days, and so many are out of range.
    have hrange := (withSign negative t).in_range
    rw [nanos_withSign_eq_total_iff.2 hvalue] at hrange
    exact hfits (hnonneg.fits hbound hrange.2)

/-- **What is read as a timespan.**  It is a number with a unit, or a clock form with bounded fields
and then plus or minus their sum.  The clock form is taken with signs inside its fields, and reading
overruns exactly where these make an amount out of range.  Where every field is digits only the
reader takes what is bounded and in range, and never overruns. -/
theorem read_of_forms (s : String) :
    (∀ t, read s = .ok t → LiteralForm (Text.strip s.toList)
      ∨ ∃ negative c, Written Signed (Text.strip s.toList) negative c ∧ c.Bounded
        ∧ t.nanos = c.value negative)
    ∧ (read s = .error .overrun ↔ ∃ negative c, Written Signed (Text.strip s.toList) negative c
        ∧ c.Fits ∧ c.Bounded ∧ c.Overruns)
    ∧ ∀ negative c, Written Plain (Text.strip s.toList) negative c →
        read s ≠ .error .overrun ∧ 0 ≤ c.total
          ∧ ∀ t, read s = .ok t ↔ c.Bounded ∧ t.nanos = c.value negative := by
  refine ⟨fun t ht => ?_, ?_, fun negative c h => read_of_plain h⟩
  · rcases read_cases s with ⟨u, hliteral, -⟩ | ⟨negative, c, hwritten, -, hread⟩ | hread
    · exact .inl (literalForm_of_readLiteral? hliteral)
    · rw [hread, map_withSign_eq_ok_iff, ClockFields.sum_eq_ok_iff] at ht
      exact .inr ⟨negative, c, hwritten, ht.1, nanos_withSign_eq_total_iff.1 ht.2.2.2⟩
    · rw [hread] at ht
      cases ht
  · constructor
    · intro hover
      rcases read_cases s with ⟨u, -, hread⟩ | ⟨negative, c, hwritten, hfits, hread⟩ | hread
      · rw [hread] at hover
        cases hover
      · rw [hread, Except.map_eq_error_iff, ClockFields.sum_eq_overrun_iff] at hover
        exact ⟨negative, c, hwritten, hfits, hover⟩
      · rw [hread] at hover
        cases hover
    · rintro ⟨negative, c, hwritten, hfits, hover⟩
      rw [read_of_written hwritten, if_pos hfits, Except.map_eq_error_iff,
        ClockFields.sum_eq_overrun_iff]
      exact hover

/-- A day, two hours, three minutes, four seconds and a half, below zero. -/
theorem read_of_forms_of_half_second : ∃ t, read " -1.02:03:04.5 " = .ok t
    ∧ t.nanos = -93784500000000 := by
  have hwritten : Written Plain (Text.strip " -1.02:03:04.5 ".toList) true
      { days := 1, hours := 2, minutes := 3, seconds := 4, nanos := 500000000 } := by
    have hhead : HeadForm Plain "1.02".toList 1 2 :=
      .days (show Plain ['1'] 1 from ⟨by decide, rfl⟩)
        (show Plain "02".toList 2 from ⟨by decide, rfl⟩)
    have htail : TailForm Plain "04.5".toList 4 500000000 :=
      .fraction (show Plain "04".toList 4 from ⟨by decide, rfl⟩)
        (show IsNumber ['5'] by decide) (by decide)
    have hminutes : Plain "03".toList 3 := ⟨by decide, rfl⟩
    exact ⟨"1.02:03:04.5".toList, by decide, .long hhead hminutes htail, by simp⟩
  refine ⟨⟨-93784500000000, by decide⟩, ?_, rfl⟩
  exact (((read_of_forms " -1.02:03:04.5 ").2.2 true _ hwritten).2.2 _).2
    ⟨⟨by decide, by decide, by decide⟩, by decide⟩

/-- **A sign inside a field is taken**, although the form is one of digits: `0:-5` is read as five
minutes below zero without a sign in front, and the reader overruns on the least field of 64
bits. -/
theorem not_forms_of_signed_field :
    (¬ ∀ s, read s ≠ .error .overrun)
    ∧ ¬ ∀ s t, read s = .ok t → LiteralForm (Text.strip s.toList)
      ∨ ∃ negative c, Written Plain (Text.strip s.toList) negative c ∧ c.Bounded
        ∧ t.nanos = c.value negative := by
  have hplain (digits : List Char) (h : IsNumber digits) :
      ClockForm Signed ('0' :: ':' :: '-' :: digits)
        { days := 0, hours := 0, minutes := -(Digits.read digits : Int) } :=
    .short (show HeadForm Signed ['0'] 0 0 from .hours (.plain (by decide))) (.minus h)
  constructor
  · intro h
    have hwritten : Written Signed (Text.strip "0:-9223372036854775808".toList) false
        { days := 0, hours := 0, minutes := -9223372036854775808 } :=
      ⟨_, by decide, hplain "9223372036854775808".toList (by decide), by decide⟩
    refine h "0:-9223372036854775808" ?_
    rw [read_of_written hwritten]
    rfl
  · intro h
    have hstrip : Text.strip "0:-5".toList = "0:-5".toList := by decide
    have hwritten : Written Signed (Text.strip "0:-5".toList) false
        { days := 0, hours := 0, minutes := -5 } := by
      rw [hstrip]
      exact ⟨_, rfl, hplain ['5'] (by decide), by decide⟩
    have hread : read "0:-5" = .ok ⟨-300000000000, by decide⟩ := by
      rw [read_of_written hwritten]
      rfl
    rcases h _ _ hread with hliteral | ⟨negative, c, ⟨body, hbody, hform, -⟩, -⟩
    · exact hliteral.noColon hwritten.colon
    · rw [hstrip] at hbody
      cases negative with
      | true => cases hbody
      | false =>
          have hbody : "0:-5".toList = body := hbody
          have hsign : '-' ∈ body := by
            rw [← hbody]
            decide
          exact absurd (hform.digits hsign) (by decide)

end Timespan

end EventQuery
