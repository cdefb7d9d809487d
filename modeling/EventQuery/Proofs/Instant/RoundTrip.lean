/-
**Instants written in the internet form are read back.**

A year of four digits makes the text an internet date-time, and the first reader takes it.  Any
other year is written with a sign in front, which no internet date-time and no mail date begins
with; the text without its `Z` is then the first of the patterns.  Either way the fields of the text
are those of the instant, and the calendar leads back to its second.

Main definitions:

* `Instant.written` — the fields that are written.

Main results:

* `Instant.at?_written` — **the fields denote the instant**;
* `Instant.readInternet?_fields`, `Instant.readPattern?_fields` — years of four digits and others;
* `Instant.readers_isoChars` — one of the readers takes the text, and none before it does;
* `Instant.read?_iso` — **every instant is read back**, also from the texts of values, JSON and
  constants.
-/

import EventQuery.Proofs.Grammar.Expression
import EventQuery.Proofs.Instant.Calendar
import EventQuery.Proofs.Number.Digits
import EventQuery.Value.Coercion

set_option relaxedAutoImplicit false
set_option autoImplicit false

namespace EventQuery

-- Powers are those of the core library, whatever other instances are in scope.
attribute [local instance (2000)] instPowNat

namespace Instant

/-! ### Parts -/

/-- **Digits at the front are taken** when there are enough of them, and when no more follow or no
more may be taken. -/
theorem takeNumber?_append {least most : Nat} {digits : List Char}
    (hdigits : digits.all Digits.isDigit = true) (hleast : least ≤ digits.length)
    (hmost : digits.length ≤ most) (rest : List Char)
    (hend : digits.length = most ∨ ∀ c ∈ rest.head?, Digits.isDigit c = false) :
    takeNumber? least most (digits ++ rest) = some (Digits.read digits, rest) := by
  have hnone : (rest.take (most - digits.length)).takeWhile Digits.isDigit = [] := by
    rcases hend with hfull | hrest
    · rw [hfull, Nat.sub_self, List.take_zero, List.takeWhile_nil]
    · cases rest with
      | nil => rw [List.take_nil, List.takeWhile_nil]
      | cons c rest =>
          cases most - digits.length with
          | zero => rw [List.take_zero, List.takeWhile_nil]
          | succ k =>
              rw [List.take_succ_cons, List.takeWhile_cons_of_neg (by simp [hrest c rfl])]
  have htaken : ((digits ++ rest).take most).takeWhile Digits.isDigit = digits := by
    rw [List.take_append, List.take_of_length_le hmost,
      List.takeWhile_append_of_pos (List.all_eq_true.1 hdigits), hnone, List.append_nil]
  simp only [takeNumber?, htaken, if_neg (Nat.not_lt.2 hleast), List.drop_left]

/-- A number written to a width is taken with this width. -/
theorem takeNumber?_writePadded {width n : Nat} (hwidth : 0 < width) (h : n < 10 ^ width)
    (rest : List Char) :
    takeNumber? width width (Digits.writePadded width n ++ rest) = some (n, rest) := by
  have hlength := Digits.length_writePadded hwidth h
  rw [takeNumber?_append (Digits.all_isDigit_writePadded width n) (Nat.le_of_eq hlength.symm)
    (Nat.le_of_eq hlength) rest (.inl hlength), Digits.read_writePadded]

/-- No number stands where no digit does. -/
theorem takeNumber?_eq_none {least most : Nat} {c : Char} (hleast : 0 < least)
    (hc : Digits.isDigit c = false) (cs : List Char) : takeNumber? least most (c :: cs) = none := by
  have htaken : ((c :: cs).take most).takeWhile Digits.isDigit = [] := by
    cases most with
    | zero => rw [List.take_zero, List.takeWhile_nil]
    | succ most => rw [List.take_succ_cons, List.takeWhile_cons_of_neg (by simp [hc])]
  simp only [takeNumber?, htaken, List.length_nil, if_pos hleast]

theorem takeNumber?_two {n : Int} (h : 0 ≤ n ∧ n < 100) (rest : List Char) :
    takeNumber? 2 2 (two n ++ rest) = some (n.toNat, rest) :=
  takeNumber?_writePadded (by decide) (by omega) rest

theorem takeChar?_cons (c : Char) (cs : List Char) : takeChar? c (c :: cs) = some cs := if_pos rfl

/-- A field of two digits is taken. -/
theorem takeField?_two {n : Int} (h : 0 ≤ n ∧ n < 100) (rest : List Char) :
    takeField? (two n ++ rest) = some (n.toNat, rest) := by
  have hlength : (two n).length = 2 := Digits.length_writePadded (by decide) (by omega)
  have hdigits : (two n).all Digits.isDigit = true := Digits.all_isDigit_writePadded 2 n.toNat
  have hblank : (two n ++ rest).dropWhile Text.isBlank = two n ++ rest := by
    obtain ⟨c, cs, hchars⟩ := List.exists_cons_of_length_eq_add_one hlength
    have hdigit : Digits.isDigit c = true := by
      rw [hchars] at hdigits
      exact List.all_eq_true.1 hdigits c List.mem_cons_self
    have hc : Text.isBlank c = false :=
      Digits.of_isDigit (fun c => Text.isBlank c = false) (by decide) hdigit
    rw [hchars, List.cons_append, List.dropWhile_cons_of_neg (by simp [hc])]
  rw [takeField?, hblank, takeNumber?_append hdigits (by omega) (by omega) rest (.inl hlength), two,
    Digits.read_writePadded]

/-- A fraction of a second that is written is taken. -/
theorem takeFraction?_fractionChars {n : Nat} (h : n < 1000000000) (rest : List Char)
    (hrest : ∀ c ∈ rest.head?, Digits.isDigit c = false ∧ c ≠ '.') :
    takeFraction? (fractionChars n ++ rest) = some (n, rest) := by
  have hdigit : ∀ c ∈ rest.head?, Digits.isDigit c = false := fun c hc => (hrest c hc).1
  have hdrop : rest.dropWhile Digits.isDigit = rest := by
    cases rest with
    | nil => rfl
    | cons c rest => exact List.dropWhile_cons_of_neg (by simp [hdigit c rfl])
  have hpart {width k : Nat} (hwidth : 1 ≤ width ∧ width ≤ 9) (hk : k < 10 ^ width)
      (hn : k * 10 ^ (9 - width) = n) :
      takeFraction? ('.' :: Digits.writePadded width k ++ rest) = some (n, rest) := by
    have hlength := Digits.length_writePadded hwidth.1 hk
    have htaken := takeNumber?_append (Digits.all_isDigit_writePadded width k)
      (hlength ▸ hwidth.1) (hlength ▸ hwidth.2) rest (.inr hdigit)
    rw [Digits.read_writePadded] at htaken
    rw [List.cons_append, takeFraction?, takeNanos?, htaken]
    simp only [Option.bind_eq_bind, Option.bind_some, Option.pure_def, List.length_append, hlength,
      Nat.add_sub_cancel, hn, hdrop]
  unfold fractionChars
  split
  · next hzero =>
      rw [List.nil_append, hzero]
      unfold takeFraction?
      split
      · exact absurd rfl (hrest '.' rfl).2
      · rfl
  · split
    · exact hpart (by decide) (by omega) (by omega)
    · split
      · exact hpart (by decide) (by omega) (by omega)
      · exact hpart (by decide) h (Nat.mul_one n)

/-! ### The fields of a text -/

/-- **Fields of at most two digits**, a fraction of a second and no half of the day. -/
structure Clock.Narrow (c : Clock) : Prop where
  month : 0 ≤ c.month ∧ c.month < 100
  day : 0 ≤ c.day ∧ c.day < 100
  hour : 0 ≤ c.hour ∧ c.hour < 100
  minute : 0 ≤ c.minute ∧ c.minute < 100
  second : 0 ≤ c.second ∧ c.second < 100
  nanos : c.nanos < 1000000000
  afternoon : c.afternoon = none

/-- What is written behind the year, up to the `Z`. -/
def Clock.behindYear (c : Clock) : List Char :=
  '-' :: (two c.month ++ '-' :: (two c.day ++ 'T' :: (two c.hour
    ++ ':' :: (two c.minute ++ ':' :: (two c.second ++ fractionChars c.nanos)))))

theorem Clock.behindYear_append (c : Clock) (rest : List Char) : c.behindYear ++ rest
    = '-' :: (two c.month ++ '-' :: (two c.day ++ 'T' :: (two c.hour ++ ':' :: (two c.minute
      ++ ':' :: (two c.second ++ (fractionChars c.nanos ++ rest)))))) := by
  simp only [behindYear, List.cons_append, List.append_assoc]

/-- The fields in the form in which they are taken. -/
theorem Clock.Narrow.eq {c : Clock} (h : c.Narrow) {year : Int} (hyear : year = c.year) :
    (⟨year, c.month.toNat, c.day.toNat, c.hour.toNat, c.minute.toNat, c.second.toNat, c.nanos,
      none⟩ : Clock) = c := by
  rw [hyear, Int.toNat_of_nonneg h.month.1, Int.toNat_of_nonneg h.day.1,
    Int.toNat_of_nonneg h.hour.1, Int.toNat_of_nonneg h.minute.1, Int.toNat_of_nonneg h.second.1,
    ← h.afternoon]

/-- A part that is taken is passed on. -/
theorem taken {α β : Type} {part : Option α} {a : α} {next : α → Option β} (h : part = some a) :
    (part >>= next) = next a := by
  rw [h, Option.bind_eq_bind, Option.bind_some]

section Fields

variable {c : Clock} (h : c.Narrow)

include h

/-- **A year of four digits** makes an internet date-time. -/
theorem readInternet?_fields (hyear : 0 ≤ c.year ∧ c.year ≤ 9999) :
    readInternet? (Digits.writePadded 4 c.year.toNat ++ (c.behindYear ++ ['Z'])) = c.at? 0 := by
  have hmark (cs : List Char) : takeTimeMark? ('T' :: cs) = some cs := by
    rw [takeTimeMark?, if_pos (.inl rfl)]
  have hfraction := takeFraction?_fractionChars h.nanos ['Z'] (by simp; decide)
  have hzone (cs : List Char) : takeZone? ('Z' :: cs) = some (0, cs) := rfl
  rw [Clock.behindYear_append, readInternet?]
  refine (taken (takeNumber?_writePadded (by decide) (by omega) _)).trans ?_
  refine (taken (takeChar?_cons '-' _)).trans ?_
  refine (taken (takeNumber?_two h.month _)).trans ?_
  refine (taken (takeChar?_cons '-' _)).trans ?_
  refine (taken (takeNumber?_two h.day _)).trans ?_
  refine (taken (hmark _)).trans ?_
  refine (taken (takeNumber?_two h.hour _)).trans ?_
  refine (taken (takeChar?_cons ':' _)).trans ?_
  refine (taken (takeNumber?_two h.minute _)).trans ?_
  refine (taken (takeChar?_cons ':' _)).trans ?_
  refine (taken (takeNumber?_two h.second _)).trans ?_
  refine (taken hfraction).trans ?_
  refine (taken (hzone [])).trans ?_
  exact congrArg (fun c : Clock => c.at? 0) (h.eq (Int.toNat_of_nonneg hyear.1))

/-- **A year with a sign** and the fields behind it are the first of the patterns. -/
theorem readPattern?_fields {year : List Char}
    (hyear : takeYear? (year ++ c.behindYear) = some (c.year, c.behindYear)) :
    readPattern? (yearFirst '-' ++ .mark 'T' :: longTime) {} (year ++ c.behindYear) = c.at? 0 := by
  have hfraction := takeFraction?_fractionChars h.nanos [] (by simp)
  rw [List.append_nil] at hfraction
  refine Eq.trans ?_ (congrArg (fun c : Clock => c.at? 0) (h.eq rfl))
  simp only [yearFirst, longTime, List.cons_append, List.nil_append, readPattern?, Piece.take?,
    hyear, Option.map_some]
  simp only [Clock.behindYear, takeChar?_cons, takeField?_two h.month, takeField?_two h.day,
    takeField?_two h.hour, takeField?_two h.minute, takeField?_two h.second, hfraction,
    Option.map_some, List.isEmpty_nil, if_true]

end Fields

/-! ### Years with a sign -/

/-- Years outside 0 to 9999 are written with a sign. -/
theorem yearChars_signed {year : Int} (h : ¬ (0 ≤ year ∧ year ≤ 9999)) : yearChars year
    = (if year < 0 then '-' else '+') :: Digits.writePadded 4 year.natAbs := if_neg h

/-- A year with a sign is taken whole, whatever the number of its digits. -/
theorem takeYear?_signed {year : Int} (h : ¬ (0 ≤ year ∧ year ≤ 9999)) (rest : List Char)
    (hrest : ∀ c ∈ rest.head?, Digits.isDigit c = false) :
    takeYear? (yearChars year ++ rest) = some (year, rest) := by
  have hlength : 1 ≤ (Digits.writePadded 4 year.natAbs).length :=
    List.length_pos_of_ne_nil (Digits.writePadded_ne_nil 4 year.natAbs)
  have htake := takeNumber?_append (Digits.all_isDigit_writePadded 4 year.natAbs)
    hlength (Nat.le_add_right _ rest.length) rest (.inr hrest)
  rw [← List.length_append, Digits.read_writePadded] at htake
  have hblank : Text.isBlank '-' = false ∧ Text.isBlank '+' = false := by decide
  rw [yearChars_signed h, List.cons_append]
  by_cases hneg : year < 0
  · rw [if_pos hneg, takeYear?, List.dropWhile_cons_of_neg (by simp [hblank])]
    simp only [htake, Option.map_some, Option.some.injEq, Prod.mk.injEq, and_true]
    omega
  · rw [if_neg hneg, takeYear?, List.dropWhile_cons_of_neg (by simp [hblank])]
    simp only [htake, Option.map_some, Option.some.injEq, Prod.mk.injEq, and_true]
    omega

section Sign

variable {c : Char} (h : c = '-' ∨ c = '+') (cs : List Char)

include h

theorem readInternet?_sign : readInternet? (c :: cs) = none := by
  have hdigit : Digits.isDigit c = false := by rcases h with rfl | rfl <;> decide
  rw [readInternet?, takeNumber?_eq_none (by decide) hdigit]
  rfl

/-- No mail date begins with a sign. -/
theorem readMail?_sign : readMail? (c :: cs) = none := by
  have hdigit : Digits.isDigit c = false := by rcases h with rfl | rfl <;> decide
  have hblank : Text.isBlank c = false := by rcases h with rfl | rfl <;> decide
  have hdrop : (c :: cs).dropWhile Text.isBlank = c :: cs :=
    List.dropWhile_cons_of_neg (by simp [hblank])
  have hnames : ∀ name ∈ shortNames Calendar.weekdayNames,
      (name.toList.map Char.toLower).head? ≠ some c.toLower := by
    rcases h with rfl | rfl <;> decide
  have hname : takeName? (shortNames Calendar.weekdayNames) (c :: cs) = none := by
    rw [takeName?, Option.map_eq_none_iff, List.findIdx?_eq_none_iff]
    intro name hmem
    rw [beq_eq_false_iff_ne]
    intro heq
    exact hnames name hmem (by rw [heq, List.take_succ_cons, List.map_cons, List.head?_cons])
  rw [readMail?, hdrop, takeMailWeekday?, hname]
  refine (taken rfl).trans ?_
  dsimp only
  rw [hdrop, takeNumber?_eq_none (by decide) hdigit]
  rfl

end Sign

/-! ### The fields of an instant -/

variable (t : Instant)

/-- The second of the minute that is written: a leap second is second 60. -/
def writtenSecond : Int := if 1000000000 ≤ t.nanos then t.secondOfMinute + 1 else t.secondOfMinute

/-- **The fields that are written.** -/
def written : Clock where
  year := t.date.year
  month := t.date.month
  day := t.date.day
  hour := t.hour
  minute := t.minute
  second := t.writtenSecond
  nanos := t.subsecond

theorem month_bounds : 1 ≤ t.date.month ∧ t.date.month ≤ 12 := by
  have hvalid : Calendar.isValid t.date = true := Calendar.isValid_dateOf t.day
  simp only [Calendar.isValid, Bool.and_eq_true, decide_eq_true_eq] at hvalid
  exact hvalid.1.1

theorem day_bounds : 1 ≤ t.date.day ∧ t.date.day ≤ 31 := by
  have hvalid : Calendar.isValid t.date = true := Calendar.isValid_dateOf t.day
  simp only [Calendar.isValid, Bool.and_eq_true, decide_eq_true_eq] at hvalid
  have hlength : Calendar.monthLength t.date.year t.date.month ≤ 31 := by
    rw [Calendar.monthLength]
    repeat' split
    all_goals omega
  exact ⟨hvalid.1.2, by omega⟩

theorem hour_bounds : 0 ≤ t.hour ∧ t.hour ≤ 23 := by
  rw [hour, secondOfDay]
  omega

theorem minute_bounds : 0 ≤ t.minute ∧ t.minute ≤ 59 := by
  rw [minute, secondOfDay]
  omega

theorem writtenSecond_bounds : 0 ≤ t.writtenSecond ∧ t.writtenSecond ≤ 60 := by
  rw [writtenSecond, secondOfMinute, secondOfDay]
  split <;> omega

/-- Second 60 is written in leap seconds only. -/
theorem writtenSecond_eq_sixty_iff : t.writtenSecond = 60 ↔ 1000000000 ≤ t.nanos := by
  have hleap := t.leap
  rw [writtenSecond, secondOfMinute, secondOfDay]
  split <;> omega

theorem year_bounds : -262143 ≤ t.date.year ∧ t.date.year ≤ 262142 := by
  have hlow := t.second_ge
  have hhigh := t.second_le
  rw [firstSecond] at hlow
  rw [lastSecond] at hhigh
  have hday : -96465292 ≤ t.day ∧ t.day ≤ 95026236 := by
    rw [day]
    omega
  exact Calendar.year_dateOf hday.1 hday.2

/-- **The fields denote the instant.** -/
theorem at?_written : t.written.at? 0 = some t := by
  have hdate : (⟨t.date.year, t.date.month, t.date.day⟩ : Calendar.Date) = t.date := rfl
  have hvalid : Calendar.isValid t.date = true := Calendar.isValid_dateOf t.day
  have hdays : Calendar.daysOf t.date = t.second / 86400 := Calendar.daysOf_dateOf t.day
  have hnanos := t.nanos_lt
  have hleap := t.leap
  have hmake {second : Int} {nanos : Nat} (hs : second = t.second) (hn : nanos = t.nanos) :
      make? second nanos = some t := by
    rw [hs, hn, make?_self]
  have hhour : t.written.hourOfDay? = some t.hour := if_pos t.hour_bounds.2
  have hcond : Calendar.isValid t.date = true ∧ t.minute ≤ 59 ∧ t.writtenSecond ≤ 60
      ∧ -262143 ≤ t.date.year ∧ t.date.year ≤ 262142 ∧ (-86400 : Int) < 0 ∧ (0 : Int) < 86400 :=
    ⟨hvalid, t.minute_bounds.2, t.writtenSecond_bounds.2, t.year_bounds.1, t.year_bounds.2,
      by decide, by decide⟩
  rw [Clock.at?, hhour, Option.bind_eq_bind, Option.bind_some]
  refine (if_pos hcond).trans ?_
  by_cases hlong : 1000000000 ≤ t.nanos
  · have hsixty : t.written.second = 60 := t.writtenSecond_eq_sixty_iff.2 hlong
    rw [if_pos hsixty]
    refine hmake ?_ ?_
    · have hlast := hleap hlong
      change Calendar.daysOf t.date * 86400 + t.hour * 3600 + t.minute * 60 + 59 - 0 = t.second
      rw [hdays, hour, minute, secondOfDay]
      omega
    · change 1000000000 + t.subsecond = t.nanos
      rw [subsecond]
      omega
  · have hsixty : ¬ t.written.second = 60 := mt t.writtenSecond_eq_sixty_iff.1 hlong
    rw [if_neg hsixty]
    refine hmake ?_ ?_
    · change Calendar.daysOf t.date * 86400 + t.hour * 3600 + t.minute * 60 + t.writtenSecond - 0
        = t.second
      rw [hdays, writtenSecond, if_neg hlong, hour, minute, secondOfMinute, secondOfDay]
      omega
    · change t.subsecond = t.nanos
      rw [subsecond]
      omega

/-! ### The text -/

theorem isoChars_eq : t.isoChars = yearChars t.date.year ++ (t.written.behindYear ++ ['Z']) := by
  simp only [isoChars, Clock.behindYear, written, writtenSecond, List.append_assoc,
    List.cons_append]

theorem narrow_written : t.written.Narrow := by
  have hmonth := t.month_bounds
  have hday := t.day_bounds
  have hhour := t.hour_bounds
  have hminute := t.minute_bounds
  have hsecond := t.writtenSecond_bounds
  refine ⟨?_, ?_, ?_, ?_, ?_, Nat.mod_lt _ (by decide), rfl⟩ <;> (dsimp only [written]; omega)

theorem dropZulu_append (cs : List Char) : dropZulu (cs ++ ['Z']) = cs := by
  rw [dropZulu, List.reverse_append, List.reverse_singleton, List.singleton_append]
  exact List.reverse_reverse cs

/-- **The fields are read back**, by one reader or another. -/
theorem readers_isoChars : ((readInternet? t.isoChars <|> readMail? t.isoChars)
    <|> patterns.findSome? fun pattern => readPattern? pattern {} (dropZulu t.isoChars))
      = some t := by
  have hnarrow := t.narrow_written
  by_cases hyear : 0 ≤ t.date.year ∧ t.date.year ≤ 9999
  · have hfour : yearChars t.date.year = Digits.writePadded 4 t.written.year.toNat := if_pos hyear
    have hread : readInternet? t.isoChars = some t := by
      rw [isoChars_eq, hfour, readInternet?_fields hnarrow hyear, at?_written]
    rw [hread]
    rfl
  · have htake := takeYear?_signed hyear t.written.behindYear (by
      rw [Clock.behindYear]
      simp
      decide)
    have hread : readPattern? (yearFirst '-' ++ .mark 'T' :: longTime) {} (dropZulu t.isoChars)
        = some t := by
      rw [isoChars_eq, ← List.append_assoc, dropZulu_append, readPattern?_fields hnarrow htake,
        at?_written]
    have hsign : (if t.date.year < 0 then '-' else '+') = '-'
        ∨ (if t.date.year < 0 then '-' else '+') = '+' := by
      split
      · exact .inl rfl
      · exact .inr rfl
    have hother : readInternet? t.isoChars = none ∧ readMail? t.isoChars = none := by
      rw [isoChars_eq, yearChars_signed hyear, List.cons_append]
      exact ⟨readInternet?_sign hsign _, readMail?_sign hsign _⟩
    rw [hother.1, hother.2, patterns, List.findSome?_cons, hread]
    rfl

/-- Nothing is stripped from the text. -/
theorem strip_isoChars :
    Text.stripWhere Text.isQuote (Text.strip t.isoChars) = t.isoChars := by
  have hbare := Token.bare_isoChars t
  have hquote {cs : List Char} (h : Token.Bare cs) : cs.dropWhile Text.isQuote = cs := by
    cases cs with
    | nil => rfl
    | cons c cs =>
        have hc := h c List.mem_cons_self
        simp only [Token.isBare, Token.isFlat, Bool.and_eq_true, Bool.not_eq_true'] at hc
        exact List.dropWhile_cons_of_neg (by simp [hc])
  rw [hbare.strip, Text.stripWhere, hquote hbare, Text.dropEndWhile,
    hquote fun c hc => hbare c (List.mem_reverse.1 hc), List.reverse_reverse]

theorem isoChars_ne_nil : t.isoChars ≠ [] := by
  rw [isoChars_eq, ← List.append_assoc]
  exact List.append_ne_nil_of_right_ne_nil _ (List.cons_ne_nil _ _)

theorem read?_isoChars : read? (String.ofList t.isoChars) = some t := by
  have hne : t.isoChars.isEmpty = false := List.isEmpty_eq_false_iff.2 t.isoChars_ne_nil
  simp only [read?, String.toList_ofList, strip_isoChars, hne, Bool.false_eq_true, if_false]
  exact t.readers_isoChars

/-- **A constant instant is read back** from its text. -/
theorem typedLiteral_isoChars (inner : Reader (Draft Expr)) :
    Grammar.typedLiteral inner "datetime" t.isoChars = .ok (.const (.datetime t)) := by
  have hbare := Token.bare_isoChars t
  have hquote : Grammar.unquote t.isoChars = t.isoChars := by
    obtain ⟨c, cs, hchars⟩ := List.exists_cons_of_ne_nil t.isoChars_ne_nil
    have hc := hbare c (by rw [hchars]; exact List.mem_cons_self)
    simp only [Token.isBare, Token.isFlat, Bool.and_eq_true, Bool.not_eq_true'] at hc
    rw [hchars, Grammar.unquote, hc.1.1.1, Bool.false_and, if_neg Bool.false_ne_true]
  have hnull : t.isoChars ≠ "null".toList := by
    intro hnull
    have hmem : ':' ∈ t.isoChars := by
      rw [isoChars_eq, Clock.behindYear]
      simp
    rw [hnull] at hmem
    revert hmem
    decide
  have hword (cs : List Char) : Grammar.typedConstant? "datetime" cs
      = (read? (String.ofList cs)).map Value.datetime := by
    simp [Grammar.typedConstant?, Grammar.typedWords, Fields.get?]
  have hread : Grammar.typedConstant? "datetime" t.isoChars = some (.datetime t) := by
    rw [hword, read?_isoChars, Option.map_some]
  simp only [Grammar.typedLiteral, hbare.strip, hquote, if_neg hnull, hread]

/-- **Every instant is read back** from the internet form: from the text of a value, from JSON and
as a constant. -/
theorem read?_iso :
    read? t.iso = some t
    ∧ (Value.string (Value.datetime t).text).toInstant? = some t
    ∧ (Json.read? (Value.datetime t).toJson.compact).bind (fun j => (Value.ofJson j).toInstant?)
        = some t
    ∧ Expr.read (Expr.const (.datetime t)).print = .ok (.const (.datetime t)) := by
  have hread : read? t.iso = some t := by rw [iso, read?_isoChars]
  have htext : (Value.datetime t).text = t.iso := by rw [Value.text]
  have hjson : (Value.datetime t).toJson = .string t.iso := by rw [Value.toJson]
  refine ⟨hread, ?_, ?_, ?_⟩
  · rw [Value.toInstant?, htext, hread]
  · rw [hjson, Json.read?_compact (.string _ _), Option.bind_some, Value.ofJson,
      Value.toInstant?, hread]
  · rw [Expr.read_print_eq_reread (.const _), Expr.reread, Grammar.literalDraft,
      typedLiteral_isoChars]
    rfl

end Instant

end EventQuery
