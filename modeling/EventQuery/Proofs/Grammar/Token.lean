/-
**Names, words and constants as they are written.**

Each of the smallest parts of a text is taken whole by its reader: a name ends where no name
character follows, a quoted text at its closing quote, a number behind its last digit.

Main definitions:

* `Token.IsName` — the names that are read, words with a meaning of their own among them.

Main results:

* `Token.takes_name`, `Token.takes_quoted` — names and text constants;
* `Token.word_eq` — a word is the longest run of name characters;
* `Token.scanInteger_write` — whole numbers;
* `Token.takes_operator` — **every operator is read as it is written**.
-/

import EventQuery.Grammar.Expression
import EventQuery.Proofs.Grammar.Reader
import EventQuery.Proofs.Json.Scalar
import Mathlib.Tactic.FinCases

set_option relaxedAutoImplicit false
set_option autoImplicit false

namespace EventQuery

namespace Token

open Reader

/-! ### Characters -/

section Marks

variable {P : Char → Bool} {c : Char}

/-- None of the characters is a space when no space is one of them. -/
theorem isSpace_eq_false (hP : [' ', '\t', '\r', '\n'].any P = false) (h : P c = true) :
    isSpace c = false := by
  cases hs : isSpace c with
  | false => rfl
  | true =>
      simp only [isSpace, Bool.or_eq_true, beq_iff_eq] at hs
      rcases hs with ((rfl | rfl) | rfl) | rfl <;> simp [h] at hP

theorem isQuote_eq_false (hP : ['"', '\''].any P = false) (h : P c = true) :
    Text.isQuote c = false := by
  cases hq : Text.isQuote c with
  | false => rfl
  | true =>
      simp only [Text.isQuote, Bool.or_eq_true, beq_iff_eq] at hq
      rcases hq with rfl | rfl <;> simp [h] at hP

theorem ne_of_eq_false {d : Char} (hd : P d = false) (h : P c = true) : c ≠ d := by
  rintro rfl
  rw [h] at hd
  cases hd

end Marks

theorem isSpace_of_isNameChar {c : Char} (h : Expr.isNameChar c = true) : isSpace c = false :=
  isSpace_eq_false (by decide) h

theorem isQuote_of_isNameChar {c : Char} (h : Expr.isNameChar c = true) :
    Text.isQuote c = false := isQuote_eq_false (by decide) h

/-- A character that begins a name is no other mark. -/
theorem of_isNameStart {c : Char} (h : Expr.isNameStart c = true) :
    isSpace c = false ∧ c ≠ '/' ∧ c ≠ '(' ∧ c ≠ '[' ∧ c ≠ '-' ∧ c ≠ '.' ∧ Text.isQuote c = false
      ∧ Digits.isDigit c = false := by
  have hmark {d : Char} (hd : Expr.isNameStart d = false) : c ≠ d := ne_of_eq_false hd h
  refine ⟨isSpace_eq_false (by decide) h, hmark (by decide), hmark (by decide), hmark (by decide),
    hmark (by decide), hmark (by decide), isQuote_eq_false (by decide) h, ?_⟩
  cases hd : Digits.isDigit c with
  | false => rfl
  | true =>
      have hnot := Digits.of_isDigit (fun c => Expr.isNameStart c = false) (by decide) hd
      rw [h] at hnot
      cases hnot

theorem isBlank_nameChar_ascii : ∀ n < 128,
    (Expr.isNameStart (Char.ofNat n) || Expr.isNameChar (Char.ofNat n)) = true →
      Text.isBlank (Char.ofNat n) = false := by decide

/-- No character of a name is blank. -/
theorem isBlank_of_isNameChar {c : Char} (h : (Expr.isNameStart c || Expr.isNameChar c) = true) :
    Text.isBlank c = false := by
  have hbound {d : Char} (h : c ≤ d) (hd : d ≤ 'z') : c.toNat ≤ 'z'.toNat := Nat.le_trans h hd
  have hlow : c.toNat ≤ 'z'.toNat := by
    simp only [Expr.isNameStart, Expr.isNameChar, Expr.isLetter, Digits.isDigit, Bool.or_eq_true,
      Bool.and_eq_true, decide_eq_true_eq, beq_iff_eq] at h
    rcases h with ((((h | h) | rfl) | rfl) | rfl) | ((h | h) | h) | rfl
    · exact hbound h.2 (by decide)
    · exact hbound h.2 (by decide)
    · decide
    · decide
    · decide
    · exact hbound h.2 (by decide)
    · exact hbound h.2 (by decide)
    · exact hbound h.2 (by decide)
    · decide
  have hascii := isBlank_nameChar_ascii c.toNat (Nat.lt_of_le_of_lt hlow (by decide))
  rw [Char.ofNat_toNat] at hascii
  exact hascii h

/-- **The names that are read**, words with a meaning of their own among them. -/
def IsName (name : String) : Prop :=
  ∃ c cs, name.toList = c :: cs ∧ Expr.isNameStart c = true ∧ cs.all Expr.isNameChar = true

instance (name : String) : Decidable (IsName name) :=
  match h : name.toList with
  | [] => isFalse fun ⟨c, cs, hchars, _⟩ => by rw [h] at hchars; cases hchars
  | c :: cs =>
      decidable_of_iff (Expr.isNameStart c = true ∧ cs.all Expr.isNameChar = true)
        ⟨fun hname => ⟨c, cs, h, hname⟩, fun ⟨d, ds, hchars, hname⟩ => by
          rw [h] at hchars
          cases hchars
          exact hname⟩

theorem isName_of_isPlainName {name : String} (h : Expr.isPlainName name = true) :
    IsName name ∧ name ∉ Expr.reserved := by
  unfold Expr.isPlainName at h
  split at h
  · cases h
  · next c cs hchars =>
      simp only [Bool.and_eq_true, Bool.not_eq_true', List.contains_eq_mem,
        decide_eq_false_iff_not] at h
      exact ⟨⟨c, cs, hchars, h.1.1, h.1.2⟩, h.2⟩

/-! ### Names -/

/-- Name characters in front of a word end are taken whole. -/
theorem span_name {cs rest : List Char} (hcs : cs.all Expr.isNameChar = true)
    (hrest : atWordEnd rest = true) :
    (cs ++ rest).takeWhile Expr.isNameChar = cs ∧
      (cs ++ rest).dropWhile Expr.isNameChar = rest := by
  have hall : ∀ c ∈ cs, Expr.isNameChar c = true := List.all_eq_true.1 hcs
  rw [List.takeWhile_append_of_pos hall, List.dropWhile_append_of_pos hall]
  cases rest with
  | nil => simp
  | cons c rest =>
      rw [atWordEnd, Bool.not_eq_true'] at hrest
      simp [hrest]

/-- **A name is taken whole.** -/
theorem takes_name {name : String} (hname : IsName name) {rest : List Char}
    (hrest : atWordEnd rest = true) : Takes Token.name (name.toList ++ rest) name rest := by
  obtain ⟨c, cs, hchars, hstart, hcs⟩ := hname
  obtain ⟨htake, hdrop⟩ := span_name hcs hrest
  refine takes_scan ?_
  rw [hchars, List.cons_append, scanName, if_pos hstart, htake, hdrop, ← hchars,
    String.ofList_toList]

/-! ### Words -/

/-- **A word is the longest run of name characters.** -/
theorem word_eq {words : List String} (hwords : ∀ w ∈ words, w.toList.all Expr.isNameChar = true)
    {cs rest : List Char} {w : String} (h : closed (firstWord words cs) = some (w, rest)) :
    w ∈ words ∧ w.toList = cs.takeWhile Expr.isNameChar ∧ cs = w.toList ++ rest := by
  rw [closed, Option.filter_eq_some_iff, firstWord] at h
  obtain ⟨hfirst, hend⟩ := h
  obtain ⟨v, hv, hdrop⟩ := List.exists_of_findSome?_eq_some hfirst
  obtain ⟨left, hleft, he⟩ := Option.map_eq_some_iff.1 hdrop
  cases he
  rw [Text.dropPattern?_eq_some_iff] at hleft
  subst hleft
  exact ⟨hv, (span_name (hwords w hv) hend).1.symm, rfl⟩

/-- The only word that is read from a name is the name itself. -/
theorem word_name {words : List String}
    (hwords : ∀ w ∈ words, w.toList ≠ [] ∧ w.toList.all Expr.isNameChar = true) {name : String}
    (hname : IsName name) {rest left : List Char} {w : String}
    (hrest : atWordEnd rest = true)
    (h : closed (firstWord words (name.toList ++ rest)) = some (w, left)) :
    name ∈ words ∧ left = rest := by
  obtain ⟨hmem, hw, htext⟩ := word_eq (fun w hw => (hwords w hw).2) h
  obtain ⟨c, cs, hchars, -, hcs⟩ := hname
  rw [hchars, List.cons_append] at hw
  by_cases hc : Expr.isNameChar c = true
  · rw [List.takeWhile_cons_of_pos hc, (span_name hcs hrest).1, ← hchars, String.toList_inj] at hw
    subst hw
    exact ⟨hmem, (List.append_cancel_left htext).symm⟩
  · rw [List.takeWhile_cons_of_neg hc] at hw
    exact absurd hw (hwords w hmem).1

/-- A word is not read from a name that it is not. -/
theorem closed_firstWord_name {words : List String}
    (hwords : ∀ w ∈ words, w.toList ≠ [] ∧ w.toList.all Expr.isNameChar = true) {name : String}
    (hname : IsName name) (hother : name ∉ words) {rest : List Char}
    (hrest : atWordEnd rest = true) : closed (firstWord words (name.toList ++ rest)) = none := by
  cases h : closed (firstWord words (name.toList ++ rest)) with
  | none => rfl
  | some taken => exact absurd (word_name hwords hname hrest h).1 hother

/-- No word begins with a character that none of them begins with. -/
theorem firstWord_eq_none {words : List String} {c : Char}
    (h : ∀ w ∈ words, w.toList ≠ [] ∧ w.toList.head? ≠ some c) (cs : List Char) :
    firstWord words (c :: cs) = none := by
  rw [firstWord, List.findSome?_eq_none_iff]
  intro w hw
  obtain ⟨hne, hhead⟩ := h w hw
  cases hchars : w.toList with
  | nil => exact absurd hchars hne
  | cons d ds =>
      rw [hchars, List.head?_cons, ne_eq, Option.some.injEq] at hhead
      rw [Text.dropPattern?, if_neg hhead, Option.map_none]

/-! ### Text constants -/

theorem unescape_cons {c : Char} (h : c ≠ '\\') (cs : List Char) :
    unescape (c :: cs) = c :: unescape cs := by
  rw [unescape.eq_def]
  exact if_neg h

/-- Escapes are resolved to what they were made from. -/
theorem unescape_flatMap (cs : List Char) : unescape (cs.flatMap Expr.escapeChar) = cs := by
  induction cs with
  | nil => rfl
  | cons c cs ih =>
      rw [List.flatMap_cons]
      by_cases hquote : c = '"'
      · subst hquote
        simp [Expr.escapeChar, unescape, ih]
      by_cases hslash : c = '\\'
      · subst hslash
        simp [Expr.escapeChar, unescape, ih]
      by_cases hfeed : c = '\n'
      · subst hfeed
        simp [Expr.escapeChar, unescape, ih]
      by_cases hreturn : c = '\r'
      · subst hreturn
        simp [Expr.escapeChar, unescape, ih]
      by_cases htab : c = '\t'
      · subst htab
        simp [Expr.escapeChar, unescape, ih]
      have hself : Expr.escapeChar c = [c] := by
        rw [Expr.escapeChar, if_neg hquote, if_neg hslash, if_neg hfeed, if_neg hreturn,
          if_neg htab]
      rw [hself, List.singleton_append, unescape_cons hslash, ih]

theorem untilQuote_end (quote : Char) (rest : List Char) :
    untilQuote quote (quote :: rest) = some ([], rest) := by
  rw [untilQuote.eq_def]
  exact if_pos rfl

theorem untilQuote_escape (d : Char) (cs : List Char) :
    untilQuote '"' ('\\' :: d :: cs)
      = (untilQuote '"' cs).map fun r => ('\\' :: d :: r.1, r.2) := by
  rw [untilQuote.eq_def]
  rfl

theorem untilQuote_cons {c : Char} (hquote : c ≠ '"') (hslash : c ≠ '\\') (cs : List Char) :
    untilQuote '"' (c :: cs) = (untilQuote '"' cs).map fun r => (c :: r.1, r.2) := by
  rw [untilQuote.eq_def]
  simp only [if_neg hquote, if_neg hslash]

/-- **How a character is written inside quotes**: behind a backslash, by its number, or as it is. -/
inductive Shields (c : Char) : List Char → Prop where
  | pair (d : Char) : Shields c ['\\', d]
  | number {d e f g h : Char} : [e, f, g, h].all (fun x => x != '"' && x != '\\') = true →
      Shields c ['\\', d, e, f, g, h]
  | bare : c ≠ '"' → c ≠ '\\' → Shields c [c]

theorem Shields.untilQuote {c : Char} {t : List Char} (h : Shields c t) (cs : List Char) :
    untilQuote '"' (t ++ cs) = (untilQuote '"' cs).map fun r => (t ++ r.1, r.2) := by
  cases h with
  | pair d => exact untilQuote_escape d cs
  | @number d e f g h hplain =>
      simp only [List.all_cons, List.all_nil, Bool.and_true, Bool.and_eq_true, bne_iff_ne] at hplain
      obtain ⟨⟨he, he'⟩, ⟨hf, hf'⟩, ⟨hg, hg'⟩, hh, hh'⟩ := hplain
      simp only [List.cons_append, List.nil_append]
      rw [untilQuote_escape, untilQuote_cons he he', untilQuote_cons hf hf',
        untilQuote_cons hg hg', untilQuote_cons hh hh']
      simp only [Option.map_map, Function.comp_def]
  | bare hquote hslash => exact untilQuote_cons hquote hslash cs

/-- A text that an escaping function made has no quote that is not protected. -/
theorem untilQuote_flatMap {escape : Char → List Char} (hescape : ∀ c, Shields c (escape c))
    (cs rest : List Char) :
    untilQuote '"' (cs.flatMap escape ++ '"' :: rest) = some (cs.flatMap escape, rest) := by
  induction cs with
  | nil => exact untilQuote_end '"' rest
  | cons c cs ih =>
      rw [List.flatMap_cons, List.append_assoc, (hescape c).untilQuote, ih, Option.map_some]

theorem shields_escapeChar (c : Char) : Shields c (Expr.escapeChar c) := by
  rw [Expr.escapeChar]
  split
  · exact .pair '"'
  split
  · exact .pair '\\'
  split
  · exact .pair 'n'
  split
  · exact .pair 'r'
  split
  · exact .pair 't'
  · next hquote hslash _ _ _ => exact .bare hquote hslash

theorem untilQuote_quote (s : String) (rest : List Char) :
    untilQuote '"' (s.toList.flatMap Expr.escapeChar ++ '"' :: rest)
      = some (s.toList.flatMap Expr.escapeChar, rest) :=
  untilQuote_flatMap shields_escapeChar s.toList rest

theorem scanQuoted_quoteChars (s : String) (rest : List Char) :
    scanQuoted (Expr.quoteChars s ++ rest) = some (s.toList.flatMap Expr.escapeChar, rest) := by
  rw [Expr.quoteChars, List.cons_append, List.cons_append, List.append_assoc,
    List.singleton_append, scanQuoted, if_pos (by decide), untilQuote_quote]

/-- **A text constant is taken whole.** -/
theorem takes_quoted (s : String) (rest : List Char) :
    Takes Token.quoted (Expr.quoteChars s ++ rest) s rest := by
  refine takes_scan ?_
  rw [scanQuoted_quoteChars, Option.map_some, unescape_flatMap, String.ofList_toList]

/-- **A name in brackets is taken whole.** -/
theorem takes_bracketName (s : String) (rest : List Char) :
    Takes Token.bracketName ('[' :: Expr.quoteChars s ++ [']'] ++ rest) s rest := by
  have htext : '[' :: Expr.quoteChars s ++ [']'] ++ rest
      = "[".toList ++ (Expr.quoteChars s ++ ("]".toList ++ rest)) := by simp
  rw [htext]
  exact takes_rule (takes_bind (takes_token "[" _) (takes_bind (takes_quoted s _)
    (takes_bind (takes_token "]" rest) (takes_pure s rest))))

/-! ### Whole numbers -/

theorem span_digits {cs rest : List Char} (hcs : cs.all Digits.isDigit = true)
    (hrest : rest.head?.any Digits.isDigit = false) :
    (cs ++ rest).takeWhile Digits.isDigit = cs ∧ (cs ++ rest).dropWhile Digits.isDigit = rest := by
  have hall : ∀ c ∈ cs, Digits.isDigit c = true := List.all_eq_true.1 hcs
  rw [List.takeWhile_append_of_pos hall, List.dropWhile_append_of_pos hall]
  cases rest with
  | nil => simp
  | cons c rest =>
      have hc : Digits.isDigit c = false := hrest
      simp [hc]

/-- Digits are taken as far as they go. -/
theorem scanDigits_write (n : Nat) {rest : List Char}
    (hrest : rest.head?.any Digits.isDigit = false) :
    scanDigits (Digits.write n ++ rest) = some (Digits.write n, rest) := by
  obtain ⟨htake, hdrop⟩ := span_digits (Digits.all_isDigit_write n) hrest
  rw [scanDigits, htake, hdrop]
  cases h : Digits.write n with
  | nil => exact absurd h (Digits.write_ne_nil n)
  | cons c cs => rfl

theorem isDigit_isNameChar {c : Char} (h : Digits.isDigit c = true) : Expr.isNameChar c = true := by
  rw [Expr.isNameChar, h, Bool.or_true, Bool.true_or]

theorem noDigit_of_atWordEnd {rest : List Char} (h : atWordEnd rest = true) :
    rest.head?.any Digits.isDigit = false := by
  cases rest with
  | nil => rfl
  | cons c rest =>
      cases hd : Digits.isDigit c with
      | false => exact hd
      | true =>
          rw [atWordEnd, isDigit_isNameChar hd] at h
          cases h

theorem scanSign_digit {c : Char} (h : Digits.isDigit c = true) (cs : List Char) :
    scanSign ['-'] (c :: cs) = ([], c :: cs) := by
  have hc : ['-'].contains c = false := by
    rw [List.contains_eq_mem, decide_eq_false_iff_not, List.mem_singleton]
    rintro rfl
    exact absurd h (by decide)
  rw [scanSign, if_neg (by rw [hc]; decide)]

/-- A whole number has no sign in front, -/
theorem scanSign_write (n : Nat) (rest : List Char) :
    scanSign ['-'] (Digits.write n ++ rest) = ([], Digits.write n ++ rest) := by
  obtain ⟨c, cs, hchars, hc⟩ := Digits.write_cons n
  rw [hchars, List.cons_append, scanSign_digit hc]

/-- ... unless one stands there. -/
theorem scanSign_minus (cs : List Char) : scanSign ['-'] ('-' :: cs) = (['-'], cs) := rfl

/-- No word stands where a name ends. -/
theorem firstWord_atWordEnd {words : List String}
    (hwords : ∀ w ∈ words, w.toList.head?.any Expr.isNameChar = true) {rest : List Char}
    (h : atWordEnd rest = true) : firstWord words rest = none := by
  rw [firstWord, List.findSome?_eq_none_iff]
  intro w hw
  have hhead := hwords w hw
  cases hchars : w.toList with
  | nil =>
      rw [hchars] at hhead
      cases hhead
  | cons d ds =>
      rw [hchars] at hhead
      cases rest with
      | nil => rfl
      | cons c rest =>
          have hne : d ≠ c := by
            rintro rfl
            rw [atWordEnd, Bool.not_eq_true'] at h
            exact absurd hhead (by rw [List.head?_cons, Option.any_some, h]; decide)
          rw [Text.dropPattern?, if_neg hne, Option.map_none]

theorem scanExponent_atWordEnd {rest : List Char} (h : atWordEnd rest = true) :
    scanExponent rest = none := by
  cases rest with
  | nil => rfl
  | cons c rest =>
      refine if_neg ?_
      rw [atWordEnd] at h
      rintro (rfl | rfl) <;> exact absurd h (by decide)

section Number

variable {rest : List Char} (hend : atWordEnd rest = true) (hpoint : scanFraction rest = none)
  (n : Nat)
include hend

/-- A whole number is taken whole. -/
theorem scanInteger_write : scanInteger (Digits.write n ++ rest) = some (Digits.write n, rest) := by
  have hdigits := scanDigits_write n (noDigit_of_atWordEnd hend)
  simp [scanInteger, scanSign_write, hdigits, closed, hend]

theorem scanInteger_minus :
    scanInteger ('-' :: (Digits.write n ++ rest)) = some ('-' :: Digits.write n, rest) := by
  have hdigits := scanDigits_write n (noDigit_of_atWordEnd hend)
  simp [scanInteger, scanSign_minus, hdigits, closed, hend]

include hpoint

/-- A whole number is no number with a fraction or an exponent. -/
theorem scanReal_write : scanReal (Digits.write n ++ rest) = none := by
  have hdigits := scanDigits_write n (noDigit_of_atWordEnd hend)
  simp [scanReal, scanSign_write, hdigits, hpoint, scanExponent_atWordEnd hend]

theorem scanReal_minus : scanReal ('-' :: (Digits.write n ++ rest)) = none := by
  have hdigits := scanDigits_write n (noDigit_of_atWordEnd hend)
  simp [scanReal, scanSign_minus, hdigits, hpoint, scanExponent_atWordEnd hend]

/-- A whole number has no unit. -/
theorem scanSpan_write : scanSpan (Digits.write n ++ rest) = none := by
  have hdigits := scanDigits_write n (noDigit_of_atWordEnd hend)
  have hunit : firstWord units rest = none := firstWord_atWordEnd (by decide) hend
  simp [scanSpan, hdigits, orNothing, hpoint, hunit, closed]

end Number

/-! ### Operators -/

/-- No sign begins with another character. -/
theorem refuses_sign {c : Char} (hnot : c ≠ 'n') (hminus : c ≠ '-') (cs : List Char) :
    Refuses sign (c :: cs) := by
  refine refuses_orElse (refuses_scan ?_) (refuses_scan ?_)
  · have hword : firstWord ["not"] (c :: cs) = none := by
      refine firstWord_eq_none ?_ cs
      intro w hw
      rw [List.mem_singleton] at hw
      subst hw
      exact ⟨by decide, fun h => hnot (Option.some.inj h).symm⟩
    rw [hword]
    rfl
  · split
    · next h =>
        cases h
        exact absurd rfl hminus
    · rfl

/-- A minus in front of a digit is part of a number. -/
theorem refuses_sign_digit {c : Char} (h : Digits.isDigit c = true) (cs : List Char) :
    Refuses sign ('-' :: c :: cs) := by
  refine refuses_orElse rfl (refuses_scan ?_)
  exact if_pos h

theorem refuses_sign_name {name : String} (hname : IsName name) (hnot : name ≠ "not")
    {rest : List Char} (hrest : atWordEnd rest = true) : Refuses sign (name.toList ++ rest) := by
  obtain ⟨c, cs, hchars, hstart, -⟩ := id hname
  have hother : name ∉ ["not"] := fun h => hnot (List.mem_singleton.1 h)
  refine refuses_orElse (refuses_scan ?_) (refuses_scan ?_)
  · rw [closed_firstWord_name (by decide) hname hother hrest, Option.map_none]
  · rw [hchars, List.cons_append]
    split
    · next h =>
        cases h
        exact absurd hstart (by decide)
    · rfl

/-- The operator of two words is read with the blank between them. -/
theorem takes_pattern (rest : List Char) :
    Takes Token.operator ("matches regex".toList ++ ' ' :: rest) .pattern (' ' :: rest) := by
  have hgap : dropGap (" regex".toList ++ ' ' :: rest) = some ("regex".toList ++ ' ' :: rest) := by
    simp [dropGap]
  have hscan : scanOperator .pattern ("matches regex".toList ++ ' ' :: rest)
      = some (.pattern, ' ' :: rest) := by
    change (dropGap (" regex".toList ++ ' ' :: rest)).bind _ = _
    rw [hgap]
    rfl
  have hbefore : ∀ op ∈ operatorOrder.take 18,
      scanOperator op ("matches regex".toList ++ ' ' :: rest) = none := by
    intro op hop
    fin_cases hop <;> rfl
  have hrefuses : ∀ q ∈ (operatorOrder.take 18).map fun op => scan (scanOperator op),
      Refuses q ("matches regex".toList ++ ' ' :: rest) := by
    intro q hq
    obtain ⟨op, hop, rfl⟩ := List.mem_map.1 hq
    exact refuses_scan (hbefore op hop)
  have hsplit : operatorOrder.map (fun op => scan (scanOperator op))
      = (operatorOrder.take 18).map (fun op => scan (scanOperator op))
        ++ scan (scanOperator .pattern)
          :: (operatorOrder.drop 19).map fun op => scan (scanOperator op) := rfl
  rw [Token.operator, hsplit]
  exact takes_firstOf hrefuses (takes_orElse_left (takes_scan hscan))

/-- **Every operator is read as it is written.** -/
theorem takes_operator (op : Operator) (rest : List Char) :
    Takes Token.operator (op.token.toList ++ ' ' :: rest) op (' ' :: rest) := by
  rcases op with c | ⟨n, i⟩ | r | a | ⟨s, n, e⟩ | _
  · cases c <;> rfl
  · cases n <;> cases i <;> rfl
  · cases r <;> rfl
  · cases a <;> rfl
  · cases s <;> cases n <;> cases e <;> rfl
  · exact takes_pattern rest

end Token

end EventQuery
