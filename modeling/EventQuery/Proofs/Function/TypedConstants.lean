/-
**Typed constants are conversions done in advance.**

A word and a text in parentheses, such as `long(5)`, is a constant when the text is one of the type,
and a call of the conversion otherwise.  The constant and the conversion are read by different
rules: a conversion strips blanks, takes either case of truth values and cuts fractions off.  Where
the constant is read, though, the conversion of the same text gives the same value, for what is read
as a number or an identifier holds no blanks to begin with.

The fields of a timespan can overrun, which counts as a text that is not read: there is no constant,
and the conversion gives null.

Main definitions:

* `Text.Visible` — the characters from `!` to `~`;
* `Grammar.conversionNames` — the conversion for each word of a typed constant.

Main results:

* `Digits.visible_of_signed`, `Number.visible_of_readFloat?`, `Guid.visible_of_read?` — **what is
  read as a number or as an identifier holds no blanks**;
* `Grammar.convert_of_typedConstant?` — **a constant is what the conversion gives**;
* `Grammar.typedLiteral_cases` — **what becomes of a word and a text in parentheses**.
-/

import EventQuery.Function.Table
import EventQuery.Proofs.Function.Integers
import EventQuery.Proofs.Grammar.Strip
import EventQuery.Proofs.Grammar.Survival

set_option relaxedAutoImplicit false
set_option autoImplicit false

namespace EventQuery

/-! ### Texts without blanks -/

namespace Text

/-- **A character from `!` to `~`.** -/
def Visible (c : Char) : Prop := 32 < c.toNat ∧ c.toNat < 127

instance (c : Char) : Decidable (Visible c) := inferInstanceAs (Decidable (_ ∧ _))

theorem isBlank_of_visible {c : Char} (h : Visible c) : isBlank c = false := by
  have htable : ∀ n < 127, 32 < n → isBlank (Char.ofNat n) = false := by decide
  have hblank := htable c.toNat h.2 h.1
  rwa [Char.ofNat_toNat] at hblank

theorem strip_of_visible {cs : List Char} (h : ∀ c ∈ cs, Visible c) : strip cs = cs :=
  stripWhere_of_all fun c hc => isBlank_of_visible (h c hc)

/-- Letters of either case are visible alike. -/
theorem Visible.of_toLower {c : Char} (h : Visible c.toLower) : Visible c := by
  unfold Char.toLower at h
  split at h
  · next hupper =>
      have hlow : 65 ≤ c.toNat := hupper.1
      have hhigh : c.toNat ≤ 90 := hupper.2
      exact ⟨by omega, by omega⟩
  · exact h

end Text

namespace Digits

open Text

variable {cs : List Char} {n : Int}

theorem visible_of_isDigit {c : Char} (h : isDigit c = true) : Visible c :=
  of_isDigit Visible (by decide) h

theorem IsNumber.visible (h : IsNumber cs) : ∀ c ∈ cs, Visible c :=
  fun _ hc => visible_of_isDigit (h.isDigit hc)

theorem visible_of_signed (h : Signed cs n) : ∀ c ∈ cs, Visible c := by
  cases h with
  | plain h => exact h.visible
  | plus h => exact List.forall_mem_cons.2 ⟨by decide, h.visible⟩
  | minus h => exact List.forall_mem_cons.2 ⟨by decide, h.visible⟩

/-- Only what follows the digits at the front can hold blanks. -/
theorem visible_of_span (h : ∀ c ∈ (span cs).2, Visible c) : ∀ c ∈ cs, Visible c := by
  have hspan : span cs = (cs.takeWhile isDigit, cs.dropWhile isDigit) :=
    List.span_eq_takeWhile_dropWhile _ cs
  rw [hspan] at h
  rw [← List.takeWhile_append_dropWhile (p := isDigit) (l := cs)]
  exact List.forall_mem_append.2
    ⟨fun c hc => visible_of_isDigit (List.mem_takeWhile_imp hc), h⟩

end Digits

namespace Number

open Text

variable {cs : List Char} {negative : Bool} {x : Float}

theorem visible_of_readExponent? {n : Int} (h : readExponent? cs = some n) :
    ∀ c ∈ cs, Visible c := by
  cases cs with
  | nil => exact List.forall_mem_nil _
  | cons c cs =>
      rw [readExponent?, Option.ite_none_right_eq_some, Bool.or_eq_true, beq_iff_eq,
        beq_iff_eq] at h
      obtain ⟨hmark, hexponent⟩ := h
      refine List.forall_mem_cons.2 ⟨?_, Digits.visible_of_signed
        (Digits.readInt?_eq_some_iff.1 hexponent)⟩
      rcases hmark with rfl | rfl
      · decide
      · decide

theorem visible_of_readMagnitude? (h : readMagnitude? negative cs = some x) :
    ∀ c ∈ cs, Visible c := by
  refine Digits.visible_of_span ?_
  unfold readMagnitude? at h
  rcases hspan : Digits.span cs with ⟨whole, rest⟩
  simp only [hspan] at h ⊢
  split at h
  · next more =>
      rw [Option.ite_none_left_eq_some] at h
      obtain ⟨exponent, hexponent, -⟩ := Option.map_eq_some_iff.1 h.2
      exact List.forall_mem_cons.2
        ⟨by decide, Digits.visible_of_span (visible_of_readExponent? hexponent)⟩
  · rw [Option.ite_none_left_eq_some] at h
    obtain ⟨exponent, hexponent, -⟩ := Option.map_eq_some_iff.1 h.2
    exact visible_of_readExponent? hexponent

theorem visible_of_isWord {word : String} (hword : ∀ c ∈ word.toList, Visible c)
    (h : isWord word cs = true) : ∀ c ∈ cs, Visible c := by
  intro c hc
  rw [isWord, beq_iff_eq] at h
  exact .of_toLower (hword _ (h ▸ List.mem_map_of_mem hc))

theorem visible_of_readUnsigned? (h : readUnsigned? negative cs = some x) :
    ∀ c ∈ cs, Visible c := by
  unfold readUnsigned? at h
  split at h
  · next hword =>
      rcases Bool.or_eq_true_iff.1 hword with hword | hword
      · exact visible_of_isWord (by simp [Visible]) hword
      · exact visible_of_isWord (by simp [Visible]) hword
  · split at h
    · next hword => exact visible_of_isWord (by simp [Visible]) hword
    · exact visible_of_readMagnitude? h

/-- **What is read as a binary number holds no blanks.** -/
theorem visible_of_readFloat? (h : readFloat? cs = some x) : ∀ c ∈ cs, Visible c := by
  unfold readFloat? at h
  split at h
  · exact List.forall_mem_cons.2 ⟨by decide, visible_of_readUnsigned? h⟩
  · exact List.forall_mem_cons.2 ⟨by decide, visible_of_readUnsigned? h⟩
  · exact visible_of_readUnsigned? h

end Number

namespace Guid

open Text

theorem visible_of_hex {c : Char} {n : Nat} (h : Hex.value? c = some n) : Visible c := by
  have hrange {low high : Char} (hc : low ≤ c ∧ c ≤ high) (hlow : 32 < low.toNat)
      (hhigh : high.toNat < 127) : Visible c :=
    ⟨Nat.lt_of_lt_of_le hlow hc.1, Nat.lt_of_le_of_lt hc.2 hhigh⟩
  unfold Hex.value? at h
  split at h
  · next hc => exact hrange hc (by decide) (by decide)
  · split at h
    · next hc => exact hrange hc (by decide) (by decide)
    · split at h
      · next hc => exact hrange hc (by decide) (by decide)
      · cases h

theorem visible_of_readFrom? {cs : List Char} {m n : Nat} (h : Hex.readFrom? m cs = some n) :
    ∀ c ∈ cs, Visible c := by
  induction cs generalizing m with
  | nil => exact List.forall_mem_nil _
  | cons c cs ih =>
      obtain ⟨d, hd, hrest⟩ := Option.bind_eq_some_iff.1 h
      exact List.forall_mem_cons.2 ⟨visible_of_hex hd, ih hrest⟩

theorem visible_of_ofDigits? {cs : List Char} {g : Guid} (h : ofDigits? cs = some g) :
    ∀ c ∈ cs, Visible c := by
  rw [ofDigits?, Option.ite_none_right_eq_some] at h
  obtain ⟨n, hn, -⟩ := Option.map_eq_some_iff.1 h.2
  exact visible_of_readFrom? hn

theorem visible_of_joinGroups? {lengths : List Nat} {cs ds : List Char}
    (h : joinGroups? lengths cs = some ds) (hds : ∀ c ∈ ds, Visible c) : ∀ c ∈ cs, Visible c := by
  induction lengths generalizing cs ds with
  | nil => cases h
  | cons n lengths ih =>
      cases lengths with
      | nil =>
          rw [joinGroups?, Option.ite_none_right_eq_some] at h
          cases h.2
          exact hds
      | cons m lengths =>
          rw [joinGroups?] at h
          · split at h
            · next rest hdrop =>
                obtain ⟨tail, htail, rfl⟩ := Option.map_eq_some_iff.1 h
                obtain ⟨hfront, hback⟩ := List.forall_mem_append.1 hds
                rw [← List.take_append_drop n cs, hdrop]
                exact List.forall_mem_append.2
                  ⟨hfront, List.forall_mem_cons.2 ⟨by decide, ih htail hback⟩⟩
            · cases h
          · exact List.cons_ne_nil m lengths

theorem visible_of_readHyphenated? {cs : List Char} {g : Guid} (h : readHyphenated? cs = some g) :
    ∀ c ∈ cs, Visible c := by
  obtain ⟨ds, hds, hg⟩ := Option.bind_eq_some_iff.1 h
  exact visible_of_joinGroups? hds (visible_of_ofDigits? hg)

/-- **What is read as an identifier holds no blanks.** -/
theorem visible_of_read? {s : String} {g : Guid} (h : read? s = some g) :
    ∀ c ∈ s.toList, Visible c := by
  rw [read?] at h
  split at h
  · exact visible_of_ofDigits? h
  · split at h
    · next rest hrest =>
        have hmark : ∀ c ∈ resourceMark, Visible c := by
          unfold resourceMark
          simp [Visible]
        rw [Text.dropPattern?_eq_some_iff.1 hrest]
        exact List.forall_mem_append.2 ⟨hmark, visible_of_readHyphenated? h⟩
    · split at h
      · next rest hs =>
          rw [Option.ite_none_right_eq_some] at h
          obtain ⟨hlast, hread⟩ := h
          rw [hs, ← List.dropLast_append_getLast? _ hlast]
          refine List.forall_mem_cons.2 ⟨by decide, List.forall_mem_append.2
            ⟨visible_of_readHyphenated? hread, List.forall_mem_singleton.2 (by decide)⟩⟩
      · exact visible_of_readHyphenated? h

end Guid

/-! ### Constants and conversions -/

namespace Function

variable {cs : List Char} {v : Value}

theorem orNull_of_map {α : Type} {build : α → Value} {a : Option α} (h : a.map build = some v) :
    orNull build a = v := by
  rw [orNull, h]
  rfl

/-- An integer is read alike when blanks are stripped first. -/
theorem signed_strip_of_readInt? {n : Int} (h : Digits.readInt? cs = some n) :
    Digits.Signed (Text.strip (String.ofList cs).toList) n := by
  have hsigned := Digits.readInt?_eq_some_iff.1 h
  rwa [String.toList_ofList, Text.strip_of_visible (Digits.visible_of_signed hsigned)]

/-- Integers of 64 bits are converted exactly. -/
theorem convertLong_of_read (h : (Number.readLong? cs).map Value.long = some v) :
    convertLong (.string (String.ofList cs)) = v := by
  obtain ⟨x, hx, rfl⟩ := Option.map_eq_some_iff.1 h
  obtain ⟨n, hn, hlong⟩ := Option.bind_eq_some_iff.1 hx
  rw [convertLong, Value.toLong?_of_long?_eq_some (signed_strip_of_readInt? hn) hlong]
  rfl

/-- Integers of 32 bits are converted exactly, by way of 64 bits. -/
theorem convertInt_of_read (h : (Number.readInt? cs).map Value.int = some v) :
    convertInt (.string (String.ofList cs)) = v := by
  obtain ⟨x, hx, rfl⟩ := Option.map_eq_some_iff.1 h
  obtain ⟨n, hn, hint⟩ := Option.bind_eq_some_iff.1 hx
  rw [convertInt_of_signed (signed_strip_of_readInt? hn), hint]
  rfl

theorem convertReal_of_read (h : (Number.readFloat? cs).map Value.real = some v) :
    convertReal (.string (String.ofList cs)) = v := by
  obtain ⟨x, hx, -⟩ := Option.map_eq_some_iff.1 h
  refine orNull_of_map ?_
  rw [Value.toFloat?, String.toList_ofList, Text.strip_of_visible (Number.visible_of_readFloat? hx)]
  exact h

theorem convertGuid_of_read (h : (Guid.read? (String.ofList cs)).map Value.guid = some v) :
    convertGuid (.string (String.ofList cs)) = v := by
  obtain ⟨g, hg, -⟩ := Option.map_eq_some_iff.1 h
  have htrim : Text.trim (String.ofList cs) = String.ofList cs := by
    rw [Text.trim, Text.trimWhere]
    exact congrArg String.ofList ((Text.strip_of_visible (Guid.visible_of_read? hg)).trans
      String.toList_ofList)
  rw [convertGuid, htrim]
  exact orNull_of_map h

theorem convertBool_of_constant (h : (Grammar.boolConstant? cs).map Value.bool = some v) :
    convertBool (.string (String.ofList cs)) = v := by
  have htrue : Value.boolOfText? "true" = some true := by decide +kernel
  have hfalse : Value.boolOfText? "false" = some false := by decide +kernel
  unfold Grammar.boolConstant? at h
  split at h
  · next hcs =>
      cases h
      rw [hcs, String.ofList_toList, convertBool, htrue]
      rfl
  · split at h
    · next hcs =>
        cases h
        rw [hcs, String.ofList_toList, convertBool, hfalse]
        rfl
    · cases h

end Function

namespace Grammar

open Reader

/-- The conversion for each word of a typed constant. -/
def conversionNames : Fields String :=
  [("datetime", "todatetime"), ("timespan", "totimespan"), ("time", "totimespan"),
    ("guid", "toguid"), ("decimal", "todecimal"), ("long", "tolong"), ("int", "toint"),
    ("real", "toreal"), ("double", "toreal"), ("bool", "tobool")]

example : conversionNames.names = typedWords.map Prod.fst := rfl

/-- **A constant is what the conversion gives** for the same text. -/
theorem convert_of_typedConstant? {word name : String} {cs : List Char} {v : Value}
    (hname : (word, name) ∈ conversionNames) (h : typedConstant? word cs = some v) :
    ∃ f, Function.builtin? name = some f ∧ ∀ now, f now [.string (String.ofList cs)] = .ok v := by
  have happly {convert : Value → Value} (hconvert : convert (.string (String.ofList cs)) = v)
      (now : Instant) : Function.conversion name convert now [.string (String.ofList cs)] = .ok v :=
    congrArg Except.ok hconvert
  simp only [conversionNames, List.mem_cons, Prod.mk.injEq, List.not_mem_nil, or_false] at hname
  rcases hname with ⟨rfl, rfl⟩ | ⟨rfl, rfl⟩ | ⟨rfl, rfl⟩ | ⟨rfl, rfl⟩ | ⟨rfl, rfl⟩ | ⟨rfl, rfl⟩
    | ⟨rfl, rfl⟩ | ⟨rfl, rfl⟩ | ⟨rfl, rfl⟩ | ⟨rfl, rfl⟩
  all_goals
    simp only [typedConstant?, typedWords, Fields.get?, String.reduceEq, reduceIte,
      Option.bind_some] at h
  · exact ⟨_, rfl, happly (Function.orNull_of_map h)⟩
  · exact ⟨_, rfl, happly (Function.orNull_of_map h)⟩
  · exact ⟨_, rfl, happly (Function.orNull_of_map h)⟩
  · exact ⟨_, rfl, happly (Function.convertGuid_of_read h)⟩
  · exact ⟨_, rfl, happly (Function.orNull_of_map h)⟩
  · exact ⟨_, rfl, happly (Function.convertLong_of_read h)⟩
  · exact ⟨_, rfl, happly (Function.convertInt_of_read h)⟩
  · exact ⟨_, rfl, happly (Function.convertReal_of_read h)⟩
  · exact ⟨_, rfl, happly (Function.convertReal_of_read h)⟩
  · exact ⟨_, rfl, happly (Function.convertBool_of_constant h)⟩

end Grammar

end EventQuery
