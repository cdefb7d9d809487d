/-
**Written constants stand bare.**

No number, instant, timespan or identifier is written with a quote, a parenthesis or a blank, so its
text may stand in parentheses and neither ends a body nor loses anything at its ends.

Main definitions:

* `Token.isFlat`, `Token.isBare` — characters that do not count in a body, and those of them that
  are not blank;
* `Token.Bare` — texts of such characters.

Main results: one lemma for each written form, `Token.bare_layout` for floating-point numbers,
`Token.bare_isoChars` for instants and so on.
-/

import EventQuery.Expr.Printer
import EventQuery.Proofs.Json.Scalar

set_option relaxedAutoImplicit false
set_option autoImplicit false

namespace EventQuery

namespace Token

/-- A character that begins no string and is no parenthesis. -/
def isFlat (c : Char) : Bool := !Text.isQuote c && c != '(' && c != ')'

/-- A flat character that is not blank. -/
def isBare (c : Char) : Bool := isFlat c && !Text.isBlank c

/-- **A text of bare characters.** -/
def Bare (t : List Char) : Prop := ∀ c ∈ t, isBare c = true

instance (t : List Char) : Decidable (Bare t) :=
  decidable_of_iff (t.all isBare = true) List.all_eq_true

/-! ### Putting texts together -/

@[simp] theorem bare_nil : Bare [] := fun _ h => absurd h List.not_mem_nil

@[simp] theorem bare_cons {c : Char} {t : List Char} :
    Bare (c :: t) ↔ isBare c = true ∧ Bare t := List.forall_mem_cons

@[simp] theorem bare_append {t u : List Char} : Bare (t ++ u) ↔ Bare t ∧ Bare u :=
  List.forall_mem_append

theorem Bare.take {t : List Char} (h : Bare t) (n : Nat) : Bare (t.take n) :=
  fun c hc => h c (List.mem_of_mem_take hc)

theorem Bare.drop {t : List Char} (h : Bare t) (n : Nat) : Bare (t.drop n) :=
  fun c hc => h c (List.mem_of_mem_drop hc)

theorem Bare.noBlank {t : List Char} (h : Bare t) : ∀ c ∈ t, Text.isBlank c = false := by
  intro c hc
  have hbare := h c hc
  rw [isBare, Bool.and_eq_true, Bool.not_eq_true'] at hbare
  exact hbare.2

theorem bare_ite {p : Prop} [Decidable p] {t : List Char} (h : Bare t) :
    Bare (if p then t else []) := by
  split
  · exact h
  · exact bare_nil

theorem bare_replicate (n : Nat) : Bare (List.replicate n '0') := by
  intro c hc
  rw [List.eq_of_mem_replicate hc]
  decide

/-! ### Numbers -/

theorem isBare_digit {c : Char} (h : Digits.isDigit c = true) : isBare c = true :=
  Digits.of_isDigit (fun c => isBare c = true) (by decide) h

@[simp] theorem bare_write (n : Nat) : Bare (Digits.write n) :=
  fun c hc => isBare_digit (List.all_eq_true.1 (Digits.all_isDigit_write n) c hc)

@[simp] theorem bare_writePadded (width n : Nat) : Bare (Digits.writePadded width n) :=
  bare_append.2 ⟨bare_replicate _, bare_write n⟩

@[simp] theorem bare_writeInt (n : Int) : Bare (Digits.writeInt n) := by
  rw [Digits.writeInt]
  split
  · exact bare_cons.2 ⟨by decide, bare_write _⟩
  · exact bare_write _

theorem bare_positional (l : Layout) {digits : List Char} (h : Bare digits) (exponent : Int) :
    Bare (l.positional digits exponent) := by
  unfold Layout.positional
  dsimp only
  split
  · refine bare_append.2 ⟨bare_append.2 ⟨h, bare_replicate _⟩, ?_⟩
    split
    · exact bare_cons.2 ⟨by decide, bare_cons.2 ⟨by decide, bare_nil⟩⟩
    · exact bare_nil
  · split
    · exact bare_append.2 ⟨h.take _, bare_cons.2 ⟨by decide, h.drop _⟩⟩
    · exact bare_cons.2 ⟨by decide, bare_cons.2 ⟨by decide, bare_append.2 ⟨bare_replicate _, h⟩⟩⟩

theorem bare_scientific (l : Layout) {digits : List Char} (h : Bare digits) (first : Int) :
    Bare (l.scientific digits first) := by
  have hpoint : isBare '.' = true := by decide
  unfold Layout.scientific
  dsimp only
  refine bare_append.2 ⟨bare_append.2 ⟨?_, bare_cons.2 ⟨by decide, ?_⟩⟩, bare_writeInt first⟩
  · split
    · exact bare_nil
    · exact h
    · exact bare_cons.2 ⟨(bare_cons.1 h).1, bare_cons.2 ⟨hpoint, (bare_cons.1 h).2⟩⟩
  · exact bare_ite (bare_cons.2 ⟨by decide, bare_nil⟩)

/-- Floating-point numbers, infinite ones among them. -/
theorem bare_layout (l : Layout) (x : Float) : Bare (l.write x).toList := by
  unfold Layout.write
  split
  · exact (by decide : Bare "NaN".toList)
  · split
    · exact (by decide : Bare "-inf".toList)
    · exact (by decide : Bare "inf".toList)
  · next negative mantissa exponent _ =>
      have htext : Bare (l.magnitude (Shortest.digits l.tie mantissa exponent)) := by
        unfold Layout.magnitude
        dsimp only
        split
        · exact bare_positional l (bare_write _) _
        · exact bare_scientific l (bare_write _) _
      dsimp only
      rw [String.toList_ofList]
      split
      · exact bare_cons.2 ⟨by decide, htext⟩
      · exact htext

theorem bare_decimal (d : Decimal) : Bare d.writeChars := by
  have hdigits : Bare (Digits.writePadded (d.scale + 1) d.mantissa) := bare_writePadded _ _
  have hpoint : isBare '.' = true := by decide
  have hbody : Bare (if d.scale = 0 then Digits.writePadded (d.scale + 1) d.mantissa
      else (Digits.writePadded (d.scale + 1) d.mantissa).take
          ((Digits.writePadded (d.scale + 1) d.mantissa).length - d.scale)
        ++ '.' :: (Digits.writePadded (d.scale + 1) d.mantissa).drop
          ((Digits.writePadded (d.scale + 1) d.mantissa).length - d.scale)) := by
    split
    · exact hdigits
    · exact bare_append.2 ⟨hdigits.take _, bare_cons.2 ⟨hpoint, hdigits.drop _⟩⟩
  unfold Decimal.writeChars
  dsimp only
  split
  · exact bare_cons.2 ⟨by decide, hbody⟩
  · exact hbody

/-! ### Times -/

theorem bare_yearChars (year : Int) : Bare (Instant.yearChars year) := by
  unfold Instant.yearChars
  split
  · exact bare_writePadded _ _
  · refine bare_cons.2 ⟨?_, bare_writePadded _ _⟩
    split <;> decide

theorem bare_fractionChars (nanos : Nat) : Bare (Instant.fractionChars nanos) := by
  have hpoint : isBare '.' = true := by decide
  unfold Instant.fractionChars
  split
  · exact bare_nil
  · split
    · exact bare_cons.2 ⟨hpoint, bare_writePadded _ _⟩
    · split <;> exact bare_cons.2 ⟨hpoint, bare_writePadded _ _⟩

theorem bare_isoChars (t : Instant) : Bare t.isoChars := by
  have hmarks : isBare '-' = true ∧ isBare ':' = true ∧ isBare 'T' = true ∧ isBare 'Z' = true := by
    decide
  obtain ⟨hminus, hcolon, hT, hZ⟩ := hmarks
  simp [Instant.isoChars, Instant.two, bare_yearChars, bare_fractionChars, hminus, hcolon, hT, hZ]

theorem bare_clockChars (d : Timespan) : Bare d.clockChars := by
  have hmarks : isBare '-' = true ∧ isBare ':' = true ∧ isBare '.' = true := by decide
  obtain ⟨hminus, hcolon, hpoint⟩ := hmarks
  have hsign : Bare ['-'] := bare_cons.2 ⟨hminus, bare_nil⟩
  have hdays (n : Nat) : Bare (Digits.write n ++ ['.']) :=
    bare_append.2 ⟨bare_write n, bare_cons.2 ⟨hpoint, bare_nil⟩⟩
  have hticks (n : Nat) : Bare ('.' :: Digits.writePadded 7 n) :=
    bare_cons.2 ⟨hpoint, bare_writePadded 7 n⟩
  simp [Timespan.clockChars, bare_ite, hsign, hdays, hticks, hcolon]

theorem bare_timespan (d : Timespan) : Bare d.literalChars := by
  have hunits : ∀ u ∈ Timespan.literalUnits, Bare u.2.toList := by decide
  unfold Timespan.literalChars
  split
  · exact bare_append.2 ⟨bare_writeInt _, bare_cons.2 ⟨by decide, bare_nil⟩⟩
  · split
    · next size name hfind =>
        exact bare_append.2 ⟨bare_writeInt _, hunits _ (List.mem_of_find?_eq_some hfind)⟩
    · exact bare_append.2 ⟨bare_writeInt _, (by decide : Bare "tick".toList)⟩

/-! ### Identifiers -/

theorem isBare_hex {n : Nat} (h : n < 16) : isBare (Hex.digit n) = true := by
  revert n
  decide

theorem bare_hex (width n : Nat) : Bare (Hex.write width n) := by
  induction width with
  | zero => exact bare_nil
  | succ width ih =>
      rw [Hex.write]
      exact bare_cons.2 ⟨isBare_hex (Nat.mod_lt _ (by decide)), ih⟩

theorem bare_hyphenate (groups : List Nat) {cs : List Char} (h : Bare cs) :
    Bare (Guid.hyphenate groups cs) := by
  fun_induction Guid.hyphenate groups cs with
  | case1 => exact bare_nil
  | case2 => exact h
  | case3 n ns cs _ ih => exact bare_append.2 ⟨h.take n, bare_cons.2 ⟨by decide, ih (h.drop n)⟩⟩

theorem bare_guid (g : Guid) : Bare g.write.toList := by
  rw [Guid.write, String.toList_ofList]
  exact bare_hyphenate _ (bare_hex 32 _)

end Token

end EventQuery
