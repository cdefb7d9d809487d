/-
**Every constant is taken whole.**

Whether or not the text of a constant is read back as the same constant, it is read as one: numbers
end where they should, whatever their form, and what stands in parentheses ends at the parenthesis
that closes it.  What is made of the text does not depend on what stands behind it.

Main definitions:

* `Token.RealTail` — what stands behind the whole part of a number that is no integer;
* `Grammar.literalDraft` — what the text of a constant is read as.

Main results:

* `Token.scanReal_text`, `Token.scanSpan_text` — numbers and timespans are taken whole;
* `Grammar.takes_literal` — **every constant is taken whole**;
* `Grammar.literalDraft_of_printable` — constants of the core language are read back.
-/

import EventQuery.Proofs.Grammar.Literal

set_option relaxedAutoImplicit false
set_option autoImplicit false

namespace EventQuery

namespace Token

open Reader

/-! ### Words behind digits -/

/-- A pattern of name characters does not reach over the end of a word. -/
theorem dropPattern?_append {w : List Char} (hw : w.all Expr.isNameChar = true) {rest : List Char}
    (hrest : atWordEnd rest = true) (cs : List Char) :
    Text.dropPattern? w (cs ++ rest) = (Text.dropPattern? w cs).map (· ++ rest) := by
  induction w generalizing cs with
  | nil => rfl
  | cons c w ih =>
      rw [List.all_cons, Bool.and_eq_true] at hw
      cases cs with
      | nil =>
          cases rest with
          | nil => rfl
          | cons d rest =>
              have hne : c ≠ d := by
                rintro rfl
                rw [atWordEnd, hw.1] at hrest
                cases hrest
              exact if_neg hne
      | cons d cs =>
          rw [List.cons_append, Text.dropPattern?, Text.dropPattern?]
          split
          · exact ih hw.2 cs
          · rfl

/-- The first word that a word begins with is the same in front of a word end. -/
theorem firstWord_append {words : List String}
    (hwords : ∀ w ∈ words, w.toList.all Expr.isNameChar = true) {rest : List Char}
    (hrest : atWordEnd rest = true) (cs : List Char) :
    firstWord words (cs ++ rest) = (firstWord words cs).map fun r => (r.1, r.2 ++ rest) := by
  induction words with
  | nil => rfl
  | cons w words ih =>
      have hmore := ih fun v hv => hwords v (List.mem_cons_of_mem w hv)
      have hfirst := dropPattern?_append (hwords w (List.mem_cons_self ..)) hrest cs
      rw [firstWord] at hmore ⊢
      rw [firstWord, List.findSome?_cons, List.findSome?_cons, hfirst]
      cases Text.dropPattern? w.toList cs with
      | none => exact hmore
      | some left => rfl

/-! ### Numbers with a fraction or an exponent -/

/-- Digits are taken as far as they go. -/
theorem scanDigits_all {ds rest : List Char} (hne : ds ≠ []) (hds : ds.all Digits.isDigit = true)
    (hrest : rest.head?.any Digits.isDigit = false) : scanDigits (ds ++ rest) = some (ds, rest) := by
  obtain ⟨htake, hdrop⟩ := span_digits hds hrest
  rw [scanDigits, htake, hdrop]
  cases ds with
  | nil => exact absurd rfl hne
  | cons d ds => rfl

/-- **What stands behind the whole part of a number that is no integer.** -/
inductive RealTail : List Char → Prop where
  | fraction {ds : List Char} : ds ≠ [] → ds.all Digits.isDigit = true → RealTail ('.' :: ds)
  | exponent (k : Int) : RealTail ('e' :: Digits.writeInt k)
  | both {ds : List Char} (k : Int) : ds ≠ [] → ds.all Digits.isDigit = true →
      RealTail ('.' :: ds ++ 'e' :: Digits.writeInt k)

theorem scanExponent_writeInt {rest : List Char} (hrest : atWordEnd rest = true) (k : Int) :
    scanExponent ('e' :: (Digits.writeInt k ++ rest)) = some ('e' :: Digits.writeInt k, rest) := by
  have hdigits := scanDigits_write k.natAbs (noDigit_of_atWordEnd hrest)
  rw [Digits.writeInt]
  split
  · have hscan : scanExponent ('e' :: '-' :: (Digits.write k.natAbs ++ rest))
        = (scanDigits (Digits.write k.natAbs ++ rest)).map fun r => ('e' :: '-' :: r.1, r.2) := rfl
    rw [List.cons_append, hscan, hdigits, Option.map_some]
  · obtain ⟨c, cs, hchars, hc⟩ := Digits.write_cons k.natAbs
    have hsign : scanSign ['+', '-'] (Digits.write k.natAbs ++ rest)
        = ([], Digits.write k.natAbs ++ rest) := by
      have hnone : ['+', '-'].contains c = false :=
        Digits.of_isDigit (fun c => ['+', '-'].contains c = false) (by decide) hc
      rw [hchars, List.cons_append, scanSign, if_neg (by rw [hnone]; decide)]
    rw [scanExponent, if_pos (.inl rfl)]
    simp only [hsign, hdigits, Option.map_some, List.cons_append, List.nil_append]

section Tail

variable {tail rest : List Char} (htail : RealTail tail) (hrest : atWordEnd rest = true)
include htail

theorem RealTail.noDigit (rest : List Char) : (tail ++ rest).head?.any Digits.isDigit = false := by
  cases htail <;> rfl

include hrest

/-- A number with a fraction or an exponent has no unit. -/
theorem RealTail.noUnit : firstWord units (orNothing scanFraction (tail ++ rest)).2 = none := by
  have hletter (cs : List Char) : firstWord units ('e' :: cs) = none :=
    firstWord_eq_none (by decide) cs
  cases htail with
  | fraction hne hds =>
      have hdigits := scanDigits_all hne hds (noDigit_of_atWordEnd hrest)
      rw [orNothing, List.cons_append, scanFraction, hdigits]
      exact firstWord_atWordEnd (by decide) hrest
  | exponent k => exact hletter _
  | @both ds k hne hds =>
      have hdigits : scanDigits (ds ++ ('e' :: Digits.writeInt k ++ rest))
          = some (ds, 'e' :: Digits.writeInt k ++ rest) := scanDigits_all hne hds rfl
      rw [List.append_assoc, List.cons_append, orNothing, scanFraction, hdigits]
      exact hletter _

theorem scanSpan_real {whole : List Char} (hne : whole ≠ [])
    (hwhole : whole.all Digits.isDigit = true) : scanSpan (whole ++ tail ++ rest) = none := by
  have hdigits := scanDigits_all hne hwhole (htail.noDigit rest)
  rw [List.append_assoc]
  simp [scanSpan, hdigits, htail.noUnit hrest, closed]

/-- **A number that is no integer is taken whole.** -/
theorem scanReal_text {sign whole : List Char} (hsign : sign = [] ∨ sign = ['-'])
    (hne : whole ≠ []) (hwhole : whole.all Digits.isDigit = true) :
    scanReal (sign ++ whole ++ tail ++ rest) = some (sign ++ whole ++ tail, rest) := by
  have hdigits := scanDigits_all hne hwhole (htail.noDigit rest)
  have hsigned : scanSign ['-'] (sign ++ (whole ++ (tail ++ rest)))
      = (sign, whole ++ (tail ++ rest)) := by
    rcases hsign with rfl | rfl
    · cases whole with
      | nil => exact absurd rfl hne
      | cons d whole =>
          rw [List.all_cons, Bool.and_eq_true] at hwhole
          exact scanSign_digit hwhole.1 _
    · rfl
  simp only [scanReal, List.append_assoc, hsigned, hdigits, Option.bind_eq_bind, Option.bind_some]
  have hclosed (text : List Char) : closed (some (text, rest)) = some (text, rest) := by
    simp [closed, hrest]
  cases htail with
  | fraction hfne hds =>
      have hfraction := scanDigits_all hfne hds (noDigit_of_atWordEnd hrest)
      simp only [List.cons_append, scanFraction, hfraction, Option.map_some, orNothing,
        scanExponent_atWordEnd hrest, Option.getD_none, List.append_nil, hclosed]
  | exponent k =>
      have hnone : scanFraction ('e' :: (Digits.writeInt k ++ rest)) = none := rfl
      simp only [List.cons_append, hnone, scanExponent_writeInt hrest k, Option.bind_some, hclosed]
  | @both ds k hfne hds =>
      have hfraction : scanDigits (ds ++ 'e' :: (Digits.writeInt k ++ rest))
          = some (ds, 'e' :: (Digits.writeInt k ++ rest)) := scanDigits_all hfne hds rfl
      simp only [List.cons_append, List.append_assoc, scanFraction, hfraction,
        scanExponent_writeInt hrest k, Option.map_some, orNothing, Option.getD_some, hclosed]

end Tail

/-- The magnitude of a floating-point constant is digits with a fraction or an exponent behind. -/
theorem magnitude_literal (d : Shortest.Decimal) : ∃ whole tail,
    Layout.literal.magnitude d = whole ++ tail ∧ whole ≠ [] ∧ whole.all Digits.isDigit = true ∧
      RealTail tail := by
  obtain ⟨c, cs, hchars, hc⟩ := Digits.write_cons d.digits
  have hall : ∀ x ∈ c :: cs, Digits.isDigit x = true :=
    hchars ▸ List.all_eq_true.1 (Digits.all_isDigit_write d.digits)
  have hzeros (n : Nat) : ∀ x ∈ List.replicate n '0', Digits.isDigit x = true := by
    intro x hx
    rw [List.eq_of_mem_replicate hx]
    decide
  unfold Layout.magnitude
  rw [hchars]
  dsimp only
  generalize d.exponent + ((c :: cs).length : Int) - 1 = first
  split
  · unfold Layout.positional
    dsimp only
    split
    · refine ⟨c :: cs ++ List.replicate d.exponent.toNat '0', ['.', '0'], rfl,
        List.cons_ne_nil _ _, List.all_eq_true.2 ?_, .fraction (by decide) (by decide)⟩
      exact List.forall_mem_append.2 ⟨hall, hzeros _⟩
    · next hneg =>
        split
        · next hplaces =>
            refine ⟨_, _, rfl, ?_, ?_, .fraction ?_ ?_⟩
            · rw [ne_eq, List.take_eq_nil_iff]
              rintro (h | h)
              · omega
              · cases h
            · exact List.all_eq_true.2 fun x hx => hall x (List.mem_of_mem_take hx)
            · rw [ne_eq, List.drop_eq_nil_iff]
              omega
            · exact List.all_eq_true.2 fun x hx => hall x (List.mem_of_mem_drop hx)
        · refine ⟨['0'], _, rfl, by decide, by decide, .fraction ?_ (List.all_eq_true.2 ?_)⟩
          · exact List.append_ne_nil_of_right_ne_nil _ (List.cons_ne_nil c cs)
          · exact List.forall_mem_append.2 ⟨hzeros _, hall⟩
  · have hfirst : [c].all Digits.isDigit = true := by simp [hc]
    cases cs with
    | nil => exact ⟨[c], _, rfl, List.cons_ne_nil _ _, hfirst, .exponent _⟩
    | cons e cs =>
        have htext : Layout.literal.scientific (c :: e :: cs) first
            = [c] ++ ('.' :: (e :: cs) ++ 'e' :: Digits.writeInt first) := by
          simp [Layout.scientific, Layout.literal]
        refine ⟨_, _, htext, List.cons_ne_nil _ _, hfirst, .both first (List.cons_ne_nil e cs) ?_⟩
        exact List.all_eq_true.2 fun x hx => hall x (List.mem_cons_of_mem c hx)

/-- **A finite constant** is a sign perhaps, digits, and a fraction or an exponent. -/
theorem write_literal {x : Float} (h : Binary.isFinite x = true) : ∃ sign whole tail,
    (Layout.literal.write x).toList = sign ++ whole ++ tail ∧ (sign = [] ∨ sign = ['-']) ∧
      whole ≠ [] ∧ whole.all Digits.isDigit = true ∧ RealTail tail := by
  unfold Binary.isFinite at h
  split at h
  · next negative mantissa exponent hparts =>
      obtain ⟨whole, tail, htext, hne, hwhole, htail⟩ :=
        magnitude_literal (Shortest.digits Layout.literal.tie mantissa exponent)
      refine ⟨if negative then ['-'] else [], whole, tail, ?_, ?_, hne, hwhole, htail⟩
      · simp only [Layout.write, hparts, String.toList_ofList, htext]
        cases negative <;> simp
      · cases negative
        · exact .inl rfl
        · exact .inr rfl
  · cases h

/-! ### Timespans -/

/-- A timespan that is not negative is a number with a unit. -/
theorem literalChars_timespan {d : Timespan} (h : ¬ d.nanos < 0) : ∃ n name,
    d.literalChars = Digits.write n ++ name.toList ∧
      name ∈ ["d", "h", "m", "s", "ms", "tick"] := by
  have hwrite {k : Int} (hk : 0 ≤ k) : Digits.writeInt k = Digits.write k.natAbs := by
    rw [Digits.writeInt, if_neg (by omega)]
  have hunits : ∀ u ∈ Timespan.literalUnits, u.2 ∈ ["d", "h", "m", "s", "ms", "tick"] ∧ 0 ≤ u.1 := by
    decide
  have hdiv {m : Int} (hm : 0 ≤ m) {n : Int64} (hn : d.nanos64? = some n) : 0 ≤ n.toInt.tdiv m := by
    rw [Number.toInt_of_long? hn]
    exact Int.tdiv_nonneg (by omega) hm
  unfold Timespan.literalChars
  split
  · have hseconds : 0 ≤ d.seconds := Int.tdiv_nonneg (by omega) (by decide)
    exact ⟨d.seconds.natAbs, "s", by rw [hwrite hseconds]; rfl, by decide⟩
  · next n hn =>
      split
      · next size name hfind =>
          obtain ⟨hname, hsize⟩ := hunits _ (List.mem_of_find?_eq_some hfind)
          exact ⟨_, name, by rw [hwrite (hdiv hsize hn)], hname⟩
      · exact ⟨_, "tick", by rw [hwrite (hdiv (by decide) hn)], by decide⟩

/-- **A number with a unit is taken whole.** -/
theorem scanSpan_text (n : Nat) {name : String} (hname : name ∈ ["d", "h", "m", "s", "ms", "tick"])
    {rest : List Char} (hrest : atWordEnd rest = true) :
    scanSpan (Digits.write n ++ name.toList ++ rest) = some (Digits.write n ++ name.toList, rest) := by
  have hshape : ∀ w ∈ ["d", "h", "m", "s", "ms", "tick"], firstWord units w.toList = some (w, []) ∧
      (w.toList.head?.any fun c => Digits.isDigit c || c == '.') = false ∧ w.toList ≠ [] := by
    decide
  obtain ⟨hfirst, hhead, hne⟩ := hshape name hname
  cases hchars : name.toList with
  | nil => exact absurd hchars hne
  | cons c cs =>
      rw [hchars, List.head?_cons, Option.any_some, Bool.or_eq_false_iff, beq_eq_false_iff_ne]
        at hhead
      have hdigits : scanDigits (Digits.write n ++ c :: (cs ++ rest))
          = some (Digits.write n, c :: (cs ++ rest)) := scanDigits_write n hhead.1
      have hfraction : scanFraction (c :: (cs ++ rest)) = none := by
        unfold scanFraction
        split
        · next h =>
            cases h
            exact absurd rfl hhead.2
        · rfl
      have hunit : firstWord units (c :: (cs ++ rest)) = some (name, rest) := by
        rw [← List.cons_append, ← hchars, firstWord_append (by decide) hrest, hfirst,
          Option.map_some]
        rfl
      have hclosed : closed (some (name, rest)) = some (name, rest) := by simp [closed, hrest]
      rw [List.append_assoc, List.cons_append]
      simp [scanSpan, hdigits, orNothing, hfraction, hunit, hclosed, hchars]

end Token

namespace Grammar

open Reader

/-! ### What constants are read as -/

/-- **What the text of a constant is read as.** -/
def literalDraft (inner : Reader (Draft Expr)) : Value → Draft Expr
  | .null => dynamicLiteral "null".toList
  | .bool b => .ok (.const (.bool b))
  | .int n => integerLiteral (Digits.writeInt n.toInt)
  | .long n =>
      if (Number.int? n.toInt).isSome then typedLiteral inner "long" (Digits.writeInt n.toInt)
      else integerLiteral (Digits.writeInt n.toInt)
  | .real x =>
      if Binary.isFinite x then realLiteral (Layout.literal.write x).toList
      else typedLiteral inner "real" (Layout.plain.write x).toList
  | .decimal d => typedLiteral inner "decimal" d.writeChars
  | .datetime t => typedLiteral inner "datetime" t.isoChars
  | .timespan d =>
      if d.nanos < 0 then typedLiteral inner "timespan" d.clockChars else spanLiteral d.literalChars
  | .guid g => typedLiteral inner "guid" g.write.toList
  | .string s => .ok (.const (.string s))
  | .record fields => dynamicLiteral (Value.chars (.record fields))
  | .list items => dynamicLiteral (Value.chars (.list items))

section Literal

variable (inner : Reader (Draft Expr))

theorem takes_literal_bool (b : Bool) {rest : List Char} (hrest : Token.atWordEnd rest = true) :
    Takes (literal inner) ((Value.boolText b).toList ++ rest) (.ok (.const (.bool b))) rest := by
  have hclosed (w : String) : Token.closed (some (w, rest)) = some (w, rest) := by
    simp [Token.closed, hrest]
  cases b with
  | false =>
      have hword : Takes (Token.word ["true", "false"]) ("false".toList ++ rest) "false" rest :=
        takes_scan (hclosed "false")
      exact takes_orElse_right rfl (takes_orElse_right rfl (takes_orElse_right rfl
        (takes_orElse_right rfl (takes_orElse_left (takes_map hword)))))
  | true =>
      have hword : Takes (Token.word ["true", "false"]) ("true".toList ++ rest) "true" rest :=
        takes_scan (hclosed "true")
      exact takes_orElse_right rfl (takes_orElse_right rfl (takes_orElse_right rfl
        (takes_orElse_right rfl (takes_orElse_left (takes_map hword)))))

theorem takes_literal_string (s : String) (rest : List Char) :
    Takes (literal inner) (Expr.quoteChars s ++ rest) (.ok (.const (.string s))) rest := by
  have hquoted := Token.takes_quoted s rest
  rw [Expr.quoteChars, List.cons_append, List.cons_append] at hquoted ⊢
  exact takes_orElse_right rfl (takes_orElse_right rfl (takes_orElse_right rfl
    (takes_orElse_left (takes_map hquoted))))

/-- Nothing but a number begins with a digit or a minus. -/
theorem literal_number {c : Char} (h : c = '-' ∨ Digits.isDigit c = true) {cs : List Char}
    {d : Draft Expr} {rest : List Char}
    (htakes : Takes (orElse (Token.span >>= fun cs => pure (spanLiteral cs))
      (orElse (Token.real >>= fun cs => pure (realLiteral cs))
        (orElse (Token.integer >>= fun cs => pure (integerLiteral cs)) fail))) (c :: cs) d rest) :
    Takes (literal inner) (c :: cs) d rest := by
  have hrefuses : Refuses dynamic (c :: cs) ∧ Refuses (typed inner) (c :: cs)
      ∧ Refuses Token.verbatim (c :: cs) ∧ Refuses Token.quoted (c :: cs)
      ∧ Refuses (Token.word ["true", "false"]) (c :: cs) := by
    rcases h with rfl | h
    · exact ⟨rfl, rfl, rfl, rfl, rfl⟩
    · rcases Digits.isDigit_cases h with rfl | rfl | rfl | rfl | rfl | rfl | rfl | rfl | rfl | rfl
        <;> exact ⟨rfl, rfl, rfl, rfl, rfl⟩
  obtain ⟨hdynamic, htyped, hverbatim, hquoted, hword⟩ := hrefuses
  exact takes_orElse_right hdynamic (takes_orElse_right htyped
    (takes_orElse_right (refuses_bind hverbatim) (takes_orElse_right (refuses_bind hquoted)
      (takes_orElse_right (refuses_bind hword) htakes))))

theorem takes_literal_integer (n : Int) {rest : List Char} (hrest : Follows rest) :
    Takes (literal inner) (Digits.writeInt n ++ rest) (integerLiteral (Digits.writeInt n))
      rest := by
  rw [Digits.writeInt]
  split
  · have hreal : Refuses Token.real ('-' :: (Digits.write n.natAbs ++ rest)) :=
      refuses_scan (Token.scanReal_minus hrest.wordEnd hrest.noFraction n.natAbs)
    have hinteger : Takes Token.integer ('-' :: (Digits.write n.natAbs ++ rest))
        ('-' :: Digits.write n.natAbs) rest :=
      takes_scan (Token.scanInteger_minus hrest.wordEnd n.natAbs)
    exact literal_number inner (.inl rfl) (takes_orElse_right rfl
      (takes_orElse_right (refuses_bind hreal) (takes_orElse_left (takes_map hinteger))))
  · have hspan : Refuses Token.span (Digits.write n.natAbs ++ rest) :=
      refuses_scan (Token.scanSpan_write hrest.wordEnd hrest.noFraction n.natAbs)
    have hreal : Refuses Token.real (Digits.write n.natAbs ++ rest) :=
      refuses_scan (Token.scanReal_write hrest.wordEnd hrest.noFraction n.natAbs)
    have hinteger : Takes Token.integer (Digits.write n.natAbs ++ rest) (Digits.write n.natAbs)
        rest := takes_scan (Token.scanInteger_write hrest.wordEnd n.natAbs)
    obtain ⟨c, cs, hchars, hc⟩ := Digits.write_cons n.natAbs
    rw [hchars, List.cons_append] at hspan hreal hinteger ⊢
    exact literal_number inner (.inr hc) (takes_orElse_right (refuses_bind hspan)
      (takes_orElse_right (refuses_bind hreal) (takes_orElse_left (takes_map hinteger))))

theorem takes_literal_real {x : Float} (hx : Binary.isFinite x = true) {rest : List Char}
    (hrest : Follows rest) :
    Takes (literal inner) ((Layout.literal.write x).toList ++ rest)
      (realLiteral (Layout.literal.write x).toList) rest := by
  obtain ⟨sign, whole, tail, htext, hsign, hne, hwhole, htail⟩ := Token.write_literal hx
  have hreal : Takes Token.real (sign ++ whole ++ tail ++ rest) (sign ++ whole ++ tail) rest :=
    takes_scan (Token.scanReal_text htail hrest.wordEnd hsign hne hwhole)
  rw [htext]
  rcases hsign with rfl | rfl
  · obtain ⟨c, cs, rfl⟩ := List.exists_cons_of_ne_nil hne
    have hc : Digits.isDigit c = true := List.all_eq_true.1 hwhole c (List.mem_cons_self ..)
    have hspan : Refuses Token.span (c :: cs ++ tail ++ rest) :=
      refuses_scan (Token.scanSpan_real htail hrest.wordEnd hne hwhole)
    exact literal_number inner (.inr hc) (takes_orElse_right (refuses_bind hspan)
      (takes_orElse_left (takes_map hreal)))
  · exact literal_number inner (.inl rfl) (takes_orElse_right rfl
      (takes_orElse_left (takes_map hreal)))

theorem takes_literal_span {d : Timespan} (hd : ¬ d.nanos < 0) {rest : List Char}
    (hrest : Follows rest) :
    Takes (literal inner) (d.literalChars ++ rest) (spanLiteral d.literalChars) rest := by
  obtain ⟨n, name, htext, hname⟩ := Token.literalChars_timespan hd
  have hspan : Takes Token.span (d.literalChars ++ rest) d.literalChars rest := by
    rw [htext]
    exact takes_scan (Token.scanSpan_text n hname hrest.wordEnd)
  obtain ⟨c, cs, hchars, hc⟩ := Digits.write_cons n
  have hcons : d.literalChars = c :: (cs ++ name.toList) := by
    rw [htext, hchars, List.cons_append]
  rw [hcons] at hspan ⊢
  exact literal_number inner (.inr hc) (takes_orElse_left (takes_map hspan))

/-- **Every constant is taken whole.** -/
theorem takes_literal (v : Value) {rest : List Char} (hrest : Follows rest) :
    Takes (literal inner) (Expr.literalChars v ++ rest) (literalDraft inner v) rest := by
  have htyped {word : String} (hword : word ∈ typedWords.map Prod.fst) {t : List Char}
      (ht : Token.Bare t) :
      Takes (literal inner) (Expr.wrapped word t ++ rest) (typedLiteral inner word t) rest :=
    takes_wrapped_typed inner hword ht.passes rest
  cases v with
  | null => exact takes_wrapped_dynamic inner (Token.passes_all (by decide)) rest
  | bool b => exact takes_literal_bool inner b hrest.wordEnd
  | int n => exact takes_literal_integer inner n.toInt hrest
  | long n =>
      rw [Expr.literalChars, literalDraft]
      split
      · exact htyped (by decide) (Token.bare_writeInt _)
      · exact takes_literal_integer inner n.toInt hrest
  | real x =>
      rw [Expr.literalChars, literalDraft]
      split
      · next hfinite => exact takes_literal_real inner hfinite hrest
      · exact htyped (by decide) (Token.bare_layout _ x)
  | decimal d => exact htyped (by decide) (Token.bare_decimal d)
  | datetime t => exact htyped (by decide) (Token.bare_isoChars t)
  | timespan d =>
      rw [Expr.literalChars, literalDraft]
      split
      · exact htyped (by decide) (Token.bare_clockChars d)
      · next hnonneg => exact takes_literal_span inner hnonneg hrest
  | guid g => exact htyped (by decide) (Token.bare_guid g)
  | string s => exact takes_literal_string inner s rest
  | record fields => exact takes_wrapped_dynamic inner (Token.passes_compact _) rest
  | list items => exact takes_wrapped_dynamic inner (Token.passes_compact _) rest

/-- A typed constant is a constant, or a conversion of what else stands in the parentheses. -/
theorem typedLiteral_eq_ok {word : String} {body : List Char} {e : Expr}
    (h : typedLiteral inner word body = .ok e) : e.isConst = true ∨ ∃ f rest, e = .call word [f] ∧
      Takes (whole inner) (Text.strip body) (.ok f) rest ∧ f.isConst = false := by
  simp only [typedLiteral] at h
  split at h
  · cases h
    exact .inl rfl
  · split at h
    · cases h
      exact .inl rfl
    · split at h
      · next f rest hf =>
          split at h
          · cases h
          · next hconst =>
              cases h
              exact .inr ⟨f, rest, rfl, hf, Bool.eq_false_iff.2 hconst⟩
      · cases h

omit inner in
theorem dynamicLiteral_eq_ok {body : List Char} {e : Expr} (h : dynamicLiteral body = .ok e) :
    e.isConst = true := by
  unfold dynamicLiteral at h
  split at h
  · cases h
    rfl
  · cases h

omit inner in
theorem spanLiteral_eq_ok {cs : List Char} {e : Expr} (h : spanLiteral cs = .ok e) :
    e.isConst = true := by
  unfold spanLiteral at h
  split at h
  · cases h
    rfl
  · cases h

omit inner in
theorem realLiteral_eq_ok {cs : List Char} {e : Expr} (h : realLiteral cs = .ok e) :
    e.isConst = true := by
  unfold realLiteral at h
  split at h
  · cases h
    rfl
  · cases h

omit inner in
theorem integerLiteral_eq_ok {cs : List Char} {e : Expr} (h : integerLiteral cs = .ok e) :
    e.isConst = true := by
  unfold integerLiteral at h
  split at h
  · cases h
    rfl
  · split at h
    · cases h
      rfl
    · cases h

/-- The text of a constant is read as a constant, or as a conversion. -/
theorem literalDraft_eq_ok {v : Value} {e : Expr} (h : literalDraft inner v = .ok e) :
    e.isConst = true ∨ ∃ word f, e = .call word [f] := by
  have htyped {word : String} {body : List Char} (h : typedLiteral inner word body = .ok e) :
      e.isConst = true ∨ ∃ word f, e = .call word [f] := by
    rcases typedLiteral_eq_ok inner h with h | ⟨f, -, rfl, -⟩
    · exact .inl h
    · exact .inr ⟨word, f, rfl⟩
  cases v with
  | null =>
      rw [literalDraft] at h
      exact .inl (dynamicLiteral_eq_ok h)
  | bool b =>
      cases h
      exact .inl rfl
  | int n =>
      rw [literalDraft] at h
      exact .inl (integerLiteral_eq_ok h)
  | long n =>
      rw [literalDraft] at h
      split at h
      · exact htyped h
      · exact .inl (integerLiteral_eq_ok h)
  | real x =>
      rw [literalDraft] at h
      split at h
      · exact .inl (realLiteral_eq_ok h)
      · exact htyped h
  | decimal d =>
      rw [literalDraft] at h
      exact htyped h
  | datetime t =>
      rw [literalDraft] at h
      exact htyped h
  | timespan d =>
      rw [literalDraft] at h
      split at h
      · exact htyped h
      · exact .inl (spanLiteral_eq_ok h)
  | guid g =>
      rw [literalDraft] at h
      exact htyped h
  | string s =>
      cases h
      exact .inl rfl
  | record fields =>
      rw [literalDraft] at h
      exact .inl (dynamicLiteral_eq_ok h)
  | list items =>
      rw [literalDraft] at h
      exact .inl (dynamicLiteral_eq_ok h)

/-! ### Constants of the core language -/

/-- A value is read back from its JSON. -/
theorem dynamicLiteral_compactChars {v : Value} (hv : Value.Jsonable Json.maxDepth v)
    (hstrip : Text.strip (Value.toJson v).compactChars = (Value.toJson v).compactChars) :
    dynamicLiteral (Value.toJson v).compactChars = .ok (.const v) := by
  have hread := Json.read?_compact hv.exact
  rw [Json.compact] at hread
  rw [dynamicLiteral, hstrip, hread]
  simp only [hv.ofJson_toJson]

/-- The digits of an integer stand between no quotes and are no other word. -/
theorem writeInt_bare (n : Int) : unquote (Digits.writeInt n) = Digits.writeInt n ∧
    Digits.writeInt n ≠ "null".toList := by
  obtain ⟨c, cs, hchars, hc⟩ := Digits.writeInt_cons n
  refine ⟨?_, ?_⟩
  · have hquote : Text.isQuote c = false := by
      rcases hc with rfl | hd
      · rfl
      · exact Digits.of_isDigit (fun c => Text.isQuote c = false) (by decide) hd
    rw [hchars, unquote, hquote, Bool.false_and, if_neg (by decide)]
  · rw [hchars]
    intro h
    cases h
    rcases hc with h | h <;> exact absurd h (by decide)

theorem typedLiteral_long (inner : Reader (Draft Expr)) (n : Int64) :
    typedLiteral inner "long" (Digits.writeInt n.toInt) = .ok (.const (.long n)) := by
  obtain ⟨hquote, hnull⟩ := writeInt_bare n.toInt
  have hstrip := (Token.bare_writeInt n.toInt).strip
  have hread : typedConstant? "long" (Digits.writeInt n.toInt) = some (.long n) := by
    change (Number.readLong? _).map _ = _
    rw [Number.readLong?_writeInt, Option.map_some]
  simp only [typedLiteral, hstrip, hquote, if_neg hnull, hread]

theorem integerLiteral_int (n : Int32) :
    integerLiteral (Digits.writeInt n.toInt) = .ok (.const (.int n)) := by
  rw [integerLiteral, Number.readInt?_writeInt, Number.int?_toInt]

theorem integerLiteral_long {n : Int64} (h : Number.int? n.toInt = none) :
    integerLiteral (Digits.writeInt n.toInt) = .ok (.const (.long n)) := by
  rw [integerLiteral, Number.readInt?_writeInt, h, Number.readLong?_writeInt]

/-- **Constants of the core language are read back.** -/
theorem literalDraft_of_printable {v : Value} (hv : v.Printable) :
    literalDraft inner v = .ok (.const v) := by
  have hjson {v : Value} (hv : Value.Jsonable Json.maxDepth v)
      (hstrip : Text.strip (Value.toJson v).compactChars = (Value.toJson v).compactChars) :
      dynamicLiteral (Value.toJson v).compact.toList = .ok (.const v) := by
    rw [Json.compact, String.toList_ofList]
    exact dynamicLiteral_compactChars hv hstrip
  have hends {c d : Char} (hc : Text.isBlank c = false) (hd : Text.isBlank d = false)
      (cs : List Char) : Text.strip (c :: cs ++ [d]) = c :: cs ++ [d] :=
    ((Text.neat_mark hc).append cs (Text.neat_mark hd)).strip
  cases hv with
  | null =>
      exact dynamicLiteral_compactChars (.null Json.maxDepth)
        (hends (c := 'n') (d := 'l') (by decide) (by decide) ['u', 'l'])
  | bool b => rfl
  | int n => exact integerLiteral_int n
  | long n =>
      rw [literalDraft]
      split
      · exact typedLiteral_long inner n
      · next hwide => exact integerLiteral_long (by simpa using hwide)
  | string s => rfl
  | @list items h =>
      rw [literalDraft, Value.chars, Value.text]
      exact hjson h (hends (by decide) (by decide) _)
  | @record fields h =>
      rw [literalDraft, Value.chars, Value.text]
      exact hjson h (hends (by decide) (by decide) _)

end Literal

end Grammar

end EventQuery
