/-
**How deep expressions are read does not matter.**

Expressions are read with a bound on their levels of nesting that grows with the text.  Whatever is
nested stands behind a parenthesis or a bracket, so two readers of the expressions inside that agree
on short texts give readers of whole expressions that agree on texts that are longer by one
character.  Once the bound is large enough, then, it is not seen any more, and the reader of
expressions is the one that reads expressions inside with itself.

Main definitions:

* `Reader.Cuts` — what a reader leaves is the end of the text;
* `Reader.Alike` — readers that agree on short texts.

Main results:

* one lemma for each way of combining readers;
* `Grammar.alike_level` — one level more is one character more;
* `Grammar.result_expr_eq_level` — **expressions are read by the reader that reads the expressions
  inside them in the same way**.
-/

import EventQuery.Grammar.Expression
import EventQuery.Proofs.Grammar.Reader

set_option relaxedAutoImplicit false
set_option autoImplicit false

namespace EventQuery

namespace Reader

variable {α β : Type}

/-! ### What readers leave -/

/-- **What the reader leaves is the end of the text.** -/
def Cuts (p : Reader α) : Prop :=
  ∀ ⦃cs rest : List Char⦄ ⦃a : α⦄, Takes p cs a rest → rest <:+ cs

theorem cuts_pure (a : α) : Cuts (pure a) := by
  intro cs rest b h
  obtain ⟨-, rfl⟩ := takes_pure_iff.1 h
  exact List.suffix_refl rest

theorem cuts_fail : Cuts (fail : Reader α) := by
  intro cs rest a h
  cases h

theorem cuts_bind {p : Reader α} {f : α → Reader β} (hp : Cuts p) (hf : ∀ a, Cuts (f a)) :
    Cuts (p >>= f) := by
  intro cs rest b h
  obtain ⟨a, mid, hmid, hrest⟩ := takes_bind_iff.1 h
  exact (hf a hrest).trans (hp hmid)

theorem cuts_rule {p : Reader α} (hp : Cuts p) : Cuts (rule p) :=
  fun _ _ _ h => hp (takes_rule_iff.1 h)

theorem cuts_orElse {p q : Reader α} (hp : Cuts p) (hq : Cuts q) : Cuts (orElse p q) := by
  intro cs rest a h
  rcases takes_orElse_iff.1 h with h | ⟨-, h⟩
  · exact hp h
  · exact hq h

theorem cuts_firstOf {ps : List (Reader α)} (h : ∀ p ∈ ps, Cuts p) : Cuts (firstOf ps) := by
  intro cs rest a htakes
  obtain ⟨p, hp, htakes⟩ := exists_of_takes_firstOf htakes
  exact h p hp htakes

theorem cuts_scan {f : List Char → Option (α × List Char)}
    (h : ∀ {cs rest : List Char} {a : α}, f cs = some (a, rest) → rest <:+ cs) : Cuts (scan f) :=
  fun _ _ _ htakes => h (takes_scan_iff.1 htakes)

theorem cuts_token (text : String) : Cuts (token text) := by
  intro cs rest u h
  rw [takes_token_iff.1 h]
  exact List.suffix_append _ _

theorem dropBlank_suffix (inComment : Bool) (cs : List Char) : dropBlank inComment cs <:+ cs := by
  fun_induction dropBlank inComment cs with
  | case1 => exact List.suffix_refl []
  | case2 c cs _ ih => exact ih.trans (List.suffix_cons c cs)
  | case3 c cs _ ih => exact ih.trans (List.suffix_cons c cs)
  | case4 inComment c cs _ _ ih => exact ih.trans (List.suffix_cons c cs)
  | case5 inComment _ rest _ ih =>
      exact ih.trans ((List.suffix_cons '/' rest).trans (List.suffix_cons '/' ('/' :: rest)))
  | case6 inComment c cs => exact List.suffix_refl (c :: cs)

theorem cuts_blank : Cuts blank := by
  intro cs rest u h
  rw [takes_blank_iff.1 h]
  exact dropBlank_suffix false cs

theorem cuts_optional {p : Reader α} (hp : Cuts p) : Cuts (optional p) := by
  intro cs rest o h
  rcases takes_optional_iff.1 h with ⟨a, -, h⟩ | ⟨-, rfl, -⟩
  · exact hp h
  · exact List.suffix_refl rest

theorem cuts_manyAfterBlank {p : Reader α} (hp : Cuts p) (fuel : Nat) :
    Cuts (manyAfterBlank p fuel) := by
  induction fuel with
  | zero => exact cuts_pure []
  | succ fuel ih =>
      intro cs rest as h
      rcases takes_manyAfterBlank_succ h with ⟨-, -, rfl⟩ | ⟨a, mid, more, hmid, hrest, -⟩
      · exact List.suffix_refl rest
      · exact (ih hrest).trans ((hp hmid).trans (dropBlank_suffix false cs))

theorem cuts_many {p : Reader α} (hp : Cuts p) : Cuts (many p) := by
  intro cs rest as h
  rcases takes_many_cases h with ⟨-, -, rfl⟩ | ⟨a, mid, more, hmid, hrest, -⟩
  · exact List.suffix_refl rest
  · exact (cuts_manyAfterBlank hp _ hrest).trans (hp hmid)

/-! ### Readers that agree on short texts -/

/-- **The readers agree on texts shorter than `n`**; what the first one leaves is the end of the
text. -/
structure Alike (n : Nat) (p q : Reader α) : Prop where
  cuts : Cuts p
  agree : ∀ {cs : List Char}, cs.length < n → (p cs).result = (q cs).result

theorem Cuts.alike {p : Reader α} (h : Cuts p) (n : Nat) : Alike n p p := ⟨h, fun _ => rfl⟩

variable {n : Nat}

/-- What comes behind a reader is asked only about what that one leaves. -/
theorem result_bind_congr {p q : Reader α} {f g : α → Reader β} {cs : List Char}
    (hp : (p cs).result = (q cs).result)
    (hf : ∀ {a mid}, Takes p cs a mid → (f a mid).result = (g a mid).result) :
    ((p >>= f) cs).result = ((q >>= g) cs).result := by
  change (resume (p cs) f).result = (resume (q cs) g).result
  unfold resume
  rw [← hp]
  split
  · rfl
  · next a mid h => exact hf h

theorem alike_bind {p q : Reader α} {f g : α → Reader β} (hp : Alike n p q)
    (hf : ∀ a, Alike n (f a) (g a)) : Alike n (p >>= f) (q >>= g) where
  cuts := cuts_bind hp.cuts fun a => (hf a).cuts
  agree {cs} hcs := by
    refine result_bind_congr (hp.agree hcs) fun {a mid} htakes => (hf a).agree ?_
    exact Nat.lt_of_le_of_lt (hp.cuts htakes).length_le hcs

theorem alike_behind {p : Reader α} {f g : α → Reader β} (hp : Cuts p)
    (hf : ∀ a, Alike n (f a) (g a)) : Alike n (p >>= f) (p >>= g) := alike_bind (hp.alike n) hf

theorem alike_value (a : α) : Alike n (pure a) (pure a) := (cuts_pure a).alike n

/-- Behind a mark the text is shorter. -/
theorem alike_token {text : String} (htext : text.toList ≠ []) {p q : Reader α}
    (h : Alike n p q) :
    Alike (n + 1) (token text >>= fun _ => p) (token text >>= fun _ => q) where
  cuts := cuts_bind (cuts_token text) fun _ => h.cuts
  agree {cs} hcs := by
    refine result_bind_congr rfl fun {u mid} htakes => h.agree ?_
    have hlen := congrArg List.length (takes_token_iff.1 htakes)
    have hpos := List.length_pos_iff.2 htext
    rw [List.length_append] at hlen
    omega

theorem alike_rule {p q : Reader α} (h : Alike n p q) : Alike n (rule p) (rule q) where
  cuts := cuts_rule h.cuts
  agree {cs} hcs := by
    have hresult := h.agree hcs
    simp only [rule, ← hresult]
    split <;> simp_all

theorem alike_orElse {p q p' q' : Reader α} (hp : Alike n p p') (hq : Alike n q q') :
    Alike n (orElse p q) (orElse p' q') where
  cuts := cuts_orElse hp.cuts hq.cuts
  agree {cs} hcs := by
    have hfirst := hp.agree hcs
    have hsecond := hq.agree hcs
    simp only [orElse, ← hfirst]
    split
    · rfl
    · exact hsecond

theorem alike_optional {p q : Reader α} (h : Alike n p q) : Alike n (optional p) (optional q) where
  cuts := cuts_optional h.cuts
  agree {cs} hcs := by
    have hresult := h.agree hcs
    simp only [optional, ← hresult]
    split <;> rfl

theorem alike_manyAfterBlank {p q : Reader α} (h : Alike n p q) (fuel : Nat) :
    Alike n (manyAfterBlank p fuel) (manyAfterBlank q fuel) := by
  induction fuel with
  | zero => exact (cuts_pure []).alike n
  | succ fuel ih =>
      refine ⟨cuts_manyAfterBlank h.cuts (fuel + 1), fun {cs} hcs => ?_⟩
      have hblank : (dropBlank false cs).length < n :=
        Nat.lt_of_le_of_lt (dropBlank_suffix false cs).length_le hcs
      have hresult := h.agree hblank
      simp only [manyAfterBlank, ← hresult]
      split
      · rfl
      · next a mid hmid =>
          -- What is left is no longer than the text, so the readers go on agreeing.
          have hlen : mid.length < n := Nat.lt_of_le_of_lt (h.cuts hmid).length_le hblank
          simp only [ih.agree hlen]

theorem alike_many {p q : Reader α} (h : Alike n p q) : Alike n (many p) (many q) where
  cuts := cuts_many h.cuts
  agree {cs} hcs := by
    have hresult := h.agree hcs
    simp only [many, ← hresult]
    split
    · rfl
    · next a mid hmid =>
        have hlen : mid.length < n := Nat.lt_of_le_of_lt (h.cuts hmid).length_le hcs
        simp only [(alike_manyAfterBlank h cs.length).agree hlen]

theorem alike_commaSeparated {p q : Reader α} (h : Alike n p q) :
    Alike n (commaSeparated p) (commaSeparated q) :=
  alike_bind h fun _ => alike_behind cuts_blank fun _ =>
    alike_bind (alike_many (alike_behind (cuts_token ",") fun _ =>
      alike_behind cuts_blank fun _ => h)) fun _ => alike_value _

end Reader

namespace Token

open Reader

/-! ### What scanners leave -/

theorem suffix_of_closed {α : Type} {r : Option (α × List Char)} {cs rest : List Char} {a : α}
    (hr : ∀ {b left}, r = some (b, left) → left <:+ cs) (h : closed r = some (a, rest)) :
    rest <:+ cs := hr (Option.filter_eq_some_iff.1 h).1

theorem scanName_suffix {cs rest : List Char} {name : String}
    (h : scanName cs = some (name, rest)) : rest <:+ cs := by
  unfold scanName at h
  split at h
  · cases h
  · next c cs =>
      split at h
      · cases h
        exact (List.dropWhile_suffix _).trans (List.suffix_cons c cs)
      · cases h

theorem firstWord_suffix {words : List String} {cs rest : List Char} {w : String}
    (h : firstWord words cs = some (w, rest)) : rest <:+ cs := by
  obtain ⟨v, -, hdrop⟩ := List.exists_of_findSome?_eq_some h
  obtain ⟨left, hleft, he⟩ := Option.map_eq_some_iff.1 hdrop
  cases he
  rw [Text.dropPattern?_eq_some_iff.1 hleft]
  exact List.suffix_append _ _

theorem untilQuote_suffix {quote : Char} {cs inside rest : List Char}
    (h : untilQuote quote cs = some (inside, rest)) : rest <:+ cs := by
  fun_induction untilQuote quote cs generalizing inside with
  | case1 => cases h
  | case2 _ =>
      cases h
      exact List.suffix_cons quote rest
  | case3 => cases h
  | case4 d cs _ ih =>
      obtain ⟨⟨more, left⟩, hmore, he⟩ := Option.map_eq_some_iff.1 h
      cases he
      exact (ih hmore).trans ((List.suffix_cons d cs).trans (List.suffix_cons '\\' (d :: cs)))
  | case5 c cs _ _ ih =>
      obtain ⟨⟨more, left⟩, hmore, he⟩ := Option.map_eq_some_iff.1 h
      cases he
      exact (ih hmore).trans (List.suffix_cons c cs)

theorem scanQuoted_suffix {cs inside rest : List Char} (h : scanQuoted cs = some (inside, rest)) :
    rest <:+ cs := by
  unfold scanQuoted at h
  split at h
  · cases h
  · next c cs =>
      split at h
      · exact (untilQuote_suffix h).trans (List.suffix_cons c cs)
      · cases h

theorem scanVerbatim_suffix {cs rest : List Char} {s : String}
    (h : scanVerbatim cs = some (s, rest)) : rest <:+ cs := by
  unfold scanVerbatim at h
  split at h
  · next q cs =>
      split at h
      · split at h
        · cases h
        · next c left hleft =>
            cases h
            have hdrop : c :: rest <:+ cs := hleft ▸ List.dropWhile_suffix _
            exact (List.suffix_cons c rest).trans
              (hdrop.trans ((List.suffix_cons q cs).trans (List.suffix_cons '@' (q :: cs))))
      · cases h
  · cases h

theorem scanDigits_suffix {cs digits rest : List Char} (h : scanDigits cs = some (digits, rest)) :
    rest <:+ cs := by
  simp only [scanDigits] at h
  split at h
  · cases h
  · cases h
    exact List.dropWhile_suffix _

theorem scanFraction_suffix {cs fraction rest : List Char}
    (h : scanFraction cs = some (fraction, rest)) : rest <:+ cs := by
  unfold scanFraction at h
  split at h
  · next cs =>
      obtain ⟨⟨digits, left⟩, hdigits, he⟩ := Option.map_eq_some_iff.1 h
      cases he
      exact (scanDigits_suffix hdigits).trans (List.suffix_cons '.' cs)
  · cases h

theorem scanSign_suffix (signs cs : List Char) : (scanSign signs cs).2 <:+ cs := by
  unfold scanSign
  split
  · next c cs =>
      split
      · exact List.suffix_cons c cs
      · exact List.suffix_refl _
  · exact List.suffix_refl []

theorem scanExponent_suffix {cs exponent rest : List Char}
    (h : scanExponent cs = some (exponent, rest)) : rest <:+ cs := by
  unfold scanExponent at h
  split at h
  · next c cs =>
      split at h
      · obtain ⟨⟨digits, left⟩, hdigits, he⟩ := Option.map_eq_some_iff.1 h
        cases he
        exact (scanDigits_suffix hdigits).trans
          ((scanSign_suffix _ cs).trans (List.suffix_cons c cs))
      · cases h
  · cases h

theorem orNothing_suffix {scan : List Char → Option (List Char × List Char)} {cs : List Char}
    (h : ∀ {part rest}, scan cs = some (part, rest) → rest <:+ cs) :
    (orNothing scan cs).2 <:+ cs := by
  rw [orNothing]
  cases hscan : scan cs with
  | none => exact List.suffix_refl cs
  | some r => exact h hscan

theorem scanSpan_suffix {cs text rest : List Char} (h : scanSpan cs = some (text, rest)) :
    rest <:+ cs := by
  simp only [scanSpan, Option.bind_eq_bind, Option.bind_eq_some_iff] at h
  obtain ⟨⟨whole, behind⟩, hwhole, ⟨unit, left⟩, hunit, he⟩ := h
  cases he
  exact (suffix_of_closed firstWord_suffix hunit).trans
    ((orNothing_suffix scanFraction_suffix).trans (scanDigits_suffix hwhole))

theorem scanReal_suffix {cs text rest : List Char} (h : scanReal cs = some (text, rest)) :
    rest <:+ cs := by
  simp only [scanReal, Option.bind_eq_bind, Option.bind_eq_some_iff] at h
  obtain ⟨⟨whole, behind⟩, hwhole, h⟩ := h
  have hbehind : rest <:+ behind := by
    split at h
    · next fraction next hfraction =>
        rw [Option.bind_some] at h
        obtain ⟨he, -⟩ := Option.filter_eq_some_iff.1 h
        cases he
        exact (orNothing_suffix scanExponent_suffix).trans (scanFraction_suffix hfraction)
    · obtain ⟨⟨exponent, left⟩, hexponent, hclosed⟩ := Option.bind_eq_some_iff.1 h
      obtain ⟨he, -⟩ := Option.filter_eq_some_iff.1 hclosed
      cases he
      exact scanExponent_suffix hexponent
  exact hbehind.trans ((scanDigits_suffix hwhole).trans (scanSign_suffix _ cs))

theorem scanInteger_suffix {cs text rest : List Char} (h : scanInteger cs = some (text, rest)) :
    rest <:+ cs := by
  simp only [scanInteger, Option.bind_eq_bind, Option.bind_eq_some_iff] at h
  obtain ⟨⟨digits, left⟩, hdigits, hclosed⟩ := h
  obtain ⟨he, -⟩ := Option.filter_eq_some_iff.1 hclosed
  cases he
  exact (scanDigits_suffix hdigits).trans (scanSign_suffix _ cs)

theorem dropGap_suffix {cs rest : List Char} (h : dropGap cs = some rest) : rest <:+ cs := by
  simp only [dropGap] at h
  split at h
  · cases h
    exact List.dropWhile_suffix _
  · cases h

theorem dropPattern?_suffix {pattern cs rest : List Char}
    (h : Text.dropPattern? pattern cs = some rest) : rest <:+ cs := by
  rw [Text.dropPattern?_eq_some_iff.1 h]
  exact List.suffix_append _ _

theorem dropPattern?_map_suffix {α : Type} {pattern cs rest : List Char} {a b : α}
    (h : (Text.dropPattern? pattern cs).map (fun r => (a, r)) = some (b, rest)) : rest <:+ cs := by
  obtain ⟨left, hleft, he⟩ := Option.map_eq_some_iff.1 h
  cases he
  exact dropPattern?_suffix hleft

theorem scanOperator_suffix {op op' : Operator} {cs rest : List Char}
    (h : scanOperator op cs = some (op', rest)) : rest <:+ cs := by
  unfold scanOperator at h
  split at h
  · simp only [Option.bind_eq_bind, Option.bind_eq_some_iff] at h
    obtain ⟨first, hfirst, gap, hgap, second, hsecond, hclosed⟩ := h
    obtain ⟨he, -⟩ := Option.filter_eq_some_iff.1 hclosed
    cases he
    exact (dropPattern?_suffix hsecond).trans ((dropGap_suffix hgap).trans
      (dropPattern?_suffix hfirst))
  · exact suffix_of_closed dropPattern?_map_suffix h
  · exact suffix_of_closed dropPattern?_map_suffix h
  · obtain ⟨r, hr, he⟩ := Option.map_eq_some_iff.1 h
    cases he
    exact firstWord_suffix hr
  · exact dropPattern?_map_suffix h

/-- A body ends in the text, or at an open parenthesis of it. -/
theorem bodyEnd_suffix {text : List Char} (fuel : Nat) :
    ∀ {depth : Nat} {outer cs : List Char}, (depth = 0 ∨ outer <:+ text) → cs <:+ text →
      (bodyEnd depth outer fuel cs).1 <:+ text := by
  induction fuel with
  | zero =>
      intro depth outer cs houter hcs
      rw [bodyEnd]
      split
      · exact hcs
      · next hdepth => exact houter.resolve_left hdepth
  | succ fuel ih =>
      intro depth outer cs houter hcs
      rw [bodyEnd.eq_def]
      simp only
      split
      · next inside rest hquoted => exact ih houter ((scanQuoted_suffix hquoted).trans hcs)
      · split
        · split
          · exact List.nil_suffix
          · next hdepth => exact houter.resolve_left hdepth
        · next rest _ =>
            -- The first parenthesis to be opened is where the body ends if it stays open.
            refine ih (.inr ?_) ((List.suffix_cons _ rest).trans hcs)
            split
            · exact hcs
            · next hdepth => exact houter.resolve_left hdepth
        · next rest _ =>
            split
            · exact hcs
            · next hdepth =>
                exact ih (.inr (houter.resolve_left hdepth)) ((List.suffix_cons _ rest).trans hcs)
        · next c rest _ _ _ => exact ih houter ((List.suffix_cons c rest).trans hcs)

/-! ### Readers of tokens -/

theorem cuts_name : Cuts Token.name := cuts_scan scanName_suffix

theorem cuts_word (words : List String) : Cuts (word words) :=
  cuts_scan (suffix_of_closed firstWord_suffix)

theorem cuts_symbol (text : String) : Cuts (symbol text) := cuts_scan firstWord_suffix

theorem cuts_wordNoTilde (w : String) : Cuts (wordNoTilde w) :=
  cuts_scan fun h => suffix_of_closed firstWord_suffix (Option.filter_eq_some_iff.1 h).1

theorem cuts_quoted : Cuts quoted := by
  refine cuts_scan fun {cs rest s} h => ?_
  obtain ⟨r, hr, he⟩ := Option.map_eq_some_iff.1 h
  cases he
  exact scanQuoted_suffix hr

theorem cuts_verbatim : Cuts verbatim := cuts_scan scanVerbatim_suffix

theorem cuts_bracketName : Cuts bracketName :=
  cuts_rule (cuts_bind (cuts_token "[") fun _ => cuts_bind cuts_quoted fun _ =>
    cuts_bind (cuts_token "]") fun _ => cuts_pure _)

theorem cuts_span : Cuts span := cuts_scan scanSpan_suffix

theorem cuts_real : Cuts real := cuts_scan scanReal_suffix

theorem cuts_integer : Cuts integer := cuts_scan scanInteger_suffix

theorem cuts_operator : Cuts operator := by
  refine cuts_firstOf fun p hp => ?_
  obtain ⟨op, -, rfl⟩ := List.mem_map.1 hp
  exact cuts_scan scanOperator_suffix

theorem cuts_sign : Cuts sign := by
  refine cuts_orElse (cuts_scan fun {cs rest s} h => ?_) (cuts_scan fun {cs rest s} h => ?_)
  · obtain ⟨r, hr, he⟩ := Option.map_eq_some_iff.1 h
    cases he
    exact suffix_of_closed firstWord_suffix hr
  · split at h
    · next left =>
        split at h
        · cases h
        · cases h
          exact List.suffix_cons '-' rest
    · cases h

theorem takes_body_iff {cs t rest : List Char} : Takes body cs t rest ↔
    rest = (bodyEnd 0 [] (cs.length + 1) cs).1 ∧ t = cs.take (cs.length - rest.length) := by
  simp only [Takes, body, Option.some.injEq, Prod.mk.injEq]
  constructor
  · rintro ⟨rfl, rfl⟩
    exact ⟨rfl, rfl⟩
  · rintro ⟨rfl, rfl⟩
    exact ⟨rfl, rfl⟩

theorem cuts_body : Cuts body := by
  intro cs rest t h
  rw [(takes_body_iff.1 h).1]
  exact bodyEnd_suffix _ (.inl rfl) (List.suffix_refl cs)

end Token

namespace Grammar

open Reader

/-! ### Expressions -/

theorem length_strip_le (cs : List Char) : (Text.strip cs).length ≤ cs.length := by
  have hdrop (cs : List Char) : (cs.dropWhile Text.isBlank).length ≤ cs.length :=
    (List.dropWhile_suffix _).length_le
  rw [Text.strip, Text.stripWhere, Text.dropEndWhile, List.length_reverse]
  have hend := hdrop (cs.dropWhile Text.isBlank).reverse
  rw [List.length_reverse] at hend
  exact Nat.le_trans hend (hdrop cs)

theorem cuts_finish : Cuts finish := by
  refine cuts_scan fun {cs rest u} h => ?_
  split at h
  · cases h
    exact List.nil_suffix
  · cases h

section Level

variable {n : Nat} {p q : Reader (Draft Expr)} (h : Alike n p q)
include h

theorem alike_whole : Alike n (whole p) (whole q) :=
  alike_behind cuts_blank fun _ => alike_bind h fun _ => alike_behind cuts_blank
    fun _ => alike_behind cuts_finish fun _ => alike_value _

/-- What is written in parentheses is read again, and is short enough. -/
theorem typedLiteral_congr (word : String) {body : List Char} (hbody : body.length < n) :
    typedLiteral p word body = typedLiteral q word body := by
  have hwhole := (alike_whole h).agree (Nat.lt_of_le_of_lt (length_strip_le body) hbody)
  simp only [typedLiteral, hwhole]

theorem alike_parenthesized : Alike (n + 1) (parenthesized p) (parenthesized q) :=
  alike_token (by decide) (alike_behind cuts_blank fun _ => alike_bind h fun _ =>
    alike_behind cuts_blank fun _ => alike_behind (cuts_token ")") fun _ =>
      alike_value _)

theorem alike_typed : Alike (n + 1) (typed p) (typed q) := by
  refine alike_rule (alike_behind (Token.cuts_word _) fun word =>
    alike_token (by decide) ⟨?_, fun {cs} hcs => ?_⟩)
  · exact cuts_bind Token.cuts_body fun _ => cuts_bind (cuts_token ")") fun _ => cuts_pure _
  · -- The body is cut out of what stands behind the parenthesis.
    refine result_bind_congr rfl fun {body mid} hbody => ?_
    have hlen : body.length < n := by
      rw [(Token.takes_body_iff.1 hbody).2]
      exact Nat.lt_of_le_of_lt (List.length_take_le' _ _) hcs
    rw [typedLiteral_congr h word hlen]

theorem alike_literal : Alike (n + 1) (literal p) (literal q) := by
  have hdynamic : Cuts dynamic :=
    cuts_rule (cuts_bind (cuts_token "dynamic") fun _ => cuts_bind (cuts_token "(") fun _ =>
      cuts_bind Token.cuts_body fun _ => cuts_bind (cuts_token ")") fun _ => cuts_pure _)
  have hplain {α : Type} {t : Reader α} (ht : Cuts t) (f : α → Draft Expr) :
      Alike (n + 1) (t >>= fun a => pure (f a)) (t >>= fun a => pure (f a)) :=
    (cuts_bind ht fun _ => cuts_pure _).alike _
  exact alike_orElse (hdynamic.alike _) (alike_orElse (alike_typed h)
    (alike_orElse (hplain Token.cuts_verbatim _) (alike_orElse (hplain Token.cuts_quoted _)
      (alike_orElse (hplain (Token.cuts_word _) _) (alike_orElse (hplain Token.cuts_span _)
        (alike_orElse (hplain Token.cuts_real _) (alike_orElse (hplain Token.cuts_integer _)
          (cuts_fail.alike _))))))))

theorem alike_call : Alike (n + 1) (call p) (call q) :=
  alike_rule (alike_behind Token.cuts_name fun _ => alike_behind cuts_blank fun _ =>
    alike_token (by decide) (alike_behind cuts_blank fun _ =>
      alike_bind (alike_optional (alike_commaSeparated h)) fun _ =>
        alike_behind cuts_blank fun _ => alike_behind (cuts_token ")") fun _ =>
          alike_value _))

omit h in
theorem cuts_columnName : Cuts columnName := cuts_orElse Token.cuts_bracketName Token.cuts_name

theorem alike_primary : Alike (n + 1) (primary p) (primary q) := by
  exact alike_orElse (alike_parenthesized h) (alike_orElse (alike_literal h)
    (alike_orElse (alike_bind (alike_call h) fun _ => alike_value _)
      (alike_orElse ((cuts_bind cuts_columnName fun _ => cuts_pure _).alike _) (cuts_fail.alike _))))

theorem alike_indexSuffix : Alike (n + 1) (indexSuffix p) (indexSuffix q) :=
  alike_rule (alike_token (by decide) (alike_behind cuts_blank fun _ =>
    alike_bind h fun _ => alike_behind cuts_blank fun _ =>
      alike_behind (cuts_token "]") fun _ => alike_value _))

theorem alike_betweenSuffix (negated : Bool) :
    Alike (n + 1) (betweenSuffix p negated) (betweenSuffix q negated) :=
  alike_rule (alike_behind (Token.cuts_word _) fun _ =>
    alike_behind cuts_blank fun _ => alike_token (by decide)
      (alike_behind cuts_blank fun _ => alike_bind h fun _ =>
        alike_behind cuts_blank fun _ => alike_behind (cuts_token "..") fun _ =>
          alike_behind cuts_blank fun _ => alike_bind h fun _ =>
            alike_behind cuts_blank fun _ => alike_behind (cuts_token ")") fun _ =>
              alike_value _))

theorem alike_amongSuffix (negated ignoreCase : Bool) :
    Alike (n + 1) (amongSuffix p negated ignoreCase) (amongSuffix q negated ignoreCase) := by
  have hstart : Cuts (amongStart negated ignoreCase) := by
    rw [amongStart]
    split
    · exact Token.cuts_symbol _
    · exact Token.cuts_wordNoTilde _
  exact alike_rule (alike_bind (hstart.alike _) fun _ => alike_behind cuts_blank fun _ =>
    alike_token (by decide) (alike_behind cuts_blank fun _ =>
      alike_bind (alike_commaSeparated h) fun _ => alike_behind cuts_blank fun _ =>
        alike_behind (cuts_token ")") fun _ => alike_value _))

omit h in
theorem cuts_pathSuffix : Cuts pathSuffix :=
  cuts_rule (cuts_bind (cuts_token ".") fun _ => cuts_bind cuts_blank fun _ =>
    cuts_bind (cuts_orElse Token.cuts_name Token.cuts_bracketName) fun _ => cuts_pure _)

theorem alike_suffix : Alike (n + 1) (suffix p) (suffix q) := by
  exact alike_orElse (cuts_pathSuffix.alike _) (alike_orElse (alike_indexSuffix h)
    (alike_orElse (alike_betweenSuffix h false) (alike_orElse (alike_betweenSuffix h true)
      (alike_orElse (alike_amongSuffix h false true) (alike_orElse (alike_amongSuffix h false false)
        (alike_orElse (alike_amongSuffix h true true) (alike_orElse (alike_amongSuffix h true false)
          (cuts_fail.alike _))))))))

theorem alike_operand : Alike (n + 1) (operand p) (operand q) :=
  alike_behind (cuts_many Token.cuts_sign) fun _ => alike_behind cuts_blank fun _ =>
    alike_bind (alike_primary h) fun _ => alike_behind cuts_blank fun _ =>
      alike_bind (alike_many (alike_suffix h)) fun _ => alike_value _

/-- **One level more is one character more.** -/
theorem alike_level : Alike (n + 1) (level p) (level q) := by
  have hlink : Alike (n + 1) (link p) (link q) :=
    alike_behind Token.cuts_operator fun _ => alike_behind cuts_blank fun _ =>
      alike_bind (alike_operand h) fun _ => alike_value _
  exact alike_rule (alike_bind (alike_operand h) fun _ => alike_behind cuts_blank fun _ =>
    alike_bind (alike_many hlink) fun _ => alike_value _)

end Level

theorem cuts_expression (depth : Nat) : Cuts (expression depth) := by
  induction depth with
  | zero => exact cuts_fail
  | succ depth ih => exact (alike_level (ih.alike 0)).cuts

/-- Levels that are enough for a text are as good as any others. -/
theorem alike_expression (n : Nat) : ∀ {d e : Nat}, n ≤ d → n ≤ e →
    Alike n (expression d) (expression e) := by
  induction n with
  | zero => exact fun {d e} _ _ => ⟨cuts_expression d, fun h => absurd h (Nat.not_lt_zero _)⟩
  | succ n ih =>
      intro d e hd he
      obtain ⟨d, rfl⟩ : ∃ k, d = k + 1 := ⟨d - 1, by omega⟩
      obtain ⟨e, rfl⟩ : ∃ k, e = k + 1 := ⟨e - 1, by omega⟩
      exact alike_level (ih (Nat.le_of_succ_le_succ hd) (Nat.le_of_succ_le_succ he))

theorem result_expr (cs : List Char) :
    (expr cs).result = (expression (cs.length + 1) cs).result := by rw [expr]

/-- Texts that are short enough are read as without a bound. -/
theorem alike_expr (depth : Nat) : Alike depth (expression depth) expr where
  cuts := cuts_expression depth
  agree {cs} hcs := by
    rw [result_expr]
    exact (alike_expression (cs.length + 1) hcs (Nat.le_refl _)).agree (Nat.lt_succ_self _)

/-- **Expressions are read by the reader that reads the expressions inside them in the same
way.** -/
theorem result_expr_eq_level (cs : List Char) : (expr cs).result = (level expr cs).result :=
  calc (expr cs).result
    _ = (level (expression cs.length) cs).result := by rw [result_expr, expression]
    _ = (level expr cs).result :=
        (alike_level (alike_expr cs.length)).agree (Nat.lt_succ_self cs.length)

theorem cuts_expr : Cuts expr := by
  intro cs rest d h
  rw [Takes, result_expr] at h
  exact cuts_expression _ h

end Grammar

end EventQuery
