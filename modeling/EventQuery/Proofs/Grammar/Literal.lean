/-
**Constants are read back as they were written.**

Most constants are taken whole by one of the scanners.  Lists, records and integers that would be
read as shorter ones stand in parentheses behind a word; the body of such a text is passed over
before anything in it is read, so it must not be ended by a parenthesis inside a string.

Main definitions:

* `Value.Jsonable`, `Value.Printable` — the constants whose text is read back;
* `Token.Passes` — a text that does not end a body;
* `Grammar.Follows` — what may stand behind an operand.

Main results:

* `Token.passes_compactChars` — JSON may stand in parentheses;
* `Grammar.takes_literal` — **a constant is read back**;
* `Grammar.refuses_literal_name` — a name is no constant.
-/

import EventQuery.Grammar.Expression
import EventQuery.Proofs.Grammar.Bare
import EventQuery.Proofs.Grammar.Strip
import EventQuery.Proofs.Grammar.Token
import EventQuery.Proofs.Json.RoundTrip

set_option relaxedAutoImplicit false
set_option autoImplicit false

namespace EventQuery

namespace Value

/-! ### Constants whose text is read back -/

/-- **Values that JSON keeps**, nested at most so many levels deep.  The fields of a record have
distinct names, as those of any map. -/
inductive Jsonable : Nat → Value → Prop where
  | null (depth : Nat) : Jsonable depth .null
  | bool (depth : Nat) (b : Bool) : Jsonable depth (.bool b)
  | long (depth : Nat) (n : Int64) : Jsonable depth (.long n)
  | string (depth : Nat) (s : String) : Jsonable depth (.string s)
  | list {depth : Nat} {items : List Value} : (∀ v ∈ items, Jsonable depth v) →
      Jsonable (depth + 1) (.list items)
  | record {depth : Nat} {fields : List (String × Value)} : (Fields.names fields).Nodup →
      (∀ f ∈ fields, Jsonable depth f.2) → Jsonable (depth + 1) (.record fields)

/-- **Constants whose text is read back.** -/
inductive Printable : Value → Prop where
  | null : Printable .null
  | bool (b : Bool) : Printable (.bool b)
  | int (n : Int32) : Printable (.int n)
  | long (n : Int64) : Printable (.long n)
  | string (s : String) : Printable (.string s)
  | list {items : List Value} : Jsonable Json.maxDepth (.list items) → Printable (.list items)
  | record {fields : List (String × Value)} : Jsonable Json.maxDepth (.record fields) →
      Printable (.record fields)

theorem itemsToJson_eq_map (items : List Value) : itemsToJson items = items.map toJson := by
  induction items with
  | nil => rfl
  | cons v rest ih => rw [itemsToJson, ih, List.map_cons]

theorem fieldsToJson_eq_map (fields : List (String × Value)) :
    fieldsToJson fields = fields.map fun f => (f.1, toJson f.2) := by
  induction fields with
  | nil => rfl
  | cons f rest ih => rw [fieldsToJson, ih, List.map_cons]

theorem Jsonable.exact {depth : Nat} {v : Value} (h : Jsonable depth v) :
    Json.Exact depth (toJson v) := by
  induction h with
  | null depth => exact .null depth
  | bool depth b => exact .bool depth b
  | long depth n => exact .integer depth (Int64.le_toInt n) (Int64.toInt_lt n)
  | string depth s => exact .string depth s
  | @list depth items _ ih =>
      rw [toJson, itemsToJson_eq_map]
      refine .array fun j hj => ?_
      obtain ⟨v, hv, rfl⟩ := List.mem_map.1 hj
      exact ih v hv
  | @record depth fields hnames _ ih =>
      have hsame : Fields.names (fields.map fun f => (f.1, toJson f.2)) = Fields.names fields := by
        simp [Fields.names]
      rw [toJson, fieldsToJson_eq_map]
      refine .object (by rwa [hsame]) fun f hf => ?_
      obtain ⟨g, hg, rfl⟩ := List.mem_map.1 hf
      exact ih g hg

theorem itemsOfJson_itemsToJson {items : List Value} (h : ∀ v ∈ items, ofJson (toJson v) = v) :
    itemsOfJson (itemsToJson items) = items := by
  induction items with
  | nil => rfl
  | cons v rest ih =>
      rw [itemsToJson, itemsOfJson, h v (List.mem_cons_self ..),
        ih fun w hw => h w (List.mem_cons_of_mem v hw)]

theorem fieldsOfJson_fieldsToJson {fields : List (String × Value)}
    (h : ∀ f ∈ fields, ofJson (toJson f.2) = f.2) :
    fieldsOfJson (fieldsToJson fields) = fields := by
  induction fields with
  | nil => rfl
  | cons f rest ih =>
      obtain ⟨name, v⟩ := f
      have hv : ofJson (toJson v) = v := h (name, v) (List.mem_cons_self ..)
      rw [fieldsToJson, fieldsOfJson, hv, ih fun g hg => h g (List.mem_cons_of_mem (name, v) hg)]

/-- JSON keeps these values. -/
theorem Jsonable.ofJson_toJson {depth : Nat} {v : Value} (h : Jsonable depth v) :
    ofJson (toJson v) = v := by
  induction h with
  | null => rfl
  | bool => rfl
  | long _ n => rw [toJson, ofJson, Int64.ofInt_toInt]
  | string => rfl
  | list _ ih => rw [toJson, ofJson, itemsOfJson_itemsToJson ih]
  | record _ _ ih => rw [toJson, ofJson, fieldsOfJson_fieldsToJson ih]

end Value

namespace Token

open Reader

/-! ### Bodies in parentheses -/

/-- A text that does not end a body, at any depth of parentheses. -/
def Passes (t : List Char) : Prop :=
  ∀ (depth : Nat) (outer : List Char) (fuel : Nat) (rest : List Char), t.length ≤ fuel →
    ∃ left, fuel ≤ left + t.length ∧
      bodyEnd depth outer fuel (t ++ rest) = bodyEnd depth outer left rest

theorem passes_nil : Passes [] := fun _ _ fuel _ _ => ⟨fuel, Nat.le_refl fuel, rfl⟩

theorem Passes.append {t u : List Char} (ht : Passes t) (hu : Passes u) : Passes (t ++ u) := by
  intro depth outer fuel rest hfuel
  rw [List.length_append] at hfuel
  obtain ⟨mid, hmid, hread⟩ := ht depth outer fuel (u ++ rest) (by omega)
  obtain ⟨left, hleft, hmore⟩ := hu depth outer mid rest (by omega)
  refine ⟨left, ?_, ?_⟩
  · rw [List.length_append]
    omega
  · rw [List.append_assoc, hread, hmore]

theorem passes_flat {c : Char} (h : isFlat c = true) : Passes [c] := by
  intro depth outer fuel rest hfuel
  rw [List.length_singleton] at hfuel
  obtain ⟨fuel, rfl⟩ : ∃ n, fuel = n + 1 := ⟨fuel - 1, by omega⟩
  simp only [isFlat, Bool.and_eq_true, Bool.not_eq_true', bne_iff_ne] at h
  refine ⟨fuel, by rw [List.length_singleton], ?_⟩
  have hquote : scanQuoted (c :: rest) = none := by
    rw [scanQuoted, if_neg (by rw [h.1.1]; decide)]
  rw [List.singleton_append, bodyEnd.eq_def]
  simp only [hquote]
  split
  · next hc => cases hc
  · next hc =>
      cases hc
      exact absurd rfl h.1.2
  · next hc =>
      cases hc
      exact absurd rfl h.2
  · next hc =>
      cases hc
      rfl

theorem Passes.cons {c : Char} {t : List Char} (hc : isFlat c = true) (ht : Passes t) :
    Passes (c :: t) := (passes_flat hc).append ht

theorem passes_all {t : List Char} (h : t.all isFlat = true) : Passes t := by
  induction t with
  | nil => exact passes_nil
  | cons c t ih =>
      rw [List.all_cons, Bool.and_eq_true] at h
      exact .cons h.1 (ih h.2)

/-- Outside all parentheses it does not matter which was the outermost. -/
theorem bodyEnd_outer (outer other : List Char) (fuel : Nat) (cs : List Char) :
    bodyEnd 0 outer fuel cs = bodyEnd 0 other fuel cs := by
  induction fuel generalizing cs with
  | zero => rfl
  | succ fuel ih =>
      rw [bodyEnd.eq_def, bodyEnd.eq_def 0 other]
      simp only
      split
      · exact ih _
      · split
        · rfl
        · rfl
        · rfl
        · exact ih _

/-- **Parentheses are passed over with what stands in them.** -/
theorem Passes.enclosed {t : List Char} (ht : Passes t) : Passes ('(' :: (t ++ [')'])) := by
  intro depth outer fuel rest hfuel
  rw [List.length_cons, List.length_append, List.length_singleton] at hfuel ⊢
  obtain ⟨fuel, rfl⟩ : ∃ n, fuel = n + 1 := ⟨fuel - 1, by omega⟩
  let opened := if depth = 0 then '(' :: (t ++ ')' :: rest) else outer
  obtain ⟨left, hleft, hread⟩ := ht (depth + 1) opened fuel (')' :: rest) (by omega)
  obtain ⟨left, rfl⟩ : ∃ n, left = n + 1 := ⟨left - 1, by omega⟩
  refine ⟨left, by omega, ?_⟩
  have hopen : bodyEnd depth outer (fuel + 1) ('(' :: (t ++ [')']) ++ rest)
      = bodyEnd (depth + 1) opened fuel (t ++ ')' :: rest) := by
    rw [List.cons_append, List.append_assoc, List.singleton_append, bodyEnd]
    rfl
  have hclose : bodyEnd (depth + 1) opened (left + 1) (')' :: rest)
      = bodyEnd depth opened left rest := by
    rw [bodyEnd]
    rfl
  rw [hopen, hread, hclose]
  cases depth with
  | zero => exact bodyEnd_outer _ _ left rest
  | succ depth => rfl

theorem Bare.neat {t : List Char} (h : Bare t) (hne : t ≠ []) : Text.Neat t :=
  Text.neat_of_all hne h.noBlank

theorem Bare.strip {t : List Char} (h : Bare t) : Text.strip t = t := by
  by_cases hne : t = []
  · rw [hne, Text.strip_nil]
  · exact (h.neat hne).strip

/-- A name may stand wherever a bare text may. -/
theorem bare_name {name : String} (h : IsName name) : Bare name.toList := by
  obtain ⟨d, ds, hchars, hstart, hds⟩ := h
  have hbare {c : Char} (hc : (Expr.isNameStart c || Expr.isNameChar c) = true) :
      isBare c = true := by
    have hquote : Text.isQuote c = false :=
      isQuote_eq_false (P := fun c => Expr.isNameStart c || Expr.isNameChar c) (by decide) hc
    have hmark {m : Char} (hm : (Expr.isNameStart m || Expr.isNameChar m) = false) : c ≠ m :=
      ne_of_eq_false (P := fun c => Expr.isNameStart c || Expr.isNameChar c) hm hc
    have hopen : c ≠ '(' := hmark (by decide)
    have hclose : c ≠ ')' := hmark (by decide)
    simp [isBare, isFlat, hquote, hopen, hclose, isBlank_of_isNameChar hc]
  rw [hchars]
  refine bare_cons.2 ⟨hbare (by rw [hstart, Bool.true_or]), fun c hc => hbare ?_⟩
  rw [List.all_eq_true.1 hds c hc, Bool.or_true]

theorem neat_name {name : String} (h : IsName name) : Text.Neat name.toList := by
  obtain ⟨c, cs, hchars, -⟩ := id h
  exact (bare_name h).neat (by rw [hchars]; exact List.cons_ne_nil c cs)

theorem Bare.passes {t : List Char} (h : Bare t) : Passes t :=
  passes_all (List.all_eq_true.2 fun c hc => (Bool.and_eq_true_iff.1 (h c hc)).1)

/-- Hexadecimal digits protect nothing and end no string. -/
theorem digit_plain {n : Nat} (h : n < 16) :
    (Hex.digit n != '"' && Hex.digit n != '\\') = true := by
  revert n
  decide

theorem shields_jsonEscapeChar (c : Char) : Shields c (Json.escapeChar c) := by
  have h := Json.writes_escapeChar c
  generalize Json.escapeChar c = t at h
  cases h with
  | @escape d _ _ => exact .pair d
  | number _ =>
      have hdigit (k : Nat) : (Hex.digit (k % 16) != '"' && Hex.digit (k % 16) != '\\') = true :=
        digit_plain (Nat.mod_lt k (by decide))
      refine .number ?_
      simp only [List.all_cons, List.all_nil, hdigit, Bool.and_self]
  | bare hquote hslash _ => exact .bare hquote hslash

/-- A quoted text is passed over whole. -/
theorem passes_of_scanQuoted {t : List Char} (hpos : 1 ≤ t.length)
    (h : ∀ rest, ∃ inside, scanQuoted (t ++ rest) = some (inside, rest)) : Passes t := by
  intro depth outer fuel rest hfuel
  obtain ⟨inside, hscan⟩ := h rest
  obtain ⟨fuel, rfl⟩ : ∃ n, fuel = n + 1 := ⟨fuel - 1, by omega⟩
  refine ⟨fuel, by omega, ?_⟩
  rw [bodyEnd.eq_def]
  simp only [hscan]

/-- Strings are passed over whole. -/
theorem passes_quote (s : String) : Passes (Json.quote s) := by
  refine passes_of_scanQuoted ?_ fun rest => ⟨s.toList.flatMap Json.escapeChar, ?_⟩
  · rw [Json.quote, List.cons_append, List.length_cons]
    omega
  · rw [Json.quote, List.cons_append, List.cons_append, List.append_assoc, List.singleton_append,
      scanQuoted, if_pos (by decide), untilQuote_flatMap shields_jsonEscapeChar]

theorem passes_compactItems {items : List Json} (h : ∀ j ∈ items, Passes j.compactChars) :
    Passes (Json.compactItems items) := by
  induction items with
  | nil => exact passes_nil
  | cons j items ih =>
      have hj := h j (List.mem_cons_self ..)
      have hmore := ih fun k hk => h k (List.mem_cons_of_mem j hk)
      cases items with
      | nil => exact hj
      | cons k items => exact hj.append (.cons (by decide) hmore)

theorem passes_compactFields {fields : List (String × Json)}
    (h : ∀ f ∈ fields, Passes f.2.compactChars) : Passes (Json.compactFields fields) := by
  induction fields with
  | nil => exact passes_nil
  | cons field fields ih =>
      obtain ⟨name, j⟩ := field
      have hj : Passes j.compactChars := h (name, j) (List.mem_cons_self ..)
      have hmore := ih fun f hf => h f (List.mem_cons_of_mem (name, j) hf)
      have hfirst : Passes (Json.quote name ++ ':' :: j.compactChars) :=
        (passes_quote name).append (.cons (by decide) hj)
      cases fields with
      | nil => exact hfirst
      | cons next fields => exact hfirst.append (.cons (by decide) hmore)

theorem passes_realChars (x : Float) : Passes (Json.realChars x) := by
  rw [Json.realChars]
  split
  · exact (bare_layout _ x).passes
  · exact passes_all rfl

/-- **JSON may stand in parentheses.** -/
theorem passes_compactChars (j : Json) : Passes j.compactChars := by
  match j with
  | .null => exact passes_all rfl
  | .bool b => cases b <;> exact passes_all rfl
  | .integer n => exact (bare_writeInt n).passes
  | .real x => exact passes_realChars x
  | .string s => exact passes_quote s
  | .array items =>
      have hitems : ∀ item ∈ items, Passes item.compactChars := fun item _ =>
        passes_compactChars item
      exact .cons (by decide) ((passes_compactItems hitems).append (passes_flat (by decide)))
  | .object fields =>
      have hfields : ∀ field ∈ fields, Passes field.2.compactChars := fun field _ =>
        passes_compactChars field.2
      exact .cons (by decide) ((passes_compactFields hfields).append (passes_flat (by decide)))
termination_by sizeOf j
decreasing_by
  · have := List.sizeOf_lt_of_mem ‹item ∈ items›
    simp only [Json.array.sizeOf_spec]
    omega
  · have := List.sizeOf_lt_of_mem ‹field ∈ fields›
    obtain ⟨name, value⟩ := field
    simp only [Json.object.sizeOf_spec, Prod.mk.sizeOf_spec] at this ⊢
    omega

theorem passes_compact (j : Json) : Passes j.compact.toList := by
  rw [Json.compact, String.toList_ofList]
  exact passes_compactChars j

/-- **A body ends at its closing parenthesis.** -/
theorem takes_body {t : List Char} (ht : Passes t) (rest : List Char) :
    Takes body (t ++ ')' :: rest) t (')' :: rest) := by
  obtain ⟨left, hleft, hend⟩ := ht 0 [] ((t ++ ')' :: rest).length + 1) (')' :: rest) (by
    rw [List.length_append]
    omega)
  have hpos : ∃ n, left = n + 1 := ⟨left - 1, by
    rw [List.length_append, List.length_cons] at hleft
    omega⟩
  obtain ⟨left, rfl⟩ := hpos
  have hstop : bodyEnd 0 [] (left + 1) (')' :: rest) = (')' :: rest, (')' :: rest).length) := by
    rw [bodyEnd]
    rfl
  rw [Takes, body, hend, hstop]
  simp

end Token

namespace Grammar

open Reader

/-! ### What stands behind an operand -/

/-- **What may stand behind an operand**, so that nothing of it is taken for a part of the
operand. -/
structure Follows (rest : List Char) : Prop where
  wordEnd : Token.atWordEnd rest = true
  noQuote : rest.head?.any Text.isQuote = false
  noFraction : Token.scanFraction rest = none
  noParen : (dropBlank false rest).head? ≠ some '('

theorem follows_blank {cs : List Char} (h : (dropBlank false cs).head? ≠ some '(') :
    Follows (' ' :: cs) where
  wordEnd := rfl
  noQuote := rfl
  noFraction := rfl
  noParen := by
    rw [dropBlank_space]
    exact h

/-! ### Words with a body -/

section Literal

variable (inner : Reader (Draft Expr))

theorem takes_wrapped_dynamic {t : List Char} (ht : Token.Passes t) (rest : List Char) :
    Takes (literal inner) (Expr.wrapped "dynamic" t ++ rest) (dynamicLiteral t) rest := by
  have htext : Expr.wrapped "dynamic" t ++ rest
      = "dynamic".toList ++ ("(".toList ++ (t ++ ')' :: rest)) := by
    simp [Expr.wrapped]
  rw [htext]
  exact takes_orElse_left (takes_rule (takes_bind (takes_token "dynamic" _)
    (takes_bind (takes_token "(" _) (takes_bind (Token.takes_body ht rest)
      (takes_bind (takes_token ")" rest) (takes_pure _ rest))))))

/-- The words of typed constants are told apart by the parenthesis behind them. -/
theorem takes_typedWord {word : String} (hword : word ∈ typedWords.map Prod.fst)
    (rest : List Char) :
    Refuses dynamic (word.toList ++ '(' :: rest) ∧
      Takes (Token.word (typedWords.map Prod.fst)) (word.toList ++ '(' :: rest) word
        ('(' :: rest) := by
  simp only [typedWords, List.map_cons, List.map_nil, List.mem_cons, List.not_mem_nil,
    or_false] at hword
  rcases hword with rfl | rfl | rfl | rfl | rfl | rfl | rfl | rfl | rfl | rfl <;> exact ⟨rfl, rfl⟩

theorem takes_wrapped_typed {word : String} (hword : word ∈ typedWords.map Prod.fst)
    {t : List Char} (ht : Token.Passes t) (rest : List Char) :
    Takes (literal inner) (Expr.wrapped word t ++ rest) (typedLiteral inner word t) rest := by
  obtain ⟨hdynamic, htaken⟩ := takes_typedWord hword (t ++ ')' :: rest)
  have htext : Expr.wrapped word t ++ rest = word.toList ++ '(' :: (t ++ ')' :: rest) := by
    simp [Expr.wrapped]
  rw [htext]
  exact takes_orElse_right hdynamic (takes_orElse_left (takes_rule (takes_bind htaken
    (takes_bind (takes_token "(" _) (takes_bind (Token.takes_body ht rest)
      (takes_bind (takes_token ")" rest) (takes_pure _ rest)))))))

/-! ### Names -/

theorem refuses_paren {cs : List Char} (h : cs.head? ≠ some '(') : Refuses (token "(") cs := by
  refine refuses_token ?_
  cases cs with
  | nil => rfl
  | cons c cs =>
      rw [List.head?_cons, ne_eq, Option.some.injEq] at h
      exact if_neg (Ne.symm h)

section Name

variable {name : String} (hname : Token.IsName name) {rest : List Char}
include hname

/-- A word with a body is not read from a name that is another word or has no body. -/
theorem refuses_word_body {α : Type} {words : List String}
    (hwords : ∀ w ∈ words, w.toList ≠ [] ∧ w.toList.all Expr.isNameChar = true)
    (hrest : Token.atWordEnd rest = true) (hother : name ∉ words ∨ rest.head? ≠ some '(')
    (k : String → Reader α) :
    Refuses (Token.word words >>= fun w => token "(" >>= fun _ => k w) (name.toList ++ rest) := by
  cases h : Token.closed (Token.firstWord words (name.toList ++ rest)) with
  | none => exact refuses_bind (refuses_scan h)
  | some taken =>
      obtain ⟨w, left⟩ := taken
      obtain ⟨hmem, rfl⟩ := Token.word_name hwords hname hrest h
      have hparen : left.head? ≠ some '(' := hother.resolve_left fun hnot => hnot hmem
      exact refuses_bind_of_takes (takes_scan h) (refuses_bind (refuses_paren hparen))

theorem refuses_dynamic_name (hend : Token.atWordEnd rest = true)
    (hother : name ≠ "dynamic" ∨ rest.head? ≠ some '(') :
    Refuses dynamic (name.toList ++ rest) := by
  refine refuses_rule ?_
  cases h : Text.dropPattern? "dynamic".toList (name.toList ++ rest) with
  | none => exact refuses_bind (refuses_token h)
  | some left =>
      have htext := Text.dropPattern?_eq_some_iff.1 h
      rw [htext]
      refine refuses_bind_of_takes (takes_token "dynamic" left) (refuses_bind (refuses_paren ?_))
      intro hparen
      -- With a parenthesis behind it, the word would be the name itself.
      have hleft : Token.atWordEnd left = true := by
        cases left with
        | nil => rfl
        | cons d ds =>
            cases hparen
            rfl
      have hread : Token.closed (Token.firstWord ["dynamic"] (name.toList ++ rest))
          = some ("dynamic", left) := by
        rw [Token.firstWord, List.findSome?_cons, h]
        simp [Token.closed, hleft]
      obtain ⟨hmem, rfl⟩ := Token.word_name (by decide) hname hend hread
      rcases hother with hother | hother
      · exact hother (List.mem_singleton.1 hmem)
      · exact hother hparen

/-- An `@` opens a text only with a quote behind it, which a name has none of. -/
theorem refuses_verbatim_name (hnoQuote : rest.head?.any Text.isQuote = false) :
    Refuses Token.verbatim (name.toList ++ rest) := by
  obtain ⟨c, cs, hchars, -, hcs⟩ := hname
  refine refuses_scan ?_
  rw [hchars, List.cons_append]
  unfold Token.scanVerbatim
  split
  · next q more h =>
      have hq : Text.isQuote q = false := by
        cases cs with
        | nil =>
            cases h
            exact hnoQuote
        | cons d ds =>
            cases h
            exact Token.isQuote_of_isNameChar (List.all_eq_true.1 hcs _ (List.mem_cons_self ..))
      rw [if_neg (by rw [hq]; decide)]
  · rfl

/-- A name begins with no digit and no sign, so with no number. -/
theorem refuses_number_name : Refuses Token.span (name.toList ++ rest) ∧
    Refuses Token.real (name.toList ++ rest) ∧ Refuses Token.integer (name.toList ++ rest) := by
  obtain ⟨c, cs, hchars, hstart, -⟩ := hname
  obtain ⟨-, -, -, -, hminus, -, -, hdigit⟩ := Token.of_isNameStart hstart
  have hdigits : Token.scanDigits (name.toList ++ rest) = none := by
    rw [hchars, List.cons_append, Token.scanDigits,
      List.takeWhile_cons_of_neg (by rw [hdigit]; decide)]
    rfl
  have hsign : Token.scanSign ['-'] (name.toList ++ rest) = ([], name.toList ++ rest) := by
    rw [hchars, List.cons_append, Token.scanSign, if_neg (by simpa using hminus)]
  refine ⟨refuses_scan ?_, refuses_scan ?_, refuses_scan ?_⟩
  · simp [Token.scanSpan, hdigits]
  · simp [Token.scanReal, hsign, hdigits]
  · simp [Token.scanInteger, hsign, hdigits]

/-- **A name is no constant.** -/
theorem refuses_literal_name (hbool : name ∉ ["true", "false"])
    (hend : Token.atWordEnd rest = true)
    (hnoQuote : rest.head?.any Text.isQuote = false)
    (hother : name ∉ "dynamic" :: typedWords.map Prod.fst ∨ rest.head? ≠ some '(') :
    Refuses (literal inner) (name.toList ++ rest) := by
  obtain ⟨c, cs, hchars, hstart, -⟩ := id hname
  obtain ⟨-, -, -, -, -, -, hquote, -⟩ := Token.of_isNameStart hstart
  have hdynamic : Refuses dynamic (name.toList ++ rest) :=
    refuses_dynamic_name hname hend (hother.imp_left List.ne_of_not_mem_cons)
  have htyped : Refuses (typed inner) (name.toList ++ rest) := by
    refine refuses_rule (refuses_word_body hname (by decide) hend ?_ _)
    exact hother.imp_left fun h hmem => h (List.mem_cons_of_mem _ hmem)
  have hquoted : Refuses Token.quoted (name.toList ++ rest) := by
    refine refuses_scan ?_
    rw [hchars, List.cons_append, Token.scanQuoted, if_neg (by rw [hquote]; decide),
      Option.map_none]
  have hword : Refuses (Token.word ["true", "false"]) (name.toList ++ rest) :=
    refuses_scan (Token.closed_firstWord_name (by decide) hname hbool hend)
  have hverbatim := refuses_verbatim_name hname hnoQuote
  obtain ⟨hspan, hreal, hinteger⟩ := @refuses_number_name _ hname rest
  exact refuses_orElse hdynamic (refuses_orElse htyped (refuses_orElse (refuses_bind hverbatim)
    (refuses_orElse (refuses_bind hquoted) (refuses_orElse (refuses_bind hword)
      (refuses_orElse (refuses_bind hspan) (refuses_orElse (refuses_bind hreal)
        (refuses_orElse (refuses_bind hinteger) rfl)))))))

end Name

end Literal

end Grammar

end EventQuery
