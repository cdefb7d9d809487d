/-
**Texts of expressions are read as what they mean.**

The text of every expression that can be read at all is taken whole, wherever an expression may
stand, and is read as the expression that it means.  The proof follows the expression: its text is
an operand in front of whatever suffixes come behind, and the text between the parentheses of a
binary operation or of a test is a row of operands.

Main definitions:

* `Grammar.Stops` — what may stand behind an expression;
* `Grammar.Spans` — a text is read as an expression wherever one may stand;
* `Grammar.Rows` — the text of an expression is read as its row.

Main results:

* `Grammar.takes_call`, `Grammar.takes_between`, `Grammar.takes_among` — the parts of a row;
* `Grammar.reads_wellFormed` — **texts of expressions are read as what they mean**;
* `Expr.read_print_eq_reread` — the same for whole texts.
-/

import EventQuery.Proofs.Grammar.Depth
import EventQuery.Proofs.Grammar.Operand

set_option relaxedAutoImplicit false
set_option autoImplicit false

namespace EventQuery

namespace Grammar

open Reader EventQuery.Expr

/-! ### What stands behind an expression -/

/-- **What may stand behind an expression**, so that nothing of it is taken for a part of the
expression. -/
structure Stops (rest : List Char) : Prop extends Follows rest where
  noSuffix : ∀ p : Reader (Draft Expr), Refuses (suffix p) (dropBlank false rest)
  noOperator : Refuses Token.operator (dropBlank false rest)

theorem stops_nil : Stops [] where
  wordEnd := rfl
  noQuote := rfl
  noFraction := rfl
  noParen := by decide
  noSuffix := fun _ => rfl
  noOperator := rfl

/-- A closing mark or a comma. -/
theorem stops_mark {c : Char} (hc : c = ')' ∨ c = ']' ∨ c = ',') (cs : List Char) :
    Stops (c :: cs) := by
  have hblank : dropBlank false (c :: cs) = c :: cs := by
    rcases hc with rfl | rfl | rfl <;> exact dropBlank_cons (by decide) (by decide) cs
  refine ⟨⟨?_, ?_, ?_, ?_⟩, fun p => ?_, ?_⟩
  · rcases hc with rfl | rfl | rfl <;> rfl
  · rcases hc with rfl | rfl | rfl <;> rfl
  · rcases hc with rfl | rfl | rfl <;> rfl
  · rw [hblank]
    rcases hc with rfl | rfl | rfl <;> simp
  · rw [hblank]
    rcases hc with rfl | rfl | rfl <;> rfl
  · rw [hblank]
    rcases hc with rfl | rfl | rfl <;> rfl

/-- A blank in front of the bar of the next stage or of the points of a range. -/
theorem stops_blank {c d : Char} (hc : c = '|' ∨ c = '.' ∧ d = '.') (cs : List Char) :
    Stops (' ' :: c :: d :: cs) := by
  have hblank : dropBlank false (' ' :: c :: d :: cs) = c :: d :: cs := by
    rw [dropBlank_space]
    rcases hc with rfl | ⟨rfl, -⟩ <;> exact dropBlank_cons (by decide) (by decide) _
  refine ⟨⟨rfl, rfl, rfl, ?_⟩, fun p => ?_, ?_⟩
  · rw [hblank]
    rcases hc with rfl | ⟨rfl, -⟩ <;> simp
  · rw [hblank]
    rcases hc with rfl | ⟨rfl, rfl⟩ <;> rfl
  · rw [hblank]
    rcases hc with rfl | ⟨rfl, rfl⟩ <;> rfl

theorem Follows.head_ne {rest : List Char} (h : Follows rest) : rest.head? ≠ some '(' := by
  intro hparen
  cases rest with
  | nil => cases hparen
  | cons c cs =>
      cases hparen
      exact h.noParen (by rw [dropBlank_cons (by decide) (by decide)]; rfl)

theorem follows_path {name : String} (hname : Token.IsName name) (rest : List Char) :
    Follows ('.' :: name.toList ++ rest) := by
  obtain ⟨c, cs, hchars, hstart, -⟩ := hname
  obtain ⟨-, -, -, -, -, -, -, hdigit⟩ := Token.of_isNameStart hstart
  rw [hchars]
  refine ⟨rfl, rfl, ?_, ?_⟩
  · rw [List.cons_append, List.cons_append, Token.scanFraction, Token.scanDigits,
      List.takeWhile_cons_of_neg (by rw [hdigit]; decide)]
    rfl
  · rw [List.cons_append, dropBlank_cons (by decide) (by decide)]
    simp

theorem follows_bracket (cs : List Char) : Follows ('[' :: cs) := by
  refine ⟨rfl, rfl, rfl, ?_⟩
  rw [dropBlank_cons (by decide) (by decide)]
  simp

theorem head_operator (op : Operator) (cs : List Char) :
    (op.token.toList ++ cs).head? ≠ some '(' := by
  have hall : ∀ op ∈ Operator.all,
      op.token.toList ≠ [] ∧ op.token.toList.head? ≠ some '(' := by decide
  obtain ⟨hne, hhead⟩ := hall op (Operator.mem_all op)
  rwa [List.head?_append_of_ne_nil _ hne]

/-- No operator is taken for a blank or for a suffix. -/
theorem behind_operator (op : Operator) (cs : List Char) :
    dropBlank false (op.token.toList ++ ' ' :: cs) = op.token.toList ++ ' ' :: cs ∧
      ∀ p : Reader (Draft Expr), Refuses (suffix p) (op.token.toList ++ ' ' :: cs) := by
  rcases op with c | ⟨n, i⟩ | r | a | ⟨s, n, e⟩ | _
  · cases c <;> exact ⟨by rw [dropBlank.eq_def]; rfl, fun _ => rfl⟩
  · cases n <;> cases i <;> exact ⟨by rw [dropBlank.eq_def]; rfl, fun _ => rfl⟩
  · cases r <;> exact ⟨by rw [dropBlank.eq_def]; rfl, fun _ => rfl⟩
  · cases a <;> exact ⟨by rw [dropBlank.eq_def]; rfl, fun _ => rfl⟩
  · cases s <;> cases n <;> cases e <;> exact ⟨by rw [dropBlank.eq_def]; rfl, fun _ => rfl⟩
  · exact ⟨by rw [dropBlank.eq_def]; rfl, fun _ => rfl⟩

/-! ### Names -/

/-- **A column name is read back**, in brackets or bare. -/
theorem takes_columnName (name : String) {rest : List Char} (hrest : Token.atWordEnd rest = true) :
    Takes columnName (nameChars name ++ rest) name rest := by
  rw [nameChars]
  split
  · next hplain =>
      have hname := (Token.isName_of_isPlainName hplain).1
      obtain ⟨c, cs, hchars, hstart, -⟩ := id hname
      obtain ⟨-, -, -, hbracket, -⟩ := Token.of_isNameStart hstart
      have hrefuses : Refuses Token.bracketName (name.toList ++ rest) := by
        refine refuses_rule (refuses_bind (refuses_token ?_))
        rw [hchars]
        exact if_neg (Ne.symm hbracket)
      exact takes_orElse_right hrefuses (Token.takes_name hname hrest)
  · exact takes_orElse_left (Token.takes_bracketName name rest)

/-- A name without arguments is no call. -/
theorem refuses_call_name (p : Reader (Draft Expr)) {name : String} (hname : Token.IsName name)
    {rest : List Char} (hrest : Follows rest) : Refuses (call p) (name.toList ++ rest) :=
  refuses_rule (refuses_bind_of_takes (Token.takes_name hname hrest.wordEnd)
    (refuses_bind_of_takes (takes_blank _) (refuses_bind (refuses_paren hrest.noParen))))

theorem head_name {name : String} (hname : Token.IsName name) (rest : List Char) :
    (name.toList ++ rest).head? ≠ some '(' := by
  obtain ⟨c, cs, hchars, hstart, -⟩ := hname
  obtain ⟨-, -, hparen, -⟩ := Token.of_isNameStart hstart
  rw [hchars, List.cons_append, List.head?_cons, ne_eq, Option.some.injEq]
  exact hparen

theorem head_literal (v : Value) (rest : List Char) :
    (literalChars v ++ rest).head? ≠ some '(' := by
  obtain ⟨c, cs, hchars, hc, -⟩ := literalChars_begins v
  simp only [beginsConstant, Bool.and_eq_true, Bool.not_eq_true', bne_iff_ne] at hc
  rw [hchars, List.cons_append, List.head?_cons, ne_eq, Option.some.injEq]
  exact hc.1.2

/-- A constant has no sign in front. -/
theorem refuses_sign_literal (v : Value) (rest : List Char) :
    Refuses Token.sign (literalChars v ++ rest) := by
  obtain ⟨c, cs, hchars, hc, hminus⟩ := literalChars_begins v
  simp only [beginsConstant, Bool.and_eq_true, Bool.not_eq_true', bne_iff_ne] at hc
  rw [hchars]
  by_cases h : c = '-'
  · obtain ⟨d, ds, rfl, hd⟩ := hminus h
    rw [h]
    exact Token.refuses_sign_digit hd (ds ++ rest)
  · exact Token.refuses_sign hc.2 h (cs ++ rest)

/-! ### Texts inside other texts -/

/-- **The text is read as an expression wherever one may stand.** -/
def Spans (t : List Char) (d : Draft Expr) : Prop :=
  ∀ ⦃rest : List Char⦄, Stops rest → Reads expr (t ++ rest) d rest

theorem reads_of_level {cs rest : List Char} {d : Draft Expr} (h : Reads (level expr) cs d rest) :
    Reads expr cs d rest := by
  obtain ⟨left, htakes, hleft⟩ := h
  refine ⟨left, ?_, hleft⟩
  rw [Takes, result_expr_eq_level]
  exact htakes

/-- What stands in parentheses. -/
theorem takes_parenthesized {t : List Char} {d : Draft Expr} (hsolid : Solid t) (h : Spans t d)
    (after : List Char) : Takes (parenthesized expr) ('(' :: (t ++ [')']) ++ after) d after := by
  have htext : '(' :: (t ++ [')']) ++ after = "(".toList ++ (t ++ ')' :: after) := by simp
  rw [htext]
  refine takes_bind (takes_token "(" _) (takes_bind (takes_blank _) ?_)
  rw [hsolid]
  refine takes_bind_blank (h (stops_mark (.inl rfl) after)) ?_
  rw [dropBlank_cons (by decide) (by decide)]
  exact takes_bind (takes_token ")" after) (takes_pure _ after)

/-- A closing parenthesis begins no expression. -/
theorem refuses_expr_paren (cs : List Char) : Refuses expr (')' :: cs) := by
  have hblank : dropBlank false (')' :: cs) = ')' :: cs := dropBlank_cons (by decide) (by decide) cs
  have hsigns : Takes (many Token.sign) (')' :: cs) [] (')' :: cs) := rfl
  have hliteral : Refuses (literal expr) (')' :: cs) := rfl
  have hcolumn : Refuses columnName (')' :: cs) := rfl
  have hoperand : Refuses (operand expr) (')' :: cs) := by
    refine refuses_bind_of_takes hsigns (refuses_bind_of_takes (takes_blank _) ?_)
    rw [hblank]
    exact refuses_bind (refuses_orElse rfl (refuses_orElse hliteral
      (refuses_orElse (refuses_bind (refuses_rule (refuses_bind rfl)))
        (refuses_orElse (refuses_bind hcolumn) rfl))))
  have hlevel : Refuses (level expr) (')' :: cs) := refuses_rule (refuses_bind hoperand)
  rw [Refuses, result_expr_eq_level]
  exact hlevel

section List

variable {es : List Expr} (hes : ∀ e ∈ es, WellFormed e ∧ Spans e.chars e.reread)
include hes

/-- Expressions separated by commas, up to a closing parenthesis. -/
theorem reads_list (hne : es ≠ []) (after : List Char) :
    Reads (commaSeparated expr) (listChars es ++ ')' :: after) (es.map reread) (')' :: after) := by
  have hitems : ∀ e ∈ es, Solid e.chars ∧
      ∀ rest, Stops rest → Reads expr (e.chars ++ rest) e.reread rest :=
    fun e he => ⟨(hes e he).1.solid, fun _ hrest => (hes e he).2 hrest⟩
  rw [listChars_eq_commaJoined]
  refine reads_commaSeparated ?_ hne hitems ?_ ?_
  · exact fun more => stops_mark (.inr (.inr rfl)) (' ' :: more)
  · exact stops_mark (.inl rfl) after
  · rw [dropBlank_cons (by decide) (by decide)]
    simp

/-- **A call is read up to its closing parenthesis.** -/
theorem takes_call {name : String} (hname : Token.IsName name) (after : List Char) :
    Takes (call expr) (name.toList ++ ('(' :: (listChars es ++ [')'])) ++ after)
      ((rereadAll es).map fun es => (name, es)) after := by
  have htext : name.toList ++ ('(' :: (listChars es ++ [')'])) ++ after
      = name.toList ++ ('(' :: (listChars es ++ ')' :: after)) := by simp
  have hresult : ((es.map reread).mapM id >>= fun es => (.ok (name, es) : Draft _))
      = (rereadAll es).map fun es => (name, es) := by
    rw [rereadAll_eq_mapM]
    cases (es.map reread).mapM id <;> rfl
  rw [htext, ← hresult]
  refine takes_rule (takes_bind (Token.takes_name hname rfl) (takes_bind (takes_blank _) ?_))
  rw [dropBlank_cons (by decide) (by decide)]
  refine takes_bind (takes_token "(" (listChars es ++ ')' :: after)) (takes_bind (takes_blank _) ?_)
  cases es with
  | nil =>
      -- The closing parenthesis stands where an argument would begin.
      rw [listChars, List.nil_append, dropBlank_cons (by decide) (by decide)]
      have hnone : Takes (optional (commaSeparated expr)) (')' :: after) none (')' :: after) :=
        takes_optional_none (refuses_bind (refuses_expr_paren after))
      refine takes_bind hnone (takes_bind (takes_blank _) ?_)
      rw [dropBlank_cons (by decide) (by decide)]
      exact takes_bind (takes_token ")" after) (takes_pure _ after)
  | cons e es =>
      rw [solid_listChars (List.cons_ne_nil e es) fun f hf => (hes f hf).1]
      have hread := reads_optional (reads_list hes (List.cons_ne_nil e es) after)
      refine takes_bind_blank hread ?_
      rw [dropBlank_cons (by decide) (by decide)]
      exact takes_bind (takes_token ")" after) (takes_pure _ after)

/-- **A list test is read whole.** -/
theorem takes_among (negated ignoreCase : Bool) (hne : es ≠ []) (rest : List Char) :
    Takes (suffix expr)
      ((amongWord negated ignoreCase).toList ++ ' ' :: '(' :: (listChars es ++ ')' :: rest))
      ((rereadAll es).map (Suffix.among negated ignoreCase)) rest := by
  have hword (cs : List Char) : Takes (amongStart negated ignoreCase)
      ((amongWord negated ignoreCase).toList ++ ' ' :: cs) (amongWord negated ignoreCase)
      (' ' :: cs) := by
    cases negated <;> cases ignoreCase <;> rfl
  have hsuffix : Takes (amongSuffix expr negated ignoreCase)
      ((amongWord negated ignoreCase).toList ++ ' ' :: '(' :: (listChars es ++ ')' :: rest))
      ((rereadAll es).map (Suffix.among negated ignoreCase)) rest := by
    rw [rereadAll_eq_mapM]
    refine takes_rule (takes_bind (hword _) (takes_bind (takes_blank _) ?_))
    rw [dropBlank_space, dropBlank_cons (by decide) (by decide)]
    refine takes_bind (takes_token "(" (listChars es ++ _)) (takes_bind (takes_blank _) ?_)
    rw [solid_listChars hne fun e he => (hes e he).1]
    refine takes_bind_blank (reads_list hes hne rest) ?_
    rw [dropBlank_cons (by decide) (by decide)]
    exact takes_bind (takes_token ")" rest) (takes_pure _ rest)
  -- The tests that are tried before have another word or another mark behind it.
  cases negated <;> cases ignoreCase
  · exact takes_orElse_right rfl (takes_orElse_right rfl (takes_orElse_right rfl
      (takes_orElse_right rfl (takes_orElse_right rfl (takes_orElse_left hsuffix)))))
  · exact takes_orElse_right rfl (takes_orElse_right rfl (takes_orElse_right rfl
      (takes_orElse_right rfl (takes_orElse_left hsuffix))))
  · exact takes_orElse_right rfl (takes_orElse_right rfl (takes_orElse_right rfl
      (takes_orElse_right rfl (takes_orElse_right rfl (takes_orElse_right rfl
        (takes_orElse_right rfl (takes_orElse_left hsuffix)))))))
  · exact takes_orElse_right rfl (takes_orElse_right rfl (takes_orElse_right rfl
      (takes_orElse_right rfl (takes_orElse_right rfl (takes_orElse_right rfl
        (takes_orElse_left hsuffix))))))

end List

/-- **A range test is read whole.** -/
theorem takes_between (negated : Bool) {low high : Expr} (hlow : WellFormed low)
    (hlowSpans : Spans low.chars low.reread) (hhigh : WellFormed high)
    (hhighSpans : Spans high.chars high.reread) (rest : List Char) :
    Takes (suffix expr) ((betweenWord negated).toList ++ ' ' :: '(' ::
      (low.chars ++ ' ' :: '.' :: '.' :: ' ' :: (high.chars ++ ')' :: rest)))
      (low.reread.bind fun low => high.reread.map fun high => .between negated low high) rest := by
  have hword (cs : List Char) : Takes (Token.word [betweenWord negated])
      ((betweenWord negated).toList ++ ' ' :: cs) (betweenWord negated) (' ' :: cs) := by
    cases negated <;> rfl
  have hsuffix : Takes (betweenSuffix expr negated) ((betweenWord negated).toList ++ ' ' :: '(' ::
      (low.chars ++ ' ' :: '.' :: '.' :: ' ' :: (high.chars ++ ')' :: rest)))
      (low.reread.bind fun low => high.reread.map fun high => .between negated low high) rest := by
    refine takes_rule (takes_bind (hword _) (takes_bind (takes_blank _) ?_))
    rw [dropBlank_space, dropBlank_cons (by decide) (by decide)]
    refine takes_bind (takes_token "(" (low.chars ++ _)) (takes_bind (takes_blank _) ?_)
    rw [hlow.solid]
    refine takes_bind_blank (hlowSpans (stops_blank (.inr ⟨rfl, rfl⟩) _)) ?_
    rw [dropBlank_space, dropBlank_cons (by decide) (by decide)]
    refine takes_bind (takes_token ".." (' ' :: (high.chars ++ _))) (takes_bind (takes_blank _) ?_)
    rw [dropBlank_space, hhigh.solid]
    refine takes_bind_blank (hhighSpans (stops_mark (.inl rfl) rest)) ?_
    rw [dropBlank_cons (by decide) (by decide)]
    exact takes_bind (takes_token ")" rest) (takes_pure _ rest)
  cases negated with
  | false => exact takes_orElse_right rfl (takes_orElse_right rfl (takes_orElse_left hsuffix))
  | true =>
      exact takes_orElse_right rfl (takes_orElse_right rfl (takes_orElse_right rfl
        (takes_orElse_left hsuffix)))

/-! ### Operands -/

/-- **The text of the expression is read as its row**, in front of whatever suffixes follow. -/
def Rows (e : Expr) : Prop :=
  ∀ ⦃mid rest : List Char⦄ ⦃more : List (Draft Suffix)⦄, Follows mid →
    Repeats (suffix expr) mid more rest → Reads (operand expr) (e.chars ++ mid) (row e more) rest

/-- Signs, a head and suffixes make an operand. -/
theorem reads_operand_parts {cs front mid rest : List Char} {signs : List Sign}
    {head : Draft Expr} {xs : List (Draft Suffix)} (hsigns : Reads (many Token.sign) cs signs front)
    (hhead : Takes (primary expr) (dropBlank false front) head mid)
    (hxs : Repeats (suffix expr) mid xs rest) :
    Reads (operand expr) cs (parts signs head xs) rest :=
  reads_bind_blank hsigns (reads_bind_blank hhead.reads (reads_map (reads_many hxs)))

/-- A head without a sign. -/
theorem Rows.of_head {e : Expr} (hrow : ∀ more, row e more = parts [] e.reread more)
    (hsolid : Solid e.chars)
    (hsign : ∀ {rest}, Token.atWordEnd rest = true → Refuses Token.sign (e.chars ++ rest))
    (hhead : ∀ {rest}, Follows rest → Takes (primary expr) (e.chars ++ rest) e.reread rest) :
    Rows e := by
  intro mid rest more hmid hmore
  have hstop : Repeats Token.sign (e.chars ++ mid) [] (e.chars ++ mid) := by
    refine .stop ?_
    rw [hsolid]
    exact hsign hmid.wordEnd
  have hsigns := reads_many hstop
  have hread := hhead hmid
  rw [hsolid] at hsigns
  rw [← hsolid] at hread
  rw [hrow]
  exact reads_operand_parts hsigns hread hmore

/-- The sign in front of parentheses. -/
theorem reads_signs_not (cs : List Char) :
    Reads (many Token.sign) ('n' :: 'o' :: 't' :: '(' :: cs) [.not] ('(' :: cs) := by
  have hblank : dropBlank false ('n' :: 'o' :: 't' :: '(' :: cs) = 'n' :: 'o' :: 't' :: '(' :: cs :=
    dropBlank_cons (by decide) (by decide) _
  have hparen : dropBlank false ('(' :: cs) = '(' :: cs := dropBlank_cons (by decide) (by decide) cs
  have hsign : Takes Token.sign ('n' :: 'o' :: 't' :: '(' :: cs) .not ('(' :: cs) := rfl
  rw [← hblank]
  refine reads_many (.more ?_ ?_ (.stop ?_))
  · rw [hblank]
    exact hsign.reads
  · rw [hblank, hparen]
    simp
  · rw [hparen]
    exact Token.refuses_sign (by decide) (by decide) cs

/-- A negation is a sign in front of parentheses. -/
theorem Rows.of_not {e : Expr} (he : WellFormed e) (hspans : Spans e.chars e.reread) :
    Rows (.not e) := by
  intro mid rest more _ hmore
  have hhead := takes_parenthesized he.solid hspans mid
  have htext : chars (.not e) ++ mid = 'n' :: 'o' :: 't' :: '(' :: (e.chars ++ [')'] ++ mid) := by
    simp [chars]
  rw [List.cons_append] at hhead
  rw [htext]
  generalize e.chars ++ [')'] ++ mid = body at hhead
  have hparen : dropBlank false ('(' :: body) = '(' :: body :=
    dropBlank_cons (by decide) (by decide) body
  rw [← hparen] at hhead
  exact reads_operand_parts (reads_signs_not body) (takes_orElse_left hhead) hmore

/-- Member access and indexing are one suffix more. -/
theorem Rows.of_suffix {base e : Expr} {d : Draft Suffix} {text : List Char} (hbase : Rows base)
    (hchars : e.chars = base.chars ++ text) (hrow : ∀ more, row e more = row base (d :: more))
    (hsolid : Solid text) (hpos : 0 < text.length)
    (hfollows : ∀ mid, Follows (text ++ mid))
    (hread : ∀ {mid}, Follows mid → Takes (suffix expr) (text ++ mid) d mid) : Rows e := by
  intro mid rest more hmid hmore
  have hsuffixes : Repeats (suffix expr) (text ++ mid) (d :: more) rest := by
    refine .more ?_ ?_ hmore
    · rw [hsolid]
      exact (hread hmid).reads
    · have := length_dropBlank_le false mid
      rw [hsolid, List.length_append]
      omega
  rw [hchars, List.append_assoc, hrow]
  exact hbase (hfollows mid) hsuffixes

/-- An index in brackets. -/
theorem takes_index {i : Expr} (hi : WellFormed i) (hspans : Spans i.chars i.reread)
    (rest : List Char) :
    Takes (suffix expr) (suffixChars (.index i) ++ rest) (i.reread.map Suffix.index) rest := by
  have htext : suffixChars (.index i) ++ rest = "[".toList ++ (i.chars ++ ']' :: rest) := by
    simp [suffixChars]
  rw [htext]
  refine takes_orElse_right rfl (takes_orElse_left (takes_rule
    (takes_bind (takes_token "[" _) (takes_bind (takes_blank _) ?_))))
  rw [hi.solid]
  refine takes_bind_blank (hspans (stops_mark (.inr (.inl rfl)) rest)) ?_
  rw [dropBlank_cons (by decide) (by decide)]
  exact takes_bind (takes_token "]" rest) (takes_pure _ rest)

theorem Rows.index {base i : Expr} (hbase : Rows base) (hi : WellFormed i)
    (hspans : Spans i.chars i.reread) : Rows (.index base i) :=
  hbase.of_suffix (chars_index base i) (fun _ => rfl) (solid_cons (by decide) (by decide) _)
    (Nat.succ_pos _) (fun _ => follows_bracket _) fun _ => takes_index hi hspans _

/-! ### Rows of operands -/

/-- Operands joined by operators make the tree of their row. -/
theorem reads_level_parts {cs mid rest : List Char} {o : Draft Operand}
    {links : List (Draft (Operator × Operand))} (hfirst : Reads (operand expr) cs o mid)
    (hlinks : Repeats (link expr) mid links rest) :
    Reads expr cs (o.bind fun o => (links.mapM id).map fun links => Phrase.tree ⟨o, links⟩) rest :=
  reads_of_level (reads_rule (reads_bind_blank hfirst (reads_map (reads_many hlinks))))

theorem repeats_link_stop {rest : List Char} (hrest : Stops rest) :
    Repeats (link expr) rest [] rest := .stop (refuses_bind hrest.noOperator)

theorem repeats_suffix_stop {rest : List Char} (hrest : Stops rest) :
    Repeats (suffix expr) rest [] rest := .stop (hrest.noSuffix expr)

/-- An operand alone means the expression that its text means. -/
theorem Rows.spans {e : Expr} (h : Rows e) : Spans e.chars e.reread := by
  intro rest hrest
  have hread := reads_level_parts (h hrest.toFollows (repeats_suffix_stop hrest))
    (repeats_link_stop hrest)
  obtain ⟨hmap, hrow⟩ := row_spec e
  have hvalue : ((row e []).bind fun o =>
      ((([] : List (Draft (Operator × Operand))).mapM id).map fun links => Phrase.tree ⟨o, links⟩))
      = e.reread := by
    rw [← hmap]
    cases ho : row e [] with
    | error _ => rfl
    | ok o => exact congrArg Except.ok (hrow ho).tight.tree_alone
  rw [hvalue] at hread
  exact hread

/-- **The two sides of a binary operation.** -/
theorem spans_binary (op : Operator) {left right : Expr} (hleft : Rows left)
    (hsolid : Solid right.chars) (hright : Rows right) :
    Spans (bareChars (.binary op left right)) (reread (.binary op left right)) := by
  intro rest hrest
  have htext : bareChars (.binary op left right) ++ rest
      = left.chars ++ (' ' :: (op.token.toList ++ ' ' :: (right.chars ++ rest))) := by
    simp [bareChars]
  obtain ⟨hblank, hsuffix⟩ := behind_operator op (right.chars ++ rest)
  have hfollows : Follows (' ' :: (op.token.toList ++ ' ' :: (right.chars ++ rest))) :=
    follows_blank (by rw [hblank]; exact head_operator op _)
  have hstop : Repeats (suffix expr) (' ' :: (op.token.toList ++ ' ' :: (right.chars ++ rest))) []
      (' ' :: (op.token.toList ++ ' ' :: (right.chars ++ rest))) := by
    refine .stop ?_
    rw [dropBlank_space, hblank]
    exact hsuffix expr
  have hlink : Reads (link expr) (op.token.toList ++ ' ' :: (right.chars ++ rest))
      ((row right []).map fun o => (op, o)) rest := by
    refine reads_bind (Token.takes_operator op _) (reads_bind (takes_blank _) ?_)
    rw [dropBlank_space, hsolid]
    exact reads_map (hright hrest.toFollows (repeats_suffix_stop hrest))
  have hlinks : Repeats (link expr) (' ' :: (op.token.toList ++ ' ' :: (right.chars ++ rest)))
      [(row right []).map fun o => (op, o)] rest := by
    refine .more ?_ ?_ (repeats_link_stop hrest)
    · rw [dropBlank_space, hblank]
      exact hlink
    · have := length_dropBlank_le false rest
      rw [dropBlank_space, hblank, List.length_append, List.length_cons, List.length_append]
      omega
  have hread := reads_level_parts (hleft hfollows hstop) hlinks
  obtain ⟨hleftMap, hleftRow⟩ := row_spec left
  obtain ⟨hrightMap, hrightRow⟩ := row_spec right
  have hvalue : ((row left []).bind fun o =>
      (([(row right []).map fun o => (op, o)].mapM id).map fun links => Phrase.tree ⟨o, links⟩))
      = reread (.binary op left right) := by
    rw [reread, ← hleftMap, ← hrightMap]
    cases hl : row left [] with
    | error _ => rfl
    | ok l =>
        cases hr : row right [] with
        | error _ => rfl
        | ok r =>
            exact congrArg Except.ok ((hleftRow hl).tight.tree_binary (hrightRow hr).tight op)
  rw [hvalue] at hread
  rw [htext]
  exact hread

/-- **A test and what is tested.** -/
theorem reads_test {e : Expr} (he : Rows e) {d : Draft Suffix}
    (hd : ∀ {x}, d = .ok x → x.level = 30) {cs rest : List Char} (hsolid : dropBlank false cs = cs)
    (hhead : cs.head? ≠ some '(') (hread : Takes (suffix expr) cs d rest)
    (hshort : rest.length < cs.length) (hrest : Stops rest) :
    Reads expr (e.chars ++ ' ' :: cs) (e.reread.bind fun e => d.map fun x => x.build e) rest := by
  have hfollows : Follows (' ' :: cs) := follows_blank (by rwa [hsolid])
  have hsuffixes : Repeats (suffix expr) (' ' :: cs) [d] rest := by
    refine .more ?_ ?_ (repeats_suffix_stop hrest)
    · rw [dropBlank_space, hsolid]
      exact hread.reads
    · have := length_dropBlank_le false rest
      rw [dropBlank_space, hsolid]
      omega
  have hparts := reads_level_parts (he hfollows hsuffixes) (repeats_link_stop hrest)
  obtain ⟨hmap, hrow⟩ := row_spec e
  have hvalue : ((row e [d]).bind fun o =>
      ((([] : List (Draft (Operator × Operand))).mapM id).map fun links => Phrase.tree ⟨o, links⟩))
      = e.reread.bind fun e => d.map fun x => x.build e := by
    rw [row_eq, ← hmap]
    cases ho : row e [] with
    | error _ => rfl
    | ok o =>
        cases d with
        | error _ => rfl
        | ok x => exact congrArg Except.ok ((hrow ho).tight.tree_suffix (hd rfl))
  rw [hvalue] at hparts
  exact hparts

/-- The text of a range test without its parentheses. -/
theorem spans_between (negated : Bool) {e low high : Expr} (he : Rows e) (hlow : WellFormed low)
    (hlowSpans : Spans low.chars low.reread) (hhigh : WellFormed high)
    (hhighSpans : Spans high.chars high.reread) :
    Spans (bareChars (.between negated e low high)) (reread (.between negated e low high)) := by
  intro rest hrest
  have htext : bareChars (.between negated e low high) ++ rest
      = e.chars ++ ' ' :: ((betweenWord negated).toList ++ ' ' :: '(' ::
        (low.chars ++ ' ' :: '.' :: '.' :: ' ' :: (high.chars ++ ')' :: rest))) := by
    simp [bareChars]
  have hvalue : reread (.between negated e low high) = e.reread.bind fun e =>
      (low.reread.bind fun low => high.reread.map fun high => Suffix.between negated low high).map
        fun x => x.build e := by
    rw [reread]
    cases e.reread <;> cases low.reread <;> cases high.reread <;> rfl
  have hlevel : ∀ {x}, (low.reread.bind fun low =>
      high.reread.map fun high => Suffix.between negated low high) = .ok x → x.level = 30 := by
    intro x hx
    obtain ⟨l, -, hx⟩ := Except.bind_eq_ok_iff.1 hx
    obtain ⟨h, -, rfl⟩ := Except.map_eq_ok_iff.1 hx
    rfl
  have hread := takes_between negated hlow hlowSpans hhigh hhighSpans rest
  rw [htext, hvalue]
  refine reads_test he hlevel ?_ ?_ hread ?_ hrest
  · cases negated <;> (rw [dropBlank.eq_def]; rfl)
  · cases negated <;> exact fun h => by cases h
  · simp only [List.length_append, List.length_cons]
    omega

/-- The text of a list test without its parentheses. -/
theorem spans_among (negated ignoreCase : Bool) {e : Expr} {candidates : List Expr} (he : Rows e)
    (hne : candidates ≠ []) (hcandidates : ∀ c ∈ candidates, WellFormed c ∧ Spans c.chars c.reread) :
    Spans (bareChars (.among negated ignoreCase e candidates))
      (reread (.among negated ignoreCase e candidates)) := by
  intro rest hrest
  have htext : bareChars (.among negated ignoreCase e candidates) ++ rest
      = e.chars ++ ' ' :: ((amongWord negated ignoreCase).toList ++ ' ' :: '(' ::
        (listChars candidates ++ ')' :: rest)) := by
    simp [bareChars]
  have hvalue : reread (.among negated ignoreCase e candidates) = e.reread.bind fun e =>
      ((rereadAll candidates).map (Suffix.among negated ignoreCase)).map fun x => x.build e := by
    rw [reread]
    cases e.reread <;> cases rereadAll candidates <;> rfl
  have hlevel : ∀ {x}, (rereadAll candidates).map (Suffix.among negated ignoreCase) = .ok x →
      x.level = 30 := by
    intro x hx
    obtain ⟨cs, -, rfl⟩ := Except.map_eq_ok_iff.1 hx
    rfl
  have hread := takes_among hcandidates negated ignoreCase hne rest
  rw [htext, hvalue]
  refine reads_test he hlevel ?_ ?_ hread ?_ hrest
  · cases negated <;> cases ignoreCase <;> (rw [dropBlank.eq_def]; rfl)
  · cases negated <;> cases ignoreCase <;> exact fun h => by cases h
  · simp only [List.length_append, List.length_cons]
    omega

/-! ### Every expression -/

theorem rows_const (v : Value) : Rows (.const v) :=
  .of_head (fun _ => rfl) (solid_literalChars v) (fun _ => refuses_sign_literal v _) fun hrest =>
    takes_orElse_right (refuses_bind (refuses_paren (head_literal v _)))
      (takes_orElse_left (takes_literal expr v hrest))

theorem rows_property (name : String) : Rows (.property name) := by
  refine .of_head (fun _ => rfl) (solid_nameChars name) (fun {rest} hrest => ?_)
    fun {rest} hrest => ?_
  · rw [chars, nameChars]
    split
    · next hplain =>
        obtain ⟨hname, hreserved⟩ := Token.isName_of_isPlainName hplain
        refine Token.refuses_sign_name hname ?_ hrest
        rintro rfl
        exact absurd hreserved (by decide)
    · exact Token.refuses_sign (by decide) (by decide) _
  · have hcolumn := takes_columnName name hrest.wordEnd
    rw [chars]
    by_cases hplain : isPlainName name = true
    · obtain ⟨hname, hreserved⟩ := Token.isName_of_isPlainName hplain
      have hwords : ∀ w ∈ ["true", "false"], w ∈ reserved := by decide
      have hliteral := refuses_literal_name expr hname (fun h => hreserved (hwords name h))
        hrest.wordEnd hrest.noQuote (.inr hrest.head_ne)
      have hcall := refuses_call_name expr hname hrest
      rw [nameChars, if_pos hplain] at hcolumn ⊢
      exact takes_orElse_right (refuses_bind (refuses_paren (head_name hname rest)))
        (takes_orElse_right hliteral (takes_orElse_right (refuses_bind hcall)
          (takes_orElse_left (takes_map hcolumn))))
    · -- A bracket begins neither a constant nor a call.
      rw [nameChars, if_neg hplain] at hcolumn ⊢
      exact takes_orElse_right rfl (takes_orElse_right rfl (takes_orElse_right rfl
        (takes_orElse_left (takes_map hcolumn))))

/-- A name is member access; another text in brackets is an index. -/
theorem Rows.path {base : Expr} (hbase : Rows base) (selector : String) :
    Rows (.path base selector) := by
  by_cases hplain : isPlainName selector = true
  · have hname := (Token.isName_of_isPlainName hplain).1
    have hmember : member selector = .path selector := if_pos hplain
    have hread {mid : List Char} (hmid : Follows mid) :
        Takes (suffix expr) ('.' :: selector.toList ++ mid) (.ok (.path selector)) mid := by
      refine takes_orElse_left (takes_rule (takes_bind (takes_token "." (selector.toList ++ mid))
        (takes_bind (takes_blank _) ?_)))
      rw [solid_name hname]
      exact takes_map (takes_orElse_left (Token.takes_name hname hmid.wordEnd))
    have htext : (Expr.path base selector).chars = base.chars ++ '.' :: selector.toList := by
      rw [chars_path, hmember, suffixChars]
    refine hbase.of_suffix htext (fun more => ?_) (solid_cons (by decide) (by decide) _)
      (Nat.succ_pos _) (follows_path hname) hread
    rw [row, hmember]
  · have hmember : member selector = .index (.const (.string selector)) := if_neg hplain
    refine hbase.of_suffix (d := .ok (member selector)) (chars_path base selector) (fun _ => rfl)
      ?_ ?_ ?_ ?_
    · rw [hmember]
      exact solid_cons (by decide) (by decide) _
    · rw [hmember]
      exact Nat.succ_pos _
    · rw [hmember]
      exact fun _ => follows_bracket _
    · intro mid _
      rw [hmember]
      exact takes_index (.const _) (rows_const (.string selector)).spans mid

/-- **A call**: a word of constants begins a constant, any other name a call. -/
theorem rows_call {name : String} {args : List Expr} (hname : Token.IsName name)
    (hother : name ∉ ["not", "true", "false"])
    (hargs : ∀ e ∈ args, WellFormed e ∧ Spans e.chars e.reread) : Rows (.call name args) := by
  have htext : chars (.call name args) = name.toList ++ ('(' :: (listChars args ++ [')'])) := by
    simp [chars]
  have hwrapped : wrapped name (listChars args)
      = name.toList ++ ('(' :: (listChars args ++ [')'])) := by simp [wrapped]
  have hpasses := passes_listChars fun e he => (hargs e he).1.passes
  have hparen (rest : List Char) : Refuses (parenthesized expr)
      (name.toList ++ ('(' :: (listChars args ++ [')'])) ++ rest) := by
    rw [List.append_assoc]
    exact refuses_bind (refuses_paren (head_name hname _))
  refine .of_head (fun _ => rfl) ?_ (fun {rest} _ => ?_) fun {rest} hrest => ?_
  · rw [htext]
    exact (solid_name hname).append _
  · rw [htext, List.append_assoc]
    exact Token.refuses_sign_name hname (List.ne_of_not_mem_cons hother) rfl
  · have hcall := takes_call hargs hname rest
    rw [htext, reread]
    refine takes_orElse_right (hparen rest) ?_
    split
    · next hword =>
        have hread := takes_wrapped_dynamic expr hpasses rest
        rw [← hword, hwrapped] at hread
        exact takes_orElse_left hread
    · next hdynamic =>
        split
        · next hword =>
            have hread := takes_wrapped_typed expr hword hpasses rest
            rw [hwrapped] at hread
            exact takes_orElse_left hread
        · next hword =>
            have hliteral : Refuses (literal expr)
                (name.toList ++ ('(' :: (listChars args ++ [')'])) ++ rest) := by
              rw [List.append_assoc]
              refine refuses_literal_name expr hname (List.not_mem_of_not_mem_cons hother) rfl rfl
                (.inl ?_)
              exact fun h => (List.mem_cons.1 h).elim hdynamic hword
            refine takes_orElse_right hliteral (takes_orElse_left (takes_map_eq hcall ?_))
            cases rereadAll args <;> rfl

/-- What stands in parentheses is a head. -/
theorem rows_enclosed {e : Expr} (hrow : ∀ more, row e more = parts [] e.reread more)
    (htext : e.chars = '(' :: (e.bareChars ++ [')'])) (hsolid : Solid e.bareChars)
    (hspans : Spans e.bareChars e.reread) : Rows e := by
  refine .of_head hrow ?_ (fun {rest} _ => ?_) fun {rest} _ => ?_
  · rw [htext]
    exact solid_cons (by decide) (by decide) _
  · rw [htext]
    exact Token.refuses_sign (by decide) (by decide) _
  · rw [htext]
    exact takes_orElse_left (takes_parenthesized hsolid hspans rest)

/-- **Texts of expressions are read as what they mean**, as operands and on their own. -/
theorem reads_wellFormed {e : Expr} (h : WellFormed e) : Rows e := by
  induction h with
  | const v => exact rows_const v
  | property name => exact rows_property name
  | path selector _ ih => exact ih.path selector
  | index _ hi _ ih ihi => exact ih.index hi ihi.spans
  | call hname hother hargs ih =>
      exact rows_call hname hother fun e he => ⟨hargs e he, (ih e he).spans⟩
  | not he ih => exact .of_not he ih.spans
  | binary op hleft hright ihl ihr =>
      exact rows_enclosed (fun _ => rfl) (by simp [chars, bareChars])
        (WellFormed.binary op hleft hright).solid_bare (spans_binary op ihl hright.solid ihr)
  | between negated he hlow hhigh ih ihl ihh =>
      exact rows_enclosed (fun _ => rfl) (by simp [chars, bareChars])
        (WellFormed.between negated he hlow hhigh).solid_bare
        (spans_between negated ih hlow ihl.spans hhigh ihh.spans)
  | among negated ignoreCase he hne hcandidates ih ihc =>
      exact rows_enclosed (fun _ => rfl) (by simp [chars, bareChars])
        (WellFormed.among negated ignoreCase he hne hcandidates).solid_bare
        (spans_among negated ignoreCase ih hne fun c hc => ⟨hcandidates c hc, (ihc c hc).spans⟩)

theorem spans_wellFormed {e : Expr} (h : WellFormed e) : Spans e.chars e.reread :=
  (reads_wellFormed h).spans

/-- The text of an expression is taken whole. -/
theorem takes_whole {e : Expr} (he : WellFormed e) : Takes (whole expr) e.chars e.reread [] := by
  have hread := spans_wellFormed he stops_nil
  have hfinish : Takes finish (dropBlank false []) () [] := rfl
  have hsolid := he.solid []
  rw [List.append_nil] at hread hsolid
  refine takes_bind (takes_blank _) ?_
  rw [hsolid]
  exact takes_bind_blank hread (takes_bind hfinish (takes_pure _ []))

end Grammar

/-- **The text of an expression is read as what it means.**  Errors name the whole text. -/
theorem Expr.read_print_eq_reread {e : Expr} (he : e.WellFormed) :
    Expr.read e.print = e.reread.mapError (QueryError.forQuery e.print) := by
  have hread := Grammar.takes_whole he
  rw [Reader.Takes] at hread
  rw [Expr.read, Expr.print, String.toList_ofList]
  simp only [Grammar.settle, hread]

end EventQuery
