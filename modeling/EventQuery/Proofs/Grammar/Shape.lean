/-
**What is read is well formed.**

Not every expression comes out of a text.  The names of calls are names, and not those that begin a
negation or a truth value, for a sign and a constant are tried before a call; an index that is a
text constant has become member access; and a list test has candidates.  Every way of combining
readers passes such facts on, and so does the tree that a row of operands becomes.

Main definitions:

* `Reader.Yields` — every value that a reader takes has a property;
* `Draft.Holds` — whatever a well-formed text means has a property.

Main results:

* `Reader.refuses_behind_many` — greedy repetition stops where nothing more can be taken;
* `Phrase.wellFormed_tree` — the tree of a row of well-formed operands is well formed;
* `Grammar.yields_expr`, `Expr.wellFormed_of_read` — **what is read is well formed**.
-/

import EventQuery.Proofs.Grammar.Depth
import EventQuery.Proofs.Grammar.Operand

set_option relaxedAutoImplicit false
set_option autoImplicit false

namespace EventQuery

namespace Reader

variable {α β : Type} {P : α → Prop} {Q : β → Prop}

/-! ### Properties of what is taken -/

/-- **Every value that the reader takes has the property.** -/
def Yields (P : α → Prop) (p : Reader α) : Prop :=
  ∀ ⦃cs rest : List Char⦄ ⦃a : α⦄, Takes p cs a rest → P a

theorem yields_pure {a : α} (h : P a) : Yields P (pure a) := by
  intro cs rest b hb
  rw [(takes_pure_iff.1 hb).1]
  exact h

theorem yields_bind {p : Reader α} {f : α → Reader β} (hp : Yields P p)
    (hf : ∀ a, P a → Yields Q (f a)) : Yields Q (p >>= f) := by
  intro cs rest b h
  obtain ⟨a, mid, ha, hb⟩ := takes_bind_iff.1 h
  exact hf a (hp ha) hb

/-- Nothing is asked of what comes first. -/
theorem yields_behind {p : Reader α} {f : α → Reader β} (hf : ∀ a, Yields Q (f a)) :
    Yields Q (p >>= f) := by
  intro cs rest b h
  obtain ⟨a, mid, -, hb⟩ := takes_bind_iff.1 h
  exact hf a hb

/-- A reader about which something is known where no blank stands in front. -/
theorem yields_behind_blank {p : Reader α} {f : α → Reader β}
    (hp : Yields P (blank >>= fun _ => p)) (hf : ∀ a, P a → Yields Q (f a)) :
    Yields Q (blank >>= fun _ => p >>= f) := by
  intro cs rest b h
  obtain ⟨u, mid, hblank, h⟩ := takes_bind_iff.1 h
  obtain ⟨a, left, ha, hb⟩ := takes_bind_iff.1 h
  exact hf a (hp (takes_bind hblank ha)) hb

theorem yields_rule {p : Reader α} (h : Yields P p) : Yields P (rule p) :=
  fun _ _ _ htakes => h (takes_rule_iff.1 htakes)

theorem yields_firstOf {ps : List (Reader α)} (h : ∀ p ∈ ps, Yields P p) :
    Yields P (firstOf ps) := by
  intro cs rest a htakes
  obtain ⟨p, hp, htakes⟩ := exists_of_takes_firstOf htakes
  exact h p hp htakes

theorem yields_manyAfterBlank {p : Reader α} (h : Yields P (blank >>= fun _ => p)) (fuel : Nat) :
    Yields (fun as => ∀ a ∈ as, P a) (manyAfterBlank p fuel) := by
  induction fuel with
  | zero =>
      intro cs rest as htakes
      cases htakes
      exact List.forall_mem_nil _
  | succ fuel ih =>
      intro cs rest as htakes
      rcases takes_manyAfterBlank_succ htakes with ⟨-, rfl, -⟩ | ⟨a, mid, more, ha, hmore, rfl⟩
      · exact List.forall_mem_nil _
      · exact List.forall_mem_cons.2 ⟨h (takes_bind (takes_blank cs) ha), ih hmore⟩

theorem yields_blank_many {p : Reader α} (h : Yields P (blank >>= fun _ => p)) :
    Yields (fun as => ∀ a ∈ as, P a) (blank >>= fun _ => many p) := by
  intro cs rest as htakes
  obtain ⟨u, front, hblank, hmany⟩ := takes_bind_iff.1 htakes
  rcases takes_many_cases hmany with ⟨-, rfl, -⟩ | ⟨a, mid, more, ha, hmore, rfl⟩
  · exact List.forall_mem_nil _
  · exact List.forall_mem_cons.2
      ⟨h (takes_bind hblank ha), yields_manyAfterBlank h _ hmore⟩

theorem Yields.blank {p : Reader α} (h : Yields P p) : Yields P (blank >>= fun _ => p) :=
  yields_behind fun _ => h

theorem yields_optional {p : Reader α} (h : Yields P p) :
    Yields (fun o => ∀ a ∈ o, P a) (optional p) := by
  intro cs rest o htakes
  rcases takes_optional_iff.1 htakes with ⟨a, rfl, ha⟩ | ⟨rfl, -, -⟩
  · rintro b ⟨⟩
    exact h ha
  · rintro b ⟨⟩

/-- A list has an item at least. -/
theorem yields_commaSeparated {p : Reader α} (h : Yields P (blank >>= fun _ => p)) :
    Yields (fun as => as ≠ [] ∧ ∀ a ∈ as, P a) (blank >>= fun _ => commaSeparated p) := by
  have hmore : Yields (fun as => ∀ a ∈ as, P a)
      (blank >>= fun _ => many (token "," >>= fun _ => blank >>= fun _ => p)) :=
    yields_blank_many (yields_behind fun _ => yields_behind fun _ => h)
  exact yields_behind_blank h fun a ha => yields_behind_blank hmore fun as has =>
    yields_pure ⟨List.cons_ne_nil a as, List.forall_mem_cons.2 ⟨ha, has⟩⟩

/-! ### Behind a repetition -/

theorem refuses_orElse_iff {p q : Reader α} {cs : List Char} :
    Refuses (orElse p q) cs ↔ Refuses p cs ∧ Refuses q cs := by
  constructor
  · intro h
    simp only [Refuses, orElse] at h
    split at h
    · cases h
    · next hp => exact ⟨hp, h⟩
  · rintro ⟨hp, hq⟩
    exact refuses_orElse hp hq

section Many

variable {p : Reader α} (hless : ∀ {cs rest a}, Takes p cs a rest → rest.length < cs.length)
include hless

theorem refuses_behind_manyAfterBlank (fuel : Nat) {cs rest : List Char} {as : List α}
    (hfuel : cs.length ≤ fuel) (h : Takes (manyAfterBlank p fuel) cs as rest) :
    Refuses p (dropBlank false rest) := by
  induction fuel generalizing cs as with
  | zero =>
      -- Nothing is left, and a value would take a character.
      have hnil : cs = [] := List.length_eq_zero_iff.1 (Nat.le_zero.1 hfuel)
      cases h
      rw [hnil]
      cases hp : (p []).result with
      | none => exact hp
      | some taken => exact absurd (hless hp) (Nat.not_lt_zero _)
  | succ fuel ih =>
      rcases takes_manyAfterBlank_succ h with ⟨hp, -, rfl⟩ | ⟨a, mid, more, ha, hmore, -⟩
      · exact hp
      · have hmid := hless ha
        have hblank := length_dropBlank_le false cs
        exact ih (by omega) hmore

/-- **Greedy repetition stops where nothing more can be taken.** -/
theorem refuses_behind_many {cs rest : List Char} {as : List α} (hsolid : dropBlank false cs = cs)
    (h : Takes (many p) cs as rest) : Refuses p (dropBlank false rest) := by
  rcases takes_many_cases h with ⟨hp, -, rfl⟩ | ⟨a, mid, more, ha, hmore, -⟩
  · rwa [hsolid]
  · exact refuses_behind_manyAfterBlank hless _ (Nat.le_of_lt (hless ha)) hmore

end Many

end Reader

namespace Draft

variable {α β : Type} {P : α → Prop} {Q : β → Prop}

/-- **Whatever the text means has the property**; a text that is in error has it too. -/
def Holds (P : α → Prop) (d : Draft α) : Prop := ∀ ⦃a⦄, d = .ok a → P a

theorem holds_ok {a : α} (h : P a) : Holds P (.ok a) := by
  rintro b ⟨⟩
  exact h

theorem holds_error (e : QueryError) : Holds P (.error e) := by
  rintro a ⟨⟩

theorem Holds.bind {d : Draft α} {f : α → Draft β} (h : Holds P d)
    (hf : ∀ a, P a → Holds Q (f a)) : Holds Q (d >>= f) := by
  cases d with
  | error e => exact holds_error e
  | ok a => exact hf a (h rfl)

theorem Holds.map {d : Draft α} {f : α → β} (h : Holds P d) (hf : ∀ a, P a → Q (f a)) :
    Holds Q (d.map f) := by
  cases d with
  | error e => exact holds_error e
  | ok a => exact holds_ok (hf a (h rfl))

theorem holds_mapM {γ : Type} {f : γ → Draft α} {xs : List γ} (h : ∀ x ∈ xs, Holds P (f x)) :
    Holds (fun as => as.length = xs.length ∧ ∀ a ∈ as, P a) (xs.mapM f) := by
  induction xs with
  | nil => exact holds_ok ⟨rfl, List.forall_mem_nil _⟩
  | cons x xs ih =>
      rw [List.mapM_cons]
      refine (h x (List.mem_cons_self ..)).bind fun a ha => ?_
      refine (ih fun y hy => h y (List.mem_cons_of_mem x hy)).bind fun as has => ?_
      exact holds_ok ⟨by rw [List.length_cons, has.1, List.length_cons],
        List.forall_mem_cons.2 ⟨ha, has.2⟩⟩

end Draft

/-! ### Trees -/

/-- **The suffix makes well-formed expressions out of well-formed ones.** -/
def Suffix.WellFormed (x : Suffix) : Prop := ∀ ⦃e : Expr⦄, e.WellFormed → (x.build e).WellFormed

/-- The parts of the operand are well formed. -/
structure Operand.WellFormed (o : Operand) : Prop where
  head : o.head.WellFormed
  suffixes : ∀ x ∈ o.suffixes, x.WellFormed

theorem Suffix.wellFormed_index {i : Expr} (hi : i.WellFormed) : (Suffix.index i).WellFormed := by
  intro e he
  cases htext : i.isText with
  | false =>
      rw [Expr.index_build htext]
      exact .index he hi htext
  | true =>
      unfold Expr.isText at htext
      split at htext
      · exact .path _ he
      · cases htext

namespace Phrase

/-- What waits for its right side is well formed, and so is the expression read last. -/
structure State.WellFormed (s : State) : Prop where
  waiting : ∀ p ∈ s.waiting, ∀ ⦃e : Expr⦄, e.WellFormed → (p.close e).WellFormed
  current : s.current.WellFormed

theorem wellFormed_sign (s : Sign) {e : Expr} (he : e.WellFormed) : (s.build e).WellFormed := by
  cases s with
  | not => exact .not he
  | minus => exact .binary _ (.const _) he

theorem wellFormed_closeDownTo (level : Nat) {waiting : List Pending} {e : Expr}
    (h : State.WellFormed ⟨waiting, e⟩) : (closeDownTo level waiting e).WellFormed := by
  induction waiting generalizing e with
  | nil => exact h
  | cons p waiting ih =>
      rw [closeDownTo]
      split
      · exact ih ⟨fun q hq => h.waiting q (List.mem_cons_of_mem p hq),
          h.waiting p (List.mem_cons_self ..) h.current⟩
      · exact h

theorem State.WellFormed.suffix {s : State} (h : s.WellFormed) {x : Suffix} (hx : x.WellFormed) :
    (s.suffix x).WellFormed := by
  have hclosed := wellFormed_closeDownTo x.level h
  exact ⟨hclosed.waiting, hx hclosed.current⟩

theorem wellFormed_operand {waiting : List Pending}
    (hwaiting : ∀ p ∈ waiting, ∀ ⦃e : Expr⦄, e.WellFormed → (p.close e).WellFormed) {o : Operand}
    (ho : o.WellFormed) : (operand waiting o).WellFormed := by
  obtain ⟨hhead, hsuffixes⟩ := ho
  have hstart : State.WellFormed ⟨(o.signs.map Pending.sign).reverse ++ waiting, o.head⟩ := by
    refine ⟨fun p hp => ?_, hhead⟩
    rcases List.mem_append.1 hp with hp | hp
    · obtain ⟨s, -, rfl⟩ := List.mem_map.1 (List.mem_reverse.1 hp)
      exact fun e he => wellFormed_sign s he
    · exact hwaiting p hp
  exact List.foldlRecOn o.suffixes State.suffix hstart fun s hs x hx => hs.suffix (hsuffixes x hx)

theorem State.WellFormed.infixed {s : State} (h : s.WellFormed) {link : Operator × Operand}
    (hlink : link.2.WellFormed) : (s.infixed link).WellFormed := by
  have hclosed := wellFormed_closeDownTo link.1.level h
  refine wellFormed_operand (List.forall_mem_cons.2 ⟨fun e he => ?_, hclosed.waiting⟩) hlink
  exact .binary link.1 hclosed.current he

/-- **The tree of a row of well-formed operands is well formed.** -/
theorem wellFormed_tree {first : Operand} {links : List (Operator × Operand)}
    (hfirst : first.WellFormed) (hlinks : ∀ link ∈ links, link.2.WellFormed) :
    (tree ⟨first, links⟩).WellFormed := by
  have hstart : (operand [] first).WellFormed :=
    wellFormed_operand (List.forall_mem_nil _) hfirst
  have hend : (links.foldl State.infixed (operand [] first)).WellFormed :=
    List.foldlRecOn links State.infixed hstart fun s hs link hlink => hs.infixed (hlinks link hlink)
  exact (wellFormed_closeDownTo 0 hend).current

end Phrase

namespace Token

open Reader

/-! ### Names and words -/

theorem scanName_eq_some {cs rest : List Char} {name : String}
    (h : scanName cs = some (name, rest)) :
    cs = name.toList ++ rest ∧ IsName name ∧ atWordEnd rest = true := by
  unfold scanName at h
  split at h
  · cases h
  · next c cs =>
      split at h
      · next hstart =>
          cases h
          refine ⟨?_, ⟨c, _, String.toList_ofList, hstart, List.all_takeWhile⟩, ?_⟩
          · rw [String.toList_ofList, List.cons_append, List.takeWhile_append_dropWhile]
          · cases hdrop : cs.dropWhile Expr.isNameChar with
            | nil => rfl
            | cons d ds =>
                have hd := List.head_dropWhile_not Expr.isNameChar (l := cs) (by rw [hdrop]; simp)
                simp only [hdrop, List.head_cons] at hd
                rw [atWordEnd, hd]
                rfl
      · cases h

theorem firstWord_eq_some {words : List String} {cs rest : List Char} {w : String}
    (h : firstWord words cs = some (w, rest)) : w ∈ words ∧ cs = w.toList ++ rest := by
  obtain ⟨v, hv, hdrop⟩ := List.exists_of_findSome?_eq_some h
  obtain ⟨left, hleft, he⟩ := Option.map_eq_some_iff.1 hdrop
  cases he
  exact ⟨hv, Text.dropPattern?_eq_some_iff.1 hleft⟩

theorem yields_word (words : List String) : Yields (· ∈ words) (word words) := by
  intro cs rest w h
  obtain ⟨hfirst, -⟩ := Option.filter_eq_some_iff.1 (takes_scan_iff.1 h)
  exact (firstWord_eq_some hfirst).1

/-- A sign takes a character at least. -/
theorem length_lt_of_takes_sign {cs rest : List Char} {s : Sign} (h : Takes sign cs s rest) :
    rest.length < cs.length := by
  rcases takes_orElse_iff.1 h with h | ⟨-, h⟩
  · obtain ⟨⟨w, left⟩, hclosed, he⟩ := Option.map_eq_some_iff.1 (takes_scan_iff.1 h)
    cases he
    obtain ⟨hfirst, -⟩ := Option.filter_eq_some_iff.1 hclosed
    obtain ⟨hw, htext⟩ := firstWord_eq_some hfirst
    rw [htext, List.mem_singleton.1 hw, List.length_append]
    exact Nat.lt_add_of_pos_left (by decide)
  · have hscan := takes_scan_iff.1 h
    split at hscan
    · split at hscan
      · cases hscan
      · cases hscan
        exact Nat.lt_succ_self _
    · cases hscan

end Token

namespace Grammar

open Reader EventQuery.Expr Draft

/-! ### Operands -/

/-- A word of constants may be the name of a call. -/
theorem isName_of_typedWord {word : String} (h : word ∈ typedWords.map Prod.fst) :
    Token.IsName word ∧ word ∉ ["not", "true", "false"] := by
  have hall : ∀ w ∈ typedWords.map Prod.fst,
      Token.IsName w ∧ w ∉ ["not", "true", "false"] := by decide
  exact hall word h

theorem wellFormed_of_isConst {e : Expr} (h : e.isConst = true) : e.WellFormed := by
  cases e <;> first | exact .const _ | cases h

section Level

variable {inner : Reader (Draft Expr)}
  (h : Yields (Holds WellFormed) (blank >>= fun _ => inner))
include h

theorem yields_parenthesized : Yields (Holds WellFormed) (parenthesized inner) :=
  yields_behind fun _ => yields_behind_blank h fun _ hd =>
    yields_behind fun _ => yields_behind fun _ => yields_pure hd

theorem holds_typedLiteral {word : String} (hword : word ∈ typedWords.map Prod.fst)
    (body : List Char) : Holds WellFormed (typedLiteral inner word body) := by
  intro e he
  have hwhole : Yields (Holds WellFormed) (whole inner) :=
    yields_behind_blank h fun _ hd => yields_behind fun _ => yields_behind fun _ => yields_pure hd
  rcases typedLiteral_eq_ok inner he with hconst | ⟨f, rest, rfl, hf, -⟩
  · exact wellFormed_of_isConst hconst
  · obtain ⟨hname, hother⟩ := isName_of_typedWord hword
    exact .call hname hother (List.forall_mem_singleton.2 (hwhole hf rfl))

theorem yields_literal : Yields (Holds WellFormed) (literal inner) := by
  have hdynamic : Yields (Holds WellFormed) dynamic := by
    refine yields_rule (yields_behind fun _ => yields_behind fun _ => yields_behind fun body =>
      yields_behind fun _ => yields_pure fun e he => ?_)
    exact wellFormed_of_isConst (dynamicLiteral_eq_ok he)
  have htyped : Yields (Holds WellFormed) (typed inner) :=
    yields_rule (yields_bind (Token.yields_word _) fun _ hword => yields_behind fun _ =>
      yields_behind fun body => yields_behind fun _ =>
        yields_pure (holds_typedLiteral h hword body))
  have hconst {α : Type} {p : Reader α} {f : α → Draft Expr}
      (hf : ∀ a e, f a = .ok e → e.isConst = true) :
      Yields (Holds WellFormed) (p >>= fun a => pure (f a)) :=
    yields_behind fun a => yields_pure fun e he => wellFormed_of_isConst (hf a e he)
  refine yields_firstOf ?_
  simp only [List.forall_mem_cons, List.not_mem_nil, false_implies, implies_true, and_true]
  refine ⟨hdynamic, htyped, hconst ?_, hconst ?_, hconst ?_, hconst ?_, hconst ?_, hconst ?_⟩
  · rintro s e ⟨⟩
    rfl
  · rintro s e ⟨⟩
    rfl
  · rintro s e ⟨⟩
    rfl
  · exact fun cs e he => spanLiteral_eq_ok he
  · exact fun cs e he => realLiteral_eq_ok he
  · exact fun cs e he => integerLiteral_eq_ok he

/-- The arguments of a call are well formed, and its name stands in front. -/
theorem holds_of_takes_call {cs rest : List Char} {d : Draft (String × List Expr)}
    (hcall : Takes (call inner) cs d rest) :
    ∃ name left, cs = name.toList ++ left ∧ Token.IsName name ∧ Token.atWordEnd left = true ∧
      Holds (fun c => c.1 = name ∧ ∀ e ∈ c.2, e.WellFormed) d := by
  obtain ⟨name, left, hname, hargs⟩ := takes_bind_iff.1 (takes_rule_iff.1 hcall)
  obtain ⟨htext, hisName, hend⟩ := Token.scanName_eq_some (takes_scan_iff.1 hname)
  refine ⟨name, left, htext, hisName, hend, ?_⟩
  have hlist : Yields (fun o => ∀ ds ∈ o, ∀ d ∈ ds, Holds WellFormed d)
      (blank >>= fun _ => optional (commaSeparated inner)) := by
    intro cs rest o ho
    obtain ⟨u, mid, hblank, ho⟩ := takes_bind_iff.1 ho
    rcases takes_optional_iff.1 ho with ⟨ds, rfl, hds⟩ | ⟨rfl, -, -⟩
    · rintro es ⟨⟩
      exact (yields_commaSeparated h (takes_bind hblank hds)).2
    · rintro es ⟨⟩
  have hyields : Yields (Holds fun c : String × List Expr => c.1 = name ∧ ∀ e ∈ c.2, e.WellFormed)
      (blank >>= fun _ => token "(" >>= fun _ => blank >>= fun _ =>
        optional (commaSeparated inner) >>= fun args => blank >>= fun _ => token ")" >>= fun _ =>
          pure ((args.getD []).mapM id >>= fun args => .ok (name, args))) := by
    refine yields_behind fun _ => yields_behind fun _ => yields_behind_blank hlist fun args hargs =>
      yields_behind fun _ => yields_behind fun _ => yields_pure ?_
    refine Holds.bind (holds_mapM fun d hd => ?_) fun es hes => holds_ok ⟨rfl, hes.2⟩
    cases args with
    | none => exact absurd hd List.not_mem_nil
    | some ds => exact hargs ds rfl d hd
  exact hyields hargs

/-- **A call has a name that is neither a sign nor a truth value**, for these are tried before. -/
theorem holds_of_takes_primary {cs rest : List Char} {d : Draft Expr}
    (hsign : Refuses Token.sign cs) (hprimary : Takes (primary inner) cs d rest) :
    Holds WellFormed d := by
  rcases takes_orElse_iff.1 hprimary with hd | ⟨-, hprimary⟩
  · exact yields_parenthesized h hd
  rcases takes_orElse_iff.1 hprimary with hd | ⟨hliteral, hprimary⟩
  · exact yields_literal h hd
  rcases takes_orElse_iff.1 hprimary with hd | ⟨-, hprimary⟩
  · obtain ⟨c, mid, hcall, hd⟩ := takes_bind_iff.1 hd
    obtain ⟨rfl, -⟩ := takes_pure_iff.1 hd
    obtain ⟨name, left, rfl, hname, hend, hc⟩ := holds_of_takes_call h hcall
    have hclosed (w : String) : Token.closed (some (w, left)) = some (w, left) := by
      simp [Token.closed, hend]
    -- A name like these would have been taken as a sign, or as a constant.
    have hnot : name ≠ "not" := by
      rintro rfl
      have htakes : Takes Token.sign ("not".toList ++ left) .not left :=
        takes_orElse_left (takes_scan (congrArg (Option.map _) (hclosed "not")))
      exact not_takes_of_refuses hsign htakes
    have hbool : name ∉ ["true", "false"] := by
      intro hmem
      simp only [literal, firstOf, refuses_orElse_iff] at hliteral
      obtain ⟨-, -, -, -, hword, -⟩ := hliteral
      have htakes : Takes (Token.word ["true", "false"]) (name.toList ++ left) name left := by
        rcases List.mem_pair.1 hmem with rfl | rfl
        · exact takes_scan (hclosed "true")
        · exact takes_scan (hclosed "false")
      exact not_takes_of_refuses hword (takes_map htakes)
    refine hc.map ?_
    rintro ⟨name', es⟩ ⟨rfl, hes⟩
    exact .call hname (List.not_mem_cons_of_ne_of_not_mem hnot hbool) hes
  rcases takes_orElse_iff.1 hprimary with hd | ⟨-, hprimary⟩
  · obtain ⟨name, mid, -, hd⟩ := takes_bind_iff.1 hd
    obtain ⟨rfl, -⟩ := takes_pure_iff.1 hd
    exact holds_ok (.property name)
  · cases hprimary

/-! ### Suffixes -/

omit h in
/-- What holds of each kind of suffix holds of suffixes. -/
theorem yields_suffix_of {P : Draft Suffix → Prop} (hpath : Yields P pathSuffix)
    (hindex : Yields P (indexSuffix inner))
    (hbetween : ∀ negated, Yields P (betweenSuffix inner negated))
    (hamong : ∀ negated ignoreCase, Yields P (amongSuffix inner negated ignoreCase)) :
    Yields P (suffix inner) := by
  refine yields_firstOf ?_
  simp only [List.forall_mem_cons, List.not_mem_nil, false_implies, implies_true, and_true]
  exact ⟨hpath, hindex, hbetween false, hbetween true, hamong false true, hamong false false,
    hamong true true, hamong true false⟩

theorem yields_suffix : Yields (Holds Suffix.WellFormed) (suffix inner) := by
  have hpath : Yields (Holds Suffix.WellFormed) pathSuffix :=
    yields_rule (yields_behind fun _ => yields_behind fun _ => yields_behind fun selector =>
      yields_pure (holds_ok fun e he => .path selector he))
  have hindex : Yields (Holds Suffix.WellFormed) (indexSuffix inner) :=
    yields_rule (yields_behind fun _ => yields_behind_blank h fun d hd => yields_behind fun _ =>
      yields_behind fun _ => yields_pure (hd.map fun i hi => Suffix.wellFormed_index hi))
  have hbetween (negated : Bool) : Yields (Holds Suffix.WellFormed) (betweenSuffix inner negated) :=
    yields_rule (yields_behind fun _ => yields_behind fun _ => yields_behind fun _ =>
      yields_behind_blank h fun low hlow => yields_behind fun _ => yields_behind fun _ =>
        yields_behind_blank h fun high hhigh => yields_behind fun _ => yields_behind fun _ =>
          yields_pure (hlow.bind fun low hlow => hhigh.map fun high hhigh =>
            fun e he => .between negated he hlow hhigh))
  have hamong (negated ignoreCase : Bool) :
      Yields (Holds Suffix.WellFormed) (amongSuffix inner negated ignoreCase) := by
    refine yields_rule (yields_behind fun _ => yields_behind fun _ => yields_behind fun _ =>
      yields_behind_blank (yields_commaSeparated h) fun ds hds => yields_behind fun _ =>
        yields_behind fun _ => yields_pure ((holds_mapM hds.2).map fun es hes e he => ?_))
    -- As many candidates are meant as are written.
    refine .among negated ignoreCase he ?_ hes.2
    rintro rfl
    exact hds.1 (List.length_eq_zero_iff.1 hes.1.symm)
  exact yields_suffix_of hpath hindex hbetween hamong

/-! ### Expressions -/

theorem yields_operand : Yields (Holds Operand.WellFormed) (blank >>= fun _ => operand inner) := by
  intro cs rest d hoperand
  obtain ⟨u, start, hstart, hoperand⟩ := takes_bind_iff.1 hoperand
  obtain ⟨signs, mid, hsigns, hoperand⟩ := takes_bind_iff.1 hoperand
  obtain ⟨u, front, hfront, hoperand⟩ := takes_bind_iff.1 hoperand
  obtain ⟨head, left, hhead, hoperand⟩ := takes_bind_iff.1 hoperand
  have hsolid : dropBlank false start = start := by
    rw [takes_blank_iff.1 hstart, dropBlank_dropBlank]
  -- The signs are taken as far as they go, so none stands in front of the head.
  have hsign := refuses_behind_many Token.length_lt_of_takes_sign hsolid hsigns
  rw [← takes_blank_iff.1 hfront] at hsign
  have hrest : Yields (Holds Operand.WellFormed) (blank >>= fun _ => many (suffix inner) >>=
      fun suffixes => pure (head >>= fun head => (suffixes.mapM id).map fun suffixes =>
        (⟨signs, head, suffixes⟩ : Operand))) := by
    refine yields_behind_blank (yields_blank_many (yields_suffix h).blank) fun ds hds =>
      yields_pure ?_
    exact (holds_of_takes_primary h hsign hhead).bind fun head hhead =>
      (holds_mapM hds).map fun xs hxs => ⟨hhead, hxs.2⟩
  exact hrest hoperand

theorem yields_level : Yields (Holds WellFormed) (blank >>= fun _ => level inner) := by
  have hlink : Yields (Holds fun link : Operator × Operand => link.2.WellFormed) (link inner) :=
    yields_behind fun op => yields_behind_blank (yields_operand h) fun d hd =>
      yields_pure (hd.map fun o ho => ho)
  have hlevel : Yields (Holds WellFormed) (blank >>= fun _ => operand inner >>= fun first =>
      blank >>= fun _ => many (link inner) >>= fun rest =>
        pure (first >>= fun first => (rest.mapM id).map fun rest => Phrase.tree ⟨first, rest⟩)) :=
    yields_behind_blank (yields_operand h) fun first hfirst =>
      yields_behind_blank (yields_blank_many hlink.blank) fun links hlinks =>
        yields_pure (hfirst.bind fun first hfirst => (holds_mapM hlinks).map fun links hlinks =>
          Phrase.wellFormed_tree hfirst hlinks.2)
  intro cs rest d htakes
  obtain ⟨u, mid, hblank, htakes⟩ := takes_bind_iff.1 htakes
  exact hlevel (takes_bind hblank (takes_rule_iff.1 htakes))

end Level

theorem yields_expression (depth : Nat) :
    Yields (Holds WellFormed) (blank >>= fun _ => expression depth) := by
  induction depth with
  | zero => exact yields_behind fun _ _ _ _ htakes => by cases htakes
  | succ depth ih => exact yields_level ih

/-- **What is read is well formed.** -/
theorem yields_expr : Yields (Holds WellFormed) (blank >>= fun _ => expr) := by
  intro cs rest d htakes
  obtain ⟨u, mid, hblank, htakes⟩ := takes_bind_iff.1 htakes
  rw [Takes, result_expr] at htakes
  exact yields_expression _ (takes_bind hblank htakes)

end Grammar

theorem Expr.read_eq_ok_iff {s : String} {e : Expr} : Expr.read s = .ok e ↔
    ∃ rest, Reader.Takes (Grammar.whole Grammar.expr) s.toList (.ok e) rest := by
  rw [Expr.read, Draft.mapError_eq_ok_iff]
  exact Draft.settle_eq_ok_iff

/-- **Every expression that a text holds is well formed.** -/
theorem Expr.wellFormed_of_read {s : String} {e : Expr} (h : Expr.read s = .ok e) :
    e.WellFormed := by
  have hwhole : Reader.Yields (Draft.Holds Expr.WellFormed) (Grammar.whole Grammar.expr) :=
    Reader.yields_behind_blank Grammar.yields_expr fun _ hd => Reader.yields_behind fun _ =>
      Reader.yields_behind fun _ => Reader.yields_pure hd
  obtain ⟨rest, h⟩ := Expr.read_eq_ok_iff.1 h
  exact hwhole h rfl

end EventQuery
