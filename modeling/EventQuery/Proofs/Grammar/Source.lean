/-
**The text in front of the stages.**

A source is kept as the text that was taken for it, without the blanks at its ends.  A source
without arguments is a row of names joined by points, with blanks and comments between them, and
then perhaps more blanks and comments; in front of a stage such a row is taken whole.

Main definitions:

* `Reader.Skips` — a text of blanks and comments;
* `Reader.commentOpen` — a comment is open at the end of a text;
* `Grammar.Dotted` — names joined by points.

Main results:

* `Reader.exists_skips`, `Reader.Skips.dropBlank` — what is dropped between elements;
* `Reader.Skips.dropEnd` — a comment is what is left when blanks and comments are stripped;
* `Grammar.takes_source` — **names joined by points are taken for the source**;
* `Grammar.dotted_of_takes` — **what is taken without a parenthesis is names joined by points**.
-/

import EventQuery.Proofs.Grammar.Shape
import EventQuery.Proofs.Grammar.Stage

set_option relaxedAutoImplicit false
set_option autoImplicit false

namespace EventQuery

namespace Reader

/-! ### Blanks and comments -/

/-- **A comment is open at the end of the text**, when one is open at its beginning or not. -/
def commentOpen : Bool → List Char → Bool
  | inComment, [] => inComment
  | true, c :: cs => commentOpen (!(c == '\n' || c == '\r')) cs
  | false, '/' :: '/' :: cs => commentOpen true cs
  | false, _ :: cs => commentOpen false cs

/-- **The text is nothing but blanks and comments**, from inside a comment or not to inside a
comment or not. -/
inductive Skips : Bool → List Char → Bool → Prop where
  | nil (inComment : Bool) : Skips inComment [] inComment
  | space {c : Char} {cs : List Char} {o : Bool} : isSpace c = true → Skips false cs o →
      Skips false (c :: cs) o
  | slashes {cs : List Char} {o : Bool} : Skips true cs o → Skips false ('/' :: '/' :: cs) o
  | inside {c : Char} {cs : List Char} {o : Bool} : ¬ (c = '\n' ∨ c = '\r') → Skips true cs o →
      Skips true (c :: cs) o
  | close {c : Char} {cs : List Char} {o : Bool} : c = '\n' ∨ c = '\r' → Skips false cs o →
      Skips true (c :: cs) o

theorem Skips.trans {a b c : Bool} {t u : List Char} (ht : Skips a t b) (hu : Skips b u c) :
    Skips a (t ++ u) c := by
  induction ht with
  | nil => exact hu
  | space hspace _ ih => exact .space hspace (ih hu)
  | slashes _ ih => exact .slashes (ih hu)
  | inside hc _ ih => exact .inside hc (ih hu)
  | close hc _ ih => exact .close hc (ih hu)

theorem ne_slash_of_isSpace {c : Char} (h : isSpace c = true) : c ≠ '/' := by
  rintro rfl
  exact absurd h (by decide)

/-- **Blanks and comments are dropped**, whatever follows. -/
theorem Skips.dropBlank {a b : Bool} {t : List Char} (h : Skips a t b) (rest : List Char) :
    Reader.dropBlank a (t ++ rest) = Reader.dropBlank b rest := by
  induction h with
  | nil => rfl
  | @space c cs o hspace _ ih =>
      rw [List.cons_append, dropBlank.eq_def]
      simp only [Bool.false_eq_true, if_false, hspace, if_true, ih]
  | slashes _ ih =>
      rw [List.cons_append, List.cons_append, dropBlank.eq_def]
      exact ih
  | inside hc _ ih =>
      rw [List.cons_append, dropBlank.eq_def]
      simp only [if_true, if_neg hc, ih]
  | close hc _ ih =>
      rw [List.cons_append, dropBlank.eq_def]
      simp only [if_true, if_pos hc, ih]

theorem commentOpen_cons {c : Char} (h : c ≠ '/') (cs : List Char) :
    commentOpen false (c :: cs) = commentOpen false cs := by
  rw [commentOpen]
  intro rest hc
  exact absurd hc h

theorem commentOpen_inside {c : Char} (h : ¬ (c = '\n' ∨ c = '\r')) (cs : List Char) :
    commentOpen true (c :: cs) = commentOpen true cs := by
  have hc : (!(c == '\n' || c == '\r')) = true := by simpa using h
  rw [commentOpen, hc]

theorem commentOpen_close {c : Char} (h : c = '\n' ∨ c = '\r') (cs : List Char) :
    commentOpen true (c :: cs) = commentOpen false cs := by
  have hc : (!(c == '\n' || c == '\r')) = false := by rcases h with rfl | rfl <;> rfl
  rw [commentOpen, hc]

/-- A text that goes on goes on in the comment that is open. -/
theorem commentOpen_append {a : Bool} {t : List Char} (h : commentOpen a t = true)
    (rest : List Char) : commentOpen a (t ++ rest) = commentOpen true rest := by
  fun_induction commentOpen a t with
  | case1 a =>
      rw [h]
      rfl
  | case2 c cs ih => exact ih h
  | case3 cs ih => exact ih h
  | case4 c cs hcomment ih =>
      have hnext : ∀ more, c = '/' → cs ++ rest = '/' :: more → False := by
        intro more hc hmore
        cases cs with
        | nil => cases h
        | cons d ds =>
            cases hmore
            exact hcomment ds hc rfl
      rw [List.cons_append, commentOpen]
      · exact ih h
      · exact hnext

theorem Skips.commentOpen {a b : Bool} {t : List Char} (h : Skips a t b) (rest : List Char) :
    Reader.commentOpen a (t ++ rest) = Reader.commentOpen b rest := by
  induction h with
  | nil => rfl
  | space hspace _ ih => rw [List.cons_append, commentOpen_cons (ne_slash_of_isSpace hspace), ih]
  | slashes _ ih => exact ih
  | inside hc _ ih => rw [List.cons_append, commentOpen_inside hc, ih]
  | close hc _ ih => rw [List.cons_append, commentOpen_close hc, ih]

/-- **What is dropped is blanks and comments**; only the end of the text leaves a comment open. -/
theorem exists_skips (a : Bool) (cs : List Char) : ∃ t b, cs = t ++ Reader.dropBlank a cs ∧
    Skips a t b ∧ (b = true → Reader.dropBlank a cs = []) := by
  fun_induction Reader.dropBlank a cs with
  | case1 a => exact ⟨[], a, rfl, .nil a, fun _ => rfl⟩
  | case2 c cs hend ih =>
      obtain ⟨t, b, htext, hskips, hopen⟩ := ih
      exact ⟨c :: t, b, congrArg (c :: ·) htext, .close hend hskips, hopen⟩
  | case3 c cs hend ih =>
      obtain ⟨t, b, htext, hskips, hopen⟩ := ih
      exact ⟨c :: t, b, congrArg (c :: ·) htext, .inside hend hskips, hopen⟩
  | case4 a c cs hin hspace ih =>
      obtain ⟨t, b, htext, hskips, hopen⟩ := ih
      rw [Bool.eq_false_iff.2 hin]
      exact ⟨c :: t, b, congrArg (c :: ·) htext, .space hspace hskips, hopen⟩
  | case5 a hin rest hspace ih =>
      obtain ⟨t, b, htext, hskips, hopen⟩ := ih
      rw [Bool.eq_false_iff.2 hin]
      exact ⟨'/' :: '/' :: t, b, congrArg ('/' :: '/' :: ·) htext, .slashes hskips, hopen⟩
  | case6 a c cs hin hspace hcomment =>
      rw [Bool.eq_false_iff.2 hin]
      exact ⟨[], false, rfl, .nil false, fun h => by cases h⟩

/-- Blanks in front of something are closed. -/
theorem exists_skips_closed (cs : List Char) (h : Reader.dropBlank false cs ≠ []) :
    ∃ t, cs = t ++ Reader.dropBlank false cs ∧ Skips false t false := by
  obtain ⟨t, b, htext, hskips, hopen⟩ := exists_skips false cs
  cases b with
  | false => exact ⟨t, htext, hskips⟩
  | true => exact absurd (hopen rfl) h

theorem isBlank_of_isSpace {c : Char} (h : isSpace c = true) : Text.isBlank c = true := by
  simp only [isSpace, Bool.or_eq_true, beq_iff_eq] at h
  rcases h with ((rfl | rfl) | rfl) | rfl <;> decide

/-- **What stripping leaves of blanks and comments ends in a comment**, for outside comments there
are only blanks, and the end of a line is one. -/
theorem Skips.dropEnd {a b : Bool} {t : List Char} (h : Skips a t b) :
    ∃ o, Skips a (Text.dropEndWhile Text.isBlank t) o ∧
      (Text.dropEndWhile Text.isBlank t = [] ∨ o = true) := by
  induction h with
  | nil a => exact ⟨a, .nil a, .inl rfl⟩
  | @space c cs _ hspace _ ih =>
      obtain ⟨o, hskips, hopen⟩ := ih
      rw [Text.dropEndWhile_cons, if_pos (isBlank_of_isSpace hspace)]
      split
      · exact ⟨false, .nil false, .inl rfl⟩
      · next hne => exact ⟨o, .space hspace hskips, .inr (hopen.resolve_left hne)⟩
  | @slashes cs _ _ ih =>
      obtain ⟨o, hskips, hopen⟩ := ih
      have hslash : Text.isBlank '/' = false := by decide
      have htext : Text.dropEndWhile Text.isBlank ('/' :: '/' :: cs)
          = '/' :: '/' :: Text.dropEndWhile Text.isBlank cs := by
        rw [Text.dropEndWhile_cons, Text.dropEndWhile_cons, hslash]
        split <;> simp_all
      rw [htext]
      refine ⟨o, .slashes hskips, .inr ?_⟩
      rcases hopen with hnil | hopen
      · rw [hnil] at hskips
        cases hskips
        rfl
      · exact hopen
  | @inside c cs _ hc _ ih =>
      obtain ⟨o, hskips, hopen⟩ := ih
      rw [Text.dropEndWhile_cons]
      split
      · split
        · exact ⟨true, .nil true, .inl rfl⟩
        · exact ⟨true, .inside hc (.nil true), .inr rfl⟩
      · next hne => exact ⟨o, .inside hc hskips, .inr (hopen.resolve_left hne)⟩
  | @close c cs _ hc _ ih =>
      obtain ⟨o, hskips, hopen⟩ := ih
      have hblank : Text.isBlank c = true := by rcases hc with rfl | rfl <;> decide
      rw [Text.dropEndWhile_cons, if_pos hblank]
      split
      · exact ⟨true, .nil true, .inl rfl⟩
      · next hne => exact ⟨o, .close hc hskips, .inr (hopen.resolve_left hne)⟩

/-- No name goes on in blanks. -/
theorem Skips.atWordEnd {a : Bool} {t : List Char} (h : Skips false t a) {rest : List Char}
    (hrest : Token.atWordEnd rest = true) : Token.atWordEnd (t ++ rest) = true := by
  cases h with
  | nil => exact hrest
  | @space c cs _ hspace _ =>
      rw [List.cons_append, Token.atWordEnd]
      cases hname : Expr.isNameChar c with
      | false => rfl
      | true =>
          rw [Token.isSpace_of_isNameChar hname] at hspace
          cases hspace
  | slashes _ => rfl

/-! ### Repetition -/

section Many

variable {α : Type} {p : Reader α}

theorem takes_manyAfterBlank_nil (fuel : Nat) {cs : List Char}
    (h : Refuses p (Reader.dropBlank false cs)) : Takes (manyAfterBlank p fuel) cs [] cs := by
  cases fuel with
  | zero => exact takes_pure [] cs
  | succ fuel =>
      rw [Refuses] at h
      simp only [Takes, manyAfterBlank, h]

theorem takes_manyAfterBlank_cons {fuel : Nat} {cs mid rest : List Char} {a : α} {as : List α}
    (ha : Takes p (Reader.dropBlank false cs) a mid) (h : Takes (manyAfterBlank p fuel) mid as rest) :
    Takes (manyAfterBlank p (fuel + 1)) cs (a :: as) rest := by
  rw [Takes] at ha h
  simp only [Takes, manyAfterBlank, ha, h, Option.map_some]

/-- Where no blank stands in front the first value is as any other. -/
theorem takes_many_iff {cs rest : List Char} {as : List α} (hsolid : Reader.dropBlank false cs = cs) :
    Takes (many p) cs as rest ↔ Takes (manyAfterBlank p (cs.length + 1)) cs as rest := by
  simp only [Takes, many, manyAfterBlank, hsolid]

end Many

end Reader

namespace Grammar

open Reader

/-! ### Names joined by points -/

/-- **Points and names behind a name**, with blanks and comments between them. -/
inductive Joined : List Char → Prop where
  | nil : Joined []
  | more {gap gap' t : List Char} {name : String} : Skips false gap false →
      Skips false gap' false → Token.IsName name → Joined t →
      Joined (gap ++ '.' :: (gap' ++ (name.toList ++ t)))

/-- **Names joined by points.** -/
def Dotted (t : List Char) : Prop :=
  ∃ (name : String) (more : List Char), Token.IsName name ∧ Joined more ∧ t = name.toList ++ more

theorem dotted_name {name : String} (h : Token.IsName name) : Dotted name.toList :=
  ⟨name, [], h, .nil, (List.append_nil _).symm⟩

/-- Names joined by points begin and end with a character of a name. -/
theorem Dotted.neat {t : List Char} (h : Dotted t) : Text.Neat t := by
  obtain ⟨name, more, hname, hmore, rfl⟩ := h
  -- The text up to the last name so far is neat; the induction is on what is joined to it.
  have hfirst := Token.neat_name hname
  generalize name.toList = front at hfirst
  induction hmore generalizing front with
  | nil => rwa [List.append_nil]
  | @more gap gap' t name _ _ hname _ ih =>
      have htext : front ++ (gap ++ '.' :: (gap' ++ (name.toList ++ t)))
          = front ++ (gap ++ '.' :: gap') ++ name.toList ++ t := by simp
      rw [htext]
      exact ih _ (hfirst.append _ (Token.neat_name hname))

/-- No comment is open behind a name. -/
theorem commentOpen_name {name : String} (h : Token.IsName name) (rest : List Char) :
    commentOpen false (name.toList ++ rest) = commentOpen false rest := by
  have hslash : ∀ c ∈ name.toList, c ≠ '/' := by
    obtain ⟨c, cs, hchars, hstart, hcs⟩ := h
    rw [hchars]
    refine List.forall_mem_cons.2 ⟨(Token.of_isNameStart hstart).2.1, fun d hd => ?_⟩
    exact Token.ne_of_eq_false (by decide) (List.all_eq_true.1 hcs d hd)
  generalize name.toList = cs at hslash
  induction cs with
  | nil => rfl
  | cons c cs ih =>
      rw [List.cons_append, commentOpen_cons (hslash c (List.mem_cons_self ..)),
        ih fun d hd => hslash d (List.mem_cons_of_mem c hd)]

theorem Dotted.commentOpen {t : List Char} (h : Dotted t) (rest : List Char) :
    commentOpen false (t ++ rest) = commentOpen false rest := by
  obtain ⟨name, more, hname, hmore, rfl⟩ := h
  rw [List.append_assoc, commentOpen_name hname]
  induction hmore with
  | nil => rfl
  | more hgap hgap' hname _ ih =>
      rw [List.append_assoc, hgap.commentOpen, List.cons_append, commentOpen_cons (by decide),
        List.append_assoc, hgap'.commentOpen, List.append_assoc, commentOpen_name hname, ih]

/-- Behind names a comment is open if the blanks behind them leave one open. -/
theorem Dotted.commentOpen_append {t : List Char} (h : Dotted t) {back : List Char} {o : Bool}
    (hback : Skips false back o) : Reader.commentOpen false (t ++ back) = o := by
  have hopen := hback.commentOpen []
  rw [List.append_nil, Reader.commentOpen] at hopen
  rw [h.commentOpen, hopen]

/-! ### What is taken -/

/-- One more part of a source. -/
abbrev dottedPart : Reader Unit := token "." >>= fun _ => blank >>= fun _ => sourcePart

/-- The parts of a source. -/
abbrev sourceParts : Reader Unit :=
  rule (sourcePart >>= fun _ => blank >>= fun _ => many dottedPart >>= fun _ => pure ())

/-- A name without arguments. -/
theorem takes_sourcePart {name : String} (hname : Token.IsName name) {rest : List Char}
    (hend : Token.atWordEnd rest = true) (hparen : (dropBlank false rest).head? ≠ some '(') :
    Takes sourcePart (name.toList ++ rest) () (dropBlank false rest) :=
  takes_rule (takes_bind (Token.takes_name hname hend) (takes_bind (takes_blank _)
    (takes_bind (takes_optional_none (refuses_bind (refuses_paren hparen))) (takes_pure () _))))

section Forward

variable {rest : List Char} (hend : Token.atWordEnd rest = true)
  (hparen : (dropBlank false rest).head? ≠ some '(')
  (hpoint : (dropBlank false rest).head? ≠ some '.')

include hend in
theorem Joined.atWordEnd {t : List Char} (h : Joined t) : Token.atWordEnd (t ++ rest) = true := by
  cases h with
  | nil => exact hend
  | more hgap _ _ _ =>
      rw [List.append_assoc]
      exact hgap.atWordEnd rfl

include hparen in
theorem Joined.head_ne {t : List Char} (h : Joined t) :
    (dropBlank false (t ++ rest)).head? ≠ some '(' := by
  cases h with
  | nil => exact hparen
  | more hgap _ _ _ =>
      rw [List.append_assoc, hgap.dropBlank, List.cons_append,
        dropBlank_cons (by decide) (by decide)]
      exact fun h => by cases h

include hend hparen hpoint

theorem takes_joined {t : List Char} (h : Joined t) {fuel : Nat}
    (hfuel : (dropBlank false (t ++ rest)).length ≤ fuel) :
    ∃ us, Takes (manyAfterBlank dottedPart fuel) (dropBlank false (t ++ rest)) us
      (dropBlank false rest) := by
  induction h generalizing fuel with
  | nil =>
      refine ⟨[], takes_manyAfterBlank_nil fuel ?_⟩
      rw [List.nil_append, dropBlank_dropBlank]
      refine refuses_bind (refuses_token ?_)
      cases h : dropBlank false rest with
      | nil => rfl
      | cons c cs =>
          rw [h, List.head?_cons, ne_eq, Option.some.injEq] at hpoint
          exact if_neg (Ne.symm hpoint)
  | @more gap gap' t name hgap hgap' hname ht ih =>
      have htext : dropBlank false (gap ++ '.' :: (gap' ++ (name.toList ++ t)) ++ rest)
          = ".".toList ++ (gap' ++ (name.toList ++ (t ++ rest))) := by
        rw [List.append_assoc, hgap.dropBlank, List.cons_append,
          dropBlank_cons (by decide) (by decide), List.append_assoc, List.append_assoc]
        rfl
      -- The bound counts characters, and the point is one.
      have hpoints : ".".toList.length = 1 := by decide
      have hblank := length_dropBlank_le false (t ++ rest)
      rw [htext, List.length_append, List.length_append, List.length_append] at hfuel
      obtain ⟨fuel, rfl⟩ : ∃ n, fuel = n + 1 := ⟨fuel - 1, by omega⟩
      obtain ⟨us, hmore⟩ : ∃ us, Takes (manyAfterBlank dottedPart fuel)
          (dropBlank false (t ++ rest)) us (dropBlank false rest) := ih (by omega)
      refine ⟨() :: us, takes_manyAfterBlank_cons ?_ hmore⟩
      rw [dropBlank_dropBlank, htext]
      refine takes_bind (takes_token "." _) (takes_bind (takes_blank _) ?_)
      rw [hgap'.dropBlank, Expr.solid_name hname]
      exact takes_sourcePart hname (ht.atWordEnd hend) (ht.head_ne hparen)

/-- **Names joined by points are taken whole**, with the blanks behind them. -/
theorem takes_dotted {t : List Char} (h : Dotted t) :
    Takes sourceParts (t ++ rest) () (dropBlank false rest) := by
  obtain ⟨name, more, hname, hmore, rfl⟩ := h
  have hpart := takes_sourcePart hname (hmore.atWordEnd hend) (hmore.head_ne hparen)
  have hblank := takes_blank (dropBlank false (more ++ rest))
  rw [dropBlank_dropBlank] at hblank
  obtain ⟨us, hparts⟩ := takes_joined hend hparen hpoint hmore (Nat.le_succ _)
  rw [← takes_many_iff (dropBlank_dropBlank false _)] at hparts
  rw [List.append_assoc]
  exact takes_rule (takes_bind hpart (takes_bind hblank (takes_bind hparts (takes_pure () _))))

end Forward

theorem cuts_sourcePart : Cuts sourcePart :=
  cuts_rule (cuts_bind Token.cuts_name fun _ => cuts_bind cuts_blank fun _ =>
    cuts_bind (cuts_optional (cuts_bind (cuts_token "(") fun _ => cuts_bind cuts_blank fun _ =>
      cuts_bind (cuts_optional (alike_commaSeparated (cuts_expr.alike 0)).cuts) fun _ =>
        cuts_bind cuts_blank fun _ => cuts_token ")")) fun _ => cuts_pure ())

theorem cuts_dottedPart : Cuts dottedPart :=
  cuts_bind (cuts_token ".") fun _ => cuts_bind cuts_blank fun _ => cuts_sourcePart

theorem cuts_sourceParts : Cuts sourceParts :=
  cuts_rule (cuts_bind cuts_sourcePart fun _ => cuts_bind cuts_blank fun _ =>
    cuts_bind (cuts_many cuts_dottedPart) fun _ => cuts_pure ())

/-- **A source is the text that was taken**, without the blanks at its ends. -/
theorem takes_source_iff {taken rest : List Char} {src : String} :
    Takes source (taken ++ rest) src rest ↔
      Takes sourceParts (taken ++ rest) () rest ∧ src = String.ofList (Text.strip taken) := by
  have htaken : (taken ++ rest).take ((taken ++ rest).length - rest.length) = taken := by simp
  constructor
  · intro h
    obtain ⟨⟨u, text⟩, mid, hparts, hpure⟩ := takes_bind_iff.1 h
    obtain ⟨rfl, rfl⟩ := takes_pure_iff.1 hpure
    obtain ⟨⟨v, left⟩, hv, he⟩ := Option.map_eq_some_iff.1 hparts
    cases he
    exact ⟨hv, by rw [htaken]⟩
  · rintro ⟨hparts, rfl⟩
    have hsource := takes_map (f := fun r : Unit × List Char => String.ofList (Text.strip r.2))
      (takes_withText hparts)
    rwa [htaken] at hsource

theorem cuts_source : Cuts source := by
  intro cs rest src h
  obtain ⟨⟨u, text⟩, mid, hparts, hpure⟩ := takes_bind_iff.1 h
  obtain ⟨-, rfl⟩ := takes_pure_iff.1 hpure
  obtain ⟨⟨v, left⟩, hv, he⟩ := Option.map_eq_some_iff.1 hparts
  cases he
  exact cuts_sourceParts hv

/-- In front of a stage stands nothing that is kept. -/
theorem StageEnd.exists_gap {rest : List Char} (h : StageEnd rest) :
    ∃ gap, rest = gap ++ dropBlank false rest ∧ Text.dropEndWhile Text.isBlank gap = [] := by
  rcases h with rfl | ⟨cs, rfl⟩
  · exact ⟨[], rfl, rfl⟩
  · refine ⟨[' '], ?_, by decide⟩
    rw [dropBlank_space, dropBlank_cons (by decide) (by decide)]
    rfl

/-- **Names joined by points are taken for the source.** -/
theorem takes_source {t : List Char} (h : Dotted t) {rest : List Char} (hrest : StageEnd rest) :
    Takes source (t ++ rest) (String.ofList t) (dropBlank false rest) := by
  obtain ⟨gap, hgap, hdrop⟩ := hrest.exists_gap
  have hpoint : (dropBlank false rest).head? ≠ some '.' := by
    rcases hrest with rfl | ⟨cs, rfl⟩
    · decide
    · rw [dropBlank_space, dropBlank_cons (by decide) (by decide)]
      exact fun h => by cases h
  have hparts := takes_dotted hrest.stops.wordEnd hrest.stops.noParen hpoint h
  have htext : t ++ rest = (t ++ gap) ++ dropBlank false rest := by rw [List.append_assoc, ← hgap]
  rw [htext] at hparts ⊢
  refine takes_source_iff.2 ⟨hparts, ?_⟩
  rw [h.neat.strip_append, hdrop, List.append_nil]

theorem refuses_source {rest : List Char} (hrest : StageEnd rest) :
    Refuses source (dropBlank false rest) := by
  refine refuses_bind (refuses_withText (refuses_rule (refuses_bind (refuses_rule
    (refuses_bind ?_)))))
  rcases hrest with rfl | ⟨cs, rfl⟩
  · rfl
  · rw [dropBlank_space, dropBlank_cons (by decide) (by decide)]
    rfl

/-! ### What has been taken -/

/-- A part begins with a name; what is left comes behind the blanks, or behind a parenthesis. -/
theorem takes_sourcePart_cases {cs rest : List Char} {u : Unit} (h : Takes sourcePart cs u rest) :
    ∃ (name : String) (mid : List Char), cs = name.toList ++ mid ∧ Token.IsName name ∧
      (rest = dropBlank false mid ∨ ∃ left, dropBlank false mid = '(' :: left ∧ rest <:+ left) := by
  obtain ⟨name, mid, hname, h⟩ := takes_bind_iff.1 (takes_rule_iff.1 h)
  obtain ⟨u, front, hblank, h⟩ := takes_bind_iff.1 h
  obtain ⟨args, left, hargs, h⟩ := takes_bind_iff.1 h
  obtain ⟨-, rfl⟩ := takes_pure_iff.1 h
  obtain ⟨htext, hisName, -⟩ := Token.scanName_eq_some (takes_scan_iff.1 hname)
  refine ⟨name, mid, htext, hisName, ?_⟩
  rw [← takes_blank_iff.1 hblank]
  rcases takes_optional_iff.1 hargs with ⟨v, -, hargs⟩ | ⟨-, rfl, -⟩
  · obtain ⟨v, inside, hparen, hargs⟩ := takes_bind_iff.1 hargs
    refine .inr ⟨inside, takes_token_iff.1 hparen, ?_⟩
    have hcuts : Cuts (blank >>= fun _ => optional (commaSeparated expr) >>= fun _ =>
        blank >>= fun _ => token ")") :=
      cuts_bind cuts_blank fun _ => cuts_bind
        (cuts_optional (alike_commaSeparated (cuts_expr.alike 0)).cuts) fun _ =>
          cuts_bind cuts_blank fun _ => cuts_token ")"
    exact hcuts hargs
  · exact .inl rfl

/-- A source begins with a name. -/
theorem exists_name_of_takes {taken rest : List Char} (h : Takes sourceParts (taken ++ rest) () rest) :
    ∃ (name : String) (more : List Char), taken = name.toList ++ more ∧ Token.IsName name := by
  obtain ⟨u, mid, hpart, h⟩ := takes_bind_iff.1 (takes_rule_iff.1 h)
  have hcuts : Cuts (blank >>= fun _ => many dottedPart >>= fun _ => pure ()) :=
    cuts_bind cuts_blank fun _ => cuts_bind (cuts_many cuts_dottedPart) fun _ => cuts_pure ()
  obtain ⟨name, behind, htext, hname, hmid⟩ := takes_sourcePart_cases hpart
  have hbehind : mid <:+ behind := by
    rcases hmid with rfl | ⟨left, hleft, hmid⟩
    · exact dropBlank_suffix false behind
    · exact (hmid.trans (List.suffix_cons '(' left)).trans (hleft ▸ dropBlank_suffix false behind)
  obtain ⟨more, rfl⟩ := (hcuts h).trans hbehind
  exact ⟨name, more, List.append_cancel_right (htext.trans (List.append_assoc ..).symm), hname⟩

/-- Without a parenthesis a part is a name with blanks behind it. -/
theorem takes_sourcePart_of_noParen {taken rest : List Char} {u : Unit}
    (h : Takes sourcePart (taken ++ rest) u rest) (hparen : '(' ∉ taken) :
    ∃ (name : String) (gap : List Char) (o : Bool), taken = name.toList ++ gap ∧
      Token.IsName name ∧ Skips false gap o ∧ (o = true → rest = []) := by
  obtain ⟨name, mid, htext, hname, hrest⟩ := takes_sourcePart_cases h
  obtain ⟨gap, o, hgap, hskips, hopen⟩ := exists_skips false mid
  rcases hrest with rfl | ⟨left, hleft, before, rfl⟩
  · refine ⟨name, gap, o, ?_, hname, hskips, hopen⟩
    exact List.append_cancel_right (htext.trans (by rw [List.append_assoc, ← hgap]))
  · -- The parenthesis would have been taken.
    refine absurd ?_ hparen
    rw [hgap, hleft] at htext
    have htaken : taken = name.toList ++ gap ++ '(' :: before := by
      refine (List.append_left_inj rest).1 ?_
      rw [htext]
      simp
    rw [htaken]
    simp

/-- A point, a name, and the blanks in front of both. -/
theorem takes_dottedPart_of_noParen {taken rest : List Char} {u : Unit}
    (h : Takes dottedPart (dropBlank false (taken ++ rest)) u rest) (hparen : '(' ∉ taken) :
    ∃ (gap gap' : List Char) (name : String) (back : List Char) (o : Bool),
      taken = gap ++ '.' :: (gap' ++ (name.toList ++ back)) ∧ Skips false gap false ∧
        Skips false gap' false ∧ Token.IsName name ∧ Skips false back o ∧ (o = true → rest = []) := by
  obtain ⟨v, behind, hpoint, h⟩ := takes_bind_iff.1 h
  obtain ⟨v, front, hblank, hpart⟩ := takes_bind_iff.1 h
  have hdrop : dropBlank false (taken ++ rest) = '.' :: behind := takes_token_iff.1 hpoint
  obtain ⟨part, rfl⟩ := cuts_sourcePart hpart
  have hfront : dropBlank false behind = part ++ rest := (takes_blank_iff.1 hblank).symm
  obtain ⟨name, mid, hname, ⟨c, cs, hchars, -⟩, -⟩ := takes_sourcePart_cases hpart
  -- Blanks in front of the point and of the name are closed, for these are not in a comment.
  obtain ⟨gap, hgap, hskips⟩ := exists_skips_closed (taken ++ rest) (by rw [hdrop]; simp)
  obtain ⟨gap', hgap', hskips'⟩ := exists_skips_closed behind
    (by rw [hfront, hname, hchars]; simp)
  rw [hdrop] at hgap
  rw [hfront] at hgap'
  have htaken : taken = gap ++ '.' :: (gap' ++ part) := by
    refine (List.append_left_inj rest).1 ?_
    rw [hgap, hgap']
    simp
  have hpartParen : '(' ∉ part := fun hmem => hparen (by rw [htaken]; simp [hmem])
  obtain ⟨name, back, o, rfl, hisName, hback, hopen⟩ := takes_sourcePart_of_noParen hpart hpartParen
  exact ⟨gap, gap', name, back, o, htaken, hskips, hskips', hisName, hback, hopen⟩

/-- **Without a parenthesis the parts behind a name are joined by points.** -/
theorem joined_of_takes (fuel : Nat) {gap taken rest : List Char} {us : List Unit}
    (hgap : Skips false gap false)
    (h : Takes (manyAfterBlank dottedPart fuel) (taken ++ rest) us rest) (hparen : '(' ∉ taken) :
    ∃ (t back : List Char) (o : Bool), gap ++ taken = t ++ back ∧ Joined t ∧ Skips false back o ∧
      (o = true → rest = []) := by
  have hstop {gap taken : List Char} (hgap : Skips false gap false) (he : rest = taken ++ rest) :
      ∃ (t back : List Char) (o : Bool), gap ++ taken = t ++ back ∧ Joined t ∧
        Skips false back o ∧ (o = true → rest = []) := by
    have hnil : taken = [] := List.append_left_eq_self.1 he.symm
    exact ⟨[], gap, false, by rw [hnil, List.append_nil]; rfl, .nil, hgap, fun h => by cases h⟩
  -- The blanks taken behind a name stand in front of what follows: they are the next `gap`.
  induction fuel generalizing gap taken us with
  | zero => exact hstop hgap (takes_pure_iff.1 h).2
  | succ fuel ih =>
      rcases takes_manyAfterBlank_succ h with ⟨-, -, he⟩ | ⟨u, mid, vs, hpart, hmore, -⟩
      · exact hstop hgap he
      obtain ⟨more, rfl⟩ := cuts_manyAfterBlank cuts_dottedPart fuel hmore
      obtain ⟨front, htext⟩ := (cuts_dottedPart hpart).trans (dropBlank_suffix false _)
      obtain rfl : front ++ more = taken :=
        List.append_cancel_right ((List.append_assoc ..).trans htext)
      rw [List.append_assoc] at hpart
      obtain ⟨before, between, name, back, o, rfl, hbefore, hbetween, hname, hback, hopen⟩ :=
        takes_dottedPart_of_noParen hpart fun hmem => hparen (List.mem_append_left more hmem)
      cases o with
      | false =>
          obtain ⟨t, last, o, hmid, ht, hlast, hend⟩ :=
            ih hback hmore fun hmem => hparen (List.mem_append_right _ hmem)
          refine ⟨_, last, o, ?_, .more (hgap.trans hbefore) hbetween hname ht, hlast, hend⟩
          simp only [List.append_assoc, List.cons_append, hmid]
      | true =>
          -- The comment behind the name goes on to the end of the text.
          obtain ⟨rfl, rfl⟩ := List.append_eq_nil_iff.1 (hopen rfl)
          refine ⟨_, back, true, ?_, .more (hgap.trans hbefore) hbetween hname .nil, hback,
            fun _ => rfl⟩
          simp only [List.append_assoc, List.cons_append, List.append_nil]

/-- **What is taken without a parenthesis is names joined by points**, with blanks behind them. -/
theorem dotted_of_takes {taken rest : List Char}
    (h : Takes sourceParts (taken ++ rest) () rest) (hparen : '(' ∉ taken) :
    ∃ (t back : List Char) (o : Bool), taken = t ++ back ∧ Dotted t ∧ Skips false back o ∧
      (o = true → rest = []) := by
  obtain ⟨u, mid, hpart, h⟩ := takes_bind_iff.1 (takes_rule_iff.1 h)
  obtain ⟨u, front, hblank, h⟩ := takes_bind_iff.1 h
  obtain ⟨us, left, hmany, hpure⟩ := takes_bind_iff.1 h
  obtain ⟨-, rfl⟩ := takes_pure_iff.1 hpure
  obtain ⟨more, rfl⟩ := cuts_many cuts_dottedPart hmany
  have hsolid : dropBlank false (more ++ rest) = more ++ rest := by
    rw [takes_blank_iff.1 hblank, dropBlank_dropBlank]
  obtain ⟨gap, o, hgap, hskips, hopen⟩ := exists_skips false mid
  rw [← takes_blank_iff.1 hblank] at hgap hopen
  subst hgap
  obtain ⟨part, htext⟩ := cuts_sourcePart hpart
  obtain rfl : part ++ (gap ++ more) = taken := by
    refine (List.append_left_inj rest).1 (Eq.trans ?_ htext)
    simp only [List.append_assoc]
  rw [List.append_assoc, List.append_assoc] at hpart
  obtain ⟨name, back, o', rfl, hname, hback, hopen'⟩ :=
    takes_sourcePart_of_noParen hpart fun hmem => hparen (List.mem_append_left _ hmem)
  cases o' with
  | true =>
      obtain ⟨rfl, hnil⟩ := List.append_eq_nil_iff.1 (hopen' rfl)
      obtain ⟨rfl, rfl⟩ := List.append_eq_nil_iff.1 hnil
      exact ⟨name.toList, back, true, by simp, dotted_name hname, hback, fun _ => rfl⟩
  | false =>
      cases o with
      | true =>
          obtain ⟨rfl, rfl⟩ := List.append_eq_nil_iff.1 (hopen rfl)
          exact ⟨name.toList, back ++ gap, true, by simp, dotted_name hname, hback.trans hskips,
            fun _ => rfl⟩
      | false =>
          rw [takes_many_iff hsolid] at hmany
          obtain ⟨t, last, o, hmid, ht, hlast, hend⟩ := joined_of_takes _ (hback.trans hskips) hmany
            fun hmem => hparen (List.mem_append_right _ (List.mem_append_right _ hmem))
          refine ⟨name.toList ++ t, last, o, ?_, ⟨name, t, hname, ht, rfl⟩, hlast, hend⟩
          rw [List.append_assoc, List.append_assoc, ← hmid, List.append_assoc]

end Grammar

end EventQuery
