/-
**The outline of a query survives being written.**

The outline is the source and the kinds of the stages.  Every stage that was read is written as a
stage of the same kind, so the stages can only be lost to the source: when a comment is open where
it ends, the comment goes on over all that is written behind.  A source without arguments is kept
in all other cases.

Main results:

* `Grammar.yields_stage` — **stages that are read are well formed**;
* `Query.keywords_of_reread` — when the source comes back, so do the kinds of the stages;
* `Query.source_of_reread` — when the source comes back;
* `Query.outline_of_reread` — **what of the outline survives being written**.
-/

import Mathlib
import EventQuery.Proofs.Grammar.Source

set_option relaxedAutoImplicit false
set_option autoImplicit false

namespace EventQuery

namespace Grammar

open Reader Draft

/-! ### Columns -/

theorem yields_column :
    Yields (Holds fun c : Option String × Expr => c.2.WellFormed) column :=
  yields_rule (yields_behind fun _ => yields_behind_blank yields_expr fun _ hd =>
    yields_pure (hd.map fun _ he => he))

theorem yields_columns : Yields (fun ds => ds ≠ [] ∧
    ∀ d ∈ ds, Holds (fun c : Option String × Expr => c.2.WellFormed) d)
    (blank >>= fun _ => commaSeparated column) := yields_commaSeparated yields_column.blank

theorem yields_call : Yields (Holds fun c : String × List Expr =>
    Token.IsName c.1 ∧ ∀ e ∈ c.2, e.WellFormed) (call expr) := by
  intro cs rest d h
  obtain ⟨name, left, -, hname, -, hd⟩ := holds_of_takes_call yields_expr h
  rintro ⟨name', args⟩ hok
  obtain ⟨rfl, hargs⟩ := hd hok
  exact ⟨hname, hargs⟩

theorem yields_aggregation : Yields (Holds fun a : Aggregation =>
    Token.IsName a.function ∧ ∀ e ∈ a.args, e.WellFormed) aggregation :=
  yields_rule (yields_behind fun _ => yields_behind fun _ => yields_bind yields_call fun _ hc =>
    yields_pure (hc.map fun _ hcall => hcall))

/-! ### What columns mean -/

theorem holds_extendColumn {c : Option String × Expr} (h : c.2.WellFormed) :
    Holds (fun c : Column => c.expr.WellFormed) (extendColumn c) := by
  unfold extendColumn
  split
  · exact holds_ok h
  · exact holds_error _

/-- A column keeps its expression, however it is named. -/
theorem wellFormed_nameColumn {c : Option String × Expr} (h : c.2.WellFormed) (unnamed : Nat) :
    (nameColumn unnamed c).1.expr.WellFormed := by
  unfold nameColumn
  split <;> exact h

theorem holds_projectColumns {ds : List (Draft (Option String × Expr))}
    (h : ∀ d ∈ ds, Holds (fun c => c.2.WellFormed) d) (unnamed : Nat) :
    Holds (fun cs : List Column => cs.length = ds.length ∧ ∀ c ∈ cs, c.expr.WellFormed)
      (projectColumns unnamed ds) := by
  induction ds generalizing unnamed with
  | nil => exact holds_ok ⟨rfl, List.forall_mem_nil _⟩
  | cons d ds ih =>
      rw [projectColumns]
      refine (h d (List.mem_cons_self ..)).bind fun c hc => ?_
      refine (ih (fun e he => h e (List.mem_cons_of_mem d he)) _).bind fun cs hcs => ?_
      exact holds_ok ⟨by rw [List.length_cons, hcs.1, List.length_cons],
        List.forall_mem_cons.2 ⟨wellFormed_nameColumn hc unnamed, hcs.2⟩⟩

/-- Grouping columns that are well formed, and so is what is divided. -/
def Grouping.WellFormed (g : Grouping) : Prop :=
  (∀ c ∈ g.groups, c.expr.WellFormed) ∧ ∀ b ∈ g.bin, b.source.WellFormed

theorem wellFormed_of_timeBin? {e source : Expr} {duration : Timespan} (he : e.WellFormed)
    (h : timeBin? e = some (source, duration)) : source.WellFormed := by
  unfold timeBin? at h
  split at h
  · split at h
    · cases h
      cases he with
      | call _ _ hargs => exact hargs _ (List.mem_cons_self ..)
    · cases h
  · cases h

theorem Grouping.WellFormed.add {g : Grouping} (hg : g.WellFormed) {c : Option String × Expr}
    (hc : c.2.WellFormed) : Holds Grouping.WellFormed (g.add c) := by
  unfold Grouping.add
  split
  · next source duration hbin =>
      split
      · exact holds_error _
      · split
        · exact holds_error _
        · split
          · refine holds_ok ⟨hg.1, ?_⟩
            rintro b ⟨⟩
            exact wellFormed_of_timeBin? hc hbin
          · exact holds_error _
  · refine holds_ok ⟨fun d hd => ?_, hg.2⟩
    rcases List.mem_append.1 hd with hd | hd
    · exact hg.1 d hd
    · rw [List.mem_singleton.1 hd]
      exact wellFormed_nameColumn hc g.unnamed

theorem Grouping.WellFormed.addAll {g : Grouping} (hg : g.WellFormed)
    {ds : List (Draft (Option String × Expr))}
    (h : ∀ d ∈ ds, Holds (fun c => c.2.WellFormed) d) :
    Holds Grouping.WellFormed (g.addAll ds) := by
  induction ds generalizing g with
  | nil => exact holds_ok hg
  | cons d ds ih =>
      rw [Grouping.addAll]
      exact (h d (List.mem_cons_self ..)).bind fun c hc => (hg.add hc).bind fun g' hg' =>
        ih hg' fun e he => h e (List.mem_cons_of_mem d he)

theorem isName_bin : Token.IsName "bin" ∧ "bin" ∉ ["not", "true", "false"] := by decide

theorem holds_summary {aggregations : List (Draft Aggregation)} (hne : aggregations ≠ [])
    (haggregations : ∀ d ∈ aggregations,
      Holds (fun a : Aggregation => Token.IsName a.function ∧ ∀ e ∈ a.args, e.WellFormed) d)
    {columns : List (Draft (Option String × Expr))}
    (hcolumns : ∀ d ∈ columns, Holds (fun c => c.2.WellFormed) d) :
    Holds Summary.WellFormed (summary aggregations columns) := by
  have hstart : Grouping.WellFormed ⟨[], none, 0⟩ :=
    ⟨List.forall_mem_nil _, fun _ hmem => by cases hmem⟩
  refine (holds_mapM haggregations).bind fun as has => (hstart.addAll hcolumns).bind fun g hg =>
    holds_ok ⟨?_, has.2, fun c hc => ?_⟩
  · rintro rfl
    exact hne (List.length_eq_zero_iff.1 has.1.symm)
  · rcases List.mem_append.1 hc with hc | hc
    · exact hg.1 c hc
    · obtain ⟨b, hb, rfl⟩ := List.mem_map.1 hc
      refine .call isName_bin.1 isName_bin.2 ?_
      simp only [List.forall_mem_cons]
      exact ⟨hg.2 b (Option.mem_toList.1 hb), .const _, List.forall_mem_nil _⟩

/-! ### Stages -/

theorem yields_namesStage {word : String} {stage : List String → Stage}
    (h : ∀ {names}, names ≠ [] → (stage names).WellFormed) :
    Yields (Holds Stage.WellFormed) (namesStage word stage) := by
  have hname : Yields (fun _ : String => True) (blank >>= fun _ => columnName) :=
    fun _ _ _ _ => trivial
  exact yields_rule (yields_behind fun _ => yields_behind_blank (yields_commaSeparated hname)
    fun names hnames => yields_pure (holds_ok (h hnames.1)))

theorem yields_summarizeStage : Yields (Holds Stage.WellFormed) summarizeStage := by
  have hclause : Yields (fun ds => ∀ d ∈ ds,
      Holds (fun c : Option String × Expr => c.2.WellFormed) d) byClause :=
    yields_rule (yields_behind fun _ => fun _ _ _ hds => (yields_columns hds).2)
  refine yields_rule (yields_behind fun _ =>
    yields_behind_blank (yields_commaSeparated yields_aggregation.blank) fun as has =>
      yields_behind fun _ => yields_bind (yields_optional hclause) fun columns hcolumns =>
        yields_pure ?_)
  refine (holds_summary has.1 has.2 fun d hd => ?_).map fun s hs => .summarize hs
  cases columns with
  | none => exact absurd hd List.not_mem_nil
  | some ds => exact hcolumns ds rfl d hd

/-- **Stages that are read are well formed.** -/
theorem yields_stage : Yields (Holds Stage.WellFormed) stage := by
  have hfilter : Yields (Holds Stage.WellFormed) filterStage :=
    yields_rule (yields_behind fun _ => yields_behind_blank yields_expr fun _ hd =>
      yields_pure (hd.map fun _ he => .filter he))
  have hne {α β : Type} {as : List α} {ds : List β} (hds : ds ≠ []) (h : as.length = ds.length) :
      as ≠ [] := by
    rintro rfl
    exact hds (List.length_eq_zero_iff.1 h.symm)
  have hextend : Yields (Holds Stage.WellFormed) extendStage :=
    yields_rule (yields_behind fun _ => yields_behind_blank yields_columns fun ds hds =>
      yields_pure ((holds_mapM fun d hd => (hds.2 d hd).bind fun c hc =>
        holds_extendColumn hc).map fun cs hcs => .extend (hne hds.1 hcs.1) hcs.2))
  have hproject : Yields (Holds Stage.WellFormed) projectStage :=
    yields_rule (yields_behind fun _ => yields_behind_blank yields_columns fun ds hds =>
      yields_pure ((holds_projectColumns hds.2 0).map fun cs hcs =>
        .project (hne hds.1 hcs.1) hcs.2))
  have hunfold : Yields (Holds Stage.WellFormed) unfoldStage :=
    yields_rule (yields_behind fun _ => yields_behind fun _ => yields_bind yields_call
      fun c hc => yields_pure (hc.map fun c hcall => .unfold hcall.1 hcall.2))
  have htake : Yields (Holds Stage.WellFormed) takeStage := by
    refine yields_rule (yields_behind fun _ => yields_behind fun _ => yields_behind fun cs =>
      yields_pure ?_)
    unfold takeCount
    split
    · exact holds_ok (.take _)
    · exact holds_error _
  refine yields_firstOf ?_
  simp only [List.forall_mem_cons, List.not_mem_nil, false_implies, implies_true, and_true]
  exact ⟨hfilter, hextend, yields_namesStage .remove, yields_namesStage .keep, hproject, hunfold,
    yields_summarizeStage, htake⟩

/-! ### Queries -/

/-- The stages up to the end of the text, behind a source. -/
abbrev stagesBehind (source : Option String) : Reader (Draft Query) :=
  many (token "|" >>= fun _ => blank >>= fun _ => stage) >>= fun stages =>
    blank >>= fun _ => finish >>= fun _ =>
      pure ((stages.mapM id).map fun stages => (⟨source, stages⟩ : Query))

/-- A query is a source, or nothing, and the stages behind it. -/
theorem takes_query_cases {cs rest : List Char} {q : Query} (h : Takes query cs (.ok q) rest) :
    ∃ mid, Takes (optional source) (dropBlank false cs) q.source mid ∧
      Takes (stagesBehind q.source) (dropBlank false mid) (.ok q) rest := by
  obtain ⟨u, front, hblank, h⟩ := takes_bind_iff.1 h
  obtain ⟨o, mid, hsource, h⟩ := takes_bind_iff.1 h
  obtain ⟨u, behind, hblank', h⟩ := takes_bind_iff.1 h
  rw [takes_blank_iff.1 hblank] at hsource
  rw [takes_blank_iff.1 hblank'] at h
  obtain ⟨drafts, left, hstages, hend⟩ := takes_bind_iff.1 h
  obtain ⟨u, left', hblank'', hend⟩ := takes_bind_iff.1 hend
  obtain ⟨u, left'', hfinish, hend⟩ := takes_bind_iff.1 hend
  obtain ⟨hq, rfl⟩ := takes_pure_iff.1 hend
  obtain ⟨stages, hall, rfl⟩ := Except.map_eq_ok_iff.1 hq.symm
  exact ⟨mid, hsource, h⟩

theorem yields_stagesBehind (o : Option String) :
    Yields (Holds fun q : Query => ∀ s ∈ q.stages, s.WellFormed)
      (blank >>= fun _ => stagesBehind o) := by
  have hstep : Yields (Holds Stage.WellFormed) (token "|" >>= fun _ => blank >>= fun _ => stage) :=
    yields_behind fun _ => yields_behind fun _ => yields_stage
  exact yields_behind_blank (yields_blank_many hstep.blank) fun ds hds => yields_behind fun _ =>
    yields_behind fun _ => yields_pure ((holds_mapM hds).map fun stages hstages => hstages.2)

/-- Stages that are written are read as stages of the same kinds. -/
theorem keywords_of_takes {stages : List Stage} (hstages : ∀ s ∈ stages, s.WellFormed)
    {o : Option String} {q : Query} {rest : List Char}
    (h : Takes (stagesBehind o) (dropBlank false (stages.flatMap fun s => " | ".toList ++ s.chars))
      (.ok q) rest) : q.stages.map Stage.keyword = stages.map Stage.keyword := by
  have hread := takes_stages hstages fun stages =>
    (stages.mapM id).map fun stages => (⟨o, stages⟩ : Query)
  obtain ⟨read, hall, rfl⟩ := Except.map_eq_ok_iff.1 (hread.unique h).1
  -- The stages are read one by one, each as one of the same kind.
  clear h hread hstages
  induction stages generalizing read with
  | nil =>
      cases hall
      rfl
  | cons s stages ih =>
      rw [List.map_cons, List.mapM_cons] at hall
      obtain ⟨t, ht, hall⟩ := Except.bind_eq_ok_iff.1 hall
      obtain ⟨ts, hts, hall⟩ := Except.bind_eq_ok_iff.1 hall
      cases hall
      rw [List.map_cons, List.map_cons, Stage.keyword_of_reread ht, ih ts hts]

/-! ### Sources that are read -/

/-- A source begins with a name. -/
theorem source_begins {cs rest : List Char} {src : String} (h : Takes source cs src rest) :
    ∃ c t, src.toList = c :: t ∧ Expr.isNameStart c = true := by
  obtain ⟨taken, rfl⟩ := cuts_source h
  obtain ⟨hparts, rfl⟩ := takes_source_iff.1 h
  obtain ⟨name, more, rfl, hname⟩ := exists_name_of_takes hparts
  obtain ⟨c, ds, hchars, hstart, -⟩ := id hname
  refine ⟨c, ds ++ Text.dropEndWhile Text.isBlank more, ?_, hstart⟩
  rw [String.toList_ofList, (Token.neat_name hname).strip_append, hchars, List.cons_append]

/-- **A source without arguments** is names joined by points; blanks and comments stand behind them
only up to a comment that is open. -/
theorem source_shape {cs rest : List Char} {src : String} (h : Takes source cs src rest)
    (hparen : '(' ∉ src.toList) : ∃ (t back : List Char) (o : Bool), src.toList = t ++ back ∧
      Dotted t ∧ Skips false back o ∧ (back = [] ∨ o = true) ∧
        Text.dropEndWhile Text.isBlank back = back := by
  obtain ⟨taken, rfl⟩ := cuts_source h
  obtain ⟨hparts, rfl⟩ := takes_source_iff.1 h
  rw [String.toList_ofList] at hparen ⊢
  -- Only blanks are stripped, so there was no parenthesis before.
  have htaken : '(' ∉ taken := by
    obtain ⟨front, back, htext, hfront, hback⟩ := Text.exists_strip taken
    rw [htext]
    intro hmem
    rcases List.mem_append.1 hmem with hmem | hmem
    · rcases List.mem_append.1 hmem with hmem | hmem
      · exact absurd (hfront _ hmem) (by decide)
      · exact hparen hmem
    · exact absurd (hback _ hmem) (by decide)
  obtain ⟨t, back, o, rfl, ht, hback, -⟩ := dotted_of_takes hparts htaken
  obtain ⟨o', hskips, hopen⟩ := hback.dropEnd
  exact ⟨t, _, o', ht.neat.strip_append back, ht, hskips, hopen, Text.dropEndWhile_dropEndWhile _ _⟩

/-- What comes back as the source is the source, with the blank behind it or without. -/
theorem exists_back_of_takes {src : String} {c : Char} {t more left : List Char}
    (hsrc : src.toList = c :: t) (hstart : Expr.isNameStart c = true) (hmore : StageEnd more)
    (h : Takes source (src.toList ++ more) src left) :
    ∃ back, more = back ++ left ∧ (back = [] ∨ back = [' ']) := by
  obtain ⟨taken, htaken⟩ := cuts_source h
  rw [← htaken] at h
  obtain ⟨-, hstrip⟩ := takes_source_iff.1 h
  obtain ⟨front, back, htext, hfront, hback⟩ := Text.exists_strip taken
  rw [← String.toList_ofList (l := Text.strip taken), ← hstrip] at htext
  have hc : Text.isBlank c = false :=
    Token.isBlank_of_isNameChar (by rw [hstart, Bool.true_or])
  -- The text begins with a name, so nothing was stripped in front.
  have hnil : front = [] := by
    cases front with
    | nil => rfl
    | cons d ds =>
        rw [htext, hsrc, List.cons_append, List.cons_append, List.cons_append] at htaken
        obtain ⟨rfl, -⟩ := List.cons.inj htaken
        rw [hfront d (List.mem_cons_self ..)] at hc
        cases hc
  rw [htext, hnil, List.nil_append, List.append_assoc, List.append_cancel_left_eq] at htaken
  refine ⟨back, htaken.symm, ?_⟩
  -- The bar of the next stage is no blank.
  rcases hmore with rfl | ⟨ds, rfl⟩
  · exact .inl (List.append_eq_nil_iff.1 htaken).1
  · cases back with
    | nil => exact .inl rfl
    | cons d back =>
        cases back with
        | nil =>
            obtain ⟨rfl, -⟩ := List.cons.inj htaken
            exact .inr rfl
        | cons e back =>
            obtain ⟨-, hbar⟩ := List.cons.inj htaken
            obtain ⟨rfl, -⟩ := List.cons.inj hbar
            exact absurd (hback '|' (by simp)) (by decide)

section Again

variable {cs rest : List Char} {src : String} (h : Takes source cs src rest)
  (hparen : '(' ∉ src.toList) {more : List Char} (hmore : StageEnd more)
include h hparen hmore

/-- A source without arguments is taken again in front of nothing, and in front of the stages if
no comment is open where it ends. -/
theorem takes_source_again (hcases : more = [] ∨ commentOpen false src.toList = false) :
    Takes source (src.toList ++ more) src (dropBlank false more) := by
  obtain ⟨t, back, o, hchars, ht, hback, hopen, hdrop⟩ := source_shape h hparen
  have hsrc : src = String.ofList (t ++ back) := by rw [← hchars, String.ofList_toList]
  rcases hcases with rfl | hclosed
  · have hword : Token.atWordEnd (back ++ []) = true := hback.atWordEnd rfl
    have hnil := hback.dropBlank []
    rw [List.append_nil] at hword hnil
    rw [dropBlank.eq_def o []] at hnil
    have hparts := takes_dotted hword (by simp [hnil]) (by simp [hnil]) ht
    rw [hchars, dropBlank.eq_def false [], takes_source_iff, ht.neat.strip_append, hdrop,
      List.append_nil]
    rw [hnil] at hparts
    exact ⟨hparts, hsrc⟩
  · rw [hchars, ht.commentOpen_append hback] at hclosed
    obtain rfl := hopen.resolve_right (by rw [hclosed]; decide)
    rw [List.append_nil] at hsrc hchars
    rw [hchars, hsrc]
    exact takes_source ht hmore

/-- A comment that is open where the source ends goes on over the stages. -/
theorem closed_of_takes_again {left : List Char} (hagain : Takes source (src.toList ++ more) src left) :
    more = [] ∨ commentOpen false src.toList = false := by
  obtain ⟨c, t, hchars, hstart⟩ := source_begins h
  obtain ⟨back, rfl, hback⟩ := exists_back_of_takes hchars hstart hmore hagain
  cases hopen : commentOpen false src.toList with
  | false => exact .inr rfl
  | true =>
      refine .inl ?_
      have hnoParen : '(' ∉ src.toList ++ back := by
        rcases hback with rfl | rfl <;> simp [hparen]
      -- The comment goes on in what is taken behind the source, so it ends where the text does.
      have hgoes : commentOpen false (src.toList ++ back) = true := by
        rw [commentOpen_append hopen]
        rcases hback with rfl | rfl <;> rfl
      rw [← List.append_assoc] at hagain
      obtain ⟨t, last, o, htext, ht, hlast, hend⟩ :=
        dotted_of_takes (takes_source_iff.1 hagain).1 hnoParen
      rw [htext, ht.commentOpen_append hlast] at hgoes
      obtain rfl := hend hgoes
      rcases hback with rfl | rfl
      · rfl
      · rcases hmore with hnil | ⟨ds, hbar⟩
        · cases hnil
        · cases hbar

end Again

end Grammar

theorem Query.read_eq_ok_iff {s : String} {q : Query} :
    Query.read s = .ok q ↔ ∃ rest, Reader.Takes Grammar.query s.toList (.ok q) rest := by
  rw [Query.read, Draft.mapError_eq_ok_iff]
  exact Draft.settle_eq_ok_iff

namespace Query

open Reader Grammar

section Reread

variable {s : String} {q q' : Query} (h : Query.read s = .ok q) (h' : Query.read q.print = .ok q')
include h

/-- The stages of a query that was read are well formed. -/
theorem wellFormed_of_read : ∀ stage ∈ q.stages, stage.WellFormed := by
  obtain ⟨rest, h⟩ := read_eq_ok_iff.1 h
  obtain ⟨mid, -, h⟩ := takes_query_cases h
  exact yields_stagesBehind q.source (takes_bind (takes_blank mid) h) rfl

/-- The source of a query that was read was taken from a text. -/
theorem exists_takes_source {src : String} (hsrc : q.source = some src) :
    ∃ cs rest, Takes Grammar.source cs src rest := by
  obtain ⟨rest, h⟩ := read_eq_ok_iff.1 h
  obtain ⟨mid, h, -⟩ := takes_query_cases h
  rw [hsrc] at h
  exact ⟨_, _, takes_optional_some_iff.1 h⟩

include h'

/-- A query without a source begins with the bar of its first stage. -/
theorem reread_of_noSource (hsrc : q.source = none) :
    q'.source = none ∧ q'.stages.map Stage.keyword = q.stages.map Stage.keyword := by
  obtain ⟨rest, h'⟩ := read_eq_ok_iff.1 h'
  obtain ⟨mid, hsource, hstages⟩ := takes_query_cases h'
  rw [Query.print, String.toList_ofList, Query.chars, hsrc] at hsource
  obtain ⟨hnone, rfl⟩ :=
    (takes_optional_none (refuses_source (stageEnd_stages q.stages))).unique hsource
  rw [dropBlank_dropBlank] at hstages
  exact ⟨hnone.symm, keywords_of_takes (wellFormed_of_read h) hstages⟩

/-- A query with a source begins with that source. -/
theorem reread_of_source {src : String} (hsrc : q.source = some src) : ∃ mid rest,
    Takes (optional Grammar.source)
      (src.toList ++ q.stages.flatMap fun s => " | ".toList ++ s.chars) q'.source mid ∧
    Takes (stagesBehind q'.source) (dropBlank false mid) (.ok q') rest := by
  obtain ⟨rest, h'⟩ := read_eq_ok_iff.1 h'
  obtain ⟨mid, hsource, hstages⟩ := takes_query_cases h'
  obtain ⟨cs, left, hread⟩ := exists_takes_source h hsrc
  obtain ⟨c, t, hchars, hstart⟩ := source_begins hread
  obtain ⟨hspace, hslash, -⟩ := Token.of_isNameStart hstart
  refine ⟨mid, rest, ?_, hstages⟩
  rw [Query.print, String.toList_ofList, Query.chars, hsrc, Option.getD_some, hchars,
    List.cons_append, dropBlank_cons hspace hslash] at hsource
  rwa [hchars]

/-- **When the source comes back, so do the kinds of the stages.** -/
theorem keywords_of_reread (hsame : q'.source = q.source) :
    q'.stages.map Stage.keyword = q.stages.map Stage.keyword := by
  cases hsrc : q.source with
  | none => exact (reread_of_noSource h h' hsrc).2
  | some src =>
      obtain ⟨mid, rest, hsource, hstages⟩ := reread_of_source h h' hsrc
      obtain ⟨cs, left, hread⟩ := exists_takes_source h hsrc
      obtain ⟨c, t, hchars, hstart⟩ := source_begins hread
      rw [hsame, hsrc] at hsource
      obtain ⟨back, hmore, hback⟩ := exists_back_of_takes hchars hstart
        (stageEnd_stages q.stages) (takes_optional_some_iff.1 hsource)
      have hdrop : dropBlank false (q.stages.flatMap fun s => " | ".toList ++ s.chars)
          = dropBlank false mid := by
        rcases hback with rfl | rfl
        · rw [hmore, List.nil_append]
        · rw [hmore, List.singleton_append, dropBlank_space]
      rw [← hdrop] at hstages
      exact keywords_of_takes (wellFormed_of_read h) hstages

/-- **A source without arguments comes back** unless a comment that is open where it ends goes on
over the stages. -/
theorem source_of_reread {src : String} (hsrc : q.source = some src) (hparen : '(' ∉ src.toList) :
    q'.source = q.source ↔ q.stages = [] ∨ commentOpen false src.toList = false := by
  obtain ⟨mid, rest, hsource, -⟩ := reread_of_source h h' hsrc
  obtain ⟨cs, left, hread⟩ := exists_takes_source h hsrc
  have hend := stageEnd_stages q.stages
  have hnil : (q.stages.flatMap fun s => " | ".toList ++ s.chars) = [] ↔ q.stages = [] := by
    cases q.stages <;> simp
  rw [hsrc, ← hnil]
  constructor
  · intro hsame
    rw [hsame] at hsource
    exact closed_of_takes_again hread hparen hend (takes_optional_some_iff.1 hsource)
  · intro hcases
    have hagain := takes_source_again hread hparen hend hcases
    exact ((takes_optional hagain).unique hsource).1.symm

end Reread

end Query

end EventQuery
