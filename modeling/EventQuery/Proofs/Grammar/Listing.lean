/-
**Listed columns.**

A stage that shows columns was read from a list of columns in the text, and its columns are those of
the list, each with a name.  A column has a name of its own, or it is given the next number.

Main definitions:

* `Grammar.Lists` — **a text lists columns to be shown**;
* `Grammar.nameColumns`, `Grammar.ownNames`, `Grammar.unnamedCount` — the names of listed columns.

Main results:

* `Query.exists_lists` — **the columns to be shown are listed in the text**;
* `Grammar.names_perm` — the names are the own ones and the numbered ones;
* `Grammar.nodup_names_iff` — **when the names are distinct**.
-/

import EventQuery.Proofs.Grammar.Outline

set_option relaxedAutoImplicit false
set_option autoImplicit false

namespace EventQuery

namespace Grammar

open Reader Draft

/-! ### Names of listed columns -/

/-- Listed columns with their names; `unnamed` columns before them had to be numbered. -/
def nameColumns (unnamed : Nat) : List (Option String × Expr) → List Column
  | [] => []
  | c :: rest => (nameColumn unnamed c).1 :: nameColumns (nameColumn unnamed c).2 rest

/-- The names that listed columns have by themselves. -/
def ownNames (listed : List (Option String × Expr)) : List String := listed.filterMap ownName?

/-- The number of listed columns without a name of their own. -/
def unnamedCount (listed : List (Option String × Expr)) : Nat :=
  listed.countP fun c => (ownName? c).isNone

section Names

variable (unnamed : Nat) (listed : List (Option String × Expr))

theorem nameColumn_of_some {c : Option String × Expr} {name : String} (h : ownName? c = some name) :
    nameColumn unnamed c = (⟨name, c.2⟩, unnamed) := by
  simp only [nameColumn, h]

theorem nameColumn_of_none {c : Option String × Expr} (h : ownName? c = none) :
    nameColumn unnamed c = (⟨numberedName (unnamed + 1), c.2⟩, unnamed + 1) := by
  simp only [nameColumn, h]

/-- **A list is named** when all of it means something. -/
theorem projectColumns_eq_ok_iff {drafts : List (Draft (Option String × Expr))}
    {columns : List Column} : projectColumns unnamed drafts = .ok columns
      ↔ ∃ listed : List (Option String × Expr), drafts = listed.map .ok
        ∧ columns = nameColumns unnamed listed := by
  induction drafts generalizing unnamed columns with
  | nil =>
      constructor
      · rintro ⟨⟩
        exact ⟨[], rfl, rfl⟩
      · rintro ⟨listed, hlisted, rfl⟩
        rw [List.map_eq_nil_iff.1 hlisted.symm]
        rfl
  | cons draft drafts ih =>
      rw [projectColumns, Except.bind_eq_ok_iff]
      constructor
      · rintro ⟨c, rfl, h⟩
        obtain ⟨others, hothers, hcolumns⟩ := Except.bind_eq_ok_iff.1 h
        obtain ⟨listed, rfl, rfl⟩ := (ih _).1 hothers
        cases hcolumns
        exact ⟨c :: listed, rfl, rfl⟩
      · rintro ⟨listed, hlisted, rfl⟩
        obtain ⟨c, others, rfl, rfl, rfl⟩ := List.map_eq_cons_iff.1 hlisted.symm
        refine ⟨c, rfl, ?_⟩
        rw [Except.bind_eq_ok_iff]
        exact ⟨_, (ih _).2 ⟨others, rfl, rfl⟩, rfl⟩

theorem numberedName_injective : Function.Injective numberedName := by
  intro m n h
  have hchars := congrArg String.toList h
  simp only [numberedName, String.toList_append, String.toList_ofList] at hchars
  have hwrite := congrArg Digits.read (List.append_cancel_left hchars)
  rwa [Digits.read_write, Digits.read_write] at hwrite

/-- **The names are the own ones and the numbered ones**, in some order. -/
theorem names_perm : ((nameColumns unnamed listed).map Column.name).Perm
    (ownNames listed
      ++ (List.range' (unnamed + 1) (unnamedCount listed)).map numberedName) := by
  induction listed generalizing unnamed with
  | nil => exact .refl _
  | cons c listed ih =>
      rw [nameColumns, List.map_cons]
      cases hname : ownName? c with
      | some name =>
          have hown : ownNames (c :: listed) = name :: ownNames listed :=
            List.filterMap_cons_some hname
          have hcount : unnamedCount (c :: listed) = unnamedCount listed :=
            List.countP_cons_of_neg (by simp [hname])
          rw [nameColumn_of_some unnamed hname, hown, hcount, List.cons_append]
          exact (ih unnamed).cons name
      | none =>
          have hown : ownNames (c :: listed) = ownNames listed := List.filterMap_cons_none hname
          have hcount : unnamedCount (c :: listed) = unnamedCount listed + 1 :=
            List.countP_cons_of_pos (by simp [hname])
          rw [nameColumn_of_none unnamed hname, hown, hcount, List.range'_succ, List.map_cons]
          exact ((ih (unnamed + 1)).cons _).trans List.perm_middle.symm

/-- **The names are distinct** when the own ones are and none of them is one of the numbers given
out. -/
theorem nodup_names_iff : ((nameColumns unnamed listed).map Column.name).Nodup
    ↔ (ownNames listed).Nodup
      ∧ ∀ k, unnamed < k → k ≤ unnamed + unnamedCount listed → numberedName k ∉ ownNames listed := by
  have hnumbered : ((List.range' (unnamed + 1) (unnamedCount listed)).map numberedName).Nodup :=
    (List.nodup_range' ..).map numberedName_injective
  rw [(names_perm unnamed listed).nodup_iff, List.nodup_append']
  simp only [hnumbered, true_and, List.disjoint_right, List.forall_mem_map, List.mem_range'_1]
  refine and_congr_right fun _ => forall_congr' fun k => ?_
  constructor
  · intro h hlow hhigh
    exact h ⟨hlow, by omega⟩
  · rintro h ⟨hlow, hhigh⟩
    exact h hlow (by omega)

end Names

/-! ### Lists in the text -/

/-- What stands in a list of columns to be shown. -/
abbrev shownColumns : Reader (List (Draft (Option String × Expr))) :=
  Token.projectWord >>= fun _ => blank >>= fun _ => commaSeparated column

/-- **A text lists columns to be shown** at some place. -/
def Lists (cs : List Char) (listed : List (Option String × Expr)) : Prop :=
  ∃ place rest, place <:+ cs ∧ Takes shownColumns place (listed.map .ok) rest

section Origin

variable {α : Type} {p : Reader α}

theorem exists_takes_of_mem_manyAfterBlank (hp : Cuts p) (fuel : Nat) {cs rest : List Char}
    {as : List α} (h : Takes (manyAfterBlank p fuel) cs as rest) {a : α} (ha : a ∈ as) :
    ∃ place left, place <:+ cs ∧ Takes p place a left := by
  induction fuel generalizing cs as with
  | zero =>
      rw [(takes_pure_iff.1 h).1] at ha
      cases ha
  | succ fuel ih =>
      rcases takes_manyAfterBlank_succ h with ⟨-, rfl, -⟩ | ⟨b, mid, more, hb, hmore, rfl⟩
      · cases ha
      · have hblank := dropBlank_suffix false cs
        rcases List.mem_cons.1 ha with rfl | ha
        · exact ⟨_, mid, hblank, hb⟩
        · obtain ⟨place, left, hplace, htakes⟩ := ih hmore ha
          exact ⟨place, left, hplace.trans ((hp hb).trans hblank), htakes⟩

/-- **What is taken again and again** is taken at some place of the text. -/
theorem exists_takes_of_mem_many (hp : Cuts p) {cs rest : List Char} {as : List α}
    (h : Takes (many p) cs as rest) {a : α} (ha : a ∈ as) :
    ∃ place left, place <:+ cs ∧ Takes p place a left := by
  rcases takes_many_cases h with ⟨-, rfl, -⟩ | ⟨b, mid, more, hb, hmore, rfl⟩
  · cases ha
  · rcases List.mem_cons.1 ha with rfl | ha
    · exact ⟨cs, mid, List.suffix_refl cs, hb⟩
    · obtain ⟨place, left, hplace, htakes⟩ := exists_takes_of_mem_manyAfterBlank hp _ hmore ha
      exact ⟨place, left, hplace.trans (hp hb), htakes⟩

end Origin

section Cuts

theorem cuts_commaSeparated {α : Type} {p : Reader α} (hp : Cuts p) : Cuts (commaSeparated p) :=
  (alike_commaSeparated (hp.alike 0)).cuts

theorem cuts_assign : Cuts assign := by
  intro cs rest u h
  simp only [Takes, assign] at h
  split at h
  · cases h
  · exact cuts_token "=" h

theorem cuts_assigned : Cuts assigned :=
  cuts_bind cuts_columnName fun _ => cuts_bind cuts_blank fun _ => cuts_bind cuts_assign fun _ =>
    cuts_pure _

theorem cuts_column : Cuts column :=
  cuts_rule (cuts_bind (cuts_optional cuts_assigned) fun _ => cuts_bind cuts_blank fun _ =>
    cuts_bind cuts_expr fun _ => cuts_pure _)

theorem cuts_call : Cuts (call expr) := (alike_call (cuts_expr.alike 0)).cuts

theorem cuts_aggregation : Cuts aggregation :=
  cuts_rule (cuts_bind (cuts_optional cuts_assigned) fun _ => cuts_bind cuts_blank fun _ =>
    cuts_bind cuts_call fun _ => cuts_pure _)

theorem cuts_projectWord : Cuts Token.projectWord :=
  cuts_scan fun h =>
    Token.suffix_of_closed Token.firstWord_suffix (Option.filter_eq_some_iff.1 h).1

theorem cuts_namesStage (word : String) (stage : List String → Stage) :
    Cuts (namesStage word stage) :=
  cuts_rule (cuts_bind (Token.cuts_word _) fun _ => cuts_bind cuts_blank fun _ =>
    cuts_bind (cuts_commaSeparated cuts_columnName) fun _ => cuts_pure _)

theorem cuts_stage : Cuts stage := by
  refine cuts_firstOf ?_
  simp only [List.forall_mem_cons, List.not_mem_nil, false_implies, implies_true, and_true]
  have hbehind {α : Type} {word : Reader String} {p : Reader α} (hword : Cuts word) (hp : Cuts p) :
      Cuts (word >>= fun _ => blank >>= fun _ => p) :=
    cuts_bind hword fun _ => cuts_bind cuts_blank fun _ => hp
  refine ⟨?_, ?_, cuts_namesStage _ _, cuts_namesStage _ _, ?_, ?_, ?_, ?_⟩
  · exact cuts_rule (hbehind (Token.cuts_word _) (cuts_bind cuts_expr fun _ => cuts_pure _))
  · exact cuts_rule (hbehind (Token.cuts_word _)
      (cuts_bind (cuts_commaSeparated cuts_column) fun _ => cuts_pure _))
  · exact cuts_rule (hbehind cuts_projectWord
      (cuts_bind (cuts_commaSeparated cuts_column) fun _ => cuts_pure _))
  · exact cuts_rule (hbehind (Token.cuts_word _) (cuts_bind cuts_call fun _ => cuts_pure _))
  · have hby : Cuts byClause :=
      cuts_rule (hbehind (Token.cuts_word _) (cuts_commaSeparated cuts_column))
    exact cuts_rule (hbehind (Token.cuts_word _)
      (cuts_bind (cuts_commaSeparated cuts_aggregation) fun _ => cuts_bind cuts_blank fun _ =>
        cuts_bind (cuts_optional hby) fun _ => cuts_pure _))
  · exact cuts_rule (hbehind (Token.cuts_word _)
      (cuts_bind (cuts_scan Token.scanDigits_suffix) fun _ => cuts_pure _))

end Cuts

/-! ### Stages that show columns -/

/-- **What is read is not a stage that shows columns.** -/
def ShowsNothing (d : Draft Stage) : Prop := ∀ columns, d ≠ .ok (.project columns)

/-- What a text means is built into a stage of another kind. -/
theorem showsNothing_map {α : Type} {build : α → Stage}
    (h : ∀ a columns, build a ≠ .project columns) (d : Draft α) : ShowsNothing (d.map build) := by
  intro columns hshows
  obtain ⟨a, -, ha⟩ := Except.map_eq_ok_iff.1 hshows
  exact h a columns ha

theorem showsNothing_namesStage {word : String} {stage : List String → Stage}
    (h : ∀ names columns, stage names ≠ .project columns) :
    Yields ShowsNothing (namesStage word stage) :=
  yields_rule (yields_behind fun _ => yields_behind fun _ => yields_behind fun names =>
    yields_pure (showsNothing_map h (.ok names)))

theorem showsNothing_takeStage : Yields ShowsNothing takeStage := by
  refine yields_rule (yields_behind fun _ => yields_behind fun _ => yields_behind fun cs =>
    yields_pure fun columns h => ?_)
  unfold takeCount at h
  split at h
  · cases h
  · cases h

/-- **A stage that shows columns** is read from a list of them. -/
theorem exists_listed_of_takes_stage {cs rest : List Char} {columns : List Column}
    (h : Takes stage cs (.ok (.project columns)) rest) :
    ∃ listed : List (Option String × Expr),
      Takes shownColumns cs (listed.map .ok) rest ∧ columns = nameColumns 0 listed := by
  obtain ⟨p, hp, h⟩ := exists_of_takes_firstOf h
  have hnothing {p : Reader (Draft Stage)} (hp : Yields ShowsNothing p) :
      ¬ Takes p cs (.ok (.project columns)) rest := fun htakes => hp htakes columns rfl
  have hfilter : Yields ShowsNothing filterStage :=
    yields_rule (yields_behind fun _ => yields_behind fun _ => yields_behind fun d =>
      yields_pure (showsNothing_map (fun _ _ => Stage.noConfusion) d))
  have hextend : Yields ShowsNothing extendStage :=
    yields_rule (yields_behind fun _ => yields_behind fun _ => yields_behind fun _ =>
      yields_pure (showsNothing_map (fun _ _ => Stage.noConfusion) _))
  have hunfold : Yields ShowsNothing unfoldStage :=
    yields_rule (yields_behind fun _ => yields_behind fun _ => yields_behind fun c =>
      yields_pure (showsNothing_map (fun _ _ => Stage.noConfusion) c))
  have hsummarize : Yields ShowsNothing summarizeStage :=
    yields_rule (yields_behind fun _ => yields_behind fun _ => yields_behind fun _ =>
      yields_behind fun _ => yields_behind fun _ =>
        yields_pure (showsNothing_map (fun _ _ => Stage.noConfusion) _))
  simp only [List.mem_cons, List.not_mem_nil, or_false] at hp
  rcases hp with rfl | rfl | rfl | rfl | rfl | rfl | rfl | rfl
  · exact absurd h (hnothing hfilter)
  · exact absurd h (hnothing hextend)
  · exact absurd h (hnothing (showsNothing_namesStage fun _ _ => Stage.noConfusion))
  · exact absurd h (hnothing (showsNothing_namesStage fun _ _ => Stage.noConfusion))
  · obtain ⟨word, behind, hword, h⟩ := takes_bind_iff.1 (takes_rule_iff.1 h)
    obtain ⟨u, front, hblank, h⟩ := takes_bind_iff.1 h
    obtain ⟨drafts, left, hdrafts, h⟩ := takes_bind_iff.1 h
    obtain ⟨hstage, rfl⟩ := takes_pure_iff.1 h
    obtain ⟨named, hnamed, hcolumns⟩ := Except.map_eq_ok_iff.1 hstage.symm
    obtain ⟨listed, rfl, rfl⟩ := (projectColumns_eq_ok_iff 0).1 hnamed
    cases hcolumns
    exact ⟨listed, takes_bind hword (takes_bind hblank hdrafts), rfl⟩
  · exact absurd h (hnothing hunfold)
  · exact absurd h (hnothing hsummarize)
  · exact absurd h (hnothing showsNothing_takeStage)

/-- The stages of a query are read one by one. -/
theorem exists_draft_of_mem {drafts : List (Draft Stage)} {stages : List Stage}
    (h : drafts.mapM id = .ok stages) {s : Stage} (hs : s ∈ stages) : .ok s ∈ drafts := by
  induction drafts generalizing stages with
  | nil =>
      cases h
      cases hs
  | cons d drafts ih =>
      obtain ⟨t, rest, hd, hrest, rfl⟩ := Except.mapM_cons_eq_ok_iff.1 h
      rcases List.mem_cons.1 hs with rfl | hs
      · rw [← hd]
        exact List.mem_cons_self
      · exact List.mem_cons_of_mem d (ih hrest hs)

end Grammar

namespace Query

open Reader Grammar

/-- **The columns to be shown are listed in the text**, and named in this order. -/
theorem exists_lists {s : String} {q : Query} (h : Query.read s = .ok q) {columns : List Column}
    (hmem : Stage.project columns ∈ q.stages) :
    ∃ listed, Lists s.toList listed ∧ columns = nameColumns 0 listed := by
  obtain ⟨rest, h⟩ := read_eq_ok_iff.1 h
  obtain ⟨mid, hsource, h⟩ := takes_query_cases h
  have hmid : dropBlank false mid <:+ s.toList :=
    (dropBlank_suffix false mid).trans
      ((cuts_optional cuts_source hsource).trans (dropBlank_suffix false s.toList))
  obtain ⟨drafts, left, hdrafts, hend⟩ := takes_bind_iff.1 h
  obtain ⟨u, left', -, hend⟩ := takes_bind_iff.1 hend
  obtain ⟨u, left'', -, hend⟩ := takes_bind_iff.1 hend
  obtain ⟨stages, hstages, hq⟩ := Except.map_eq_ok_iff.1 (takes_pure_iff.1 hend).1.symm
  rw [← hq] at hmem
  have hcuts : Cuts (token "|" >>= fun _ => blank >>= fun _ => stage) :=
    cuts_bind (cuts_token "|") fun _ => cuts_bind cuts_blank fun _ => cuts_stage
  obtain ⟨place, behind, hplace, htakes⟩ :=
    exists_takes_of_mem_many hcuts hdrafts (exists_draft_of_mem hstages hmem)
  obtain ⟨u, front, hbar, htakes⟩ := takes_bind_iff.1 htakes
  obtain ⟨u, front', hblank, htakes⟩ := takes_bind_iff.1 htakes
  obtain ⟨listed, hlisted, hcolumns⟩ := exists_listed_of_takes_stage htakes
  exact ⟨listed, ⟨front', behind, (cuts_blank hblank).trans ((cuts_token "|" hbar).trans
    (hplace.trans hmid)), hlisted⟩, hcolumns⟩

end Query

end EventQuery
