/-
**Texts of stages are read as what they mean.**

A stage ends at the bar of the next one or with the text, and nothing of that is taken for a part of
it.  Columns are written with their names, so none has to be found or numbered; what a column means
is what its expression means.

Main definitions:

* `Stage.WellFormed` — **the stages that are read at all**;
* `Stage.reread` — **the stage that the text of a stage means**;
* `Grammar.StageEnd` — what stands behind a stage.

Main results:

* `Grammar.reads_column`, `Grammar.takes_aggregation` — the parts of a stage;
* `Grammar.reads_stage` — **the text of a stage is read as what it means**;
* `Stage.keyword_of_reread` — what it means is a stage of the same kind.
-/

import EventQuery.Grammar.Query
import EventQuery.Proofs.Grammar.Expression

set_option relaxedAutoImplicit false
set_option autoImplicit false

namespace EventQuery

/-! ### Stages that are read -/

/-- The division of time as a column. -/
def TimeBin.column (b : TimeBin) : Column :=
  ⟨b.name, .call "bin" [b.source, .const (.timespan b.duration)]⟩

/-- The columns behind `by`; the division of time is the last one. -/
def Summary.columns (s : Summary) : List Column := s.groups ++ s.bin.toList.map TimeBin.column

/-- **The summaries that are read at all.** -/
structure Summary.WellFormed (s : Summary) : Prop where
  nonempty : s.aggregations ≠ []
  aggregations : ∀ a ∈ s.aggregations, Token.IsName a.function ∧ ∀ e ∈ a.args, e.WellFormed
  columns : ∀ c ∈ s.columns, c.expr.WellFormed

/-- **The stages that are read at all.**  Lists are not empty, and calls have names. -/
inductive Stage.WellFormed : Stage → Prop where
  | filter {condition : Expr} : condition.WellFormed → WellFormed (.filter condition)
  | extend {columns : List Column} : columns ≠ [] → (∀ c ∈ columns, c.expr.WellFormed) →
      WellFormed (.extend columns)
  | project {columns : List Column} : columns ≠ [] → (∀ c ∈ columns, c.expr.WellFormed) →
      WellFormed (.project columns)
  | remove {names : List String} : names ≠ [] → WellFormed (.remove names)
  | keep {names : List String} : names ≠ [] → WellFormed (.keep names)
  | unfold {name : String} {args : List Expr} : Token.IsName name →
      (∀ e ∈ args, e.WellFormed) → WellFormed (.unfold name args)
  | summarize {summary : Summary} : summary.WellFormed → WellFormed (.summarize summary)
  | take (count : Nat) : WellFormed (.take count)

/-! ### What texts of stages mean -/

/-- What the text of a column means. -/
def Column.reread (c : Column) : Draft (Option String × Expr) :=
  c.expr.reread.map fun e => (some c.name, e)

/-- What the text of an aggregation means. -/
def Aggregation.reread (a : Aggregation) : Draft Aggregation :=
  (Expr.rereadAll a.args).map fun args => ⟨a.name, a.function, args⟩

/-- **The stage that the text of a stage means.** -/
def Stage.reread : Stage → Draft Stage
  | .filter condition => condition.reread.map .filter
  | .extend columns =>
      ((columns.map Column.reread).mapM fun draft => draft >>= Grammar.extendColumn).map .extend
  | .project columns => (Grammar.projectColumns 0 (columns.map Column.reread)).map .project
  | .remove names => .ok (.remove names)
  | .keep names => .ok (.keep names)
  | .unfold name args => (Expr.rereadAll args).map (.unfold name)
  | .summarize s =>
      (Grammar.summary (s.aggregations.map Aggregation.reread)
        (s.columns.map Column.reread)).map .summarize
  | .take count => Grammar.takeCount (Digits.write count)

/-- **The text of a stage means a stage of the same kind.** -/
theorem Stage.keyword_of_reread {s t : Stage} (h : s.reread = .ok t) : t.keyword = s.keyword := by
  cases s with
  | filter condition =>
      obtain ⟨_, -, rfl⟩ := Except.map_eq_ok_iff.1 h
      rfl
  | extend columns =>
      obtain ⟨_, -, rfl⟩ := Except.map_eq_ok_iff.1 h
      rfl
  | project columns =>
      obtain ⟨_, -, rfl⟩ := Except.map_eq_ok_iff.1 h
      rfl
  | remove names =>
      cases h
      rfl
  | keep names =>
      cases h
      rfl
  | unfold name args =>
      obtain ⟨_, -, rfl⟩ := Except.map_eq_ok_iff.1 h
      rfl
  | summarize s =>
      obtain ⟨_, -, rfl⟩ := Except.map_eq_ok_iff.1 h
      rfl
  | take count =>
      simp only [Stage.reread, Grammar.takeCount] at h
      split at h
      · cases h
        rfl
      · cases h

namespace Grammar

open Reader EventQuery.Expr

/-! ### Columns -/

theorem takes_assigned (name : String) (cs : List Char) :
    Takes assigned (nameChars name ++ ' ' :: '=' :: ' ' :: cs) name (' ' :: cs) := by
  have hassign : Takes assign ('=' :: ' ' :: cs) () (' ' :: cs) := rfl
  refine takes_bind (takes_columnName name rfl) (takes_bind (takes_blank _) ?_)
  rw [dropBlank_space, dropBlank_cons (by decide) (by decide)]
  exact takes_bind hassign (takes_pure name _)

theorem solid_column (c : Column) : Solid c.chars := by
  rw [Column.chars, List.append_assoc]
  exact (solid_nameChars c.name).append _

/-- **The text of a column is read as what it means.** -/
theorem reads_column {c : Column} (hc : c.expr.WellFormed) {rest : List Char} (hrest : Stops rest) :
    Reads column (c.chars ++ rest) c.reread rest := by
  have htext : c.chars ++ rest
      = nameChars c.name ++ ' ' :: '=' :: ' ' :: (c.expr.chars ++ rest) := by
    simp [Column.chars]
  rw [htext]
  refine reads_rule (reads_bind (takes_optional (takes_assigned c.name _))
    (reads_bind (takes_blank _) ?_))
  rw [dropBlank_space, hc.solid]
  exact reads_map (spans_wellFormed hc hrest)

/-- Columns separated by commas. -/
theorem reads_columns {columns : List Column} (hne : columns ≠ [])
    (hcolumns : ∀ c ∈ columns, c.expr.WellFormed) {rest : List Char} (hrest : Stops rest)
    (hend : (dropBlank false rest).head? ≠ some ',') :
    Reads (commaSeparated column) (commaJoined (columns.map Column.chars) ++ rest)
      (columns.map Column.reread) rest := by
  have hitems : ∀ c ∈ columns, Solid c.chars ∧
      ∀ after, Stops after → Reads column (c.chars ++ after) c.reread after :=
    fun c hc => ⟨solid_column c, fun _ hafter => reads_column (hcolumns c hc) hafter⟩
  exact reads_commaSeparated (fun more => stops_mark (.inr (.inr rfl)) (' ' :: more)) hne hitems
    hrest hend

theorem solid_aggregation (a : Aggregation) : Solid a.chars := by
  simp only [Aggregation.chars, List.append_assoc]
  exact (solid_nameChars a.name).append _

/-- **The text of an aggregation is read as what it means.** -/
theorem takes_aggregation {a : Aggregation} (hname : Token.IsName a.function)
    (hargs : ∀ e ∈ a.args, e.WellFormed) (rest : List Char) :
    Takes aggregation (a.chars ++ rest) a.reread rest := by
  have htext : a.chars ++ rest = nameChars a.name ++ ' ' :: '=' :: ' ' ::
      (a.function.toList ++ ('(' :: (listChars a.args ++ [')'])) ++ rest) := by
    simp [Aggregation.chars]
  have hcall := takes_call (fun e he => ⟨hargs e he, spans_wellFormed (hargs e he)⟩) hname rest
  rw [htext]
  refine takes_rule (takes_bind (takes_optional (takes_assigned a.name _))
    (takes_bind (takes_blank _) ?_))
  rw [dropBlank_space, List.append_assoc, solid_name hname, ← List.append_assoc]
  refine takes_map_eq hcall ?_
  rw [Aggregation.reread]
  cases rereadAll a.args <;> rfl

/-! ### Stages -/

/-- **What stands behind a stage**: nothing, or the bar of the next one. -/
def StageEnd (rest : List Char) : Prop := rest = [] ∨ ∃ cs, rest = ' ' :: '|' :: ' ' :: cs

section Stage

variable {rest : List Char} (hrest : StageEnd rest)
include hrest

theorem StageEnd.stops : Stops rest := by
  rcases hrest with rfl | ⟨cs, rfl⟩
  · exact stops_nil
  · exact stops_blank (.inl rfl) _

theorem StageEnd.no_comma : (dropBlank false rest).head? ≠ some ',' := by
  rcases hrest with rfl | ⟨cs, rfl⟩
  · decide
  · rw [dropBlank_space, dropBlank_cons (by decide) (by decide)]
    simp

omit hrest in
/-- What stands behind the word of a stage and a blank. -/
theorem reads_behind_word {α : Type} {word : Reader String} {k : Reader α} {w : String}
    {cs mid : List Char} {a : α} (hword : Takes word cs w (' ' :: mid))
    (hsolid : dropBlank false mid = mid) (hk : Reads k mid a rest) :
    Reads (rule (word >>= fun _ => blank >>= fun _ => k)) cs a rest := by
  refine reads_rule (reads_bind hword (reads_bind (takes_blank _) ?_))
  rw [dropBlank_space, hsolid]
  exact hk

theorem reads_filter {condition : Expr} (h : condition.WellFormed) :
    Reads filterStage ((Stage.filter condition).chars ++ rest) (Stage.filter condition).reread
      rest := by
  have hword : Takes (Token.word ["where", "filter"]) ((Stage.filter condition).chars ++ rest)
      "where" (' ' :: (condition.chars ++ rest)) := rfl
  exact reads_behind_word hword (h.solid rest) (reads_map (spans_wellFormed h hrest.stops))

theorem reads_extend {columns : List Column} (hne : columns ≠ [])
    (hcolumns : ∀ c ∈ columns, c.expr.WellFormed) :
    Reads extendStage ((Stage.extend columns).chars ++ rest) (Stage.extend columns).reread rest := by
  have hread := reads_columns hne hcolumns hrest.stops hrest.no_comma
  have hword : Takes (Token.word ["extend"]) ((Stage.extend columns).chars ++ rest) "extend"
      (' ' :: (commaJoined (columns.map Column.chars) ++ rest)) := rfl
  have hsolid := solid_commaJoined hne fun c _ => solid_column c
  exact reads_behind_word hword (hsolid rest) (reads_map hread)

theorem reads_project {columns : List Column} (hne : columns ≠ [])
    (hcolumns : ∀ c ∈ columns, c.expr.WellFormed) :
    Reads projectStage ((Stage.project columns).chars ++ rest) (Stage.project columns).reread
      rest := by
  have hread := reads_columns hne hcolumns hrest.stops hrest.no_comma
  have hword : Takes Token.projectWord ((Stage.project columns).chars ++ rest) "project"
      (' ' :: (commaJoined (columns.map Column.chars) ++ rest)) := rfl
  have hsolid := solid_commaJoined hne fun c _ => solid_column c
  exact reads_behind_word hword (hsolid rest) (reads_map hread)

/-- Names separated by commas. -/
theorem reads_names {names : List String} (hne : names ≠ []) :
    Reads (commaSeparated columnName) (commaJoined (names.map nameChars) ++ rest) names rest := by
  have hitems : ∀ name ∈ names, Solid (nameChars name) ∧ ∀ after, Token.atWordEnd after = true →
      Reads columnName (nameChars name ++ after) name after :=
    fun name _ => ⟨solid_nameChars name, fun _ hafter => (takes_columnName name hafter).reads⟩
  have hread : Reads (commaSeparated columnName) (commaJoined (names.map nameChars) ++ rest)
      (names.map fun name => name) rest := by
    refine reads_commaSeparated ?_ hne hitems hrest.stops.wordEnd hrest.no_comma
    exact fun _ => rfl
  rwa [List.map_id'] at hread

theorem reads_namesStage {word : String} {stage : List String → Stage} {names : List String}
    (hne : names ≠ []) {cs : List Char} (hword : Takes (Token.word [word]) cs word
      (' ' :: (commaJoined (names.map nameChars) ++ rest))) :
    Reads (namesStage word stage) cs (.ok (stage names)) rest := by
  have hsolid := solid_commaJoined hne fun name _ => solid_nameChars name
  exact reads_behind_word hword (hsolid rest) (reads_map (reads_names hrest hne))

omit hrest in
theorem reads_unfold {name : String} {args : List Expr} (hname : Token.IsName name)
    (hargs : ∀ e ∈ args, e.WellFormed) :
    Reads unfoldStage ((Stage.unfold name args).chars ++ rest) (Stage.unfold name args).reread
      rest := by
  have hcall := takes_call (fun e he => ⟨hargs e he, spans_wellFormed (hargs e he)⟩) hname rest
  have hword : Takes (Token.word ["evaluate"]) ((Stage.unfold name args).chars ++ rest) "evaluate"
      (' ' :: (name.toList ++ ('(' :: (listChars args ++ [')'])) ++ rest)) := by
    have htext : (Stage.unfold name args).chars
        = "evaluate ".toList ++ (name.toList ++ '(' :: listChars args ++ [')']) := rfl
    have hargsText : name.toList ++ '(' :: listChars args ++ [')']
        = name.toList ++ ('(' :: (listChars args ++ [')'])) := by
      rw [List.append_assoc, List.cons_append]
    rw [htext, hargsText, List.append_assoc]
    rfl
  refine reads_behind_word hword ?_ (reads_map_eq hcall.reads ?_)
  · rw [List.append_assoc, solid_name hname]
  · rw [Stage.reread]
    cases rereadAll args <;> rfl

omit hrest in
/-- Aggregations separated by commas. -/
theorem reads_aggregations {aggregations : List Aggregation} (hne : aggregations ≠ [])
    (haggregations : ∀ a ∈ aggregations, Token.IsName a.function ∧ ∀ e ∈ a.args, e.WellFormed)
    (hend : (dropBlank false rest).head? ≠ some ',') :
    Reads (commaSeparated aggregation) (commaJoined (aggregations.map Aggregation.chars) ++ rest)
      (aggregations.map Aggregation.reread) rest := by
  have hitems : ∀ a ∈ aggregations, Solid a.chars ∧ ∀ after, True →
      Reads aggregation (a.chars ++ after) a.reread after := by
    intro a ha
    obtain ⟨hname, hargs⟩ := haggregations a ha
    exact ⟨solid_aggregation a, fun after _ => (takes_aggregation hname hargs after).reads⟩
  exact reads_commaSeparated (fun _ => trivial) hne hitems trivial hend

omit hrest in
/-- A summary is written with its columns behind `by`, when there are any. -/
theorem summary_chars (s : Summary) :
    s.chars = "summarize ".toList ++ commaJoined (s.aggregations.map Aggregation.chars)
      ++ (if (s.columns.map Column.chars).isEmpty then [] else
        " by ".toList ++ commaJoined (s.columns.map Column.chars)) := by
  have hbin (b : TimeBin) : b.chars = b.column.chars := by
    simp [TimeBin.chars, TimeBin.column, Column.chars, chars, listChars]
  have hcolumns : s.groups.map Column.chars ++ s.bin.toList.map TimeBin.chars
      = s.columns.map Column.chars := by
    simp [Summary.columns, funext hbin]
  rw [← hcolumns]
  rfl

/-- **What stands behind the aggregations**: `by` and the columns, or nothing, and then no `by` is
found. -/
theorem reads_byClause {s : Summary} (hcolumns : ∀ c ∈ s.columns, c.expr.WellFormed) :
    ∃ clause found,
      s.chars = "summarize ".toList ++ commaJoined (s.aggregations.map Aggregation.chars) ++ clause ∧
      found.getD [] = s.columns.map Column.reread ∧
      (dropBlank false (clause ++ rest)).head? ≠ some ',' ∧
      Reads (optional byClause) (dropBlank false (clause ++ rest)) found rest := by
  by_cases hne : s.columns = []
  · refine ⟨[], none, ?_, ?_, hrest.no_comma, dropBlank false rest, takes_optional_none ?_,
      dropBlank_dropBlank false rest⟩
    · rw [summary_chars, hne, List.map_nil, if_pos List.isEmpty_nil]
    · rw [hne, List.map_nil, Option.getD_none]
    · refine refuses_rule (refuses_bind ?_)
      rw [List.nil_append]
      rcases hrest with rfl | ⟨cs, rfl⟩
      · rfl
      · rw [dropBlank_space, dropBlank_cons (by decide) (by decide)]
        rfl
  · have hread := reads_columns hne hcolumns hrest.stops hrest.no_comma
    have hsolid := solid_commaJoined hne fun c _ => solid_column c
    have hempty : ¬ (s.columns.map Column.chars).isEmpty = true := by
      rw [List.isEmpty_iff, List.map_eq_nil_iff]
      exact hne
    have htext := summary_chars s
    rw [if_neg hempty] at htext
    generalize commaJoined (s.columns.map Column.chars) = columns at hread hsolid htext
    have hword : Takes (Token.word ["by"]) ('b' :: 'y' :: ' ' :: (columns ++ rest)) "by"
        (' ' :: (columns ++ rest)) := rfl
    have hblank : dropBlank false (" by ".toList ++ columns ++ rest)
        = 'b' :: 'y' :: ' ' :: (columns ++ rest) := by
      rw [List.append_assoc]
      exact (dropBlank_space _).trans (dropBlank_cons (by decide) (by decide) _)
    refine ⟨_, some (s.columns.map Column.reread), htext, rfl, ?_, ?_⟩
    · rw [hblank]
      exact fun h => by cases h
    · rw [hblank]
      exact reads_optional (reads_behind_word hword (hsolid rest) hread)

theorem reads_summarize {s : Summary} (hs : s.WellFormed) :
    Reads summarizeStage ((Stage.summarize s).chars ++ rest) (Stage.summarize s).reread rest := by
  obtain ⟨clause, found, htext, hfound, hcomma, hby⟩ := reads_byClause hrest hs.columns
  have hsolid := solid_commaJoined hs.nonempty fun a _ => solid_aggregation a
  have hread := reads_aggregations hs.nonempty hs.aggregations hcomma
  have hvalue : (summary (s.aggregations.map Aggregation.reread) (found.getD [])).map
      Stage.summarize = (Stage.summarize s).reread := congrArg (fun columns =>
        (summary (s.aggregations.map Aggregation.reread) columns).map Stage.summarize) hfound
  have hchars : (Stage.summarize s).chars ++ rest = "summarize ".toList
      ++ (commaJoined (s.aggregations.map Aggregation.chars) ++ (clause ++ rest)) := by
    change s.chars ++ rest = _
    rw [htext, List.append_assoc, List.append_assoc]
  generalize commaJoined (s.aggregations.map Aggregation.chars) = aggregations at *
  have hword : Takes (Token.word ["summarize"])
      ("summarize ".toList ++ (aggregations ++ (clause ++ rest))) "summarize"
      (' ' :: (aggregations ++ (clause ++ rest))) := rfl
  rw [hchars]
  exact reads_behind_word hword (hsolid _) (reads_bind_blank hread (reads_map_eq hby hvalue))

theorem reads_take (count : Nat) :
    Reads takeStage ((Stage.take count).chars ++ rest) (Stage.take count).reread rest := by
  have hdigits : Takes Token.digits (Digits.write count ++ rest) (Digits.write count) rest :=
    takes_scan (Token.scanDigits_write count (Token.noDigit_of_atWordEnd hrest.stops.wordEnd))
  have hword : Takes (Token.word ["take", "limit"]) ((Stage.take count).chars ++ rest) "take"
      (' ' :: (Digits.write count ++ rest)) := rfl
  have hsolid : Solid (Digits.write count) := by
    obtain ⟨c, cs, hchars, hc⟩ := Digits.write_cons count
    rw [hchars]
    refine solid_cons (Token.isSpace_of_isNameChar (Token.isDigit_isNameChar hc)) ?_ cs
    rintro rfl
    exact absurd hc (by decide)
  exact reads_behind_word hword (hsolid rest) (reads_map hdigits.reads)

/-- **The text of a stage is read as what it means.** -/
theorem reads_stage {s : Stage} (hs : s.WellFormed) :
    Reads stage (s.chars ++ rest) s.reread rest := by
  cases hs with
  | filter h => exact reads_orElse_left (reads_filter hrest h)
  | extend hne hcolumns =>
      exact reads_orElse_right rfl (reads_orElse_left (reads_extend hrest hne hcolumns))
  | remove hne =>
      exact reads_orElse_right rfl (reads_orElse_right rfl (reads_orElse_left
        (reads_namesStage hrest hne rfl)))
  | keep hne =>
      exact reads_orElse_right rfl (reads_orElse_right rfl (reads_orElse_right rfl
        (reads_orElse_left (reads_namesStage hrest hne rfl))))
  | project hne hcolumns =>
      exact reads_orElse_right rfl (reads_orElse_right rfl (reads_orElse_right rfl
        (reads_orElse_right rfl (reads_orElse_left (reads_project hrest hne hcolumns)))))
  | unfold hname hargs =>
      exact reads_orElse_right rfl (reads_orElse_right rfl (reads_orElse_right rfl
        (reads_orElse_right rfl (reads_orElse_right rfl (reads_orElse_left
          (reads_unfold hname hargs))))))
  | summarize hsummary =>
      exact reads_orElse_right rfl (reads_orElse_right rfl (reads_orElse_right rfl
        (reads_orElse_right rfl (reads_orElse_right rfl (reads_orElse_right rfl
          (reads_orElse_left (reads_summarize hrest hsummary)))))))
  | take count =>
      exact reads_orElse_right rfl (reads_orElse_right rfl (reads_orElse_right rfl
        (reads_orElse_right rfl (reads_orElse_right rfl (reads_orElse_right rfl
          (reads_orElse_right rfl (reads_orElse_left (reads_take hrest count))))))))

end Stage

/-! ### Stages one after the other -/

/-- The stages, each behind a bar. -/
theorem stageEnd_stages (stages : List Stage) :
    StageEnd (stages.flatMap fun s => " | ".toList ++ s.chars) := by
  cases stages with
  | nil => exact .inl rfl
  | cons s stages => exact .inr ⟨_, rfl⟩

theorem solid_stage (s : Stage) : Solid s.chars := by
  cases s <;> exact fun _ => dropBlank_cons (by decide) (by decide) _

theorem repeats_stages {stages : List Stage} (hstages : ∀ s ∈ stages, s.WellFormed) :
    Repeats (token "|" >>= fun _ => blank >>= fun _ => stage)
      (stages.flatMap fun s => " | ".toList ++ s.chars) (stages.map Stage.reread) [] := by
  induction stages with
  | nil => exact .stop rfl
  | cons s stages ih =>
      have hmore := ih fun t ht => hstages t (List.mem_cons_of_mem s ht)
      have hread := reads_stage (stageEnd_stages stages) (hstages s (List.mem_cons_self ..))
      rw [List.flatMap_cons]
      generalize (stages.flatMap fun s => " | ".toList ++ s.chars) = more at hmore hread ⊢
      have hblank : dropBlank false (" | ".toList ++ s.chars ++ more)
          = '|' :: ' ' :: (s.chars ++ more) := by
        change dropBlank false (' ' :: '|' :: ' ' :: (s.chars ++ more)) = _
        rw [dropBlank_space, dropBlank_cons (by decide) (by decide)]
      -- Repetition goes on behind the bar, with a shorter text.
      refine .more ?_ ?_ hmore
      · rw [hblank]
        refine reads_bind (takes_token "|" (' ' :: (s.chars ++ more)))
          (reads_bind (takes_blank _) ?_)
        rw [dropBlank_space, solid_stage s]
        exact hread
      · have := length_dropBlank_le false more
        rw [hblank, List.length_cons, List.length_cons, List.length_append]
        omega

/-- The stages up to the end of the text. -/
theorem takes_stages {α : Type} {stages : List Stage} (hstages : ∀ s ∈ stages, s.WellFormed)
    (f : List (Draft Stage) → α) :
    Takes (many (token "|" >>= fun _ => blank >>= fun _ => stage) >>= fun stages =>
      blank >>= fun _ => finish >>= fun _ => pure (f stages))
      (dropBlank false (stages.flatMap fun s => " | ".toList ++ s.chars))
      (f (stages.map Stage.reread)) [] := by
  have hfinish : Takes finish (dropBlank false []) () [] := rfl
  exact takes_bind_blank (reads_many (repeats_stages hstages))
    (takes_bind hfinish (takes_pure _ []))

end Grammar

end EventQuery
