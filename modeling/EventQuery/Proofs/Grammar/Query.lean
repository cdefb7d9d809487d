/-
**Queries are read back as they were written.**

The stages of the core language mean themselves: their columns are written with their names, so
none has to be found or numbered, and no division of time is found in them.  With a source that is
one name, then, a query is read back.

Main definitions:

* `Stage.Printable`, `Query.Printable` — **the queries whose text is read back**.

Main results:

* `Stage.Printable.reread` — a stage of the core language means itself;
* `Query.read_print` — **a query is read back**.
-/

import EventQuery.Proofs.Grammar.Source

set_option relaxedAutoImplicit false
set_option autoImplicit false

namespace EventQuery

/-! ### Queries whose text is read back -/

/-- **The stages whose text is read back**: lists are not empty, calls have plain names, and the
number of records fits in 64 bits. -/
inductive Stage.Printable : Stage → Prop where
  | filter {condition : Expr} : condition.Printable → Printable (.filter condition)
  | extend {columns : List Column} : columns ≠ [] → (∀ c ∈ columns, c.expr.Printable) →
      Printable (.extend columns)
  | project {columns : List Column} : columns ≠ [] → (∀ c ∈ columns, c.expr.Printable) →
      Printable (.project columns)
  | remove {names : List String} : names ≠ [] → Printable (.remove names)
  | keep {names : List String} : names ≠ [] → Printable (.keep names)
  | unfold {name : String} {args : List Expr} : Expr.isPlainName name = true →
      (∀ e ∈ args, e.Printable) → Printable (.unfold name args)
  | summarize {aggregations : List Aggregation} {groups : List Column} : aggregations ≠ [] →
      (∀ a ∈ aggregations, Expr.isPlainName a.function = true ∧ ∀ e ∈ a.args, e.Printable) →
      (∀ c ∈ groups, c.expr.Printable) → Printable (.summarize ⟨aggregations, groups, none⟩)
  | take {count : Nat} : count < 0x10000000000000000 → Printable (.take count)

/-- **The queries whose text is read back**: the source is one plain name if there is one. -/
structure Query.Printable (q : Query) : Prop where
  source : ∀ s ∈ q.source, Expr.isPlainName s = true
  stages : ∀ s ∈ q.stages, s.Printable

namespace Grammar

/-! ### What columns mean -/

theorem mapM_extendColumn (columns : List Column) :
    (columns.map fun c => (Except.ok (some c.name, c.expr) : Draft (Option String × Expr))).mapM
      (fun draft => draft >>= extendColumn) = Except.ok columns := by
  induction columns with
  | nil => rfl
  | cons c columns ih =>
      rw [List.map_cons, List.mapM_cons, ih]
      rfl

theorem projectColumns_named (unnamed : Nat) (columns : List Column) :
    projectColumns unnamed
      (columns.map fun c => .ok (some c.name, c.expr)) = .ok columns := by
  induction columns with
  | nil => rfl
  | cons c columns ih =>
      rw [List.map_cons, projectColumns]
      change (projectColumns unnamed _ >>= _) = _
      rw [ih]
      rfl

/-- No division of time is read back from an expression without timespans. -/
theorem timeBin?_printable {e : Expr} (h : e.Printable) : timeBin? e = none := by
  unfold timeBin?
  split
  · next name source duration =>
      cases h with
      | call _ _ hargs =>
          have hconst := hargs (.const (.timespan duration)) (by simp)
          cases hconst with
          | const hv => cases hv
  · rfl

theorem addAll_named (groups : List Column) (hgroups : ∀ c ∈ groups, c.expr.Printable)
    (before : List Column) (unnamed : Nat) :
    Grouping.addAll ⟨before, none, unnamed⟩
      (groups.map fun c => .ok (some c.name, c.expr)) = .ok ⟨before ++ groups, none, unnamed⟩ := by
  induction groups generalizing before with
  | nil => rw [List.map_nil, Grouping.addAll, List.append_nil]
  | cons c groups ih =>
      have hadd : Grouping.add ⟨before, none, unnamed⟩ (some c.name, c.expr)
          = .ok ⟨before ++ [c], none, unnamed⟩ := by
        simp only [Grouping.add, timeBin?_printable (hgroups c (List.mem_cons_self ..))]
        rfl
      rw [List.map_cons, Grouping.addAll]
      change (Grouping.add _ _ >>= _) = _
      rw [hadd]
      change Grouping.addAll _ _ = _
      rw [ih (fun d hd => hgroups d (List.mem_cons_of_mem c hd)), List.append_assoc,
        List.singleton_append]

theorem summary_named (aggregations : List Aggregation) (groups : List Column)
    (hgroups : ∀ c ∈ groups, c.expr.Printable) :
    summary (aggregations.map .ok) (groups.map fun c => .ok (some c.name, c.expr))
      = .ok ⟨aggregations, groups, none⟩ := by
  rw [summary, Draft.all_ok]
  change (Grouping.addAll _ _ >>= _) = _
  rw [addAll_named groups hgroups]
  rfl

end Grammar

/-! ### What stages mean -/

namespace Stage

theorem reread_columns {columns : List Column} (h : ∀ c ∈ columns, c.expr.Printable) :
    columns.map Column.reread = columns.map fun c => .ok (some c.name, c.expr) := by
  refine List.map_congr_left fun c hc => ?_
  rw [Column.reread, (h c hc).reread]
  rfl

theorem reread_aggregations {aggregations : List Aggregation}
    (h : ∀ a ∈ aggregations, Expr.isPlainName a.function = true ∧ ∀ e ∈ a.args, e.Printable) :
    aggregations.map Aggregation.reread = aggregations.map .ok := by
  refine List.map_congr_left fun a ha => ?_
  rw [Aggregation.reread, Expr.rereadAll_ok fun e he => ((h a ha).2 e he).reread]
  rfl

theorem Printable.wellFormed {s : Stage} (h : s.Printable) : s.WellFormed := by
  cases h with
  | filter hcondition => exact .filter hcondition.wellFormed
  | extend hne hcolumns => exact .extend hne fun c hc => (hcolumns c hc).wellFormed
  | project hne hcolumns => exact .project hne fun c hc => (hcolumns c hc).wellFormed
  | remove hne => exact .remove hne
  | keep hne => exact .keep hne
  | unfold hname hargs =>
      exact .unfold (Token.isName_of_isPlainName hname).1 fun e he => (hargs e he).wellFormed
  | @summarize aggregations groups hne haggregations hgroups =>
      refine .summarize ⟨hne, fun a ha => ?_, fun c hc => ?_⟩
      · obtain ⟨hname, hargs⟩ := haggregations a ha
        exact ⟨(Token.isName_of_isPlainName hname).1, fun e he => (hargs e he).wellFormed⟩
      · rw [Summary.columns, Option.toList_none, List.map_nil, List.append_nil] at hc
        exact (hgroups c hc).wellFormed
  | take _ => exact .take _

/-- **A stage of the core language means itself.** -/
theorem Printable.reread {s : Stage} (h : s.Printable) : s.reread = .ok s := by
  cases h with
  | filter hcondition =>
      rw [Stage.reread, hcondition.reread]
      rfl
  | extend hne hcolumns =>
      rw [Stage.reread, reread_columns hcolumns, Grammar.mapM_extendColumn]
      rfl
  | project hne hcolumns =>
      rw [Stage.reread, reread_columns hcolumns, Grammar.projectColumns_named]
      rfl
  | remove hne => rfl
  | keep hne => rfl
  | unfold hname hargs =>
      rw [Stage.reread, Expr.rereadAll_ok fun e he => (hargs e he).reread]
      rfl
  | @summarize aggregations groups hne haggregations hgroups =>
      have hcolumns : Summary.columns ⟨aggregations, groups, none⟩ = groups := by
        rw [Summary.columns, Option.toList_none, List.map_nil, List.append_nil]
      rw [Stage.reread, hcolumns, reread_columns hgroups, reread_aggregations haggregations,
        Grammar.summary_named aggregations groups hgroups]
      rfl
  | take hcount => rw [Stage.reread, Grammar.takeCount, Digits.read_write, if_pos hcount]

end Stage

namespace Grammar

open Reader

/-! ### Queries -/

/-- **The text of a query is taken whole.** -/
theorem takes_query {q : Query} (hq : q.Printable) : Takes query q.chars (.ok q) [] := by
  have hstages := takes_stages (fun s hs => (hq.stages s hs).wellFormed) fun stages =>
    (stages.mapM id).map fun stages => (⟨q.source, stages⟩ : Query)
  have hvalue : ((q.stages.map Stage.reread).mapM id).map
      (fun stages => (⟨q.source, stages⟩ : Query)) = .ok q := by
    have hreread : q.stages.map Stage.reread = q.stages.map .ok :=
      List.map_congr_left fun s hs => (hq.stages s hs).reread
    rw [hreread, Draft.all_ok]
    rfl
  rw [hvalue] at hstages
  have hend := stageEnd_stages q.stages
  rw [Query.chars]
  generalize (q.stages.flatMap fun s => " | ".toList ++ s.chars) = rest at hstages hend ⊢
  have hblank := takes_blank (dropBlank false rest)
  rw [dropBlank_dropBlank] at hblank
  cases hsource : q.source with
  | none =>
      rw [hsource] at hstages
      exact takes_bind (takes_blank rest) (takes_bind
        (takes_optional_none (refuses_source hend)) (takes_bind hblank hstages))
  | some name =>
      have hname := (Token.isName_of_isPlainName (hq.source name hsource)).1
      rw [hsource] at hstages
      refine takes_bind (takes_blank _) ?_
      have htaken := takes_source (dotted_name hname) hend
      rw [String.ofList_toList] at htaken
      rw [Option.getD_some, Expr.solid_name hname]
      exact takes_bind (takes_optional htaken) (takes_bind hblank hstages)

end Grammar

/-- **A query is read back.** -/
theorem Query.read_print {q : Query} (hq : q.Printable) : Query.read q.print = .ok q := by
  have hread := Grammar.takes_query hq
  rw [Reader.Takes] at hread
  rw [Query.read, Query.print, String.toList_ofList]
  simp only [Grammar.settle, hread]
  rfl

/-- A query with reserved names, a negative constant, member access behind a call and parentheses
inside the string of a list. -/
def Query.nested : Query :=
  ⟨some "Events",
    [.filter (.binary (.logic .both) (.not (.property "by"))
        (.between true (.path (.call "tolower" [.property "first name"]) "x") (.const (.int (-1)))
          (.index (.property "long") (.const (.long 2))))),
      .extend [⟨"in", .among false true (.property "a") [.const (.list [.null, .string ")\""])]⟩],
      .summarize ⟨[⟨"n", "count", []⟩], [⟨"user", .property "user"⟩], none⟩, .take 5]⟩

example : Query.nested.print
    = "Events | where (not([\"by\"]) and "
      ++ "(tolower([\"first name\"]).x !between (-1 .. long[long(2)])))"
      ++ " | extend [\"in\"] = (a in~ (dynamic([null,\")\\\"\"])))"
      ++ " | summarize n = count() by user = user | take 5" := by
  decide +kernel

theorem Query.printable_nested : Query.nested.Printable := by
  have hlist : Value.Printable (.list [.null, .string ")\""]) := by
    refine .list (.list fun v hv => ?_)
    rcases List.mem_cons.1 hv with rfl | hv
    · exact .null _
    · rw [List.mem_singleton.1 hv]
      exact .string _ _
  have hcall : Expr.Printable (.call "tolower" [.property "first name"]) := by
    refine .call (by decide) (by decide) fun e he => ?_
    rw [List.mem_singleton.1 he]
    exact .property _
  have hcondition : Expr.Printable (.binary (.logic .both) (.not (.property "by"))
      (.between true (.path (.call "tolower" [.property "first name"]) "x") (.const (.int (-1)))
        (.index (.property "long") (.const (.long 2))))) :=
    .binary _ (.not (.property _)) (.between _ (.path _ hcall rfl) (.const (.int _))
      (.index (.property _) rfl (.const (.long _)) rfl))
  have hcolumn : Expr.Printable
      (.among false true (.property "a") [.const (.list [.null, .string ")\""])]) := by
    refine .among _ _ (.property _) (List.cons_ne_nil _ _) fun c hc => ?_
    rw [List.mem_singleton.1 hc]
    exact .const hlist
  refine ⟨fun s hs => ?_, fun s hs => ?_⟩
  · cases hs
    decide
  · simp only [Query.nested, List.mem_cons, List.not_mem_nil, or_false] at hs
    rcases hs with rfl | rfl | rfl | rfl
    · exact .filter hcondition
    · refine .extend (List.cons_ne_nil _ _) fun c hc => ?_
      rw [List.mem_singleton.1 hc]
      exact hcolumn
    · refine .summarize (List.cons_ne_nil _ _) (fun a ha => ?_) fun c hc => ?_
      · rw [List.mem_singleton.1 ha]
        exact ⟨by decide, fun e he => absurd he List.not_mem_nil⟩
      · rw [List.mem_singleton.1 hc]
        exact .property _
    · exact .take (by decide)

theorem Query.read_print_nested :
    Query.nested.Printable ∧ Query.read Query.nested.print = .ok Query.nested :=
  ⟨Query.printable_nested, Query.read_print Query.printable_nested⟩

end EventQuery
