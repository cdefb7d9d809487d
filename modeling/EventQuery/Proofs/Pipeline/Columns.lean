/-
**The columns of aggregations.**

A cell keeps the running values of all aggregations in one record, by the names of their columns.
Which records belong to a cell does not depend on the aggregations: it is settled by the division of
time and the grouping expressions.  A column holds what all aggregations that bear its name fold
into it together, one after the other, beginning with the seed of the last one.  So an aggregation
has its column for itself when it alone bears its name, whatever the other aggregations are and
however the columns of the groups and of the window are named; two aggregations of one name fold
into each other.

Main definitions:

* `Division`, `Summarizer.division` — the division of time and the grouping expressions;
* `Sorting`, `Division.sort` — **the records of each cell**, in the order in which cells go out;
* `Summarizer.taken`, `Summarizer.emitted` — the records that a run takes in, and lets out;
* `Summarizer.together` — what the aggregations of one name fold together;
* `Aggregate.folded` — what an aggregation folds by itself;
* `Summarizer.Sole` — an aggregation bears its name alone.

Main results:

* `Summarizer.get?_foldInputs`, `Summarizer.get?_newCell` — one column of a cell;
* `Summarizer.Sorts.step`, `Summarizer.Sorts.run` — **cells show their records**;
* `Summarizer.columns_of_run` — **what the columns of aggregations hold**;
* `Summarizer.sums_of_one_name` — two sums of one name.
-/

import EventQuery.Pipeline.Basic
import EventQuery.Proofs.Pipeline.Advance
import Mathlib

set_option relaxedAutoImplicit false
set_option autoImplicit false

namespace EventQuery

/-! ### The records of a cell -/

/-- A record, and what it is evaluated in. -/
abbrev Entry : Type := Environment × Record

/-- **What settles the cell of a record**: the source of its time with the duration of windows, and
the grouping expressions. -/
structure Division where
  time : Option (Expr × Timespan)
  groups : List Expr

/-- Records sorted so far: the end of the open window, and the records of each of its groups. -/
structure Sorting where
  windowEnd : Option Instant
  cells : List (GroupKey × List Entry)

namespace Division

/-- The end of the window of a record, and whether the window that was open is closed. -/
def move (d : Division) (windowEnd : Option Instant) (entry : Entry) :
    Option (Option Instant × Bool) :=
  match d.time with
  | none => some (windowEnd, false)
  | some (source, duration) => do
      let v ← (source.eval entry.1 entry.2).toOption
      let t ← v.toInstant?
      let (stop, closes) ← (Window.advance windowEnd t duration).toOption
      return (some stop, closes)

/-- The group of a record. -/
def key? (d : Division) (entry : Entry) : Option GroupKey :=
  (d.groups.mapM fun e : Expr => e.eval entry.1 entry.2).toOption.map GroupKey.ofValues

end Division

namespace Sorting

/-- A record joins those of its group. -/
def join (key : GroupKey) (entry : Entry) :
    List (GroupKey × List Entry) → List (GroupKey × List Entry)
  | [] => [(key, [entry])]
  | (k, members) :: rest =>
      if k = key then (k, members ++ [entry]) :: rest else (k, members) :: join key entry rest

/-- **One more record**, and the cells that go out with it. -/
def add (d : Division) (g : Sorting) (entry : Entry) : Sorting × List (List Entry) :=
  match d.move g.windowEnd entry, d.key? entry with
  | some (stop, closes), some key =>
      (⟨stop, join key entry (if closes then [] else g.cells)⟩,
        if closes then g.cells.map Prod.snd else [])
  | _, _ => (g, [])

/-- Records, one after the other. -/
def addAll (d : Division) (g : Sorting) : List Entry → Sorting × List (List Entry)
  | [] => (g, [])
  | entry :: rest =>
      let made := g.add d entry
      let behind := addAll d made.1 rest
      (behind.1, made.2 ++ behind.2)

end Sorting

/-- Nothing gets lost when a record joins its group. -/
theorem Sorting.perm_join (key : GroupKey) (entry : Entry) (cells : List (GroupKey × List Entry)) :
    ((join key entry cells).flatMap Prod.snd).Perm (cells.flatMap Prod.snd ++ [entry]) := by
  induction cells with
  | nil => exact .refl _
  | cons cell rest ih =>
      obtain ⟨k, members⟩ := cell
      rw [join]
      by_cases hk : k = key
      · rw [if_pos hk, List.flatMap_cons, List.flatMap_cons, List.append_assoc, List.append_assoc]
        exact List.perm_append_comm.append_left members
      · rw [if_neg hk, List.flatMap_cons, List.flatMap_cons, List.append_assoc]
        exact ih.append_left members

/-- **The records of each cell**, in the order in which the cells go out. -/
def Division.sort (d : Division) (entries : List Entry) : List (List Entry) :=
  let made := Sorting.addAll d ⟨none, []⟩ entries
  made.2 ++ made.1.cells.map Prod.snd

/-! ### What a column holds -/

namespace Aggregate

/-- Inputs of several aggregations, folded one after the other by those that bear a name. -/
def foldEach (name : String) (inputs : List (Aggregate × Value)) (running : Value) : Value :=
  (inputs.filter fun input => input.1.name == name).foldl
    (fun running input => input.1.fold running input.2) running

/-- **What an aggregation folds by itself** over records. -/
def folded (a : Aggregate) (members : List Entry) : Result Value :=
  (members.mapM fun entry => Summarizer.inputOf entry.1 entry.2 a).map fun inputs =>
    inputs.foldl a.fold a.seed

end Aggregate

namespace Summarizer

/-- What settles the cells of a summary. -/
def division (s : Summarizer) : Division where
  time := s.bin.map fun bin => (bin.source, bin.duration)
  groups := s.groups.map Column.expr

/-- The records that a run takes in. -/
def taken (s : Summarizer) : List Entry → List Entry
  | [] => []
  | entry :: rest =>
      match s.next entry.1 entry.2 with
      | (s, .ok _) => entry :: s.taken rest
      | (s, .error _) => s.taken rest

/-- **All that a run lets out**, with what goes out at the end. -/
def emitted (s : Summarizer) (entries : List Entry) : List Record :=
  (s.feed entries).2.flatMap Prod.snd ++ (s.feed entries).1.complete.2

/-- The inputs that a record has for the aggregations. -/
def inputs (s : Summarizer) (entry : Entry) : Result (List Value) :=
  s.aggregates.mapM (inputOf entry.1 entry.2)

/-- The aggregations that bear a name. -/
def bearers (s : Summarizer) (name : String) : List Aggregate :=
  s.aggregates.filter fun a => a.name == name

/-- The value of a column at the beginning: the last aggregation of the name gives it. -/
def seedOf (s : Summarizer) (name : String) : Value :=
  ((s.bearers name).getLast?.map Aggregate.seed).getD .null

/-- Rows of inputs, folded into one column. -/
def column (s : Summarizer) (name : String) (rows : List (List Value)) : Value :=
  rows.foldl (fun running row => Aggregate.foldEach name (s.aggregates.zip row) running)
    (s.seedOf name)

/-- **What the aggregations of one name fold together** over records. -/
def together (s : Summarizer) (name : String) (members : List Entry) : Result Value :=
  (members.mapM s.inputs).map (s.column name)

/-- **An aggregation bears its name alone.** -/
def Sole (s : Summarizer) (a : Aggregate) : Prop := s.bearers a.name = [a]

end Summarizer

/-! ### Folding -/

namespace Aggregate

variable {a : Aggregate} {name : String}

theorem foldEach_cons_of_eq (h : a.name = name) (v : Value) (rest : List (Aggregate × Value))
    (running : Value) :
    foldEach name ((a, v) :: rest) running = foldEach name rest (a.fold running v) := by
  rw [foldEach, List.filter_cons, if_pos (beq_iff_eq.2 h)]
  rfl

theorem foldEach_cons_of_ne (h : a.name ≠ name) (v : Value) (rest : List (Aggregate × Value))
    (running : Value) : foldEach name ((a, v) :: rest) running = foldEach name rest running := by
  rw [foldEach, List.filter_cons, if_neg (by rwa [beq_iff_eq])]
  rfl

end Aggregate

namespace Summarizer

variable {s : Summarizer}

/-- **Folding inputs, seen in one column.** -/
theorem get?_foldInputs (cell : Record) (inputs : List (Aggregate × Value)) (name : String) :
    Fields.get? (foldInputs cell inputs) name
      = (Fields.get? cell name).map (Aggregate.foldEach name inputs) := by
  induction inputs generalizing cell with
  | nil => exact Option.map_id'.symm
  | cons input rest ih =>
      obtain ⟨a, v⟩ := input
      rw [foldInputs]
      by_cases hname : a.name = name
      · subst hname
        cases hcell : Fields.get? cell a.name with
        | none => rw [ih, hcell, Option.map_none, Option.map_none]
        | some running =>
            rw [ih, Fields.get?_put_self, Option.map_some, Option.map_some,
              Aggregate.foldEach_cons_of_eq rfl]
      · have hrest : Aggregate.foldEach name ((a, v) :: rest) = Aggregate.foldEach name rest :=
          funext (Aggregate.foldEach_cons_of_ne hname v rest)
        rw [hrest]
        cases hcell : Fields.get? cell a.name with
        | none => exact ih cell
        | some running => rw [ih, Fields.get?_put, if_neg hname]

/-- Names that are given values one after the other: the last value of a name stays. -/
theorem get?_putAll_seeds (front : Record) (as : List Aggregate) (name : String) :
    Fields.get? (Fields.putAll front (as.map fun a => (a.name, a.seed))) name
      = (((as.filter fun a => a.name == name).getLast?.map Aggregate.seed).or
          (Fields.get? front name)) := by
  induction as using List.reverseRecOn with
  | nil => rfl
  | append_singleton rest a ih =>
      have hput : Fields.putAll front ((rest ++ [a]).map fun a => (a.name, a.seed))
          = (Fields.putAll front (rest.map fun a => (a.name, a.seed))).put a.name a.seed := by
        rw [Fields.putAll, List.map_append, List.foldl_append]
        rfl
      rw [hput, Fields.get?_put, List.filter_append, List.filter_cons, List.filter_nil]
      by_cases hname : a.name = name
      · rw [if_pos hname, if_pos (beq_iff_eq.2 hname), List.getLast?_concat]
        rfl
      · rw [if_neg hname, if_neg (by rwa [beq_iff_eq]), List.append_nil, ih]

/-- **A new cell, seen in one column**: the seeds take the place of whatever stood there. -/
theorem get?_newCell (s : Summarizer) (values : List Value) {a : Aggregate}
    (ha : a ∈ s.aggregates) :
    Fields.get? (s.newCell values) a.name = some (s.seedOf a.name) := by
  have hbearer : a ∈ s.bearers a.name := List.mem_filter.2 ⟨ha, beq_self_eq_true _⟩
  obtain ⟨last, hlast⟩ := Option.isSome_iff_exists.1
    (List.getLast?_isSome.2 (List.ne_nil_of_mem hbearer))
  have hseeds := get?_putAll_seeds
    (Fields.putAll [] (s.windowStart ++ (s.groups.map Column.name).zip values)) s.aggregates a.name
  change _ = ((s.bearers a.name).getLast?.map Aggregate.seed).or _ at hseeds
  rw [hlast] at hseeds
  rw [seedOf, hlast, newCell, Fields.ofPairs, Fields.putAll, List.foldl_append]
  exact hseeds

/-! ### Cells show their records -/

/-- **A cell shows records**: each column of an aggregation holds what all aggregations of its name
fold together over them. -/
def Shows (s : Summarizer) (cell : Record) (members : List Entry) : Prop :=
  ∃ rows, members.mapM s.inputs = .ok rows ∧
    ∀ a ∈ s.aggregates, Fields.get? cell a.name = some (s.column a.name rows)

/-- A new cell shows no records. -/
theorem shows_newCell (s now : Summarizer) (hshape : SameShape s now) (values : List Value) :
    s.Shows (now.newCell values) [] := by
  refine ⟨[], rfl, fun a ha => ?_⟩
  rw [get?_newCell now values (hshape.aggregates ▸ ha), seedOf, bearers, hshape.aggregates]
  rfl

/-- **One more record is folded into the cell.** -/
theorem Shows.concat {cell : Record} {members : List Entry} (h : s.Shows cell members) {entry : Entry}
    {row : List Value} (hrow : s.inputs entry = .ok row) :
    s.Shows (foldInputs cell (s.aggregates.zip row)) (members ++ [entry]) := by
  obtain ⟨rows, hrows, hcolumns⟩ := h
  refine ⟨rows ++ [row], ?_, fun a ha => ?_⟩
  · rw [List.mapM_append, hrows]
    simp [hrow, bind, Except.bind, pure, Except.pure]
  · rw [get?_foldInputs, hcolumns a ha, Option.map_some, column, column, List.foldl_append]
    rfl

/-- A cell and a group of records: the cell has the key of the group and shows its records. -/
def Matches (s : Summarizer) (cell : GroupKey × Record) (group : GroupKey × List Entry) : Prop :=
  cell.1 = group.1 ∧ s.Shows cell.2 group.2

/-- **A record finds its cell and its group.** -/
theorem matches_update {cells : Cells} {groups : List (GroupKey × List Entry)}
    (h : List.Forall₂ s.Matches cells groups) {seed : Record} (hseed : s.Shows seed [])
    {entry : Entry} {row : List Value} (hrow : s.inputs entry = .ok row) (key : GroupKey) :
    List.Forall₂ s.Matches
      (cells.update key seed fun cell => foldInputs cell (s.aggregates.zip row))
      (Sorting.join key entry groups) := by
  induction h with
  | nil => exact .cons ⟨rfl, hseed.concat hrow⟩ .nil
  | @cons cell group _ _ hcell hrest ih =>
      obtain ⟨k, cell⟩ := cell
      obtain ⟨k', members⟩ := group
      obtain ⟨rfl, hshows⟩ := hcell
      rw [Cells.update, Sorting.join]
      by_cases hk : k = key
      · rw [if_pos hk, if_pos hk]
        exact .cons ⟨rfl, hshows.concat hrow⟩ hrest
      · rw [if_neg hk, if_neg hk]
        exact .cons ⟨rfl, hshows⟩ ih

theorem shows_records {cells : Cells} {groups : List (GroupKey × List Entry)}
    (h : List.Forall₂ s.Matches cells groups) :
    List.Forall₂ s.Shows cells.records (groups.map Prod.snd) :=
  List.forall₂_map_left_iff.2 (List.forall₂_map_right_iff.2 (h.imp fun _ _ h => h.2))

/-! ### Runs -/

/-- **The state of a summary and the records sorted so far.** -/
structure Sorts (s now : Summarizer) (g : Sorting) : Prop where
  shape : SameShape s now
  windowEnd : now.windowEnd = g.windowEnd
  cells : List.Forall₂ s.Matches now.cells g.cells

section Step

variable {now moved : Summarizer} {env : Environment} {r : Record} {x : Arrival}
  {out : List Record} (hshape : SameShape s now) (harrival : now.arrival env r = .ok x)
include hshape harrival

/-- The group of a record is that of its values. -/
theorem key?_of_arrival : s.division.key? (env, r) = some (key x) := by
  obtain ⟨-, hvalues, -⟩ := arrival_eq_ok harrival
  rw [hshape.groups] at hvalues
  rw [Division.key?, division, List.mapM_map]
  change ((s.groups.mapM fun column : Column => column.expr.eval env r).toOption).map _ = _
  rw [hvalues]
  rfl

/-- **The windows of a summary move as the division of time says.** -/
theorem move_of_openWindow (hopen : now.openWindow x.time = .ok (moved, out)) :
    ∃ closes, s.division.move now.windowEnd (env, r) = some (moved.windowEnd, closes) ∧
      SameShape s moved ∧ moved.cells = (if closes then [] else now.cells) ∧
      out = if closes then now.cells.records else [] := by
  obtain ⟨htime, -, -⟩ := arrival_eq_ok harrival
  obtain ⟨-, hsome⟩ := arrival_spec harrival
  rw [hshape.bin] at htime hsome
  rcases openWindow_cases hopen with ⟨rfl, rfl, hmissing⟩ | ⟨bin, t, stop, hbin, ht, hmoved⟩
  · have hbin : s.bin = none := bin_eq_none hshape hsome hmissing
    exact ⟨false, by rw [Division.move, division, hbin]; rfl, hshape, rfl, rfl⟩
  · have hsbin : s.bin = some bin := hshape.bin ▸ hbin
    rw [hsbin] at htime
    obtain ⟨t', ht', htimeOf⟩ := time_of_mapM htime
    obtain rfl : t' = t := Option.some.inj (ht'.symm.trans ht)
    have hmove : ∀ closes, now.advance bin t' = .ok (stop, closes) →
        s.division.move now.windowEnd (env, r) = some (some stop, closes) := by
      intro closes hadvance
      rw [advance] at hadvance
      unfold timeOf at htimeOf
      obtain ⟨v, hv, htimeOf⟩ := Except.bind_eq_ok_iff.1 htimeOf
      have hinstant := Result.ofOption_eq_ok_iff.1 htimeOf
      simp [Division.move, division, hsbin, hv, hinstant, hadvance, Except.toOption]
    rcases hmoved with ⟨hadvance, rfl, rfl⟩ | ⟨hadvance, rfl, rfl⟩
    · exact ⟨false, hmove _ hadvance, ⟨hshape.aggregates, hshape.groups, hshape.bin⟩, rfl, rfl⟩
    · exact ⟨true, hmove _ hadvance, ⟨hshape.aggregates, hshape.groups, hshape.bin⟩, rfl, rfl⟩

end Step

variable {now : Summarizer} {g : Sorting}

section Taken

variable (h : Sorts s now g) {env : Environment} {r : Record} {x : Arrival} {moved : Summarizer}
  {out : List Record} (harrival : now.arrival env r = .ok x)
  (hopen : now.openWindow x.time = .ok (moved, out))
include h harrival hopen

/-- A record that is taken in has a window and a group. -/
theorem Sorts.add_eq : ∃ closes : Bool, g.add s.division (env, r)
      = (⟨moved.windowEnd, Sorting.join (key x) (env, r) (if closes then [] else g.cells)⟩,
        if closes then g.cells.map Prod.snd else []) ∧
      SameShape s moved ∧ moved.cells = (if closes then [] else now.cells) ∧
      out = if closes then now.cells.records else [] := by
  obtain ⟨closes, hmove, hmoved⟩ := move_of_openWindow h.shape harrival hopen
  rw [h.windowEnd] at hmove
  exact ⟨closes, by rw [Sorting.add, hmove, key?_of_arrival h.shape harrival], hmoved⟩

/-- **One record that is taken in** is folded into the cell of its group. -/
theorem Sorts.step : Sorts s (moved.absorb x) (g.add s.division (env, r)).1 ∧
    List.Forall₂ s.Shows out (g.add s.division (env, r)).2 := by
  obtain ⟨closes, hadd, hmoved, hcells, hout⟩ := h.add_eq harrival hopen
  have hrow : s.inputs (env, r) = .ok x.inputs := by
    rw [inputs, ← h.shape.aggregates]
    exact (arrival_eq_ok harrival).2.2
  have hkept : List.Forall₂ s.Matches moved.cells (if closes then [] else g.cells) := by
    rw [hcells]
    cases closes with
    | true => exact .nil
    | false => exact h.cells
  rw [hadd]
  refine ⟨⟨⟨hmoved.aggregates, hmoved.groups, hmoved.bin⟩, rfl, ?_⟩, ?_⟩
  · rw [absorb, hmoved.aggregates]
    exact matches_update hkept (shows_newCell s moved hmoved x.groupValues) hrow (key x)
  · rw [hout]
    cases closes with
    | true => exact shows_records h.cells
    | false => exact .nil

/-- It joins the records that have been sorted. -/
theorem Sorts.perm_step :
    ((g.add s.division (env, r)).2.flatten
      ++ (g.add s.division (env, r)).1.cells.flatMap Prod.snd).Perm
        (g.cells.flatMap Prod.snd ++ [(env, r)]) := by
  obtain ⟨closes, hadd, -⟩ := h.add_eq harrival hopen
  rw [hadd]
  cases closes with
  | true => exact .refl _
  | false => exact Sorting.perm_join (key x) (env, r) g.cells

end Taken

/-- **A run**: the cells show their records, and these are the ones that are taken in. -/
theorem Sorts.run (h : Sorts s now g) (entries : List Entry) :
    let sorted := g.addAll s.division (now.taken entries)
    Sorts s (now.feed entries).1 sorted.1 ∧
      List.Forall₂ s.Shows ((now.feed entries).2.flatMap Prod.snd) sorted.2 ∧
      (sorted.2.flatten ++ sorted.1.cells.flatMap Prod.snd).Perm
        (g.cells.flatMap Prod.snd ++ now.taken entries) := by
  induction entries generalizing now g with
  | nil => exact ⟨h, .nil, by rw [taken, List.append_nil]; exact .refl _⟩
  | cons entry rest ih =>
      obtain ⟨env, r⟩ := entry
      rw [feed, taken]
      rcases now.next_cases env r with ⟨x, moved, out, harrival, hopen, hnext⟩ | ⟨e, hnext⟩
      · obtain ⟨hstep, hout⟩ := h.step harrival hopen
        have hperm := h.perm_step harrival hopen
        obtain ⟨hrest, hbehind, hothers⟩ := ih hstep
        rw [harrival, hnext]
        refine ⟨hrest, List.rel_append hout hbehind, ?_⟩
        have htail := hperm.append_right ((moved.absorb x).taken rest)
        rw [List.append_assoc, List.append_assoc] at htail
        rw [Sorting.addAll, List.flatten_append, List.append_assoc]
        exact (hothers.append_left _).trans htail
      · rw [hnext]
        cases harrival : now.arrival env r <;> exact ih h

/-- Whatever goes out shows the records of a cell, and each record that is taken in belongs to one
cell. -/
theorem shows_emitted {summary : Summary} (hs : ofSummary summary = .ok s) (entries : List Entry) :
    List.Forall₂ s.Shows (s.emitted entries) (s.division.sort (s.taken entries)) ∧
      (s.division.sort (s.taken entries)).flatten.Perm (s.taken entries) := by
  obtain ⟨-, hnone, hcells⟩ := ofSummary_spec hs
  have hstart : Sorts s s ⟨none, []⟩ := ⟨⟨rfl, rfl, rfl⟩, hnone, by rw [hcells]; exact .nil⟩
  obtain ⟨hend, hout, hperm⟩ := hstart.run entries
  refine ⟨List.rel_append hout (shows_records hend.cells), ?_⟩
  rw [Division.sort, List.flatten_append]
  exact hperm

/-! ### Names that are borne once -/

/-- Where an aggregation bears its name alone, a row has one input for the column. -/
theorem foldEach_of_filter {as : List Aggregate} {a : Aggregate} {f : Aggregate → Result Value}
    {row : List Value} (hrow : as.mapM f = .ok row) :
    ((as.filter fun b => b.name == a.name) = [] →
      ∀ running, Aggregate.foldEach a.name (as.zip row) running = running) ∧
    ((as.filter fun b => b.name == a.name) = [a] →
      ∃ v, f a = .ok v ∧
        ∀ running, Aggregate.foldEach a.name (as.zip row) running = a.fold running v) := by
  induction as generalizing row with
  | nil => exact ⟨fun _ _ => rfl, fun h => nomatch h⟩
  | cons b rest ih =>
      obtain ⟨v, others, hv, hothers, rfl⟩ := Except.mapM_cons_eq_ok_iff.1 hrow
      obtain ⟨ihnone, ihone⟩ := ih hothers
      rw [List.zip_cons_cons, List.filter_cons]
      by_cases hname : b.name = a.name
      · rw [if_pos (beq_iff_eq.2 hname)]
        refine ⟨(nomatch ·), fun h => ?_⟩
        obtain ⟨rfl, hrest⟩ := List.cons.inj h
        refine ⟨v, hv, fun running => ?_⟩
        rw [Aggregate.foldEach_cons_of_eq rfl, ihnone hrest]
      · rw [if_neg (by rwa [beq_iff_eq])]
        constructor
        · intro h running
          rw [Aggregate.foldEach_cons_of_ne hname, ihnone h]
        · intro h
          obtain ⟨w, hw, hfold⟩ := ihone h
          exact ⟨w, hw, fun running => by rw [Aggregate.foldEach_cons_of_ne hname, hfold]⟩

/-- **An aggregation that bears its name alone has the column for itself.** -/
theorem Sole.folded_eq {a : Aggregate} (h : s.Sole a) {members : List Entry}
    {rows : List (List Value)} (hrows : members.mapM s.inputs = .ok rows) :
    a.folded members = .ok (s.column a.name rows) := by
  have hinputs : ∃ vs, (members.mapM fun entry => inputOf entry.1 entry.2 a) = .ok vs ∧
      ∀ running, rows.foldl (fun running row =>
        Aggregate.foldEach a.name (s.aggregates.zip row) running) running
          = vs.foldl a.fold running := by
    induction members generalizing rows with
    | nil =>
        cases hrows
        exact ⟨[], rfl, fun _ => rfl⟩
    | cons entry rest ih =>
        obtain ⟨row, others, hrow, hothers, rfl⟩ := Except.mapM_cons_eq_ok_iff.1 hrows
        obtain ⟨v, hv, hfold⟩ := (foldEach_of_filter hrow).2 h
        obtain ⟨vs, hvs, hall⟩ := ih hothers
        refine ⟨v :: vs, Except.mapM_cons_eq_ok_iff.2 ⟨v, vs, hv, hvs, rfl⟩, fun running => ?_⟩
        rw [List.foldl_cons, List.foldl_cons, hfold, hall]
  have hseed : s.seedOf a.name = a.seed := by rw [seedOf, h]; rfl
  obtain ⟨vs, hvs, hall⟩ := hinputs
  rw [Aggregate.folded, hvs, column, hall, hseed]
  rfl

/-- The columns of all cells that go out. -/
theorem map_get?_eq {a : Aggregate} {cells cells' : List Record} {groups : List (List Entry)}
    (h : List.Forall₂ (fun cell members =>
      ∃ v, a.folded members = .ok v ∧ Fields.get? cell a.name = some v) cells groups)
    (h' : List.Forall₂ (fun cell members =>
      ∃ v, a.folded members = .ok v ∧ Fields.get? cell a.name = some v) cells' groups) :
    cells'.map (Fields.get? · a.name) = cells.map (Fields.get? · a.name) := by
  induction h generalizing cells' with
  | nil =>
      cases h'
      rfl
  | cons hcell _ ih =>
      cases h' with
      | cons hcell' hrest' =>
          obtain ⟨v, hv, hget⟩ := hcell
          obtain ⟨v', hv', hget'⟩ := hcell'
          obtain rfl : v = v' := Except.ok.inj (hv.symm.trans hv')
          rw [List.map_cons, List.map_cons, hget, hget', ih hrest']

/-- **What the columns of aggregations hold.**  The cells that a run lets out stand for the records
that it takes in, as the division of time and the grouping expressions sort them.  In each of them
the column of an aggregation holds what all aggregations of its name fold together over the records;
where an aggregation bears its name alone, it holds what that one folds by itself.  Then the column
is the same in every summary of that division which takes in the same records, whatever its other
aggregations and the names of its groups and of its window are. -/
theorem columns_of_run {summary : Summary} (hs : ofSummary summary = .ok s)
    (entries : List Entry) :
    let groups := s.division.sort (s.taken entries)
    groups.flatten.Perm (s.taken entries) ∧
    List.Forall₂ (fun cell members => ∀ a ∈ s.aggregates,
      ∃ v, s.together a.name members = .ok v ∧ Fields.get? cell a.name = some v)
      (s.emitted entries) groups ∧
    (∀ a, s.Sole a → List.Forall₂ (fun cell members =>
      ∃ v, a.folded members = .ok v ∧ Fields.get? cell a.name = some v)
      (s.emitted entries) groups) ∧
    ∀ (summary' : Summary) (s' : Summarizer) (a : Aggregate), ofSummary summary' = .ok s' →
      s'.division = s.division → s'.taken entries = s.taken entries → s.Sole a → s'.Sole a →
      (s'.emitted entries).map (Fields.get? · a.name)
        = (s.emitted entries).map (Fields.get? · a.name) := by
  intro groups
  have hsole : ∀ {summary : Summary} {s : Summarizer}, ofSummary summary = .ok s →
      ∀ a, s.Sole a → List.Forall₂ (fun cell members =>
        ∃ v, a.folded members = .ok v ∧ Fields.get? cell a.name = some v)
        (s.emitted entries) (s.division.sort (s.taken entries)) := by
    intro summary s hs a ha
    refine (shows_emitted hs entries).1.imp fun cell members hshows => ?_
    obtain ⟨rows, hrows, hcolumns⟩ := hshows
    have hmem : a ∈ s.bearers a.name := ha ▸ List.mem_singleton_self a
    exact ⟨_, ha.folded_eq hrows, hcolumns a (List.mem_filter.1 hmem).1⟩
  obtain ⟨hshows, hperm⟩ := shows_emitted hs entries
  refine ⟨hperm, hshows.imp fun cell members hcell a ha => ?_, hsole hs, ?_⟩
  · obtain ⟨rows, hrows, hcolumns⟩ := hcell
    exact ⟨_, by rw [together, hrows]; rfl, hcolumns a ha⟩
  · intro summary' s' a hs' hdivision htaken ha ha'
    have hother := hsole hs' a ha'
    rw [hdivision, htaken] at hother
    exact map_get?_eq (hsole hs a ha) hother

/-- A sum beside another one, and the same sum alone and with another name for the group. -/
theorem column_of_named_sum :
    let x : Aggregate := ⟨"x", "sum", .sum, some (.property "a")⟩
    let s : Summarizer := ⟨[x, ⟨"sum", "sum", .sum, some (.property "b")⟩],
      [⟨"k", .property "k"⟩], none, none, []⟩
    let s' : Summarizer := ⟨[x], [⟨"Column1", .property "k"⟩], none, none, []⟩
    let entries : List Entry := [(default, [("a", .int 1), ("b", .int 10), ("k", .string "u")]),
      (default, [("a", .int 2), ("b", .int 20), ("k", .string "u")])]
    ofSummary ⟨[⟨"x", "sum", [.property "a"]⟩, ⟨"sum", "sum", [.property "b"]⟩],
        [⟨"k", .property "k"⟩], none⟩ = .ok s ∧
      ofSummary ⟨[⟨"x", "sum", [.property "a"]⟩], [⟨"Column1", .property "k"⟩], none⟩ = .ok s' ∧
      s'.division = s.division ∧ s'.taken entries = s.taken entries ∧ s.Sole x ∧ s'.Sole x ∧
      (s.emitted entries).map (Fields.get? · "x") = [some (.long 3)] ∧
      (s'.emitted entries).map (Fields.get? · "x") = [some (.long 3)] := by
  intro x s s' entries
  have hs : ofSummary ⟨[⟨"x", "sum", [.property "a"]⟩, ⟨"sum", "sum", [.property "b"]⟩],
      [⟨"k", .property "k"⟩], none⟩ = .ok s := rfl
  have hs' : ofSummary ⟨[⟨"x", "sum", [.property "a"]⟩], [⟨"Column1", .property "k"⟩], none⟩
      = .ok s' := rfl
  have htaken : s'.taken entries = s.taken entries := by rfl
  have hemitted : (s.emitted entries).map (Fields.get? · "x") = [some (.long 3)] := by rfl
  have hsame := (columns_of_run hs entries).2.2.2 _ s' x hs' rfl htaken rfl rfl
  exact ⟨hs, hs', rfl, htaken, rfl, rfl, hemitted, hsame.trans hemitted⟩

/-- **Two sums without a name of their own** bear the name of their function.  They share one column
and fold into each other. -/
theorem sums_of_one_name :
    let s : Summarizer := ⟨[⟨"sum", "sum", .sum, some (.property "a")⟩,
      ⟨"sum", "sum", .sum, some (.property "b")⟩], [], none, none, []⟩
    let entries : List Entry := [(default, [("a", .int 1), ("b", .int 10)])]
    Pipeline.read "T | summarize sum(a), sum(b)" = .ok ⟨[.summarize s]⟩ ∧
      s.aggregates.map (fun a => a.folded entries) = [.ok (.long 1), .ok (.long 10)] ∧
      s.taken entries = entries ∧ s.emitted entries = [[("sum", .long 11)]] := by
  intro s entries
  exact ⟨by cbv, rfl, rfl, rfl⟩

end Summarizer

end EventQuery
