/-
**What a cell adds up to.**

A cell is built as inputs come in: it begins with the seeds of its aggregations, and each record
folds its inputs into the columns of the aggregations.  Column by column it is the fold of all
inputs.

Main definitions:

* `Aggregate.totals` — the columns of the aggregations over rows of inputs.

Main results:

* `Summarizer.foldInputs_totals` — **one more row**;
* `Cells.update_of_mem`, `Cells.update_of_notMem` — cells are found by their keys.
-/

import EventQuery.Pipeline.Summarizer

set_option relaxedAutoImplicit false
set_option autoImplicit false

namespace EventQuery

namespace Aggregate

/-! ### Columns of aggregations -/

/-- **The columns of aggregations over rows of inputs**: each folds its own column of the rows. -/
def totals : List Aggregate → List (List Value) → Record
  | [], _ => []
  | a :: rest, rows =>
      (a.name, (rows.map fun row => row.headD .null).foldl a.fold a.seed)
        :: totals rest (rows.map List.tail)

/-- Without rows there are the seeds. -/
theorem totals_nil (as : List Aggregate) : totals as [] = as.map fun a => (a.name, a.seed) := by
  induction as with
  | nil => rfl
  | cons a rest ih =>
      rw [totals, List.map_nil, List.map_nil, ih]
      rfl

end Aggregate

namespace Summarizer

open Aggregate (totals)

/-- **One more row** is folded into the columns of the aggregations.  The columns in front of them,
which have other names, stay. -/
theorem foldInputs_totals {as : List Aggregate} {inputs : List Value} {front : Record}
    (hlength : inputs.length = as.length) (hnames : (front.names ++ as.map Aggregate.name).Nodup)
    (rows : List (List Value)) :
    foldInputs (front ++ totals as rows) (as.zip inputs)
      = front ++ totals as (rows ++ [inputs]) := by
  -- The columns that have been dealt with join the ones in front.
  induction as generalizing front rows inputs with
  | nil => rfl
  | cons a rest ih =>
      obtain ⟨input, inputs, rfl⟩ : ∃ x xs, inputs = x :: xs :=
        List.exists_cons_of_length_eq_add_one hlength
      have hfresh : a.name ∉ front.names := fun hmem =>
        (List.nodup_append.1 hnames).2.2 a.name hmem a.name (List.mem_cons_self ..) rfl
      have hcolumn : ∀ rows, front ++ totals (a :: rest) rows
          = front ++ [(a.name, (rows.map fun row => row.headD .null).foldl a.fold a.seed)]
            ++ totals rest (rows.map List.tail) := by
        intro rows
        rw [totals, List.append_cons]
      have hrest : ∀ v, (Fields.names (front ++ [(a.name, v)])
          ++ rest.map Aggregate.name).Nodup := by
        intro v
        rw [Fields.names, List.map_append, List.append_assoc]
        exact hnames
      rw [totals, List.zip_cons_cons, foldInputs, Fields.get?_append hfresh]
      simp only
      rw [Fields.put_append hfresh, List.append_cons, hcolumn]
      rw [List.map_append, List.foldl_append, List.map_append]
      exact ih (Nat.succ.inj hlength) (hrest _) (rows.map List.tail)

end Summarizer

namespace Cells

/-! ### Cells by key -/

/-- The cell of a key that is there is changed at its place. -/
theorem update_of_mem {cells : Cells} {key : GroupKey} (hnodup : (cells.map Prod.fst).Nodup)
    (hmem : key ∈ cells.map Prod.fst) (seed : Record) (f : Record → Record) :
    cells.update key seed f = cells.map fun c => if c.1 = key then (c.1, f c.2) else c := by
  induction cells with
  | nil => exact absurd hmem List.not_mem_nil
  | cons c rest ih =>
      obtain ⟨k, cell⟩ := c
      rw [List.map_cons, List.nodup_cons] at hnodup
      rw [update, List.map_cons]
      by_cases hk : k = key
      · subst hk
        have hrest : ∀ c ∈ rest, c.1 ≠ k := by
          intro c hc he
          exact hnodup.1 (List.mem_map.2 ⟨c, hc, he⟩)
        rw [if_pos rfl, if_pos rfl, List.cons_eq_cons]
        refine ⟨rfl, ?_⟩
        rw [List.map_congr_left fun c hc => if_neg (hrest c hc), List.map_id']
      · rw [List.map_cons, List.mem_cons] at hmem
        rw [if_neg hk, if_neg hk, ih hnodup.2 (hmem.resolve_left (Ne.symm hk))]

/-- A cell of a new key comes last. -/
theorem update_of_notMem {cells : Cells} {key : GroupKey} (h : key ∉ cells.map Prod.fst)
    (seed : Record) (f : Record → Record) :
    cells.update key seed f = cells ++ [(key, f seed)] := by
  induction cells with
  | nil => rfl
  | cons c rest ih =>
      obtain ⟨k, cell⟩ := c
      rw [List.map_cons, List.mem_cons, not_or] at h
      rw [update, if_neg (Ne.symm h.1), ih h.2, List.cons_append]

end Cells

end EventQuery
