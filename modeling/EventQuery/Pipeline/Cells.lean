/-
**Cells by group.**

A cell is a record that stands for a group; a group is named by the texts of its values.  Cells are
kept in the order in which they came up.

Main definitions:

* `GroupKey` — the name of a group;
* `Cells` — the cells;
* `Cells.get?`, `Cells.update` — one cell.
-/

import EventQuery.Value.Text

set_option relaxedAutoImplicit false
set_option autoImplicit false

namespace EventQuery

/-- **The name of a group**: the texts of its values. -/
abbrev GroupKey : Type := List String

/-- The name of the group of given values. -/
def GroupKey.ofValues (values : List Value) : GroupKey := values.map Value.text

/-- **Cells by group**, in the order in which they came up. -/
abbrev Cells : Type := List (GroupKey × Record)

namespace Cells

/-- The cell of a group. -/
def get? : Cells → GroupKey → Option Record
  | [], _ => none
  | (k, cell) :: rest, key => if k = key then some cell else get? rest key

/-- **Change the cell of a group**, which begins as `seed` when there is none. -/
def update (cells : Cells) (key : GroupKey) (seed : Record) (f : Record → Record) : Cells :=
  match cells with
  | [] => [(key, f seed)]
  | (k, cell) :: rest =>
      if k = key then (k, f cell) :: rest else (k, cell) :: update rest key seed f

/-- The records of all cells. -/
def records (cells : Cells) : List Record := cells.map Prod.snd

theorem get?_update (cells : Cells) (key other : GroupKey) (seed : Record) (f : Record → Record) :
    (cells.update key seed f).get? other
      = if key = other then some (f ((cells.get? key).getD seed)) else cells.get? other := by
  induction cells with
  | nil => simp [update, get?]
  | cons cell rest ih =>
      obtain ⟨k, c⟩ := cell
      unfold update
      by_cases hk : k = key
      · subst hk
        by_cases ho : k = other <;> simp [get?, ho]
      · rw [if_neg hk]
        by_cases ho : k = other
        · subst ho
          simp [get?, Ne.symm hk]
        · simp [get?, ho, hk, ih]

end Cells

end EventQuery
