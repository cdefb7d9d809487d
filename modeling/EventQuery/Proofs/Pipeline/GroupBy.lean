/-
**What a summary asks for.**

Records are put into windows and groups.  The window of a record is the one that holds its time, or
a later one that has been opened before it.  Each pair of a window and a group that comes up is one
record of the result, and what it holds is said here for all records at once, without a state.

Main definitions:

* `peaks` — the running maxima of numbers;
* `Summarizer.windows`, `Summarizer.pairs` — the window of each record, and its group;
* `Summarizer.members` — the records of a pair;
* `Summarizer.cell?` — **the record of a pair**.

Main results:

* `peaks_concat`, `eraseDups_concat` — one more number, one more pair;
* `Summarizer.cell?_concat_of_ne`, `Summarizer.cell?_concat_of_mem`,
  `Summarizer.cell?_concat_of_notMem` — the record of a pair when one more record comes.
-/

import EventQuery.Proofs.Pipeline.Cells
import EventQuery.Proofs.Pipeline.Windows
import Mathlib.Data.List.Induction

set_option relaxedAutoImplicit false
set_option autoImplicit false

namespace EventQuery

/-! ### Running maxima -/

/-- **The running maxima** of numbers: each one is replaced by the greatest up to it. -/
def peaks : List Int → List Int
  | [] => []
  | n :: rest => n :: (peaks rest).map (max n)

@[simp] theorem length_peaks (ns : List Int) : (peaks ns).length = ns.length := by
  induction ns with
  | nil => rfl
  | cons n rest ih => rw [peaks, List.length_cons, List.length_map, ih, List.length_cons]

theorem eq_nil_of_peaks {ns : List Int} (h : (peaks ns).getLast? = none) : ns = [] := by
  rw [List.getLast?_eq_none_iff] at h
  rw [← List.length_eq_zero_iff, ← length_peaks, h, List.length_nil]

/-- One more number. -/
theorem peaks_concat {ns : List Int} {m : Int} (h : (peaks ns).getLast? = some m) (n : Int) :
    peaks (ns ++ [n]) = peaks ns ++ [max m n] := by
  induction ns generalizing m with
  | nil => cases h
  | cons k rest ih =>
      rw [peaks, List.getLast?_cons, List.getLast?_map] at h
      rw [List.cons_append, peaks, peaks, List.cons_append]
      cases hlast : (peaks rest).getLast? with
      | none =>
          obtain rfl := eq_nil_of_peaks hlast
          rw [hlast] at h
          cases h
          rfl
      | some top =>
          rw [hlast] at h
          cases h
          rw [ih hlast, List.map_append, List.map_singleton]
          congr 3
          change max k (max top n) = max (max k top) n
          omega

/-! ### Distinct pairs -/

section Distinct

variable {α : Type} [BEq α] [LawfulBEq α]

/-- One more item is a new one or not. -/
theorem eraseDups_concat (as : List α) (a : α) :
    (as ++ [a]).eraseDups = if a ∈ as then as.eraseDups else as.eraseDups ++ [a] := by
  rw [List.eraseDups_append]
  by_cases h : a ∈ as
  · rw [if_pos h]
    simp [List.removeAll, h]
  · rw [if_neg h]
    simp [List.removeAll, h, List.eraseDups_cons]

theorem nodup_eraseDups (as : List α) : as.eraseDups.Nodup := by
  induction as using List.reverseRecOn with
  | nil => exact List.nodup_nil
  | append_singleton rest a ih =>
      rw [eraseDups_concat]
      by_cases h : a ∈ rest
      · rw [if_pos h]
        exact ih
      · rw [if_neg h, List.nodup_append]
        refine ⟨ih, List.pairwise_singleton _ a, fun b hb c hc he => ?_⟩
        rw [List.mem_singleton.1 hc] at he
        exact h (List.mem_eraseDups.1 (he ▸ hb))

end Distinct

namespace Summarizer

variable (s : Summarizer) (a : Int)

/-! ### Windows and groups -/

/-- The names of all columns that go out. -/
def columnNames : List String :=
  s.bin.toList.map TimeBin.name ++ s.groups.map Column.name ++ s.aggregates.map Aggregate.name

/-- **The beginning of the first window**, in nanoseconds. -/
def origin (xs : List Arrival) : Int :=
  match s.bin, xs.head?.bind Arrival.time with
  | some bin, some t => Window.origin bin.duration t
  | _, _ => 0

/-- The window that holds the time of a record, counted from the one that begins at `a`. -/
def place (x : Arrival) : Int :=
  match s.bin, x.time with
  | some bin, some t => (t.epochNanos - a) / bin.duration.nanos
  | _, _ => 0

/-- **The window of each record**: a late one goes to the window that is open. -/
def windows (xs : List Arrival) : List Int := peaks (xs.map (s.place a))

/-- The group of a record. -/
def key (x : Arrival) : GroupKey := GroupKey.ofValues x.groupValues

/-- **The window and the group of each record.** -/
def pairs (xs : List Arrival) : List (Int × GroupKey) := (s.windows a xs).zip (xs.map key)

/-- **The records of a pair**, in order. -/
def members (xs : List Arrival) (p : Int × GroupKey) : List Arrival :=
  (((s.pairs a xs).zip xs).filter fun m => m.1 == p).map Prod.snd

/-! ### Records of pairs -/

/-- The column that tells when a window begins, without a window none. -/
def windowColumn? (w : Int) : Option Record :=
  match s.bin with
  | some bin =>
      (Instant.ofEpochNanos? (a + w * bin.duration.nanos)).map fun t => [(bin.name, .datetime t)]
  | none => some []

/-- The record that stands for records of one window and one group: the beginning of the window,
the values of the group as the first record has them, and the folds of the inputs. -/
def record? (w : Int) : List Arrival → Option Record
  | [] => none
  | first :: rest =>
      (s.windowColumn? a w).map fun column =>
        column ++ (s.groups.map Column.name).zip first.groupValues
          ++ Aggregate.totals s.aggregates ((first :: rest).map Arrival.inputs)

/-- **The record of a pair.** -/
def cell? (xs : List Arrival) (p : Int × GroupKey) : Option Record :=
  s.record? a p.1 (s.members a xs p)

variable {s a}

/-! ### One more record -/

theorem length_windows (xs : List Arrival) : (s.windows a xs).length = xs.length := by
  rw [windows, length_peaks, List.length_map]

theorem windows_singleton (x : Arrival) : s.windows a [x] = [s.place a x] := rfl

/-- The next window is the open one or a later one. -/
theorem windows_concat {xs : List Arrival} {w : Int} (h : (s.windows a xs).getLast? = some w)
    (x : Arrival) : s.windows a (xs ++ [x]) = s.windows a xs ++ [max w (s.place a x)] := by
  rw [windows, List.map_append, List.map_singleton]
  exact peaks_concat h _

theorem length_pairs (xs : List Arrival) : (s.pairs a xs).length = xs.length := by
  rw [pairs, List.length_zip, length_windows, List.length_map, Nat.min_self]

/-- When a record is put into the window `w`, its pair joins the others. -/
theorem pairs_concat {xs : List Arrival} {x : Arrival} {w : Int}
    (h : s.windows a (xs ++ [x]) = s.windows a xs ++ [w]) :
    s.pairs a (xs ++ [x]) = s.pairs a xs ++ [(w, key x)] := by
  rw [pairs, h, List.map_append, List.zip_append]
  · rfl
  · rw [length_windows, List.length_map]

/-- ... and the record joins the ones of its pair. -/
theorem members_concat {xs : List Arrival} {x : Arrival} {w : Int}
    (h : s.windows a (xs ++ [x]) = s.windows a xs ++ [w]) (p : Int × GroupKey) :
    s.members a (xs ++ [x]) p = s.members a xs p ++ if (w, key x) = p then [x] else [] := by
  rw [members, pairs_concat h, List.zip_append (length_pairs xs), List.filter_append,
    List.map_append]
  by_cases hp : (w, key x) = p
  · rw [if_pos hp, hp]
    simp [members]
  · rw [if_neg hp]
    simp [members, hp]

theorem members_eq_nil {xs : List Arrival} {p : Int × GroupKey} (h : p ∉ s.pairs a xs) :
    s.members a xs p = [] := by
  rw [members, List.map_eq_nil_iff, List.filter_eq_nil_iff]
  intro m hm he
  rw [beq_iff_eq] at he
  exact h (he ▸ (List.of_mem_zip hm).1)

theorem members_ne_nil {xs : List Arrival} {p : Int × GroupKey} (h : p ∈ s.pairs a xs) :
    s.members a xs p ≠ [] := by
  obtain ⟨i, hi, rfl⟩ := List.mem_iff_getElem.1 h
  have hx : i < xs.length := length_pairs (s := s) (a := a) xs ▸ hi
  have hmem : ((s.pairs a xs)[i], xs[i]) ∈ (s.pairs a xs).zip xs :=
    List.mem_iff_getElem.2 ⟨i, by rw [List.length_zip, length_pairs]; omega, List.getElem_zip⟩
  have hkept : xs[i] ∈ s.members a xs (s.pairs a xs)[i] :=
    List.mem_map.2 ⟨_, List.mem_filter.2 ⟨hmem, beq_self_eq_true _⟩, rfl⟩
  exact List.ne_nil_of_mem hkept

/-! ### Records that grow -/

/-- Values that are missing shorten a list of columns at its end. -/
theorem fst_zip_sublist {α β : Type} (as : List α) (bs : List β) :
    ((as.zip bs).map Prod.fst).Sublist as := by
  induction as generalizing bs with
  | nil => exact List.Sublist.refl []
  | cons a rest ih =>
      cases bs with
      | nil => exact List.nil_sublist _
      | cons b bs => exact (ih bs).cons_cons a

/-- The names of the columns of a record differ where those of the summary do. -/
theorem nodup_front (hnames : s.columnNames.Nodup) {w : Int} {column : Record}
    (hcolumn : s.windowColumn? a w = some column) (values : List Value) :
    (Fields.names (column ++ (s.groups.map Column.name).zip values)
      ++ s.aggregates.map Aggregate.name).Nodup := by
  have hwindow : Fields.names column = s.bin.toList.map TimeBin.name := by
    rw [windowColumn?] at hcolumn
    cases hbin : s.bin with
    | none =>
        rw [hbin] at hcolumn
        cases hcolumn
        rfl
    | some bin =>
        rw [hbin] at hcolumn
        obtain ⟨t, -, rfl⟩ := Option.map_eq_some_iff.1 hcolumn
        rfl
  have hgroups : (((s.groups.map Column.name).zip values).map Prod.fst).Sublist
      (s.groups.map Column.name) := fst_zip_sublist _ values
  rw [Fields.names, List.map_append]
  rw [Fields.names] at hwindow
  rw [hwindow]
  exact hnames.sublist (((List.Sublist.refl _).append hgroups).append (List.Sublist.refl _))

/-- **A record that is there takes in another one**: its inputs are folded into the columns of the
aggregations. -/
theorem record?_concat (hnames : s.columnNames.Nodup) {x : Arrival}
    (hlength : x.inputs.length = s.aggregates.length) {xs : List Arrival} (hxs : xs ≠ [])
    (w : Int) : s.record? a w (xs ++ [x])
      = (s.record? a w xs).map fun cell => foldInputs cell (s.aggregates.zip x.inputs) := by
  cases xs with
  | nil => exact absurd rfl hxs
  | cons first rest =>
      rw [List.cons_append, record?, record?, ← List.cons_append]
      cases hcolumn : s.windowColumn? a w with
      | none => rfl
      | some column =>
          rw [Option.map_some, Option.map_some, Option.map_some,
            foldInputs_totals hlength (nodup_front hnames hcolumn _), List.map_append,
            List.map_singleton]

/-- **A record begins** with the seeds, into which the inputs of the first one are folded. -/
theorem record?_singleton (hnames : s.columnNames.Nodup) {x : Arrival}
    (hlength : x.inputs.length = s.aggregates.length) (w : Int) :
    s.record? a w [x]
      = (s.windowColumn? a w).map fun column =>
          foldInputs (column ++ (s.groups.map Column.name).zip x.groupValues
            ++ s.aggregates.map fun a => (a.name, a.seed)) (s.aggregates.zip x.inputs) := by
  rw [record?]
  cases hcolumn : s.windowColumn? a w with
  | none => rfl
  | some column =>
      rw [Option.map_some, Option.map_some, ← Aggregate.totals_nil,
        foldInputs_totals hlength (nodup_front hnames hcolumn _)]
      rfl

section Concat

variable {xs : List Arrival} {x : Arrival} {w : Int}
  (h : s.windows a (xs ++ [x]) = s.windows a xs ++ [w])
include h

/-- The records of other pairs do not change. -/
theorem cell?_concat_of_ne {p : Int × GroupKey} (hp : p ≠ (w, key x)) :
    s.cell? a (xs ++ [x]) p = s.cell? a xs p := by
  rw [cell?, cell?, members_concat h, if_neg (Ne.symm hp), List.append_nil]

/-- The record of a pair that is there takes in the new one. -/
theorem cell?_concat_of_mem (hnames : s.columnNames.Nodup)
    (hlength : x.inputs.length = s.aggregates.length) (hp : (w, key x) ∈ s.pairs a xs) :
    s.cell? a (xs ++ [x]) (w, key x)
      = (s.cell? a xs (w, key x)).map fun cell =>
          foldInputs cell (s.aggregates.zip x.inputs) := by
  rw [cell?, cell?, members_concat h, if_pos rfl,
    record?_concat hnames hlength (members_ne_nil hp)]

/-- The record of a new pair begins with the new one. -/
theorem cell?_concat_of_notMem (hp : (w, key x) ∉ s.pairs a xs) :
    s.cell? a (xs ++ [x]) (w, key x) = s.record? a w [x] := by
  rw [cell?, members_concat h, if_pos rfl, members_eq_nil hp, List.nil_append]

end Concat

end Summarizer

end EventQuery
