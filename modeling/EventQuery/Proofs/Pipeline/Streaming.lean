/-
**One record at a time.**

A summary sees one record at a time and keeps the cells of one window.  What it lets out in a run is
what the windows and groups of all records ask for.

Main definitions:

* `closedPairs`, `openPairs` — the pairs of earlier windows, and of one window;
* `Summarizer.AreCellsOf` — the cells are those of one window;
* `Summarizer.Tracks` — **the invariant**: the cells are those of the last window, and those of all
  earlier windows have gone out.

Main results:

* `split_concat` — pairs stay in the order of windows;
* `Summarizer.Tracks.step` — one record;
* `Summarizer.emitted_eq_cells` — **a run lets out one record for each window and group**.
-/

import EventQuery.Proofs.Pipeline.Advance

set_option relaxedAutoImplicit false
set_option autoImplicit false

namespace EventQuery

/-! ### Pairs in order -/

section Pairs

variable {κ : Type} [BEq κ] [LawfulBEq κ]

/-- The distinct pairs of earlier windows. -/
def closedPairs (ps : List (Int × κ)) (w : Int) : List (Int × κ) :=
  ps.eraseDups.filter fun p => decide (p.1 < w)

/-- The distinct pairs of one window. -/
def openPairs (ps : List (Int × κ)) (w : Int) : List (Int × κ) :=
  ps.eraseDups.filter fun p => decide (p.1 = w)

variable {ps : List (Int × κ)} {w w' : Int} {k : κ}

/-- Later pairs add nothing to earlier windows. -/
theorem filter_eraseDups_concat {keep : Int × κ → Bool} {p : Int × κ} (hp : keep p = false) :
    (ps ++ [p]).eraseDups.filter keep = ps.eraseDups.filter keep := by
  rw [eraseDups_concat]
  by_cases hmem : p ∈ ps
  · rw [if_pos hmem]
  · rw [if_neg hmem, List.filter_append, List.filter_cons, if_neg (by simp [hp])]
    exact List.append_nil _

theorem closedPairs_concat (k : κ) : closedPairs (ps ++ [(w, k)]) w = closedPairs ps w :=
  filter_eraseDups_concat (by simp)

theorem openPairs_concat_of_mem (h : (w, k) ∈ ps) :
    openPairs (ps ++ [(w, k)]) w = openPairs ps w := by
  rw [openPairs, eraseDups_concat, if_pos h, openPairs]

theorem openPairs_concat_of_notMem (h : (w, k) ∉ ps) :
    openPairs (ps ++ [(w, k)]) w = openPairs ps w ++ [(w, k)] := by
  rw [openPairs, eraseDups_concat, if_neg h, List.filter_append, openPairs]
  simp

/-- Behind the last window all pairs are of earlier windows. -/
theorem closedPairs_of_lt (hle : ∀ p ∈ ps, p.1 ≤ w) (hw : w < w') :
    closedPairs ps w' = ps.eraseDups := by
  rw [closedPairs, List.filter_eq_self]
  intro p hp
  have := hle p (List.mem_eraseDups.1 hp)
  rw [decide_eq_true_eq]
  omega

theorem openPairs_of_lt (hle : ∀ p ∈ ps, p.1 ≤ w) (hw : w < w') : openPairs ps w' = [] := by
  rw [openPairs, List.filter_eq_nil_iff]
  intro p hp
  have := hle p (List.mem_eraseDups.1 hp)
  rw [decide_eq_true_eq]
  omega

/-- **Pairs stay in the order of windows** when the next one is not of an earlier window. -/
theorem split_concat (hle : ∀ p ∈ ps, p.1 ≤ w) (hw : w ≤ w') (k : κ)
    (hsplit : ps.eraseDups = closedPairs ps w ++ openPairs ps w) :
    (ps ++ [(w', k)]).eraseDups
      = closedPairs (ps ++ [(w', k)]) w' ++ openPairs (ps ++ [(w', k)]) w' := by
  -- The pairs so far are split at the new window, too.
  have hsplit' : ps.eraseDups = closedPairs ps w' ++ openPairs ps w' := by
    rcases Int.lt_or_eq_of_le hw with hlt | rfl
    · rw [closedPairs_of_lt hle hlt, openPairs_of_lt hle hlt, List.append_nil]
    · exact hsplit
  rw [closedPairs_concat, eraseDups_concat]
  by_cases hmem : (w', k) ∈ ps
  · rw [if_pos hmem, openPairs_concat_of_mem hmem]
    exact hsplit'
  · rw [if_neg hmem, openPairs_concat_of_notMem hmem, ← List.append_assoc, ← hsplit']

omit [LawfulBEq κ] in
theorem fst_of_mem_openPairs {p : Int × κ} (hp : p ∈ openPairs ps w) : p.1 = w := by
  simpa using (List.mem_filter.1 hp).2

/-- The keys of one window are distinct. -/
theorem nodup_keys_openPairs (ps : List (Int × κ)) (w : Int) :
    ((openPairs ps w).map Prod.snd).Nodup := by
  have hnodup : (openPairs ps w).Nodup := (nodup_eraseDups ps).sublist List.filter_sublist
  rw [List.Nodup, List.pairwise_map]
  refine hnodup.imp_of_mem fun {p q} hp hq hne he => hne ?_
  exact Prod.ext ((fst_of_mem_openPairs hp).trans (fst_of_mem_openPairs hq).symm) he

end Pairs

namespace Summarizer

/-! ### The invariant -/

/-- What a summary holds after some records, when the last of their windows is `w`. -/
structure Tracks (s : Summarizer) (a : Int) (log : List (Arrival × List Record)) (w : Int)
    (now : Summarizer) : Prop where
  /-- No record has a later window. -/
  le : ∀ v ∈ s.windows a (log.map Prod.fst), v ≤ w
  /-- A record has this window. -/
  reached : log ≠ [] → w ∈ s.windows a (log.map Prod.fst)
  /-- Pairs come in the order of windows. -/
  split : (s.pairs a (log.map Prod.fst)).eraseDups
    = closedPairs (s.pairs a (log.map Prod.fst)) w ++ openPairs (s.pairs a (log.map Prod.fst)) w
  /-- The cells are those of the last window. -/
  cells : now.cells.map (fun c => (c.1, some c.2))
    = (openPairs (s.pairs a (log.map Prod.fst)) w).map
        fun p => (p.2, s.cell? a (log.map Prod.fst) p)
  /-- Everything else has gone out. -/
  closed : (log.flatMap Prod.snd).map some
    = (closedPairs (s.pairs a (log.map Prod.fst)) w).map (s.cell? a (log.map Prod.fst))
  /-- A window has gone out with the first record of a later one. -/
  emitted : ∀ i x out, log[i]? = some (x, out) →
    ∃ v, (s.windows a (log.map Prod.fst))[i]? = some v ∧
      out.map some
        = ((s.pairs a (log.map Prod.fst)).eraseDups.filter fun p =>
            decide (p.1 < v ∧ ∀ u ∈ (s.windows a (log.map Prod.fst)).take i, u ≤ p.1)).map
          (s.cell? a (log.map Prod.fst))

/-- **The cells are those of one window**: one for each of its keys, in the order of the pairs. -/
def AreCellsOf (s : Summarizer) (a : Int) (xs : List Arrival) (w : Int) (cells : Cells) : Prop :=
  cells.map (fun c => (c.1, some c.2))
    = (openPairs (s.pairs a xs) w).map fun p => (p.2, s.cell? a xs p)

variable {s now moved : Summarizer} {a w w' : Int} {log : List (Arrival × List Record)}
  {x : Arrival} {out : List Record}

theorem tracks_nil (hcells : now.cells = []) (w : Int) : Tracks s a [] w now := by
  refine ⟨by simp [windows, peaks], fun h => absurd rfl h, rfl, ?_, rfl, by simp⟩
  rw [hcells]
  rfl

/-- The window of a pair is the one of a record. -/
theorem fst_mem_windows {xs : List Arrival} {p : Int × GroupKey} (hp : p ∈ s.pairs a xs) :
    p.1 ∈ s.windows a xs := (List.of_mem_zip hp).1

theorem Tracks.pairs_le (h : Tracks s a log w now) :
    ∀ p ∈ s.pairs a (log.map Prod.fst), p.1 ≤ w := fun _ hp => h.le _ (fst_mem_windows hp)

/-- Among the pairs of all records, those of no earlier window than any are those of the last. -/
theorem Tracks.filter_last (h : Tracks s a log w now) :
    ((s.pairs a (log.map Prod.fst)).eraseDups.filter fun p =>
        decide (∀ u ∈ s.windows a (log.map Prod.fst), u ≤ p.1))
      = openPairs (s.pairs a (log.map Prod.fst)) w := by
  refine List.filter_congr fun p hp => ?_
  have hp := List.mem_eraseDups.1 hp
  have hle := h.pairs_le p hp
  have hlog : log ≠ [] := by
    rintro rfl
    exact absurd hp List.not_mem_nil
  rw [decide_eq_decide]
  constructor
  · intro hall
    have := hall w (h.reached hlog)
    omega
  · intro he u hu
    have := h.le u hu
    omega

/-- The cells go out as the records of the last window. -/
theorem Tracks.records (h : Tracks s a log w now) :
    now.cells.records.map some
      = (openPairs (s.pairs a (log.map Prod.fst)) w).map (s.cell? a (log.map Prod.fst)) := by
  have hcells := congrArg (List.map Prod.snd) h.cells
  rw [List.map_map, List.map_map] at hcells
  rw [Cells.records, List.map_map]
  exact hcells

/-! ### One record -/

/-- When a window closes, its cells are the ones that go out. -/
theorem Tracks.emits (h : Tracks s a log w now) (hmoved : Turns now moved w w' out) :
    out.map some
      = ((s.pairs a (log.map Prod.fst)).eraseDups.filter fun p =>
          decide (p.1 < w' ∧ ∀ u ∈ s.windows a (log.map Prod.fst), u ≤ p.1)).map
        (s.cell? a (log.map Prod.fst)) := by
  have hboth : ((s.pairs a (log.map Prod.fst)).eraseDups.filter fun p =>
      decide (p.1 < w' ∧ ∀ u ∈ s.windows a (log.map Prod.fst), u ≤ p.1))
      = (openPairs (s.pairs a (log.map Prod.fst)) w).filter fun p => decide (p.1 < w') := by
    rw [← h.filter_last, List.filter_filter]
    simp only [Bool.decide_and]
  rw [hboth]
  rcases hmoved with ⟨rfl, rfl, -⟩ | ⟨hlt, rfl, -⟩
  · rw [List.filter_eq_nil_iff.2 fun p hp => by simp [fst_of_mem_openPairs hp]]
    rfl
  · rw [List.filter_eq_self.2 fun p hp => by simp [fst_of_mem_openPairs hp, hlt]]
    exact h.records

/-- What has gone out, once a record has been taken in. -/
theorem Tracks.closed_moved (h : Tracks s a log w now) (hmoved : Turns now moved w w' out) :
    (log.flatMap Prod.snd ++ out).map some
      = (closedPairs (s.pairs a (log.map Prod.fst)) w').map (s.cell? a (log.map Prod.fst)) := by
  rcases hmoved with ⟨rfl, rfl, -⟩ | ⟨hlt, rfl, -⟩
  · rw [List.append_nil]
    exact h.closed
  · rw [closedPairs_of_lt h.pairs_le hlt, h.split, List.map_append, List.map_append, h.closed,
      h.records]

/-- The cells are those of the window that is open, when it has just been opened, too. -/
theorem Tracks.cells_moved (h : Tracks s a log w now) (hmoved : Turns now moved w w' out) :
    AreCellsOf s a (log.map Prod.fst) w' moved.cells := by
  rcases hmoved with ⟨rfl, -, hsame⟩ | ⟨hlt, -, hnone⟩
  · rw [hsame]
    exact h.cells
  · rw [hnone, AreCellsOf, openPairs_of_lt h.pairs_le hlt]
    rfl

theorem absorb_cells (now : Summarizer) (x : Arrival) :
    (now.absorb x).cells = now.cells.update (key x) (now.newCell x.groupValues)
      fun cell => foldInputs cell (now.aggregates.zip x.inputs) := rfl

/-- The names of a new cell are distinct, so that it holds its columns as they stand. -/
theorem newCell_eq (hnames : s.columnNames.Nodup) (hshape : SameShape s moved)
    (hstart : s.windowColumn? a w = some moved.windowStart) (values : List Value) :
    moved.newCell values = moved.windowStart ++ (s.groups.map Column.name).zip values
      ++ s.aggregates.map fun a => (a.name, a.seed) := by
  have hnodup := nodup_front hnames hstart values
  rw [newCell, hshape.groups, hshape.aggregates]
  refine Fields.ofPairs_of_nodup ?_
  rw [Fields.names, List.map_append, List.map_map]
  exact hnodup

/-- The keys of the cells are those of the window that is open. -/
theorem AreCellsOf.map_fst {xs : List Arrival} {cells : Cells} (h : AreCellsOf s a xs w cells) :
    cells.map Prod.fst = (openPairs (s.pairs a xs) w).map Prod.snd := by
  have hfst := congrArg (List.map Prod.fst) h
  rwa [List.map_map, List.map_map] at hfst

/-- A record whose group the window has already joins the cell of that group. -/
theorem cells_absorb_of_mem {xs : List Arrival} (hnames : s.columnNames.Nodup)
    (hlength : x.inputs.length = s.aggregates.length) (hshape : SameShape s moved)
    (hw : s.windows a (xs ++ [x]) = s.windows a xs ++ [w]) (hmem : (w, key x) ∈ s.pairs a xs)
    (hcells : AreCellsOf s a xs w moved.cells) :
    AreCellsOf s a (xs ++ [x]) w (moved.absorb x).cells := by
  have hkeys := hcells.map_fst
  have hkey : key x ∈ moved.cells.map Prod.fst := by
    rw [hkeys]
    exact List.mem_map_of_mem (List.mem_filter.2 ⟨List.mem_eraseDups.2 hmem, by simp⟩)
  -- On either side the cell of the key takes in the record and the others stay.
  have hleft : (fun c : GroupKey × Record => (c.1, some c.2)) ∘
        (fun c : GroupKey × Record =>
          if c.1 = key x then
            (c.1, foldInputs c.2 (moved.aggregates.zip x.inputs)) else c)
      = (fun c : GroupKey × Option Record =>
          (c.1, if c.1 = key x then
            c.2.map fun cell => foldInputs cell (moved.aggregates.zip x.inputs) else c.2)) ∘
        fun c : GroupKey × Record => (c.1, some c.2) := by
    funext c
    simp only [Function.comp_apply]
    split <;> rfl
  have hright : ∀ p ∈ openPairs (s.pairs a xs) w,
      (p.2, s.cell? a (xs ++ [x]) p)
        = (p.2, if p.2 = key x then
            (s.cell? a xs p).map fun cell => foldInputs cell (moved.aggregates.zip x.inputs)
            else s.cell? a xs p) := by
    intro p hp
    by_cases hk : p.2 = key x
    · obtain rfl : p = (w, key x) := Prod.ext (fst_of_mem_openPairs hp) hk
      rw [if_pos rfl, cell?_concat_of_mem hw hnames hlength hmem, hshape.aggregates]
    · rw [if_neg hk, cell?_concat_of_ne hw fun he => hk (congrArg Prod.snd he)]
  rw [AreCellsOf] at hcells ⊢
  rw [pairs_concat hw, openPairs_concat_of_mem hmem, List.map_congr_left hright, absorb_cells,
    Cells.update_of_mem (hkeys ▸ nodup_keys_openPairs _ w) hkey, List.map_map, hleft,
    ← List.map_map, hcells, List.map_map]
  rfl

/-- The first record of a group in its window opens a cell behind the others. -/
theorem cells_absorb_of_notMem {xs : List Arrival} (hnames : s.columnNames.Nodup)
    (hlength : x.inputs.length = s.aggregates.length) (hshape : SameShape s moved)
    (hstart : s.windowColumn? a w = some moved.windowStart)
    (hw : s.windows a (xs ++ [x]) = s.windows a xs ++ [w]) (hmem : (w, key x) ∉ s.pairs a xs)
    (hcells : AreCellsOf s a xs w moved.cells) :
    AreCellsOf s a (xs ++ [x]) w (moved.absorb x).cells := by
  have hkey : key x ∉ moved.cells.map Prod.fst := by
    rw [hcells.map_fst]
    intro hk
    obtain ⟨p, hp, he⟩ := List.mem_map.1 hk
    have hpair : p = (w, key x) := Prod.ext (fst_of_mem_openPairs hp) he
    exact hmem (hpair ▸ List.mem_eraseDups.1 (List.mem_filter.1 hp).1)
  have hothers : ∀ p ∈ openPairs (s.pairs a xs) w,
      (p.2, s.cell? a (xs ++ [x]) p) = (p.2, s.cell? a xs p) := by
    intro p hp
    rw [cell?_concat_of_ne hw]
    rintro rfl
    exact hmem (List.mem_eraseDups.1 (List.mem_filter.1 hp).1)
  have hcell : some (foldInputs (moved.newCell x.groupValues) (moved.aggregates.zip x.inputs))
      = s.cell? a (xs ++ [x]) (w, key x) := by
    rw [cell?_concat_of_notMem hw hmem, record?_singleton hnames hlength, hstart,
      newCell_eq hnames hshape hstart, hshape.aggregates, Option.map_some]
  rw [AreCellsOf] at hcells ⊢
  rw [pairs_concat hw, openPairs_concat_of_notMem hmem, List.map_append,
    List.map_congr_left hothers, ← hcells, List.map_singleton, ← hcell, absorb_cells,
    Cells.update_of_notMem hkey, List.map_append, List.map_singleton]

/-- **A record finds its cell**: it joins the records of its pair. -/
theorem cells_absorb {xs : List Arrival} (hnames : s.columnNames.Nodup)
    (hlength : x.inputs.length = s.aggregates.length) (hshape : SameShape s moved)
    (hstart : s.windowColumn? a w = some moved.windowStart)
    (hw : s.windows a (xs ++ [x]) = s.windows a xs ++ [w])
    (hcells : AreCellsOf s a xs w moved.cells) :
    AreCellsOf s a (xs ++ [x]) w (moved.absorb x).cells := by
  by_cases hmem : (w, key x) ∈ s.pairs a xs
  · exact cells_absorb_of_mem hnames hlength hshape hw hmem hcells
  · exact cells_absorb_of_notMem hnames hlength hshape hstart hw hmem hcells

/-- What belongs to earlier windows does not change. -/
theorem map_cell?_concat {xs : List Arrival}
    (hw : s.windows a (xs ++ [x]) = s.windows a xs ++ [w]) {ps : List (Int × GroupKey)}
    (hps : ∀ p ∈ ps, p.1 < w) : ps.map (s.cell? a (xs ++ [x])) = ps.map (s.cell? a xs) := by
  refine List.map_congr_left fun p hp => cell?_concat_of_ne hw ?_
  rintro rfl
  exact absurd (hps _ hp) (Int.lt_irrefl w)

/-- Windows before `v` have nothing more to let out when a record comes that is not before `v`. -/
theorem map_filter_concat {xs : List Arrival} {v : Int} (hv : v ≤ w) (us : List Int)
    (hw : s.windows a (xs ++ [x]) = s.windows a xs ++ [w]) :
    ((s.pairs a (xs ++ [x])).eraseDups.filter fun p =>
        decide (p.1 < v ∧ ∀ u ∈ us, u ≤ p.1)).map (s.cell? a (xs ++ [x]))
      = ((s.pairs a xs).eraseDups.filter fun p =>
        decide (p.1 < v ∧ ∀ u ∈ us, u ≤ p.1)).map (s.cell? a xs) := by
  rw [pairs_concat hw, filter_eraseDups_concat, map_cell?_concat hw]
  · intro p hp
    have := (List.mem_filter.1 hp).2
    rw [decide_eq_true_eq] at this
    omega
  · rw [decide_eq_false_iff_not]
    intro hp
    have := hp.1
    omega

/-- **One record.** -/
theorem Tracks.step (h : Tracks s a log w now) (hnames : s.columnNames.Nodup)
    (hlength : x.inputs.length = s.aggregates.length) (hshape : SameShape s moved)
    (hstart : s.windowColumn? a w' = some moved.windowStart) (hle : w ≤ w')
    (hw : s.windows a (log.map Prod.fst ++ [x]) = s.windows a (log.map Prod.fst) ++ [w'])
    (hmoved : Turns now moved w w' out) :
    Tracks s a (log ++ [(x, out)]) w' (moved.absorb x) := by
  have hxs : (log ++ [(x, out)]).map Prod.fst = log.map Prod.fst ++ [x] := by
    rw [List.map_append, List.map_singleton]
  have hpairs := pairs_concat hw
  constructor
  case le =>
    rw [hxs, hw]
    intro v hv
    rcases List.mem_append.1 hv with hold | hnew
    · exact Int.le_trans (h.le v hold) hle
    · exact Int.le_of_eq (List.mem_singleton.1 hnew)
  case reached =>
    intro _
    rw [hxs, hw]
    exact List.mem_append_right _ (List.mem_singleton.2 rfl)
  case split =>
    rw [hxs, hpairs]
    exact split_concat h.pairs_le hle (key x) h.split
  case cells =>
    rw [hxs]
    exact cells_absorb hnames hlength hshape hstart hw (h.cells_moved hmoved)
  case closed =>
    rw [hxs, hpairs, closedPairs_concat, List.flatMap_append, List.flatMap_singleton,
      map_cell?_concat hw fun p hp => by simpa using (List.mem_filter.1 hp).2]
    exact h.closed_moved hmoved
  case emitted =>
    intro i y gone hi
    rw [hxs, hw]
    have hlen : (s.windows a (log.map Prod.fst)).length = log.length := by
      rw [length_windows, List.length_map]
    rcases Nat.lt_or_ge i log.length with hlt | hge
    · -- What went out before went out of windows that do not change any more.
      rw [List.getElem?_append_left hlt] at hi
      obtain ⟨v, hv, hgone⟩ := h.emitted i y gone hi
      have hvw : v ≤ w' := Int.le_trans (h.le v (List.mem_of_getElem? hv)) hle
      refine ⟨v, by rw [List.getElem?_append_left (hlen ▸ hlt)]; exact hv, ?_⟩
      rw [List.take_append_of_le_length (by omega), map_filter_concat hvw _ hw]
      exact hgone
    · have hlast : i = log.length := by
        have := (List.getElem?_eq_some_iff.1 hi).1
        rw [List.length_append, List.length_singleton] at this
        omega
      subst hlast
      rw [List.getElem?_concat_length, Option.some.injEq, Prod.mk.injEq] at hi
      obtain ⟨rfl, rfl⟩ := hi
      refine ⟨w', by rw [← hlen, List.getElem?_concat_length], ?_⟩
      rw [← hlen, List.take_left, map_filter_concat (Int.le_refl w') _ hw]
      exact h.emits hmoved

/-! ### Runs -/

/-- **A run keeps the invariant.**  The windows are counted from the beginning of the one that holds
the first time. -/
theorem tracks_feed (htimed : s.Timed) (hnone : s.windowEnd = none) (hcells : s.cells = [])
    (hnames : s.columnNames.Nodup) (calls : List (Environment × Record))
    (hregular : ∀ m ∈ (s.feed calls).2, ∀ t, m.1.time = some t → t.Regular)
    (hbegin : ∀ m, (s.feed calls).2.head? = some m → ∀ bin t, s.bin = some bin →
      m.1.time = some t → a = Window.origin bin.duration t) :
    SameShape s (s.feed calls).1 ∧ ∃ w, 0 ≤ w ∧ Tracks s a (s.feed calls).2 w (s.feed calls).1 ∧
      ((s.feed calls).2 = [] ∧ w = 0 ∧ (s.feed calls).1.windowEnd = none ∨
        (s.windows a ((s.feed calls).2.map Prod.fst)).getLast? = some w ∧
          EndsAt s a w (s.feed calls).1) := by
  induction calls using List.reverseRecOn with
  | nil => exact ⟨⟨rfl, rfl, rfl⟩, 0, Int.le_refl 0, tracks_nil hcells 0, .inl ⟨rfl, rfl, hnone⟩⟩
  | append_singleton rest call ih =>
      obtain ⟨env, r⟩ := call
      rw [feed_append] at hregular hbegin ⊢
      simp only at hregular hbegin ⊢
      obtain ⟨hshape, w, hw, htracks, hopened⟩ := ih
        (fun m hm => hregular m (List.mem_append_left _ hm))
        (fun m hm => hbegin m (by rw [List.head?_append, hm]; rfl))
      generalize (s.feed rest).1 = now at *
      generalize (s.feed rest).2 = log at *
      rcases now.feed_singleton env r with ⟨x, moved, out, harrival, hopen, hfeed⟩ | hfeed
      · rw [hfeed] at hregular hbegin ⊢
        simp only at hregular hbegin ⊢
        obtain ⟨hlength, htime⟩ := arrival_spec harrival
        rw [hshape.aggregates] at hlength
        rw [hshape.bin] at htime
        have hx : ∀ t, x.time = some t → t.Regular :=
          hregular (x, out) (List.mem_append_right _ (List.mem_singleton.2 rfl))
        have hxs : (log ++ [(x, out)]).map Prod.fst = log.map Prod.fst ++ [x] := by
          rw [List.map_append, List.map_singleton]
        rcases hopened with ⟨rfl, rfl, hclosed⟩ | ⟨hlast, hends⟩
        · -- The first record opens the first window.
          obtain ⟨hplace, hends, hmoved, rfl, hsame⟩ :=
            openWindow_first htimed hshape hclosed hx (hbegin (x, out) rfl) htime hopen
          have hwindows : s.windows a [x] = [0] := by rw [windows_singleton, hplace]
          have hstart := windowColumn?_of_endsAt htimed hmoved (Int.le_refl 0) hends
          refine ⟨⟨hmoved.aggregates, hmoved.groups, hmoved.bin⟩, 0, Int.le_refl 0, ?_,
            .inr ⟨?_, hends⟩⟩
          · exact htracks.step hnames hlength hmoved hstart (Int.le_refl 0) hwindows
              (.stays rfl rfl hsame)
          · rw [hxs, List.map_nil, List.nil_append, hwindows]
            rfl
        · obtain ⟨hends, hmoved, hcases⟩ :=
            openWindow_of_endsAt htimed hshape hw hends hx htime hopen
          have hwindows := windows_concat hlast x
          have hle : w ≤ max w (s.place a x) := by omega
          have hw' : 0 ≤ max w (s.place a x) := by omega
          have hstart := windowColumn?_of_endsAt htimed hmoved hw' hends
          refine ⟨⟨hmoved.aggregates, hmoved.groups, hmoved.bin⟩, _, hw', ?_, .inr ⟨?_, hends⟩⟩
          · exact htracks.step hnames hlength hmoved hstart hle hwindows hcases
          · rw [hxs, hwindows, List.getLast?_concat]
      · rw [hfeed, List.append_nil]
        exact ⟨hshape, w, hw, htracks, hopened⟩

/-- **A run lets out one record for each window and group**, in the order of windows and, inside a
window, of first arrival.  A window goes out with the first record of a later one, and the last
window at the end. -/
theorem emitted_eq_cells {summary : Summary} (hs : ofSummary summary = .ok s)
    (hnames : s.columnNames.Nodup) (calls : List (Environment × Record))
    (hregular : ∀ m ∈ (s.feed calls).2, ∀ t, m.1.time = some t → t.nanos < 1000000000) :
    let log := (s.feed calls).2
    let xs := log.map Prod.fst
    let a := s.origin xs
    let windows := s.windows a xs
    let pairs := (s.pairs a xs).eraseDups
    let held := (s.feed calls).1.complete.2
    (∀ x bin t, xs.head? = some x → s.bin = some bin → x.time = some t →
      a ≤ t.epochNanos ∧ t.epochNanos < a + bin.duration.nanos) ∧
    (∀ i x out, log[i]? = some (x, out) → ∃ w, windows[i]? = some w ∧
      out.map some
        = (pairs.filter fun p => decide (p.1 < w ∧ ∀ v ∈ windows.take i, v ≤ p.1)).map
          (s.cell? a xs)) ∧
    held.map some
      = (pairs.filter fun p => decide (∀ v ∈ windows, v ≤ p.1)).map (s.cell? a xs) ∧
    (log.flatMap Prod.snd ++ held).map some = pairs.map (s.cell? a xs) := by
  intro log xs a windows pairs held
  obtain ⟨htimed, hnone, hcells⟩ := ofSummary_spec hs
  have horigin : ∀ x bin t, xs.head? = some x → s.bin = some bin → x.time = some t →
      a = Window.origin bin.duration t := by
    intro x bin t hx hbin ht
    simp only [a, origin, hx, hbin, ht, Option.bind_some]
  have hbegin : ∀ m, log.head? = some m → ∀ bin t, s.bin = some bin → m.1.time = some t →
      a = Window.origin bin.duration t := by
    intro m hm bin t
    exact horigin m.1 bin t (by rw [List.head?_map, hm]; rfl)
  obtain ⟨-, w, -, htracks, -⟩ := tracks_feed htimed hnone hcells hnames calls hregular hbegin
  have hheld : held.map some = (openPairs (s.pairs a xs) w).map (s.cell? a xs) := htracks.records
  refine ⟨?_, htracks.emitted, ?_, ?_⟩
  · intro x bin t hx hbin ht
    obtain ⟨hd, -⟩ := htimed bin hbin
    rw [horigin x bin t hx hbin ht]
    exact ⟨Window.origin_le hd t, Window.lt_origin_add hd t⟩
  · rw [hheld, ← htracks.filter_last]
  · rw [List.map_append, htracks.closed, hheld, ← List.map_append, ← htracks.split]

/-- The cells of two windows of two seconds: a late record goes to the window that is open, and a
record without a time leaves no trace. -/
theorem emitted_with_late_record :
    let s : Summarizer := ⟨[⟨"n", "count", .count, none⟩], [⟨"k", .property "k"⟩],
      some ⟨"from", .property "t", .ofLong 2000000000⟩, none, []⟩
    let first : Instant := ⟨1, 0, by decide, by decide, by decide, by decide⟩
    let later : Instant := ⟨7, 0, by decide, by decide, by decide, by decide⟩
    let calls : List (Environment × Record) :=
      [(default, [("t", .datetime first), ("k", .string "a")]),
        (default, [("t", .datetime later), ("k", .string "a")]), (default, [("k", .string "a")]),
        (default, [("t", .datetime first), ("k", .string "b")])]
    let xs := (s.feed calls).2.map Prod.fst
    ofSummary ⟨[⟨"n", "count", []⟩], [⟨"k", .property "k"⟩],
        some ⟨"from", .property "t", .ofLong 2000000000⟩⟩ = .ok s ∧
      s.columnNames.Nodup ∧
      (∀ m ∈ (s.feed calls).2, ∀ t, m.1.time = some t → t.nanos < 1000000000) ∧
      ((s.feed calls).2.flatMap Prod.snd ++ (s.feed calls).1.complete.2).map some
        = [(0, ["a"]), (3, ["a"]), (3, ["b"])].map (s.cell? (s.origin xs) xs) := by
  intro s first later calls xs
  have hs : ofSummary ⟨[⟨"n", "count", []⟩], [⟨"k", .property "k"⟩],
      some ⟨"from", .property "t", .ofLong 2000000000⟩⟩ = .ok s := rfl
  have hnames : s.columnNames.Nodup := by decide
  have hnanos : ((s.feed calls).2.map fun m => m.1.time.map Instant.nanos)
      = [some 0, some 0, some 0] := by decide
  have hregular : ∀ m ∈ (s.feed calls).2, ∀ t, m.1.time = some t → t.nanos < 1000000000 := by
    intro m hm t ht
    have hmem : m.1.time.map Instant.nanos ∈ [some 0, some 0, some 0] :=
      hnanos ▸ List.mem_map_of_mem hm
    simp only [ht, Option.map_some, List.mem_cons, Option.some.injEq, List.not_mem_nil, or_false,
      or_self] at hmem
    omega
  have hpairs : (s.pairs (s.origin xs) xs).eraseDups = [(0, ["a"]), (3, ["a"]), (3, ["b"])] := by
    decide
  have hall := (emitted_eq_cells hs hnames calls hregular).2.2.2
  exact ⟨hs, hnames, hregular, hall.trans (congrArg _ hpairs)⟩

end Summarizer

end EventQuery
