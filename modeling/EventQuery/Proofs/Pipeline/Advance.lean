/-
**Windows move on.**

A record that a summary takes in may close the open window.  The next one lies whole durations
behind it and holds the time of the record, so that the windows that are opened are those that the
records ask for.

Main definitions:

* `Summarizer.feed` — a run: what was taken in, and what went out with it;
* `Summarizer.EndsAt` — the open window is the one of a given number;
* `Summarizer.Turns` — the open window stays, or it closes and its cells go out.

Main results:

* `Summarizer.next_cases` — **a record is taken in or leaves no trace**;
* `Summarizer.openWindow_first` — the first window holds the first time;
* `Summarizer.openWindow_of_endsAt` — **each window is followed by the one that holds the next
  time**, unless that time is late.
-/

import EventQuery.Proofs.Except
import EventQuery.Proofs.Pipeline.GroupBy

set_option relaxedAutoImplicit false
set_option autoImplicit false

namespace EventQuery

namespace Summarizer

/-! ### Records that are taken in -/

/-- **A run**: the state after it, and for each record that was taken in what it brought and what
went out with it.  A record that fails lets nothing out. -/
def feed (s : Summarizer) : List (Environment × Record) → Summarizer × List (Arrival × List Record)
  | [] => (s, [])
  | (env, r) :: rest =>
      match s.arrival env r, s.next env r with
      | .ok x, (s, .ok out) => ((s.feed rest).1, (x, out) :: (s.feed rest).2)
      | _, (s, _) => s.feed rest

theorem feed_append (s : Summarizer) (before after : List (Environment × Record)) :
    s.feed (before ++ after)
      = (((s.feed before).1.feed after).1,
        (s.feed before).2 ++ ((s.feed before).1.feed after).2) := by
  induction before generalizing s with
  | nil => rfl
  | cons call rest ih =>
      obtain ⟨env, r⟩ := call
      rw [List.cons_append, feed, feed]
      split
      · rw [ih, List.cons_append]
      · rw [ih]

/-- **A record is taken in or leaves no trace.** -/
theorem next_cases (s : Summarizer) (env : Environment) (r : Record) :
    (∃ x moved out, s.arrival env r = .ok x ∧ s.openWindow x.time = .ok (moved, out) ∧
      s.next env r = (moved.absorb x, .ok out)) ∨ ∃ e, s.next env r = (s, .error e) := by
  unfold next next?
  cases harrival : s.arrival env r with
  | error e => exact .inr ⟨e, rfl⟩
  | ok x =>
      cases hopen : s.openWindow x.time with
      | error e =>
          refine .inr ⟨e, ?_⟩
          simp [bind, Except.bind, hopen]
      | ok made =>
          refine .inl ⟨x, made.1, made.2, rfl, hopen, ?_⟩
          simp [bind, Except.bind, hopen, pure, Except.pure]

/-- One record in a run. -/
theorem feed_singleton (s : Summarizer) (env : Environment) (r : Record) :
    (∃ x moved out, s.arrival env r = .ok x ∧ s.openWindow x.time = .ok (moved, out) ∧
      s.feed [(env, r)] = (moved.absorb x, [(x, out)])) ∨ s.feed [(env, r)] = (s, []) := by
  rcases s.next_cases env r with ⟨x, moved, out, harrival, hopen, hnext⟩ | ⟨e, hnext⟩
  · refine .inl ⟨x, moved, out, harrival, hopen, ?_⟩
    simp only [feed, harrival, hnext]
  · refine .inr ?_
    cases harrival : s.arrival env r <;> simp only [feed, harrival, hnext]

theorem length_of_mapM {α β : Type} {f : α → Result β} {as : List α} {bs : List β}
    (h : as.mapM f = .ok bs) : bs.length = as.length := by
  induction as generalizing bs with
  | nil =>
      cases h
      rfl
  | cons a rest ih =>
      obtain ⟨b, others, -, hrest, rfl⟩ := Except.mapM_cons_eq_ok_iff.1 h
      rw [List.length_cons, List.length_cons, ih hrest]

/-- **What a record brings**: its time, the values of its group, and the inputs. -/
theorem arrival_eq_ok {s : Summarizer} {env : Environment} {r : Record} {x : Arrival}
    (h : s.arrival env r = .ok x) :
    s.bin.mapM (timeOf env r) = .ok x.time ∧
      (s.groups.mapM fun column => column.expr.eval env r) = .ok x.groupValues ∧
      s.aggregates.mapM (inputOf env r) = .ok x.inputs := by
  unfold arrival at h
  obtain ⟨time, htime, h⟩ := Except.bind_eq_ok_iff.1 h
  obtain ⟨values, hvalues, h⟩ := Except.bind_eq_ok_iff.1 h
  obtain ⟨inputs, hinputs, h⟩ := Except.bind_eq_ok_iff.1 h
  cases h
  exact ⟨htime, hvalues, hinputs⟩

/-- The time of a record is read from the source of the windows. -/
theorem time_of_mapM {env : Environment} {r : Record} {bin : TimeBin} {time : Option Instant}
    (h : (some bin).mapM (timeOf env r) = .ok time) :
    ∃ t, time = some t ∧ timeOf env r bin = .ok t := by
  change (timeOf env r bin).map some = .ok time at h
  obtain ⟨t, ht, rfl⟩ := Except.map_eq_ok_iff.1 h
  exact ⟨t, rfl, ht⟩

/-- What a record brings fits the columns, and there is a time when there are windows. -/
theorem arrival_spec {s : Summarizer} {env : Environment} {r : Record} {x : Arrival}
    (h : s.arrival env r = .ok x) :
    x.inputs.length = s.aggregates.length ∧ (s.bin.isSome → x.time.isSome) := by
  obtain ⟨htime, -, hinputs⟩ := arrival_eq_ok h
  refine ⟨length_of_mapM hinputs, fun hbin => ?_⟩
  obtain ⟨bin, hbin⟩ := Option.isSome_iff_exists.1 hbin
  rw [hbin] at htime
  obtain ⟨t, hsome, -⟩ := time_of_mapM htime
  rw [hsome]
  rfl

/-! ### Windows move on -/

/-- **The open window is the one of a number**: it ends where the next one begins. -/
def EndsAt (s : Summarizer) (a w : Int) (now : Summarizer) : Prop :=
  ∀ bin, s.bin = some bin →
    Instant.firstSecond * 1000000000 ≤ a ∧ ∃ stop, now.windowEnd = some stop ∧ stop.Regular ∧
      stop.epochNanos = a + (w + 1) * bin.duration.nanos

theorem endsAt_of_no_bin {s now : Summarizer} {a w : Int} (hbin : s.bin = none) :
    EndsAt s a w now := by
  intro bin hsome
  cases hbin.symm.trans hsome

theorem endsAt_of_bin {s now : Summarizer} {a w : Int} {bin : TimeBin} {stop : Instant}
    (hbin : s.bin = some bin) (ha : Instant.firstSecond * 1000000000 ≤ a)
    (hstop : now.windowEnd = some stop) (hregular : stop.Regular)
    (hnanos : stop.epochNanos = a + (w + 1) * bin.duration.nanos) : EndsAt s a w now := by
  intro other hother
  cases hbin.symm.trans hother
  exact ⟨ha, stop, hstop, hregular, hnanos⟩

/-- The durations of windows are positive and fit in 64 bits. -/
def Timed (s : Summarizer) : Prop :=
  ∀ bin, s.bin = some bin → 0 < bin.duration.nanos ∧ bin.duration.nanos64?.isSome

/-- Where windows are concerned, a summary and its state ask for the same. -/
structure SameShape (s now : Summarizer) : Prop where
  aggregates : now.aggregates = s.aggregates
  groups : now.groups = s.groups
  bin : now.bin = s.bin

theorem of_checkBin {bin : TimeBin} {u : Unit} (h : checkBin bin = .ok u) :
    0 < bin.duration.nanos ∧ bin.duration.nanos64?.isSome := by
  unfold checkBin at h
  split at h
  · cases h
  · next hgood =>
      rw [Bool.or_eq_true, not_or, decide_eq_true_eq] at hgood
      refine ⟨by omega, ?_⟩
      cases hn : bin.duration.nanos64? with
      | none => exact absurd (by rw [hn]; rfl) hgood.2
      | some n => rfl

/-- **What is compiled has proper windows**, and nothing has come in. -/
theorem ofSummary_spec {summary : Summary} {s : Summarizer} (h : ofSummary summary = .ok s) :
    s.Timed ∧ s.windowEnd = none ∧ s.cells = [] := by
  unfold ofSummary at h
  obtain ⟨aggregates, -, h⟩ := Except.bind_eq_ok_iff.1 h
  obtain ⟨u, hcheck, h⟩ := Except.bind_eq_ok_iff.1 h
  cases h
  refine ⟨fun bin hbin => ?_, rfl, rfl⟩
  change summary.bin = some bin at hbin
  rw [hbin] at hcheck
  exact of_checkBin hcheck

/-- The column of the open window tells its beginning. -/
theorem windowColumn?_of_endsAt {s now : Summarizer} {a w : Int} (htimed : s.Timed)
    (hshape : SameShape s now) (hw : 0 ≤ w) (hends : EndsAt s a w now) :
    s.windowColumn? a w = some now.windowStart := by
  rw [windowColumn?, windowStart, hshape.bin]
  cases hbin : s.bin with
  | none => rfl
  | some bin =>
      obtain ⟨hd, -⟩ := htimed bin hbin
      obtain ⟨ha, stop, hstop, hregular, hnanos⟩ := hends bin hbin
      have hlast := hregular.epochNanos_lt
      have hpassed : 0 ≤ w * bin.duration.nanos := Int.mul_nonneg hw (Int.le_of_lt hd)
      rw [Int.add_mul, Int.one_mul] at hnanos
      obtain ⟨start, hstart, -, -⟩ := Instant.exists_ofEpochNanos?
        (n := a + w * bin.duration.nanos) (by omega) (by omega)
      have hback : stop.sub? bin.duration = some start := by
        rw [Instant.sub?, Instant.shift?_of_regular hregular, hnanos, ← hstart]
        congr 1
        omega
      simp only [hstart, hstop, hback, Option.map_some, Option.getD_some]

/-- What opening a window changes. -/
theorem openWindow_cases {now moved : Summarizer} {time : Option Instant} {out : List Record}
    (h : now.openWindow time = .ok (moved, out)) :
    (moved = now ∧ out = [] ∧ (now.bin = none ∨ time = none)) ∨
      ∃ bin t stop, now.bin = some bin ∧ time = some t ∧
        (now.advance bin t = .ok (stop, false) ∧ out = [] ∧
            moved = { now with windowEnd := some stop } ∨
          now.advance bin t = .ok (stop, true) ∧ out = now.cells.records ∧
            moved = { now with windowEnd := some stop, cells := [] }) := by
  unfold openWindow at h
  cases hbin : now.bin with
  | none =>
      simp only [hbin] at h
      cases h
      exact .inl ⟨rfl, rfl, .inl rfl⟩
  | some bin =>
      cases time with
      | none =>
          simp only [hbin] at h
          cases h
          exact .inl ⟨rfl, rfl, .inr rfl⟩
      | some t =>
          simp only [hbin] at h
          obtain ⟨⟨stop, closes⟩, hadvance, h⟩ := Except.bind_eq_ok_iff.1 h
          refine .inr ⟨bin, t, stop, rfl, rfl, ?_⟩
          cases closes with
          | false =>
              cases h
              exact .inl ⟨hadvance, rfl, rfl⟩
          | true =>
              cases h
              exact .inr ⟨hadvance, rfl, rfl⟩

/-- A window does not move when there are none. -/
theorem bin_eq_none {s now : Summarizer} {time : Option Instant} (hshape : SameShape s now)
    (htime : s.bin.isSome → time.isSome) (hmissing : now.bin = none ∨ time = none) :
    s.bin = none := by
  rcases hmissing with hnone | rfl
  · rw [← hshape.bin, hnone]
  · cases hbin : s.bin with
    | none => rfl
    | some bin => exact absurd (htime (by rw [hbin]; rfl)) (by decide)

/-- **The end of the window that comes next**: a late time leaves it where it is, and another one
moves it on by whole durations, as far as the window that holds the time. -/
theorem advance_of_windowEnd {now : Summarizer} {bin : TimeBin} {t last stop : Instant} {a w : Int}
    {closes : Bool} (hd : 0 < bin.duration.nanos) (hfits : bin.duration.nanos64?.isSome)
    (ht : t.Regular) (hlast : now.windowEnd = some last) (hregular : last.Regular)
    (hnanos : last.epochNanos = a + (w + 1) * bin.duration.nanos)
    (h : now.advance bin t = .ok (stop, closes)) :
    let next := max w ((t.epochNanos - a) / bin.duration.nanos)
    stop.Regular ∧ stop.epochNanos = a + (next + 1) * bin.duration.nanos ∧
      (closes = false ∧ next = w ∨ closes = true ∧ w < next) := by
  intro next
  unfold advance Window.advance at h
  simp only [hlast] at h
  by_cases hlate : t.epochNanos < last.epochNanos
  · have hcmp : (t.cmp last == .lt) = true := by
      rw [(Instant.cmp_eq_lt_iff ht hregular).2 hlate]
      rfl
    rw [if_pos hcmp] at h
    cases h
    -- Before the end of a window lies no later one.
    have hplace : (t.epochNanos - a) / bin.duration.nanos < w + 1 :=
      (Int.ediv_lt_iff_lt_mul hd).2 (by omega)
    have hnext : next = w := by omega
    rw [hnext]
    exact ⟨hregular, hnanos, .inl ⟨rfl, rfl⟩⟩
  · have hcmp : ¬ (t.cmp last == .lt) = true := by
      rw [beq_iff_eq, Instant.cmp_eq_lt_iff ht hregular]
      exact hlate
    rw [if_neg hcmp, Window.nextEnd?_eq hfits] at h
    -- Counted from the end of the last window, the time skips whole windows.
    have hsplit : t.epochNanos - a
        = t.epochNanos - last.epochNanos + (w + 1) * bin.duration.nanos := by omega
    have hplace : (t.epochNanos - a) / bin.duration.nanos
        = (t.epochNanos - last.epochNanos) / bin.duration.nanos + (w + 1) := by
      rw [hsplit, Int.add_mul_ediv_right _ _ (by omega)]
    have hspans : 0 ≤ (t.epochNanos - last.epochNanos) / bin.duration.nanos :=
      Int.ediv_nonneg (by omega) (by omega)
    generalize (t.epochNanos - last.epochNanos) / bin.duration.nanos = spans at h hplace hspans
    have hnext : next = spans + 1 + w := by omega
    obtain ⟨found, hfound, he⟩ := Except.map_eq_ok_iff.1 h
    cases he
    obtain ⟨hstop, hstopNanos⟩ := Instant.ofEpochNanos?_eq_some (Result.ofOption_eq_ok_iff.1 hfound)
    refine ⟨hstop, ?_, .inr ⟨rfl, by omega⟩⟩
    rw [hstopNanos, hnanos, hnext, Int.add_assoc, ← Int.add_mul]
    congr 2
    omega

/-- **The end of the first window** lies one duration behind its beginning. -/
theorem advance_of_no_window {now : Summarizer} {bin : TimeBin} {t stop : Instant} {closes : Bool}
    (hd : 0 < bin.duration.nanos) (ht : t.Regular) (hnone : now.windowEnd = none)
    (h : now.advance bin t = .ok (stop, closes)) :
    closes = false ∧ stop.Regular ∧
      stop.epochNanos = Window.origin bin.duration t + bin.duration.nanos := by
  rw [advance, hnone, Window.advance, Window.firstEnd?_eq hd ht] at h
  obtain ⟨found, hfound, he⟩ := Except.map_eq_ok_iff.1 h
  cases he
  exact ⟨rfl, Instant.ofEpochNanos?_eq_some (Result.ofOption_eq_ok_iff.1 hfound)⟩

/-- **The first window holds the first time.** -/
theorem openWindow_first {s now moved : Summarizer} {a : Int} {x : Arrival} {out : List Record}
    (htimed : s.Timed) (hshape : SameShape s now) (hnone : now.windowEnd = none)
    (hregular : ∀ t, x.time = some t → t.Regular)
    (hbegin : ∀ bin t, s.bin = some bin → x.time = some t → a = Window.origin bin.duration t)
    (htime : s.bin.isSome → x.time.isSome)
    (h : now.openWindow x.time = .ok (moved, out)) :
    s.place a x = 0 ∧ EndsAt s a 0 moved ∧ SameShape s moved ∧ out = [] ∧
      moved.cells = now.cells := by
  rcases openWindow_cases h with ⟨rfl, rfl, hmissing⟩ | ⟨bin, t, stop, hbin, ht, hmoved⟩
  · have hbin : s.bin = none := bin_eq_none hshape htime hmissing
    exact ⟨by rw [place, hbin], endsAt_of_no_bin hbin, hshape, rfl, rfl⟩
  · have hsbin : s.bin = some bin := hshape.bin ▸ hbin
    obtain ⟨hd, -⟩ := htimed bin hsbin
    have ha := hbegin bin t hsbin ht
    have hle := Window.origin_le hd t
    have hlt := Window.lt_origin_add hd t
    have hplace : s.place a x = 0 := by
      rw [place, hsbin, ht]
      exact Int.ediv_eq_zero_of_lt (by omega) (by omega)
    rcases hmoved with ⟨hadvance, rfl, rfl⟩ | ⟨hadvance, -, -⟩
    · obtain ⟨-, hstop, hnanos⟩ := advance_of_no_window hd (hregular t ht) hnone hadvance
      exact ⟨hplace, endsAt_of_bin hsbin (ha ▸ Window.origin_ge hd t) rfl hstop (by omega),
        ⟨hshape.aggregates, hshape.groups, hshape.bin⟩, rfl, rfl⟩
    · cases (advance_of_no_window hd (hregular t ht) hnone hadvance).1

/-- **The open window stays, or it closes** for a later one and its cells go out. -/
inductive Turns (now moved : Summarizer) (w w' : Int) (out : List Record) : Prop where
  | stays (hw : w' = w) (hout : out = []) (hcells : moved.cells = now.cells)
  | closes (hw : w < w') (hout : out = now.cells.records) (hcells : moved.cells = [])

/-- **A window is followed by the one that holds the next time**, unless that time is late. -/
theorem openWindow_of_endsAt {s now moved : Summarizer} {a w : Int} {x : Arrival}
    {out : List Record} (htimed : s.Timed) (hshape : SameShape s now) (hw : 0 ≤ w)
    (hends : EndsAt s a w now) (hregular : ∀ t, x.time = some t → t.Regular)
    (htime : s.bin.isSome → x.time.isSome)
    (h : now.openWindow x.time = .ok (moved, out)) :
    EndsAt s a (max w (s.place a x)) moved ∧ SameShape s moved ∧
      Turns now moved w (max w (s.place a x)) out := by
  rcases openWindow_cases h with ⟨rfl, rfl, hmissing⟩ | ⟨bin, t, stop, hbin, ht, hmoved⟩
  · have hbin : s.bin = none := bin_eq_none hshape htime hmissing
    have hplace : s.place a x = 0 := by rw [place, hbin]
    have hmax : max w (s.place a x) = w := by omega
    rw [hmax]
    exact ⟨hends, hshape, .stays rfl rfl rfl⟩
  · have hsbin : s.bin = some bin := hshape.bin ▸ hbin
    obtain ⟨hd, hfits⟩ := htimed bin hsbin
    obtain ⟨ha, last, hlast, hlastRegular, hnanos⟩ := hends bin hsbin
    have hplace : s.place a x = (t.epochNanos - a) / bin.duration.nanos := by
      rw [place, hsbin, ht]
    rw [hplace]
    rcases hmoved with ⟨hadvance, rfl, rfl⟩ | ⟨hadvance, rfl, rfl⟩
    · obtain ⟨hstop, hstopNanos, ⟨-, hnext⟩ | ⟨hcloses, -⟩⟩ :=
        advance_of_windowEnd hd hfits (hregular t ht) hlast hlastRegular hnanos hadvance
      · exact ⟨endsAt_of_bin hsbin ha rfl hstop hstopNanos, ⟨hshape.aggregates, hshape.groups, hshape.bin⟩,
          .stays hnext rfl rfl⟩
      · cases hcloses
    · obtain ⟨hstop, hstopNanos, ⟨hcloses, -⟩ | ⟨-, hnext⟩⟩ :=
        advance_of_windowEnd hd hfits (hregular t ht) hlast hlastRegular hnanos hadvance
      · cases hcloses
      · exact ⟨endsAt_of_bin hsbin ha rfl hstop hstopNanos, ⟨hshape.aggregates, hshape.groups, hshape.bin⟩,
          .closes hnext rfl rfl⟩

end Summarizer

end EventQuery
