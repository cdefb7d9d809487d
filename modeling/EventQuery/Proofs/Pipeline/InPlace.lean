/-
**A record that fails leaves the window as it was.**

A summary takes in a record by changing its state in place, one step after the other: it evaluates,
moves the window, computes where the window begins, and folds the record into a cell.  What has been
changed stays changed when a later step ends the call.  The order of the steps is such that this
never shows.

The beginning of the window is the one computation without an error of its own: it is the end of the
window less its duration, and the call cannot go on when there is no such instant.

Main definitions:

* `Halt` — how a call ends early;
* `Summarizer.nextInPlace` — one record, step by step, with the state as it is left by each step;
* `Call`, `Summarizer.perform` — records and ends of streams, one after the other;
* `Summarizer.accepted` — the calls of a run without the records that fail;
* `Summarizer.InRange` — the open window begins in range.

Main results:

* `Instant.sub?_isSome_iff` — when an instant less a timespan is in range, leap seconds included;
* `Summarizer.InRange.openWindow` — **windows that are opened begin in range**;
* `Summarizer.nextInPlace_eq` — **step by step comes to the same as all at once**;
* `Summarizer.failure_leaves_no_trace` — **a record that fails leaves the window as it was**, and a
  run is the same without it.
-/

import EventQuery.Proofs.Pipeline.Advance

set_option relaxedAutoImplicit false
set_option autoImplicit false

namespace EventQuery

namespace Instant

/-! ### Instants less a timespan -/

/-- **A shift back by a second or more** goes by the number of nanoseconds, also out of a leap
second. -/
theorem shift?_neg {t : Instant} {d : Int} (hd : 0 ≤ d) (hlong : t.Regular ∨ 1000000000 ≤ d) :
    t.shift? (-d) = ofEpochNanos? (t.epochNanos - d) := by
  by_cases ht : t.Regular
  · rw [shift?_of_regular ht, Int.sub_eq_add_neg]
  · have hlong := hlong.resolve_left ht
    rw [Regular] at ht
    rw [shift?, Int.neg_tdiv, Int.neg_tmod, Int.tdiv_eq_ediv_of_nonneg hd,
      Int.tmod_eq_emod_of_nonneg hd, if_neg (by omega), ofEpochNanos?, epochNanos]
    simp only [if_neg ht, if_neg (by omega : ¬ 0 ≤ -(d / 1000000000))]
    congr 1 <;> omega

/-- A shift back by less than a second stays in a leap second. -/
theorem shift?_neg_of_leap {t : Instant} {d : Int} (hd : 0 ≤ d) (ht : ¬ t.Regular)
    (hshort : d < 1000000000) : (t.shift? (-d)).isSome := by
  rw [Regular] at ht
  have hnanos := t.nanos_lt
  have hstay : firstSecond ≤ t.second ∧ t.second ≤ lastSecond
      ∧ ((t.nanos : Int) + -(d % 1000000000)).toNat < 2000000000
      ∧ (1000000000 ≤ ((t.nanos : Int) + -(d % 1000000000)).toNat → t.second % 60 = 59) :=
    ⟨t.second_ge, t.second_le, by omega, fun _ => t.leap (by omega)⟩
  rw [shift?, Int.neg_tdiv, Int.neg_tmod, Int.tdiv_eq_ediv_of_nonneg hd,
    Int.tmod_eq_emod_of_nonneg hd, if_pos (by omega), make?, dif_pos hstay]
  rfl

/-- **An instant less a timespan is in range** when its number less that of the timespan is. -/
theorem sub?_isSome_iff {t : Instant} {d : Timespan} (hd : 0 < d.nanos) :
    (t.sub? d).isSome ↔ firstSecond * 1000000000 + d.nanos ≤ t.epochNanos := by
  have hsecond := t.second_ge
  have hlast := t.second_le
  have hnanos := t.nanos_lt
  rw [sub?]
  by_cases hlong : t.Regular ∨ 1000000000 ≤ d.nanos
  · rw [shift?_neg (by omega) hlong]
    constructor
    · intro h
      obtain ⟨start, hstart⟩ := Option.isSome_iff_exists.1 h
      have hfirst := start.epochNanos_ge
      rw [(ofEpochNanos?_eq_some hstart).2] at hfirst
      omega
    · intro h
      have hbelow : t.epochNanos - d.nanos < (lastSecond + 1) * 1000000000 := by
        rw [epochNanos]
        rcases hlong with hregular | hlong
        · rw [Regular] at hregular
          omega
        · omega
      obtain ⟨start, hstart, -⟩ := exists_ofEpochNanos? (n := t.epochNanos - d.nanos) (by omega) hbelow
      rw [hstart]
      rfl
  · obtain ⟨hleap, hshort⟩ := not_or.1 hlong
    refine iff_of_true (shift?_neg_of_leap (by omega) hleap (by omega)) ?_
    rw [Regular] at hleap
    rw [epochNanos]
    omega

/-- An instant that is a timespan later leaves room for the timespan behind it. -/
theorem epochNanos_of_add? {t stop : Instant} {d : Timespan} (hd : 0 < d.nanos)
    (h : t.add? d = some stop) : firstSecond * 1000000000 + d.nanos ≤ stop.epochNanos := by
  have hsecond := t.second_ge
  by_cases ht : t.Regular
  · rw [add?, shift?_of_regular ht] at h
    have hfirst := t.epochNanos_ge
    rw [(ofEpochNanos?_eq_some h).2]
    omega
  · rw [Regular] at ht
    have hmade : ∀ {second : Int} {nanos : Nat} {made : Instant}, make? second nanos = some made →
        made.epochNanos = second * 1000000000 + nanos := by
      intro second nanos made h
      rw [make?] at h
      split at h
      · cases h
        rfl
      · cases h
    rw [add?, shift?, Int.tdiv_eq_ediv_of_nonneg (by omega),
      Int.tmod_eq_emod_of_nonneg (by omega)] at h
    split at h
    · rw [hmade h]
      omega
    · simp only [if_pos (by omega : 0 ≤ d.nanos / 1000000000)] at h
      -- The leap second itself makes up for the second that is lost.
      rw [hmade h]
      omega

end Instant

namespace Window

/-! ### Windows begin in range -/

/-- The first window begins in range. -/
theorem firstEnd?_ge {t stop : Instant} {duration : Timespan} (hd : 0 < duration.nanos)
    (h : firstEnd? t duration = some stop) :
    Instant.firstSecond * 1000000000 + duration.nanos ≤ stop.epochNanos :=
  Instant.epochNanos_of_add? hd h

/-- **A window that is opened later begins in range** if the one before it does.  Inside a leap
second the time can be later than the end of that window while its number is not. -/
theorem nextEnd?_ge {last t stop : Instant} {duration : Timespan} (hd : 0 < duration.nanos)
    (hfits : duration.nanos64?.isSome)
    (hlast : Instant.firstSecond * 1000000000 + duration.nanos ≤ last.epochNanos)
    (hlate : ¬ t.cmp last = .lt) (h : nextEnd? last t duration = some stop) :
    Instant.firstSecond * 1000000000 + duration.nanos ≤ stop.epochNanos := by
  rw [nextEnd?_eq hfits] at h
  rw [(Instant.ofEpochNanos?_eq_some h).2, Int.add_mul, Int.one_mul]
  have hplace := Int.lt_ediv_add_one_mul_self (t.epochNanos - last.epochNanos) hd
  rw [Int.add_mul, Int.one_mul] at hplace
  by_cases hbehind : last.epochNanos ≤ t.epochNanos
  · have hspans := Int.mul_nonneg
      (Int.ediv_nonneg (by omega : 0 ≤ t.epochNanos - last.epochNanos) (Int.le_of_lt hd))
      (Int.le_of_lt hd)
    omega
  · have hsecond : last.second < t.second ∧ last.nanos < 2000000000 := by
      rw [Instant.cmp, Ordering.then_eq_lt, Int.compare_eq_lt, Int.compare_eq_eq,
        Nat.compare_eq_lt] at hlate
      rw [Instant.epochNanos, Instant.epochNanos] at hbehind
      have := last.nanos_lt
      omega
    have hfirst := last.second_ge
    have hgap : last.epochNanos - t.epochNanos < 1000000000 := by
      rw [Instant.epochNanos, Instant.epochNanos]
      omega
    by_cases hshort : duration.nanos ≤ 1000000000
    · have ht : (last.second + 1) * 1000000000 ≤ t.epochNanos := by
        rw [Instant.epochNanos]
        omega
      omega
    · -- A longer window is the one that was open already.
      have hspans : (t.epochNanos - last.epochNanos) / duration.nanos = -1 := by
        rw [Int.ediv_eq_iff_of_pos hd]
        omega
      rw [hspans]
      omega

end Window

/-- **How a call ends early**: something fails, or the open window begins out of range, for which
there is no error. -/
inductive Halt where
  | failed (e : EvalError)
  | outOfRange

/-- A call of a summary: a record, or the end. -/
inductive Call where
  | record (env : Environment) (r : Record)
  | finish

namespace Summarizer

/-! ### Step by step -/

/-- Steps that change the state in place.  Where they end early, the state is the one that the last
step left. -/
abbrev InPlace : Type → Type := EStateM Halt Summarizer

/-- A step that evaluates, and changes nothing. -/
def ask {α : Type} (x : Result α) : InPlace α :=
  match x with
  | .ok a => pure a
  | .error e => throw (.failed e)

/-- **The window moves**: what was in it is taken out before the new end is written. -/
def moveInPlace (time : Option Instant) : InPlace (List Record) := do
  let s ← get
  match s.bin, time with
  | some bin, some time =>
      match s.windowEnd with
      | none =>
          let stop ← ask (Result.ofOption Window.rangeError (Window.firstEnd? time bin.duration))
          modify fun s => { s with windowEnd := some stop }
          return []
      | some last =>
          if time.cmp last == .lt then return []
          else
            let stop ← ask
              (Result.ofOption Window.rangeError (Window.nextEnd? last time bin.duration))
            modify fun s => { s with cells := [] }
            modify fun s => { s with windowEnd := some stop }
            return s.cells.records
  | _, _ => return []

/-- **The beginning of the open window**, with its column. -/
def startInPlace : InPlace (List (String × Value)) := do
  let s ← get
  match s.bin, s.windowEnd with
  | some bin, some stop =>
      match stop.sub? bin.duration with
      | some start => return [(bin.name, .datetime start)]
      | none => throw .outOfRange
  | _, _ => return []

/-- Everything that a record brings is evaluated and checked, one thing after the other. -/
def arriveInPlace (env : Environment) (r : Record) : InPlace Arrival := do
  let s ← get
  let time ← ask (s.bin.mapM (timeOf env r))
  let groupValues ← ask (s.groups.mapM fun column => column.expr.eval env r)
  let inputs ← ask (s.aggregates.mapM (inputOf env r))
  return ⟨time, groupValues, inputs⟩

/-- The record is folded into its cell, which begins with the beginning of the window. -/
def absorbInPlace (start : List (String × Value)) (x : Arrival) : InPlace Unit :=
  modify fun s =>
    let seeds := s.aggregates.map fun a => (a.name, a.seed)
    let cell := Fields.ofPairs (start ++ (s.groups.map Column.name).zip x.groupValues ++ seeds)
    { s with
      cells := s.cells.update (GroupKey.ofValues x.groupValues) cell fun cell =>
        foldInputs cell (s.aggregates.zip x.inputs) }

/-- **One record, step by step.** -/
def nextInPlace (env : Environment) (r : Record) : InPlace (List Record) := do
  let x ← arriveInPlace env r
  let out ← moveInPlace x.time
  let start ← startInPlace
  absorbInPlace start x
  return out

/-- The state that a call leaves, and its answer. -/
def call (s : Summarizer) : Call → Summarizer × Except Halt (List Record)
  | .record env r =>
      match (nextInPlace env r).run s with
      | .ok out s' => (s', .ok out)
      | .error e s' => (s', .error e)
  | .finish => (s.complete.1, .ok s.complete.2)

/-- **A run**: the state after several calls, and their answers. -/
def perform (s : Summarizer) : List Call → Summarizer × List (Except Halt (List Record))
  | [] => (s, [])
  | c :: rest => (((s.call c).1.perform rest).1, (s.call c).2 :: ((s.call c).1.perform rest).2)

/-- **The calls of a run that do not end early.** -/
def accepted (s : Summarizer) : List Call → List Call
  | [] => []
  | c :: rest =>
      if (s.call c).2.isOk then c :: (s.call c).1.accepted rest else (s.call c).1.accepted rest

/-! ### The open window begins in range -/

/-- **The open window begins in range.** -/
def InRange (s : Summarizer) : Prop :=
  ∀ bin stop, s.bin = some bin → s.windowEnd = some stop →
    Instant.firstSecond * 1000000000 + bin.duration.nanos ≤ stop.epochNanos

theorem inRange_of_windowEnd {s : Summarizer} (h : s.windowEnd = none) : s.InRange := by
  intro bin stop _ hstop
  rw [h] at hstop
  cases hstop

theorem InRange.absorb {s : Summarizer} (hs : s.InRange) (x : Arrival) : (s.absorb x).InRange :=
  hs

/-- The window that comes next begins in range: it is the first one, the open one or a later one. -/
theorem InRange.le_advance {s : Summarizer} {bin : TimeBin} {t stop : Instant} {closes : Bool}
    (htimed : s.Timed) (hs : s.InRange) (hbin : s.bin = some bin)
    (h : s.advance bin t = .ok (stop, closes)) :
    Instant.firstSecond * 1000000000 + bin.duration.nanos ≤ stop.epochNanos := by
  obtain ⟨hd, hfits⟩ := htimed bin hbin
  unfold advance Window.advance at h
  split at h
  · obtain ⟨first, hfirst, he⟩ := Except.map_eq_ok_iff.1 h
    cases he
    exact Window.firstEnd?_ge hd (Result.ofOption_eq_ok_iff.1 hfirst)
  · next last hlast =>
      split at h
      · cases h
        exact hs bin stop hbin hlast
      · next hlate =>
          obtain ⟨next, hnext, he⟩ := Except.map_eq_ok_iff.1 h
          cases he
          exact Window.nextEnd?_ge hd hfits (hs bin last hbin hlast)
            (fun hlt => hlate (by rw [hlt]; rfl)) (Result.ofOption_eq_ok_iff.1 hnext)

/-- **Windows that are opened begin in range.** -/
theorem InRange.openWindow {s moved : Summarizer} {time : Option Instant} {out : List Record}
    (htimed : s.Timed) (hs : s.InRange) (h : s.openWindow time = .ok (moved, out)) :
    moved.InRange := by
  rcases openWindow_cases h with ⟨rfl, -, -⟩ | ⟨bin, t, stop, hbin, -, hmoved⟩
  · exact hs
  intro other found hother hfound
  rcases hmoved with ⟨hadvance, -, rfl⟩ | ⟨hadvance, -, rfl⟩
  all_goals
    obtain rfl : bin = other := Option.some.inj (hbin.symm.trans hother)
    obtain rfl : stop = found := Option.some.inj hfound
    exact hs.le_advance htimed hbin hadvance

/-! ### Step by step and all at once -/

/-- The answer and the state of a step that is made all at once: when it fails, the state is the one
before it. -/
def atOnce (s : Summarizer) :
    Result (Summarizer × List Record) → EStateM.Result Halt Summarizer (List Record)
  | .ok (s', out) => .ok out s'
  | .error e => .error (.failed e) s

@[simp] theorem run_ask {α : Type} (x : Result α) (s : Summarizer) :
    (ask x).run s = match x with
      | .ok a => .ok a s
      | .error e => .error (.failed e) s := by
  cases x <;> rfl

theorem ask_pure {α : Type} (a : α) : ask (pure a) = pure a := rfl

theorem ask_bind {α β : Type} (x : Result α) (f : α → Result β) :
    ask (x >>= f) = (ask x >>= fun a => ask (f a)) := by
  cases x <;> rfl

theorem openWindow_some {s : Summarizer} {bin : TimeBin} (hbin : s.bin = some bin) (t : Instant) :
    s.openWindow (some t) = (s.advance bin t).map fun made =>
      if made.2 then ({ s with windowEnd := some made.1, cells := [] }, s.cells.records)
      else ({ s with windowEnd := some made.1 }, []) := by
  unfold openWindow
  simp only [hbin]
  cases s.advance bin t with
  | error e => rfl
  | ok made =>
      obtain ⟨stop, closes⟩ := made
      cases closes <;> rfl

/-- **Moving the window step by step**: the cells are let go only where the new end is known. -/
theorem run_moveInPlace (s : Summarizer) (time : Option Instant) :
    (moveInPlace time).run s = s.atOnce (s.openWindow time) := by
  unfold moveInPlace
  cases hbin : s.bin with
  | none => simp [hbin, openWindow, atOnce]
  | some bin =>
      cases time with
      | none => simp [hbin, openWindow, atOnce]
      | some t =>
          rw [openWindow_some hbin, advance, Window.advance.eq_def]
          cases hwindow : s.windowEnd with
          | none =>
              cases hfirst : Window.firstEnd? t bin.duration with
              | none => simp [hbin, hwindow, hfirst, atOnce, Result.ofOption, Except.map]
              | some stop =>
                  simp [hbin, hwindow, hfirst, atOnce, Result.ofOption, Except.map, -bind_pure_comp]
          | some last =>
              by_cases hlate : t.cmp last = .lt
              · simp [hbin, hwindow, hlate, atOnce, Except.map]
                rw [← hbin, ← hwindow]
              · cases hnext : Window.nextEnd? last t bin.duration with
                | none => simp [hbin, hwindow, hlate, hnext, atOnce, Result.ofOption, Except.map]
                | some stop =>
                    simp [hbin, hwindow, hlate, hnext, atOnce, Result.ofOption, Except.map,
                      -bind_pure_comp]

/-- Where the window begins in range, its beginning is found. -/
theorem run_startInPlace {s : Summarizer} (htimed : s.Timed) (hs : s.InRange) :
    startInPlace.run s = .ok s.windowStart s := by
  unfold startInPlace windowStart
  cases hbin : s.bin with
  | none => simp [hbin]
  | some bin =>
      cases hstop : s.windowEnd with
      | none => simp [hbin, hstop]
      | some stop =>
          obtain ⟨start, hstart⟩ := Option.isSome_iff_exists.1
            ((Instant.sub?_isSome_iff (htimed bin hbin).1).2 (hs bin stop hbin hstop))
          simp [hbin, hstop, hstart]

/-- What does not ask for anything else than before. -/
theorem sameShape_openWindow {s moved : Summarizer} {time : Option Instant} {out : List Record}
    (h : s.openWindow time = .ok (moved, out)) : SameShape s moved := by
  rcases openWindow_cases h with ⟨rfl, -, -⟩ | ⟨bin, t, stop, -, -, ⟨-, -, rfl⟩ | ⟨-, -, rfl⟩⟩
  · exact ⟨rfl, rfl, rfl⟩
  · exact ⟨rfl, rfl, rfl⟩
  · exact ⟨rfl, rfl, rfl⟩

theorem run_arriveInPlace (s : Summarizer) (env : Environment) (r : Record) :
    (arriveInPlace env r).run s = (ask (s.arrival env r)).run s := by
  unfold arriveInPlace arrival
  simp only [ask_bind, ask_pure]
  rfl

/-- **Step by step comes to the same as all at once**, where the open window begins in range. -/
theorem run_nextInPlace {s : Summarizer} (htimed : s.Timed) (hs : s.InRange) (env : Environment)
    (r : Record) : (nextInPlace env r).run s = s.atOnce (s.next? env r) := by
  unfold nextInPlace next?
  rw [EStateM.run_bind, run_arriveInPlace]
  cases harrival : s.arrival env r with
  | error e => rfl
  | ok x =>
      simp only [run_ask, EStateM.run_bind, run_moveInPlace]
      cases hopen : s.openWindow x.time with
      | error e =>
          simp [hopen, bind, Except.bind, atOnce]
      | ok made =>
          obtain ⟨moved, out⟩ := made
          have hmoved : moved.Timed := by
            rw [Timed, (sameShape_openWindow hopen).bin]
            exact htimed
          simp only [atOnce, run_startInPlace hmoved (hs.openWindow htimed hopen)]
          simp [hopen, bind, Except.bind, pure, Except.pure]
          rfl

/-! ### Runs -/

/-- **What every run keeps**: windows have proper durations, and the open one begins in range. -/
structure Sound (s : Summarizer) : Prop where
  timed : s.Timed
  inRange : s.InRange

/-- What is compiled is sound. -/
theorem sound_ofSummary {summary : Summary} {s : Summarizer} (h : ofSummary summary = .ok s) :
    s.Sound := by
  obtain ⟨htimed, hwindow, -⟩ := ofSummary_spec h
  exact ⟨htimed, inRange_of_windowEnd hwindow⟩

/-- **One record taken in place is one record**: the answer and the state are the same, and no
window begins out of range. -/
theorem Sound.call_record {s : Summarizer} (hs : s.Sound) (env : Environment) (r : Record) :
    s.call (.record env r) = ((s.next env r).1, (s.next env r).2.mapError Halt.failed) := by
  rw [Summarizer.call, run_nextInPlace hs.timed hs.inRange, next]
  cases s.next? env r <;> rfl

/-- A call that ends early leaves the state as it was. -/
theorem Sound.call_of_error {s : Summarizer} (hs : s.Sound) {c : Call} {halt : Halt}
    (h : (s.call c).2 = .error halt) : (s.call c).1 = s ∧ ∃ e, halt = .failed e := by
  cases c with
  | record env r =>
      rw [hs.call_record] at h ⊢
      rcases s.next_cases env r with ⟨x, moved, out, -, -, hnext⟩ | ⟨e, hnext⟩
      · rw [hnext] at h
        cases h
      · rw [hnext] at h ⊢
        cases h
        exact ⟨rfl, e, rfl⟩
  | finish => cases h

/-- **A call keeps the state sound.** -/
theorem Sound.call {s : Summarizer} (hs : s.Sound) (c : Call) : (s.call c).1.Sound := by
  cases c with
  | record env r =>
      rw [hs.call_record]
      rcases s.next_cases env r with ⟨x, moved, out, -, hopen, hnext⟩ | ⟨e, hnext⟩
      · rw [hnext]
        refine ⟨?_, (hs.inRange.openWindow hs.timed hopen).absorb x⟩
        change moved.Timed
        rw [Timed, (sameShape_openWindow hopen).bin]
        exact hs.timed
      · rw [hnext]
        exact hs
  | finish => exact ⟨hs.timed, inRange_of_windowEnd rfl⟩

/-- **A run keeps the state sound.** -/
theorem Sound.perform {s : Summarizer} (hs : s.Sound) (calls : List Call) :
    (s.perform calls).1.Sound := by
  induction calls generalizing s with
  | nil => exact hs
  | cons c rest ih => exact ih (hs.call c)

/-- **A run is the same without the records that fail.** -/
theorem Sound.perform_accepted {s : Summarizer} (hs : s.Sound) (calls : List Call) :
    s.perform (s.accepted calls)
      = ((s.perform calls).1, (s.perform calls).2.filter Except.isOk) := by
  induction calls generalizing s with
  | nil => rfl
  | cons c rest ih =>
      have hrest := ih (hs.call c)
      rw [accepted, Summarizer.perform]
      cases hanswer : (s.call c).2 with
      | ok out =>
          have hok : (Except.ok out : Except Halt (List Record)).isOk = true := rfl
          rw [if_pos hok, Summarizer.perform, hrest, hanswer, List.filter_cons_of_pos hok]
      | error halt =>
          have herror : ¬ (Except.error halt : Except Halt (List Record)).isOk = true :=
            Bool.false_ne_true
          obtain ⟨hsame, -⟩ := hs.call_of_error hanswer
          rw [if_neg herror, List.filter_cons_of_neg herror]
          rw [hsame] at hrest ⊢
          exact hrest

/-- **A record that fails leaves the window as it was.**  Whatever calls came before, a record that
ends early does so because something fails and never because the open window begins out of range,
and then nothing has changed; taken in step by step, a record comes to the same as all at once; and
a run lets out the same, and ends in the same state, without the records that fail. -/
theorem failure_leaves_no_trace {summary : Summary} {s₀ : Summarizer}
    (h : ofSummary summary = .ok s₀) (calls : List Call) :
    let s := (s₀.perform calls).1
    (∀ env r halt s', (nextInPlace env r).run s = .error halt s' →
        (∃ e, halt = .failed e) ∧ s'.windowEnd = s.windowEnd ∧ s'.cells = s.cells) ∧
      (∀ env r, s.call (.record env r)
        = ((s.next env r).1, (s.next env r).2.mapError Halt.failed)) ∧
      s₀.perform (s₀.accepted calls) = (s, (s₀.perform calls).2.filter Except.isOk) := by
  intro s
  have hs : s.Sound := (sound_ofSummary h).perform calls
  refine ⟨fun env r halt s' hrun => ?_, hs.call_record, (sound_ofSummary h).perform_accepted calls⟩
  have hcall : s.call (.record env r) = (s', .error halt) := by rw [Summarizer.call, hrun]
  obtain ⟨hsame, hfailed⟩ := hs.call_of_error (congrArg Prod.snd hcall)
  rw [hcall] at hsame
  obtain rfl : s' = s := hsame
  exact ⟨hfailed, rfl, rfl⟩

/-- A record whose window would end out of range, when a window is open already: neither the open
window nor its cell is lost. -/
theorem window_end_out_of_range :
    let s : Summarizer := ⟨[⟨"n", "count", .count, none⟩], [],
      some ⟨"from", .property "t", .ofLong 1000000000⟩, none, []⟩
    let first : Instant := ⟨0, 0, by decide, by decide, by decide, by decide⟩
    let last : Instant := ⟨Instant.lastSecond, 0, by decide, by decide, by decide, by decide⟩
    let calls : List Call := [.record default [("t", .datetime first)],
      .record default [("t", .datetime last)], .record default [("t", .datetime first)], .finish]
    ofSummary ⟨[⟨"n", "count", []⟩], [], some ⟨"from", .property "t", .ofLong 1000000000⟩⟩
        = .ok s ∧
      (s.perform calls).2.map Except.isOk = [true, false, true, true] ∧
      s.perform (s.accepted calls)
        = ((s.perform calls).1, (s.perform calls).2.filter Except.isOk) := by
  intro s first last calls
  have hs : ofSummary ⟨[⟨"n", "count", []⟩], [],
      some ⟨"from", .property "t", .ofLong 1000000000⟩⟩ = .ok s := rfl
  exact ⟨hs, by decide, (failure_leaves_no_trace hs calls).2.2⟩

end Summarizer

end EventQuery
