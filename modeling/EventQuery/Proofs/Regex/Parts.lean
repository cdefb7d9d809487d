/-
**The parts of an expression and what stands behind them.**

Escapes, classes, what opens with a parenthesis, and repetitions are read in the same way, whatever
stands behind a parenthesis that closes the text.

Main results:

* `Regex.steady_readEscape` — escapes;
* `Regex.fueled_readClass` — **classes**, by induction on the fuel;
* `Regex.steady_readOpening`, `Regex.steady_readBounds` — openings and bounds;
* `Regex.steady_readPart` — every part that is no group.
-/

import EventQuery.Proofs.Regex.Scan
import Mathlib.Data.List.TakeWhile

set_option relaxedAutoImplicit false
set_option autoImplicit false

namespace EventQuery

namespace Regex

/-! ### Rows of characters -/

section Rows

variable {p : Char → Bool}

theorem drop_length_takeWhile (cs : List Char) :
    cs.drop (cs.takeWhile p).length = cs.dropWhile p := by
  calc cs.drop (cs.takeWhile p).length
      = (cs.takeWhile p ++ cs.dropWhile p).drop (cs.takeWhile p).length := by
        rw [List.takeWhile_append_dropWhile]
    _ = cs.dropWhile p := List.drop_left

/-- The parenthesis ends a row of characters of a kind to which it does not belong. -/
theorem takeWhile_append_text (hclose : p ')' = false) (cs : List Char) (z : Tail) :
    (cs ++ z.text).takeWhile p = cs.takeWhile p := by
  have hnone : z.text.takeWhile p = [] := List.takeWhile_cons_of_neg (by simp [hclose])
  rw [List.takeWhile_append, hnone, List.append_nil]
  split
  next hall =>
    exact ((List.takeWhile_prefix p).eq_of_length hall).symm
  next => rfl

theorem dropWhile_append_text (hclose : p ')' = false) (cs : List Char) (z : Tail) :
    (cs ++ z.text).dropWhile p = cs.dropWhile p ++ z.text := by
  have hall : z.text.dropWhile p = z.text := List.dropWhile_cons_of_neg (by simp [hclose])
  rw [List.dropWhile_append, hall]
  split
  next hnil => rw [List.isEmpty_iff.1 hnil, List.nil_append]
  next => rfl

/-- A row up to a character that does not stand behind the text: it ends in the text, or there is
no such character at all. -/
theorem upTo_append {stop : Char} {z : Tail} (hstop : stop ∉ z.text) (cs : List Char) :
    ((cs ++ z.text).takeWhile (· != stop) = cs.takeWhile (· != stop)
      ∧ (cs ++ z.text).dropWhile (· != stop) = cs.dropWhile (· != stop) ++ z.text)
    ∨ cs.dropWhile (· != stop) = [] ∧ (cs ++ z.text).dropWhile (· != stop) = [] := by
  by_cases hcs : cs.dropWhile (· != stop) = []
  · refine .inr ⟨hcs, ?_⟩
    rw [List.dropWhile_append, hcs, if_pos List.isEmpty_nil, List.dropWhile_eq_nil_iff]
    exact fun c hc => bne_iff_ne.2 fun h => hstop (h ▸ hc)
  · refine .inl ⟨?_, ?_⟩
    · rw [List.takeWhile_append, if_neg]
      intro hlength
      rw [← drop_length_takeWhile, hlength, List.drop_length] at hcs
      exact hcs rfl
    · rw [List.dropWhile_append, if_neg]
      rwa [List.isEmpty_iff]

theorem colon_notMem (z : Tail) : ':' ∉ z.text := by
  intro h
  rcases List.mem_cons.1 h with h | h
  · exact absurd h (by decide)
  · exact (z.quiet _ h).2.1 rfl

theorem angle_notMem (z : Tail) : '>' ∉ z.text := by
  intro h
  rcases List.mem_cons.1 h with h | h
  · exact absurd h (by decide)
  · exact (z.quiet _ h).2.2 rfl

end Rows

/-! ### Escapes -/

theorem steady_readHexDigits (n : Nat) : Steady (readHexDigits n) := by
  induction n with
  | zero => exact steady_pure []
  | succ n ih =>
      exact steady_bind steady_takeSpaced fun c => steady_bind (steady_require (isHexDigit c))
        fun _ => steady_bind ih fun cs => steady_pure (c :: cs)

theorem steady_takeWhile_left {β : Type} {kind : Char → Bool} {f : List Char → Scan β}
    (hclose : kind ')' = false) (hf : ∀ cs, Steady (f cs)) :
    Steady (left >>= fun l => takeWhile kind l >>= f) :=
  steady_left_bind (φ := id) (fueled_takeWhile kind hclose) (fun _ => Nat.le_refl _)
    (fun a b => Nat.le_add_right a b) hf

theorem steady_takeBraced_left {β : Type} {kind : Char → Bool} {f : List Char → Scan β}
    (hf : ∀ cs, Steady (f cs)) : Steady (left >>= fun l => takeBraced kind l >>= f) :=
  steady_left_bind (φ := id) (fueled_takeBraced kind) (fun _ => Nat.le_refl _)
    (fun a b => Nat.le_add_right a b) hf

theorem steady_readHex (count : Nat) : Steady (readHex count) := by
  refine steady_bind steady_spaces fun _ => steady_bind (steady_comes rfl) fun b => steady_ite ?_ ?_
  · exact steady_bind steady_takeSpaced fun _ => steady_takeBraced_left fun digits =>
      steady_bind (steady_require _) fun _ => steady_orFail _
  · exact steady_bind (steady_readHexDigits count) fun digits => steady_orFail _

/-- A test for a character, and of the one that counts behind it, gives the same whatever is
appended. -/
theorem headed_append (kind : Option Char → Bool) {test : List Char → Bool} {first : Char}
    {flags : Flags} (hne : ')' ≠ first) (hclose : kind (some ')') = kind none)
    (hfirst : ∀ cs, test (first :: cs) = kind (flags.unspaced cs).head?)
    (hother : ∀ cs, (∀ more, cs ≠ first :: more) → test cs = false) (cs : List Char) (z : Tail) :
    test (cs ++ z.text) = test cs := by
  have hskip (c : Char) (more : List Char) (hc : c ≠ first) : test (c :: more) = false :=
    hother _ fun _ he => hc (List.cons_eq_cons.1 he).1
  cases cs with
  | nil =>
      rw [hother [] fun _ he => nomatch he]
      exact hskip ')' z.more hne
  | cons c cs =>
      rw [List.cons_append]
      by_cases hc : c = first
      · rw [hc, hfirst, hfirst]
        exact head?_unspaced_append kind flags hclose cs z
      · rw [hskip c _ hc, hskip c _ hc]

theorem namesEdge_append (flags : Flags) (cs : List Char) (z : Tail) :
    namesEdge flags (cs ++ z.text) = namesEdge flags cs :=
  headed_append (fun c => c.any isEdgeChar) (by decide) rfl (fun _ => rfl)
    (fun _ hcs => namesEdge.eq_2 flags _ hcs) cs z

theorem steady_readEdge (ascii : Bool) : Steady (readEdge ascii) := by
  refine steady_bind (steady_peek namesEdge_append) fun b => steady_ite ?_ (steady_pure _)
  exact steady_bind steady_takeSpaced fun _ => steady_takeWhile_left rfl fun letters =>
    steady_bind (steady_expect _) fun _ => steady_orFail _

theorem steady_readPropertyName : Steady readPropertyName := by
  refine steady_bind steady_spaces fun _ => steady_bind steady_takeSpaced fun c => steady_ite ?_ ?_
  · exact steady_takeBraced_left fun name => steady_pure _
  · exact steady_bind (steady_require _) fun _ => steady_pure _

theorem steady_readProperty (flags : Flags) (negated : Bool) :
    Steady (readProperty flags negated) :=
  steady_bind steady_readPropertyName fun _ => steady_bind (steady_require _) fun _ =>
    steady_bind (steady_orFail _) fun _ => steady_pure _

theorem steady_readEscape : Steady readEscape := by
  refine steady_bind steady_flagsOf fun flags => steady_bind steady_take fun c => ?_
  have hhex (count : Nat) : Steady (readHex count >>= fun c => pure (Atom.char c)) :=
    steady_bind (steady_readHex count) fun _ => steady_pure _
  have hproperty (negated : Bool) :
      Steady (readProperty flags negated >>= fun s => pure (Atom.members s)) :=
    steady_bind (steady_readProperty flags negated) fun s => steady_pure _
  have hedge : Steady (readEdge (!flags.unicode) >>= fun test => pure (Atom.look test)) :=
    steady_bind (steady_readEdge _) fun test => steady_pure _
  exact steady_ite (hhex 2) <| steady_ite (hhex 4) <| steady_ite (hhex 8) <|
    steady_ite (hproperty false) <| steady_ite (hproperty true) <| steady_ite hedge <|
      steady_orFail _

/-! ### Classes -/

theorem steady_readClassAtom : Steady readClassAtom :=
  steady_bind steady_take fun _ => steady_ite steady_readEscape (steady_pure _)

theorem takes_readClassAtom : Takes readClassAtom :=
  takes_bind takes_take fun _ => cuts_ite steady_readEscape.cuts (cuts_pure _)

theorem beginsRange_append (flags : Flags) (cs : List Char) (z : Tail) :
    beginsRange flags (cs ++ z.text) = beginsRange flags cs :=
  headed_append (fun c => c != some ']' && c != some '-') (by decide) rfl (fun _ => rfl)
    (fun _ hcs => beginsRange.eq_2 flags _ hcs) cs z

theorem steady_readRange : Steady readRange := by
  refine steady_bind steady_readClassAtom fun first => steady_bind steady_spaces fun _ =>
    steady_bind (steady_peek beginsRange_append) fun b => steady_ite ?_ (steady_orFail _)
  exact steady_bind steady_takeSpaced fun _ => steady_bind steady_readClassAtom fun _ =>
    steady_orFail _

theorem takes_readRange : Takes readRange := by
  refine takes_bind takes_readClassAtom fun first => cuts_bind steady_spaces.cuts fun _ =>
    cuts_bind (steady_peek beginsRange_append).cuts fun b => cuts_ite ?_ (steady_orFail _).cuts
  exact cuts_bind steady_takeSpaced.cuts fun _ => cuts_bind steady_readClassAtom.cuts fun second =>
    (steady_orFail _).cuts

theorem steady_readClassStart : Steady readClassStart := by
  refine steady_takeWhile_left rfl fun hyphens => steady_ite ?_ (steady_pure _)
  refine steady_bind (steady_comes rfl) fun b => steady_ite ?_ (steady_pure _)
  exact steady_bind steady_takeSpaced fun _ => steady_pure _

/-! ### Named classes and operations -/

theorem namedBody?_append (negated : Bool) (cs : List Char) (z : Tail) :
    namedBody? negated (cs ++ z.text)
      = (namedBody? negated cs).map fun r => (r.1, r.2 ++ z.text) := by
  simp only [namedBody?, drop_length_takeWhile]
  rcases upTo_append (colon_notMem z) cs with ⟨htake, hdrop⟩ | ⟨hdrop, hdrop'⟩
  · rw [htake, hdrop, dropPattern?_append (by decide)]
    cases Text.dropPattern? [':', ']'] (cs.dropWhile (· != ':')) with
    | none => rfl
    | some more =>
        cases CharSet.named? (String.ofList (cs.takeWhile (· != ':'))) with
        | none => rfl
        | some s => rfl
  · rw [hdrop, hdrop']
    rfl

theorem namedClass?_append (cs : List Char) (z : Tail) :
    namedClass? (cs ++ z.text) = (namedClass? cs).map fun r => (r.1, r.2 ++ z.text) := by
  unfold namedClass?
  rw [dropPattern?_append (by decide)]
  cases Text.dropPattern? ['[', ':'] cs with
  | none => rfl
  | some rest =>
      cases rest with
      | nil => exact namedBody?_append false [] z
      | cons c more =>
          by_cases hc : c = '^'
          · subst hc
            exact namedBody?_append true more z
          · simp only [Option.bind_eq_bind, Option.bind_some, Option.map_some]
            split
            · next heq =>
                cases heq
                exact absurd rfl hc
            · split
              · next heq =>
                  cases heq
                  exact absurd rfl hc
              · exact namedBody?_append false (c :: more) z

theorem namedBody?_suffix {negated : Bool} {cs rest : List Char} {set : CharSet}
    (h : namedBody? negated cs = some (set, rest)) : rest <:+ cs := by
  obtain ⟨more, hmore, h⟩ := Option.bind_eq_some_iff.1 h
  obtain ⟨named, -, h⟩ := Option.bind_eq_some_iff.1 h
  cases h
  exact (dropPattern?_suffix hmore).trans (List.drop_suffix _ cs)

theorem namedClass?_suffix {cs rest : List Char} {set : CharSet}
    (h : namedClass? cs = some (set, rest)) : rest <:+ cs ∧ rest.length < cs.length := by
  obtain ⟨more, hmore, h⟩ := Option.bind_eq_some_iff.1 h
  have hcs : cs = ['[', ':'] ++ more := Text.dropPattern?_eq_some_iff.1 hmore
  have hrest : rest <:+ more := by
    split at h
    · exact (namedBody?_suffix h).trans (List.suffix_cons _ _)
    · exact namedBody?_suffix h
  rw [hcs]
  exact ⟨hrest.trans (List.suffix_append _ more), Nat.lt_succ_of_le (Nat.le_succ_of_le
    hrest.length_le)⟩

theorem namedAhead_suffix (cs : List Char) : (namedAhead cs).2 <:+ cs
    ∧ ((namedAhead cs).1.isSome → (namedAhead cs).2.length < cs.length) := by
  unfold namedAhead
  split
  next h =>
    obtain ⟨hsuffix, hlt⟩ := namedClass?_suffix h
    exact ⟨hsuffix, fun _ => hlt⟩
  next => exact ⟨List.suffix_refl _, fun h => absurd h Bool.false_ne_true⟩

theorem steady_namedAhead : Steady (cut fun cs => some (namedAhead cs)) := by
  refine steady_cut_of_map (fun cs a rest h => ?_) fun cs z => ?_
  · have hsuffix := (namedAhead_suffix cs).1
    rw [Option.some_inj.1 h] at hsuffix
    exact hsuffix
  · unfold namedAhead
    rw [namedClass?_append]
    cases namedClass? cs with
    | none => rfl
    | some r => rfl

theorem setOp?_append (cs : List Char) (z : Tail) : setOp? (cs ++ z.text) = setOp? cs := by
  rcases cs with _ | ⟨c, _ | ⟨d, cs⟩⟩
  · rfl
  · have hone : setOp? [c] = none := by
      unfold setOp?
      split <;> simp_all
    have htwo : setOp? (c :: ')' :: z.more) = none := by
      unfold setOp?
      split <;> simp_all
    exact htwo.trans hone.symm
  · -- only the first two characters count
    simp only [List.cons_append]
    unfold setOp?
    split <;> simp_all

theorem setOp?_eq_some {cs : List Char} {op : SetOp} (h : setOp? cs = some op) :
    2 ≤ cs.length := by
  unfold setOp? at h
  split at h <;> simp_all

theorem opAhead_suffix (cs : List Char) : (opAhead cs).2 <:+ cs
    ∧ ((opAhead cs).1.isSome → (opAhead cs).2.length < cs.length) := by
  unfold opAhead
  split
  next op hop =>
    have htwo := setOp?_eq_some hop
    refine ⟨List.drop_suffix 2 cs, fun _ => ?_⟩
    rw [List.length_drop]
    omega
  next => exact ⟨List.suffix_refl _, fun h => absurd h Bool.false_ne_true⟩

theorem steady_opAhead : Steady (cut fun cs => some (opAhead cs)) := by
  refine steady_cut_of_map (fun cs a rest h => ?_) fun cs z => ?_
  · have hsuffix := (opAhead_suffix cs).1
    rw [Option.some_inj.1 h] at hsuffix
    exact hsuffix
  · unfold opAhead
    rw [setOp?_append]
    split
    next op hop =>
      rw [List.drop_append_of_le_length (setOp?_eq_some hop)]
      rfl
    next => rfl

/-- What is found ahead takes something. -/
theorem cut_lt {α : Type} {ahead : List Char → Option α × List Char}
    (h : ∀ cs, (ahead cs).2 <:+ cs ∧ ((ahead cs).1.isSome → (ahead cs).2.length < cs.length))
    {size : Nat} ⦃s : Scanner⦄ ⦃a : Option α⦄ ⦃t : Scanner⦄ (hs : s.rest.length < size + 1)
    (hcut : cut (fun cs => some (ahead cs)) s = some (a, t)) :
    t.rest.length < if a.isSome then size else size + 1 := by
  cases hcut
  obtain ⟨hsuffix, hlt⟩ := h s.rest
  split
  next ha => exact Nat.lt_of_lt_of_le (hlt ha) (Nat.le_of_lt_succ hs)
  next => exact Nat.lt_of_le_of_lt hsuffix.length_le hs

/-! ### Classes -/

theorem takes_class (fuel : Nat) : Takes (readClass fuel)
    ∧ ∀ pending items, Takes (readItems pending items fuel) := by
  induction fuel with
  | zero => exact ⟨takes_failure, fun _ _ => takes_failure⟩
  | succ fuel ih =>
      obtain ⟨ihclass, ihitems⟩ := ih
      constructor
      · have hbody (f : CharSet × Nat → CharSet × Nat) : Takes (do
            let start ← readClassStart
            let r ← readItems none start fuel
            return f r) :=
          takes_bind_right steady_readClassStart.cuts fun start =>
            takes_bind (ihitems none start) fun r => cuts_pure (f r)
        exact takes_bind_right steady_flagsOf.cuts fun flags =>
          takes_bind_right steady_spaces.cuts fun _ =>
          takes_bind_right (steady_comes rfl).cuts fun negated => takes_ite
            (takes_bind takes_takeSpaced fun _ => (hbody _).cuts) (hbody _)
      · intro pending items
        refine takes_bind_right steady_flagsOf.cuts fun flags =>
          takes_bind_right steady_spaces.cuts fun _ =>
          takes_bind_right (steady_comes rfl).cuts fun opens => takes_ite ?_ <|
          takes_bind_right (steady_comes rfl).cuts fun closes => takes_ite ?_ ?_
        · refine takes_bind_right steady_namedAhead.cuts fun named => ?_
          cases named with
          | some s => exact ihitems pending (items.add s 0)
          | none =>
              exact takes_bind takes_take fun _ => cuts_bind ihclass.cuts fun r =>
                (ihitems pending (items.add r.1 r.2)).cuts
        · exact takes_bind takes_take fun _ => cuts_pure _
        · refine takes_bind_right steady_opAhead.cuts fun op => ?_
          cases op with
          | some op => exact ihitems _ _
          | none =>
              exact takes_bind takes_readRange fun s => (ihitems pending (items.add s 0)).cuts

/-- **A class and its items** are read in the same way. -/
theorem fueled_class (fuel : Nat) :
    (∀ (size : Nat) (k : Tail → Nat), 2 * size ≤ fuel →
      Alike size (readClass fuel) fun z => readClass (k z + fuel))
    ∧ ∀ (pending : Option Pending) (items : Items) (size : Nat) (k : Tail → Nat),
      2 * size ≤ fuel + 1 →
      Alike size (readItems pending items fuel) fun z => readItems pending items (k z + fuel) := by
  have hzero (fuel : Nat) (k : Tail → Nat) (pending : Option Pending) (items : Items) :
      Alike 0 (readItems pending items fuel) fun z => readItems pending items (k z + fuel) :=
    alike_zero ((takes_class _).2 pending items).cuts fun z =>
      ((takes_class _).2 pending items).cuts
  induction fuel with
  | zero =>
      refine ⟨fun size k hsize => ?_, fun pending items size k hsize => ?_⟩
      · obtain rfl : size = 0 := by omega
        exact alike_zero (takes_class _).1.cuts fun z => (takes_class _).1.cuts
      · obtain rfl : size = 0 := by omega
        exact hzero 0 k pending items
  | succ fuel ih =>
      obtain ⟨ihclass, ihitems⟩ := ih
      refine ⟨fun size k hsize => ?_, fun pending items size k hsize => ?_⟩
      · have hbody (f : CharSet × Nat → CharSet × Nat) : Alike size (do
            let start ← readClassStart
            let r ← readItems none start fuel
            return f r) fun z => do
              let start ← readClassStart
              let r ← readItems none start (k z + fuel)
              return f r :=
          alike_bind (steady_readClassStart _) fun start =>
            alike_bind (ihitems none start size k hsize) fun r => steady_pure (f r) _
        exact alike_bind (steady_flagsOf _) fun flags =>
          alike_bind (steady_spaces _) fun _ =>
          alike_bind (steady_comes rfl _) fun negated => alike_ite
            (alike_bind (steady_takeSpaced _) fun _ => hbody _) (hbody _)
      · cases size with
        | zero => exact hzero (fuel + 1) k pending items
        | succ size =>
            have hclass := ihclass size k (by omega)
            have hitems (pending : Option Pending) (items : Items) :=
              ihitems pending items size k (by omega)
            refine alike_bind (steady_flagsOf _) fun flags =>
              alike_bind (steady_spaces _) fun _ =>
              alike_bind (steady_comes rfl _) fun opens => alike_ite ?_ <|
              alike_bind (steady_comes rfl _) fun closes => alike_ite ?_ ?_
            · refine alike_bind_of_left _ (steady_namedAhead _) (cut_lt namedAhead_suffix)
                fun named => ?_
              cases named with
              | some s => exact hitems pending (items.add s 0)
              | none =>
                  exact alike_bind_of_takes (steady_take _) takes_take fun _ =>
                    alike_bind hclass fun r => hitems pending (items.add r.1 r.2)
            · exact alike_bind (steady_take _) fun _ => steady_pure _ _
            · refine alike_bind_of_left _ (steady_opAhead _) (cut_lt opAhead_suffix) fun op => ?_
              cases op with
              | some op => exact hitems _ _
              | none =>
                  exact alike_bind_of_takes (steady_readRange _) takes_readRange fun s =>
                    hitems pending (items.add s 0)

theorem fueled_readClass : Fueled (2 * ·) readClass := fun fuel => (fueled_class fuel).1

/-! ### Flags and groups -/

section Flags

variable {flags : Flags} {on : Bool} {seen cs rest : List Char} {r : Flags × Bool × Bool}

theorem scanFlags_suffix (h : scanFlags flags on seen cs = some (r, rest)) : rest <:+ cs := by
  induction cs generalizing flags on seen with
  | nil => cases h
  | cons c cs ih =>
      rw [scanFlags] at h
      split at h
      · split at h
        · cases h
        · cases h
          exact List.suffix_cons c rest
      · split at h
        · cases h
        · split at h
          · exact (ih h).trans (List.suffix_cons c cs)
          · split at h
            · exact (ih h).trans (List.suffix_cons c cs)
            · cases h

theorem scanFlags_append (z : Tail) (h : scanFlags flags on seen cs = some (r, rest)) :
    scanFlags flags on seen (cs ++ z.text) = some (r, rest ++ z.text) := by
  induction cs generalizing flags on seen with
  | nil => cases h
  | cons c cs ih =>
      rw [scanFlags] at h
      rw [List.cons_append, scanFlags]
      split at h
      next hends =>
        rw [if_pos hends]
        split at h
        · cases h
        next hlast =>
          cases h
          rw [if_neg hlast]
      next hgoes =>
        rw [if_neg hgoes]
        split at h
        · cases h
        next hnew =>
          rw [if_neg hnew]
          split at h
          next hminus =>
            rw [if_pos hminus]
            exact ih h
          next hletter =>
            rw [if_neg hletter]
            split at h
            next changed hchanged => exact ih h
            next => cases h

/-- Flags that nothing closes are closed by the parenthesis behind the text. -/
theorem scanFlags_touches (z : Tail) (hnone : scanFlags flags on seen cs = none)
    (h : scanFlags flags on seen (cs ++ z.text) = some (r, rest)) :
    rest.length ≤ z.more.length := by
  induction cs generalizing flags on seen with
  | nil =>
      rw [List.nil_append, Tail.text, scanFlags, if_pos (.inr rfl)] at h
      split at h
      · cases h
      · cases h
        exact Nat.le_refl _
  | cons c cs ih =>
      rw [scanFlags] at hnone
      rw [List.cons_append, scanFlags] at h
      split at hnone
      next hends =>
        rw [if_pos hends] at h
        split at hnone
        next hlast =>
          rw [if_pos hlast] at h
          cases h
        next => cases hnone
      next hgoes =>
        rw [if_neg hgoes] at h
        split at hnone
        next hagain =>
          rw [if_pos hagain] at h
          cases h
        next hnew =>
          rw [if_neg hnew] at h
          split at hnone
          next hminus =>
            rw [if_pos hminus] at h
            exact ih hnone h
          next hletter =>
            rw [if_neg hletter] at h
            split at hnone
            next changed hchanged =>
              rw [hchanged] at h
              exact ih hnone h
            next hchanged =>
              rw [hchanged] at h
              cases h

end Flags

theorem steady_scanFlags (flags : Flags) : Steady (cut (scanFlags flags true [])) :=
  steady_cut (fun _ _ _ h => scanFlags_suffix h) (fun _ _ _ z h => scanFlags_append z h)
    fun _ _ _ z hnone h => scanFlags_touches z hnone h

theorem steady_scanGroupName : Steady (cut scanGroupName) := by
  refine steady_cut_of_map (fun cs name rest h => ?_) fun cs z => ?_
  · simp only [scanGroupName, drop_length_takeWhile] at h
    split at h
    · obtain ⟨more, hmore, hpair⟩ := Option.map_eq_some_iff.1 h
      cases hpair
      exact (dropPattern?_suffix hmore).trans (List.dropWhile_suffix _)
    · cases h
  · simp only [scanGroupName, drop_length_takeWhile]
    rcases upTo_append (angle_notMem z) cs with ⟨htake, hdrop⟩ | ⟨hdrop, hdrop'⟩
    · rw [htake, hdrop, dropPattern?_append (by decide)]
      split
      · cases Text.dropPattern? ['>'] (cs.dropWhile (· != '>')) with
        | none => rfl
        | some more => rfl
      · rfl
    · -- no bracket closes the name
      rw [hdrop, hdrop']
      split <;> split <;> rfl

theorem looksAround_append (cs : List Char) (z : Tail) :
    looksAround (cs ++ z.text) = looksAround cs := by
  have hstart {mark : List Char} (hmark : ')' ∉ mark) :
      Text.startsWith (cs ++ z.text) mark = Text.startsWith cs mark := by
    rw [Text.startsWith, dropPattern?_append hmark, Option.isSome_map, Text.startsWith]
  simp only [looksAround, List.any_cons, List.any_nil]
  rw [hstart (by decide), hstart (by decide), hstart (by decide), hstart (by decide)]

theorem steady_newGroup : Steady newGroup :=
  steady_of_map (fun s => some s.groups) (fun s => { s with groups := s.groups + 1 })
    (fun _ => rfl) (fun _ => rfl) (fun _ _ => rfl) fun _ _ => rfl

theorem steady_nameGroup (name : String) (index : Nat) : Steady (nameGroup name index) := by
  refine steady_of_map
    (fun s => if s.names.any fun entry => entry.1 == name then none else some ())
    (fun s => { s with names := s.names ++ [(name, index)] })
    (fun s => ?_) (fun _ => rfl) (fun _ _ => rfl) fun _ _ => rfl
  rw [nameGroup]
  split <;> rfl

theorem steady_readOpening (flags : Flags) : Steady (readOpening flags) := by
  have hnamed : Steady (readOpening.readNamedGroup flags) :=
    steady_bind steady_newGroup fun index => steady_bind steady_scanGroupName fun name =>
      steady_bind (steady_nameGroup _ _) fun _ => steady_pure _
  refine steady_bind steady_spaces fun _ =>
    steady_bind (steady_peek fun _ cs z => looksAround_append cs z) fun looks =>
    steady_bind (steady_require _) fun _ => ?_
  refine steady_bind (steady_takeIf (by decide)) fun _ => steady_ite hnamed <|
    steady_bind (steady_takeIf (by decide)) fun _ => steady_ite hnamed <|
    steady_bind (steady_takeIf (by decide)) fun _ => steady_ite ?_ ?_
  · exact steady_bind (steady_scanFlags flags) fun r => steady_ite
      (steady_bind (steady_require _) fun _ => steady_pure _) (steady_pure _)
  · exact steady_bind steady_newGroup fun index => steady_pure _

/-! ### Repetition -/

theorem steady_scanCount : Steady (cut scanCount) := by
  refine steady_cut_of_map (fun cs n rest h => ?_) fun cs z => ?_
  · simp only [scanCount, drop_length_takeWhile] at h
    split at h
    · cases h
    · cases h
      exact (List.dropWhile_suffix _).trans ((List.dropWhile_suffix _).trans
        (List.dropWhile_suffix _))
  · simp only [scanCount, drop_length_takeWhile]
    rw [dropWhile_append_text rfl, takeWhile_append_text rfl, dropWhile_append_text rfl,
      dropWhile_append_text rfl]
    split <;> rfl

theorem steady_readBounds : Steady readBounds := by
  have hone (least : Nat) : Steady (do
      expectSpaced '\x7d'
      return (least, some least)) :=
    steady_bind (steady_expectSpaced _) fun _ => steady_pure _
  have htwo (least : Nat) : Steady (do
      let most ← cut scanCount
      expectSpaced '\x7d'
      require (least ≤ most)
      return (least, some most)) :=
    steady_bind steady_scanCount fun most => steady_bind (steady_expectSpaced _) fun _ =>
      steady_bind (steady_require _) fun _ => steady_pure _
  refine steady_bind steady_spaces fun _ => steady_bind steady_scanCount fun least =>
    steady_bind (steady_comes rfl) fun _ => steady_ite ?_ (hone least)
  exact steady_bind steady_takeSpaced fun _ => steady_bind (steady_comes rfl) fun _ =>
    steady_ite (steady_bind steady_takeSpaced fun _ => steady_pure _) (htwo least)

theorem steady_repeatLast (flags : Flags) (parts : Parts) (least : Nat) (most : Option Nat) :
    Steady (repeatLast flags parts least most) := by
  have hlazy : Steady (readLazy flags) :=
    steady_bind (steady_takeIf (by decide)) fun _ => steady_pure _
  unfold repeatLast
  split
  · exact steady_bind hlazy fun greedy => steady_pure _
  · exact steady_failure

/-! ### Parts -/

theorem steady_ofSet (flags : Flags) (s : CharSet) : Steady (ofSet flags s) :=
  steady_bind (steady_require _) fun _ => steady_pure _

theorem steady_ofAtom (flags : Flags) (a : Atom) : Steady (ofAtom flags a) := by
  cases a with
  | char c => exact steady_pure _
  | members s => exact steady_ofSet flags s
  | look test => exact steady_pure _
  | dot => exact steady_ofSet flags _

/-- **A part that is no group.** -/
theorem steady_readPart (flags : Flags) (parts : Parts) (c : Char) :
    Steady (readPart flags parts c) := by
  unfold readPart
  split
  · exact steady_left_bind fueled_readClass (fun l => by omega) (fun a b => by omega) fun r =>
      steady_bind (steady_ofSet flags r.1) fun _ => steady_pure _
  · exact steady_repeatLast flags parts 0 none
  · exact steady_repeatLast flags parts 1 none
  · exact steady_repeatLast flags parts 0 (some 1)
  · exact steady_bind steady_readBounds fun bounds =>
      steady_repeatLast flags parts bounds.1 bounds.2
  · exact steady_bind steady_readEscape fun a =>
      steady_bind (steady_ofAtom flags a) fun _ => steady_pure _
  · exact steady_bind (steady_ofAtom flags .dot) fun _ => steady_pure _
  · exact steady_pure _
  · exact steady_pure _
  · exact steady_pure _

end Regex

end EventQuery
