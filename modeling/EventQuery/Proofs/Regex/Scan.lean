/-
**Readers and what stands behind a text.**

A reader that comes to the end of a text is compared with the same reader on a longer text, which
goes on with a closing parenthesis.  A reader that succeeds on the text succeeds on the longer one
and leaves the same rest, with the parenthesis behind it; only where the text ends in a comment, the
comment goes on and nothing is left.  The other way round, a reader that succeeds on the longer text
and leaves the parenthesis alone succeeds on the text itself.

Main definitions:

* `Regex.Cuts`, `Regex.Takes` — what a reader leaves is an end of the text, or a shorter one;
* `Regex.Tail` — what stands behind a text;
* `Regex.Agrees`, `Regex.Alike` — **a reader and others on the longer text**;
* `Regex.Steady`, `Regex.Fueled` — one reader on both texts, and one with more fuel.

Main results:

* `Regex.runs_bind`, `Regex.alike_bind_of_left` — **one reader after another**;
* `Regex.steady_cut`, `Regex.steady_peek`, `Regex.steady_spaces` — the steps;
* `Regex.steady_left_bind` — fuel that is counted out;
* `Regex.fueled_takeWhile`, `Regex.fueled_takeBraced` — characters one after another.
-/

import EventQuery.Regex.Reader
import Mathlib.Data.List.Infix

set_option relaxedAutoImplicit false
set_option autoImplicit false

namespace EventQuery

namespace Regex

variable {α β : Type}

/-! ### What a reader leaves -/

theorem bind_eq_some_iff {m : Scan α} {f : α → Scan β} {s : Scanner} {r : β × Scanner} :
    (m >>= f) s = some r ↔ ∃ a t, m s = some (a, t) ∧ f a t = some r := by
  change (m s).bind (fun x => f x.1 x.2) = some r ↔ _
  rw [Option.bind_eq_some_iff]
  constructor
  · rintro ⟨⟨a, t⟩, hm, hf⟩
    exact ⟨a, t, hm, hf⟩
  · rintro ⟨a, t, hm, hf⟩
    exact ⟨(a, t), hm, hf⟩

theorem bind_of_eq_some {m : Scan α} {f : α → Scan β} {s t : Scanner} {a : α}
    (h : m s = some (a, t)) : (m >>= f) s = f a t := by
  change (m s).bind (fun x => f x.1 x.2) = _
  rw [h, Option.bind_some]

/-- **A reader leaves an end of the text.** -/
def Cuts (m : Scan α) : Prop := ∀ ⦃s : Scanner⦄ ⦃a : α⦄ ⦃t : Scanner⦄, m s = some (a, t) →
  t.rest <:+ s.rest

/-- **A reader takes something**, and leaves an end of the text. -/
def Takes (m : Scan α) : Prop := ∀ ⦃s : Scanner⦄ ⦃a : α⦄ ⦃t : Scanner⦄, m s = some (a, t) →
  t.rest <:+ s.rest ∧ t.rest.length < s.rest.length

theorem Takes.cuts {m : Scan α} (h : Takes m) : Cuts m := fun _ _ _ hm => (h hm).1

section Cuts

variable {m : Scan α} {f : α → Scan β}

theorem cuts_pure (a : α) : Cuts (pure a) := by
  rintro s b t ⟨⟩
  exact List.suffix_refl _

theorem cuts_failure : Cuts (failure : Scan α) := by
  rintro s b t ⟨⟩

theorem cuts_bind (hm : Cuts m) (hf : ∀ a, Cuts (f a)) : Cuts (m >>= f) := by
  intro s b t h
  obtain ⟨a, mid, hmid, ht⟩ := bind_eq_some_iff.1 h
  exact (hf a ht).trans (hm hmid)

theorem takes_bind (hm : Takes m) (hf : ∀ a, Cuts (f a)) : Takes (m >>= f) := by
  intro s b t h
  obtain ⟨a, mid, hmid, ht⟩ := bind_eq_some_iff.1 h
  obtain ⟨hsuffix, hlt⟩ := hm hmid
  exact ⟨(hf a ht).trans hsuffix, Nat.lt_of_le_of_lt (hf a ht).length_le hlt⟩

theorem takes_bind_right (hm : Cuts m) (hf : ∀ a, Takes (f a)) : Takes (m >>= f) := by
  intro s b t h
  obtain ⟨a, mid, hmid, ht⟩ := bind_eq_some_iff.1 h
  obtain ⟨hsuffix, hlt⟩ := hf a ht
  exact ⟨hsuffix.trans (hm hmid), Nat.lt_of_lt_of_le hlt (hm hmid).length_le⟩

theorem cuts_ite {c : Prop} [Decidable c] {p q : Scan α} (hp : Cuts p) (hq : Cuts q) :
    Cuts (if c then p else q) := by
  split
  · exact hp
  · exact hq

theorem takes_ite {c : Prop} [Decidable c] {p q : Scan α} (hp : Takes p) (hq : Takes q) :
    Takes (if c then p else q) := by
  split
  · exact hp
  · exact hq

theorem takes_failure : Takes (failure : Scan α) := by
  rintro s b t ⟨⟩

end Cuts

/-! ### What stands behind a text -/

/-- **What stands behind a text**: a closing parenthesis and more, none of which ends a comment or a
name; and fuel to spare. -/
structure Tail where
  more : List Char
  fuel : Nat
  quiet : ∀ c ∈ more, c ≠ '\n' ∧ c ≠ ':' ∧ c ≠ '>'

/-- The characters that stand there. -/
def Tail.text (z : Tail) : List Char := ')' :: z.more

/-- The state with something behind the text. -/
def Scanner.before (s : Scanner) (z : Tail) : Scanner := { s with rest := s.rest ++ z.text }

@[simp] theorem Scanner.rest_before (s : Scanner) (z : Tail) :
    (s.before z).rest = s.rest ++ z.text := rfl

@[simp] theorem Scanner.flags_before (s : Scanner) (z : Tail) : (s.before z).flags = s.flags := rfl

/-- **Two outcomes agree**, without something behind the text and with it.  What succeeds leaves it
there, or a comment goes on over all of it; and what succeeds with it there has touched it unless it
succeeds without. -/
structure Agrees (o : Option (α × Scanner)) (o' : Tail → Option (α × Scanner)) : Prop where
  forth : ∀ ⦃a : α⦄ ⦃t : Scanner⦄, o = some (a, t) →
    (∀ z, o' z = some (a, t.before z)) ∨ t.rest = [] ∧ ∀ z, o' z = some (a, t)
  back : ∀ ⦃z : Tail⦄ ⦃a : α⦄ ⦃t : Scanner⦄, o' z = some (a, t) →
    (∃ t₀ : Scanner, t = t₀.before z ∧ o = some (a, t₀)) ∨ t.rest.length ≤ z.more.length

/-- **A reader agrees with others on a longer text**, from a state on. -/
structure Runs (s : Scanner) (m : Scan α) (m' : Tail → Scan α) : Prop where
  agrees : Agrees (m s) fun z => m' z (s.before z)
  ends : s.rest = [] → ∀ (z : Tail) ⦃r : α × Scanner⦄, m s = some r → m' z s = some r

/-- **A reader and others are alike**, on texts of fewer characters. -/
structure Alike (size : Nat) (m : Scan α) (m' : Tail → Scan α) : Prop where
  cuts : Cuts m
  cuts' : ∀ z, Cuts (m' z)
  runs : ∀ s : Scanner, s.rest.length < size → Runs s m m'

theorem alike_zero {m : Scan α} {m' : Tail → Scan α} (hcuts : Cuts m) (hcuts' : ∀ z, Cuts (m' z)) :
    Alike 0 m m' :=
  ⟨hcuts, hcuts', fun _ hs => absurd hs (Nat.not_lt_zero _)⟩

/-- **What stands behind a text changes nothing.** -/
def Steady (m : Scan α) : Prop := ∀ size, Alike size m fun _ => m

theorem Steady.cuts {m : Scan α} (h : Steady m) : Cuts m := (h 0).cuts

theorem steady_of_agrees {m : Scan α} (hcuts : Cuts m)
    (hagrees : ∀ s, Agrees (m s) fun z => m (s.before z)) : Steady m :=
  fun _ => ⟨hcuts, fun _ => hcuts, fun s _ => ⟨hagrees s, fun _ _ _ hr => hr⟩⟩

/-! ### Sequence and choice -/

section Sequence

variable {size : Nat} {s : Scanner} {m : Scan α} {m' : Tail → Scan α} {f : α → Scan β}
  {f' : Tail → α → Scan β}

/-- **One reader after another**, from a state on. -/
theorem runs_bind (hm : Runs s m m') (hcuts : Cuts m)
    (hf : ∀ a t, m s = some (a, t) → Runs t (f a) fun z => f' z a) (hfcuts : ∀ a, Cuts (f a))
    (hfcuts' : ∀ z a, Cuts (f' z a)) : Runs s (m >>= f) fun z => m' z >>= f' z := by
  have hnil {a : α} {t : Scanner} (hs : s.rest = []) (ht : m s = some (a, t)) : t.rest = [] := by
    have hsuffix := hcuts ht
    rw [hs] at hsuffix
    exact List.suffix_nil.1 hsuffix
  refine ⟨⟨?_, ?_⟩, ?_⟩
  · intro b u h
    obtain ⟨a, t, ht, hu⟩ := bind_eq_some_iff.1 h
    rcases hm.agrees.forth ht with hleft | ⟨hend, hswallowed⟩
    · rcases (hf a t ht).agrees.forth hu with hleft' | ⟨hend', hswallowed'⟩
      · exact .inl fun z => (bind_of_eq_some (hleft z)).trans (hleft' z)
      · exact .inr ⟨hend', fun z => (bind_of_eq_some (hleft z)).trans (hswallowed' z)⟩
    · have hnone : u.rest = [] := by
        have hsuffix := hfcuts a hu
        rw [hend] at hsuffix
        exact List.suffix_nil.1 hsuffix
      exact .inr ⟨hnone, fun z =>
        (bind_of_eq_some (hswallowed z)).trans ((hf a t ht).ends hend z hu)⟩
  · intro z b u h
    obtain ⟨a, t, ht, hu⟩ := bind_eq_some_iff.1 h
    rcases hm.agrees.back ht with ⟨t₀, rfl, ht₀⟩ | htouched
    · rcases (hf a t₀ ht₀).agrees.back hu with ⟨u₀, rfl, hu₀⟩ | htouched
      · exact .inl ⟨u₀, rfl, (bind_of_eq_some ht₀).trans hu₀⟩
      · exact .inr htouched
    · exact .inr (Nat.le_trans (hfcuts' z a hu).length_le htouched)
  · intro hs z r h
    obtain ⟨a, t, ht, hr⟩ := bind_eq_some_iff.1 h
    rw [bind_of_eq_some (hm.ends hs z ht)]
    exact (hf a t ht).ends (hnil hs ht) z hr

/-- **One reader after another**, where what the first one gives bounds the text that it leaves. -/
theorem alike_bind_of_left (bound : α → Nat) (hm : Alike size m m')
    (hleft : ∀ ⦃s a t⦄, s.rest.length < size → m s = some (a, t) → t.rest.length < bound a)
    (hf : ∀ a, Alike (bound a) (f a) fun z => f' z a) :
    Alike size (m >>= f) fun z => m' z >>= f' z := by
  refine ⟨cuts_bind hm.cuts fun a => (hf a).cuts,
    fun z => cuts_bind (hm.cuts' z) fun a => (hf a).cuts' z, fun s hs => ?_⟩
  exact runs_bind (hm.runs s hs) hm.cuts (fun a t ht => (hf a).runs t (hleft hs ht))
    (fun a => (hf a).cuts) fun z a => (hf a).cuts' z

theorem alike_bind (hm : Alike size m m') (hf : ∀ a, Alike size (f a) fun z => f' z a) :
    Alike size (m >>= f) fun z => m' z >>= f' z :=
  alike_bind_of_left (fun _ => size) hm
    (fun _ _ _ hs ht => Nat.lt_of_le_of_lt (hm.cuts ht).length_le hs) hf

/-- Behind a reader that takes something there is less text. -/
theorem alike_bind_of_takes (hm : Alike (size + 1) m m') (htakes : Takes m)
    (hf : ∀ a, Alike size (f a) fun z => f' z a) :
    Alike (size + 1) (m >>= f) fun z => m' z >>= f' z :=
  alike_bind_of_left (fun _ => size) hm
    (fun _ _ _ hs ht => Nat.lt_of_lt_of_le (htakes ht).2 (Nat.le_of_lt_succ hs)) hf

theorem alike_ite {c : Prop} [Decidable c] {p q : Scan α} {p' q' : Tail → Scan α}
    (hp : Alike size p p') (hq : Alike size q q') :
    Alike size (if c then p else q) fun z => if c then p' z else q' z := by
  by_cases hc : c
  · simp only [if_pos hc]
    exact hp
  · simp only [if_neg hc]
    exact hq

theorem steady_bind (hm : Steady m) (hf : ∀ a, Steady (f a)) : Steady (m >>= f) :=
  fun size => alike_bind (hm size) fun a => hf a size

theorem steady_ite {c : Prop} [Decidable c] {p q : Scan α} (hp : Steady p) (hq : Steady q) :
    Steady (if c then p else q) :=
  fun size => alike_ite (hp size) (hq size)

end Sequence

/-! ### Steps -/

/-- A step that leaves the text as it is and looks at nothing of it. -/
theorem steady_of_map {m : Scan α} (a : Scanner → Option α) (change : Scanner → Scanner)
    (hm : ∀ s, m s = (a s).map fun a => (a, change s)) (hrest : ∀ s, (change s).rest = s.rest)
    (hchange : ∀ s z, change (s.before z) = (change s).before z)
    (ha : ∀ s z, a (s.before z) = a s) : Steady m := by
  refine steady_of_agrees (fun s b t h => ?_) fun s =>
    ⟨fun b t h => .inl fun z => ?_, fun z b t h => .inl ?_⟩
  · rw [hm, Option.map_eq_some_iff] at h
    obtain ⟨b, -, hb⟩ := h
    cases hb
    rw [hrest]
  · rw [hm, Option.map_eq_some_iff] at h
    obtain ⟨b, hb, hpair⟩ := h
    cases hpair
    rw [hm, ha, hb, hchange, Option.map_some]
  · rw [hm, Option.map_eq_some_iff] at h
    obtain ⟨b, hb, hpair⟩ := h
    cases hpair
    rw [ha] at hb
    exact ⟨change s, hchange s z, by rw [hm, hb]; rfl⟩

theorem steady_pure (a : α) : Steady (pure a : Scan α) :=
  steady_of_map (fun _ => some a) id (fun _ => rfl) (fun _ => rfl) (fun _ _ => rfl) fun _ _ => rfl

theorem steady_failure : Steady (failure : Scan α) :=
  steady_of_map (fun _ => none) id (fun _ => rfl) (fun _ => rfl) (fun _ _ => rfl) fun _ _ => rfl

theorem steady_require (c : Bool) : Steady (require c) := steady_ite (steady_pure ()) steady_failure

theorem steady_orFail (a : Option α) : Steady (orFail a) :=
  steady_of_map (fun _ => a) id (fun _ => rfl) (fun _ => rfl) (fun _ _ => rfl) fun _ _ => rfl

/-- **A look at the text** that does not see what stands behind it. -/
theorem steady_peek {f : Flags → List Char → α}
    (h : ∀ flags cs (z : Tail), f flags (cs ++ z.text) = f flags cs) : Steady (peek f) :=
  steady_of_map (fun s => some (f s.flags s.rest)) id (fun _ => rfl) (fun _ => rfl) (fun _ _ => rfl)
    fun s z => congrArg some (h s.flags s.rest z)

theorem steady_flagsOf : Steady flagsOf := steady_peek fun _ _ _ => rfl

theorem steady_setFlags (flags : Flags) : Steady (setFlags flags) :=
  steady_of_map (fun _ => some ()) (fun s => { s with flags := flags }) (fun _ => rfl)
    (fun _ => rfl) (fun _ _ => rfl) fun _ _ => rfl

/-- **Something taken from the front of the text** that does not end behind it. -/
theorem steady_cut {f : List Char → Option (α × List Char)}
    (hcuts : ∀ ⦃cs a rest⦄, f cs = some (a, rest) → rest <:+ cs)
    (hsome : ∀ ⦃cs a rest⦄ (z : Tail), f cs = some (a, rest) →
      f (cs ++ z.text) = some (a, rest ++ z.text))
    (hnone : ∀ ⦃cs a rest⦄ (z : Tail), f cs = none → f (cs ++ z.text) = some (a, rest) →
      rest.length ≤ z.more.length) : Steady (cut f) := by
  have hcut {s t : Scanner} {a : α} :
      cut f s = some (a, t) ↔ ∃ rest, f s.rest = some (a, rest) ∧ t = { s with rest := rest } := by
    rw [cut, Option.map_eq_some_iff]
    constructor
    · rintro ⟨⟨b, rest⟩, hf, hpair⟩
      cases hpair
      exact ⟨rest, hf, rfl⟩
    · rintro ⟨rest, hf, rfl⟩
      exact ⟨(a, rest), hf, rfl⟩
  refine steady_of_agrees (fun s a t h => ?_) fun s =>
    ⟨fun a t h => .inl fun z => ?_, fun z a t h => ?_⟩
  · obtain ⟨rest, hf, rfl⟩ := hcut.1 h
    exact hcuts hf
  · obtain ⟨rest, hf, rfl⟩ := hcut.1 h
    exact hcut.2 ⟨rest ++ z.text, hsome z hf, rfl⟩
  · obtain ⟨rest, hf, rfl⟩ := hcut.1 h
    cases hfs : f s.rest with
    | none => exact .inr (hnone z hfs hf)
    | some r =>
        obtain ⟨b, rest₀⟩ := r
        rw [Scanner.rest_before, hsome z hfs] at hf
        cases hf
        exact .inl ⟨{ s with rest := rest₀ }, rfl, hcut.2 ⟨rest₀, hfs, rfl⟩⟩

/-- Something taken in the same way whatever stands behind the text. -/
theorem steady_cut_of_map {f : List Char → Option (α × List Char)}
    (hcuts : ∀ ⦃cs a rest⦄, f cs = some (a, rest) → rest <:+ cs)
    (h : ∀ cs (z : Tail), f (cs ++ z.text) = (f cs).map fun r => (r.1, r.2 ++ z.text)) :
    Steady (cut f) := by
  refine steady_cut hcuts (fun cs a rest z hf => ?_) fun cs a rest z hnone hsome => ?_
  · rw [h, hf]
    rfl
  · rw [h, hnone] at hsome
    cases hsome

/-! ### Blanks and comments -/

/-- What is dropped in front of a text is dropped there, whatever stands behind, unless a comment
goes on. -/
theorem dropVerbose_append (inComment : Bool) (cs : List Char) :
    (∀ z : Tail, dropVerbose inComment (cs ++ z.text) = dropVerbose inComment cs ++ z.text)
    ∨ dropVerbose inComment cs = [] ∧ ∀ z : Tail, dropVerbose inComment (cs ++ z.text) = [] := by
  have hcomment (z : Tail) : dropVerbose true z.text = [] := by
    have hall : ∀ more : List Char, (∀ c ∈ more, c ≠ '\n') → dropVerbose true more = [] := by
      intro more
      induction more with
      | nil => exact fun _ => rfl
      | cons c more ih =>
          intro hmore
          have hc : (c != '\n') = true := by simpa using hmore c List.mem_cons_self
          rw [dropVerbose, if_pos rfl, hc]
          exact ih fun d hd => hmore d (List.mem_cons_of_mem c hd)
    exact hall _ (List.forall_mem_cons.2 ⟨by decide, fun c hc => (z.quiet c hc).1⟩)
  have hplain (z : Tail) : dropVerbose false z.text = z.text := by
    rw [Tail.text, dropVerbose, if_neg Bool.false_ne_true]
    rfl
  induction cs generalizing inComment with
  | nil =>
      cases inComment with
      | true => exact .inr ⟨rfl, hcomment⟩
      | false => exact .inl hplain
  | cons c cs ih =>
      simp only [List.cons_append, dropVerbose]
      split
      · exact ih _
      · split
        · exact ih _
        · split
          · exact ih _
          · exact .inl fun _ => rfl

theorem dropVerbose_suffix (inComment : Bool) (cs : List Char) :
    dropVerbose inComment cs <:+ cs := by
  induction cs generalizing inComment with
  | nil => exact List.suffix_refl _
  | cons c cs ih =>
      rw [dropVerbose]
      have hstep (b : Bool) : dropVerbose b cs <:+ c :: cs := (ih b).trans (List.suffix_cons c cs)
      split
      · exact hstep _
      · split
        · exact hstep _
        · split
          · exact hstep _
          · exact List.suffix_refl _

variable (flags : Flags)

theorem unspaced_append (cs : List Char) :
    (∀ z : Tail, flags.unspaced (cs ++ z.text) = flags.unspaced cs ++ z.text)
    ∨ flags.unspaced cs = [] ∧ ∀ z : Tail, flags.unspaced (cs ++ z.text) = [] := by
  unfold Flags.unspaced
  split
  · exact dropVerbose_append false cs
  · exact .inl fun _ => rfl

theorem unspaced_suffix (cs : List Char) : flags.unspaced cs <:+ cs := by
  unfold Flags.unspaced
  split
  · exact dropVerbose_suffix false cs
  · exact List.suffix_refl _

/-- The first character that is not dropped is no other one for what stands behind, if the
parenthesis counts as nothing. -/
theorem head?_unspaced_append (kind : Option Char → Bool) (flags : Flags)
    (hclose : kind (some ')') = kind none) (cs : List Char) (z : Tail) :
    kind (flags.unspaced (cs ++ z.text)).head? = kind (flags.unspaced cs).head? := by
  rcases unspaced_append flags cs with h | ⟨hnil, hswallowed⟩
  · rw [h z]
    cases flags.unspaced cs with
    | nil => exact hclose
    | cons c cs => rfl
  · rw [hnil, hswallowed z]

theorem steady_spaces : Steady spaces := by
  refine steady_of_agrees ?_ fun s => ⟨?_, ?_⟩
  · rintro s u t ⟨⟩
    exact unspaced_suffix s.flags s.rest
  · rintro u t ⟨⟩
    rcases unspaced_append s.flags s.rest with h | ⟨hnil, hswallowed⟩
    · refine .inl fun z => ?_
      change some ((), Scanner.mk _ _ _ _) = some ((), Scanner.mk _ _ _ _)
      rw [Scanner.rest_before, Scanner.flags_before, h z]
      rfl
    · refine .inr ⟨hnil, fun z => ?_⟩
      change some ((), Scanner.mk _ _ _ _) = some ((), Scanner.mk _ _ _ _)
      rw [Scanner.rest_before, Scanner.flags_before, hswallowed z, hnil]
      rfl
  · rintro z u t ⟨⟩
    rcases unspaced_append s.flags s.rest with h | ⟨hnil, hswallowed⟩
    · refine .inl ⟨{ s with rest := s.flags.unspaced s.rest }, ?_, rfl⟩
      change Scanner.mk _ _ _ _ = Scanner.mk _ _ _ _
      rw [Scanner.rest_before, Scanner.flags_before, h z]
      rfl
    · refine .inr ?_
      change (s.flags.unspaced (s.rest ++ z.text)).length ≤ _
      rw [hswallowed z]
      exact Nat.zero_le _

/-! ### Characters -/

theorem takes_cut {f : List Char → Option (α × List Char)}
    (h : ∀ ⦃cs a rest⦄, f cs = some (a, rest) → rest <:+ cs ∧ rest.length < cs.length) :
    Takes (cut f) := by
  intro s a t hcut
  rw [cut, Option.map_eq_some_iff] at hcut
  obtain ⟨⟨b, rest⟩, hf, hpair⟩ := hcut
  cases hpair
  exact h hf

theorem firstChar_eq_some_iff {cs rest : List Char} {c : Char} :
    firstChar cs = some (c, rest) ↔ cs = c :: rest := by
  cases cs with
  | nil => simp [firstChar]
  | cons d cs => simp [firstChar]

theorem steady_take : Steady take := by
  refine steady_cut (fun cs c rest h => ?_) (fun cs c rest z h => ?_) fun cs c rest z h h' => ?_
  · rw [firstChar_eq_some_iff.1 h]
    exact List.suffix_cons c rest
  · rw [firstChar_eq_some_iff.1 h]
    rfl
  · cases cs with
    | nil =>
        cases h'
        exact Nat.le_refl _
    | cons d cs => cases h

theorem takes_take : Takes take :=
  takes_cut fun cs c rest h => by
    rw [firstChar_eq_some_iff.1 h]
    exact ⟨List.suffix_cons c rest, Nat.lt_succ_self _⟩

theorem steady_takeSpaced : Steady takeSpaced :=
  steady_bind steady_take fun c => steady_bind steady_spaces fun _ => steady_pure c

theorem takes_takeSpaced : Takes takeSpaced :=
  takes_bind takes_take fun c => cuts_bind steady_spaces.cuts fun _ => cuts_pure c

theorem steady_expect (c : Char) : Steady (expect c) :=
  steady_bind steady_take fun d => steady_require (d == c)

theorem steady_expectSpaced (c : Char) : Steady (expectSpaced c) :=
  steady_bind steady_takeSpaced fun d => steady_require (d == c)

theorem steady_comesKind {kind : Char → Bool} (hclose : kind ')' = false) :
    Steady (comesKind kind) :=
  steady_peek fun flags cs z => by
    cases cs with
    | nil => exact hclose
    | cons c cs => rfl

theorem steady_comes {c : Char} (hc : (')' == c) = false) : Steady (comes c) := steady_comesKind hc

/-- A text without a parenthesis that begins a longer text begins the text itself. -/
theorem dropPattern?_append {pattern : List Char} (hpattern : ')' ∉ pattern) (cs : List Char)
    (z : Tail) : Text.dropPattern? pattern (cs ++ z.text)
      = (Text.dropPattern? pattern cs).map (· ++ z.text) := by
  induction pattern generalizing cs with
  | nil => rfl
  | cons p ps ih =>
      obtain ⟨hp, hps⟩ := not_or.1 (mt List.mem_cons.2 hpattern)
      cases cs with
      | nil => exact if_neg (Ne.symm hp)
      | cons c cs =>
          simp only [List.cons_append, Text.dropPattern?]
          split
          · exact ih hps cs
          · rfl

theorem dropPattern?_suffix {pattern cs rest : List Char}
    (h : Text.dropPattern? pattern cs = some rest) : rest <:+ cs :=
  ⟨pattern, (Text.dropPattern?_eq_some_iff.1 h).symm⟩

theorem steady_takeIf {text : String} (htext : ')' ∉ text.toList) : Steady (takeIf text) := by
  refine steady_cut_of_map (fun cs a rest h => ?_) fun cs z => ?_
  · rw [Option.some_inj, fixedText] at h
    split at h
    next more hdrop =>
      cases h
      exact dropPattern?_suffix hdrop
    next =>
      cases h
      exact List.suffix_refl _
  · rw [fixedText, fixedText, dropPattern?_append htext]
    cases Text.dropPattern? text.toList cs with
    | none => rfl
    | some more => rfl

/-! ### Fuel -/

/-- **A reader with fuel**, of which `least` bounds the need for texts of fewer characters: more
fuel changes nothing. -/
def Fueled (least : Nat → Nat) (g : Nat → Scan α) : Prop :=
  ∀ (fuel size : Nat) (k : Tail → Nat), least size ≤ fuel →
    Alike size (g fuel) fun z => g (k z + fuel)

/-- **Fuel is counted out.** -/
theorem steady_left_bind {least φ : Nat → Nat} {g : Nat → Scan α} {f : α → Scan β}
    (hg : Fueled least g) (hφ : ∀ l, least (l + 1) ≤ φ l) (hmono : ∀ a b, φ a ≤ φ (a + b))
    (hf : ∀ a, Steady (f a)) : Steady (left >>= fun l => g (φ l) >>= f) := by
  have halike (l : Nat) (k : Tail → Nat) :
      Alike (l + 1) (g (φ l) >>= f) fun z => g (k z + φ l) >>= f :=
    alike_bind (hg (φ l) (l + 1) k (hφ l)) fun a => hf a (l + 1)
  refine steady_of_agrees (cuts_bind (fun s l t h => ?_) fun l => (halike l fun _ => 0).cuts)
    fun s => ?_
  · cases h
    exact List.suffix_refl _
  · have hfuel (z : Tail) : φ (s.rest ++ z.text).length
        = φ (s.rest.length + z.text.length) - φ s.rest.length + φ s.rest.length := by
      rw [Nat.sub_add_cancel (hmono _ _), List.length_append]
    have hagrees := ((halike s.rest.length fun z =>
      φ (s.rest.length + z.text.length) - φ s.rest.length).runs s (Nat.lt_succ_self _)).agrees
    simp only [← hfuel] at hagrees
    exact hagrees

section Rows

variable (kind : Char → Bool)

theorem cuts_comesKind : Cuts (comesKind kind) := by
  rintro s a t ⟨⟩
  exact List.suffix_refl _

theorem cuts_takeWhile (n : Nat) : Cuts (takeWhile kind n) := by
  induction n with
  | zero => exact cuts_pure []
  | succ n ih =>
      refine cuts_bind (cuts_comesKind kind) fun b => cuts_ite ?_ (cuts_pure [])
      exact cuts_bind steady_takeSpaced.cuts fun c => cuts_bind ih fun cs => cuts_pure (c :: cs)

theorem takeWhile_eq_nil {s : Scanner} (h : s.rest.head?.any kind = false) (n : Nat) :
    takeWhile kind n s = some ([], s) := by
  cases n with
  | zero => rfl
  | succ n =>
      have hcomes : comesKind kind s = some (false, s) := by
        change some (s.rest.head?.any kind, s) = _
        rw [h]
      exact bind_of_eq_some hcomes

/-- **Characters of a kind** to which the parenthesis does not belong. -/
theorem fueled_takeWhile (hclose : kind ')' = false) : Fueled (· - 1) (takeWhile kind) := by
  intro fuel
  induction fuel with
  | zero =>
      intro size k (hsize : size - 1 ≤ 0)
      refine ⟨cuts_takeWhile kind 0, fun z => cuts_takeWhile kind _, fun s hs => ?_⟩
      have hnil : s.rest = [] := List.eq_nil_of_length_eq_zero (by omega)
      have hback (z : Tail) : takeWhile kind (k z + 0) (s.before z) = some ([], s.before z) :=
        takeWhile_eq_nil kind (by rw [Scanner.rest_before, hnil]; exact hclose) _
      refine ⟨⟨fun a t h => .inl fun z => ?_, fun z a t h => .inl ⟨s, ?_⟩⟩, fun _ z r h => ?_⟩
      · cases h
        exact hback z
      · rw [hback z] at h
        cases h
        exact ⟨rfl, rfl⟩
      · cases h
        exact takeWhile_eq_nil kind (by rw [hnil]; rfl) _
  | succ fuel ih =>
      intro size k hsize
      cases size with
      | zero => exact alike_zero (cuts_takeWhile kind _) fun z => cuts_takeWhile kind _
      | succ size =>
          refine alike_bind (steady_comesKind hclose _) fun b => alike_ite ?_ (steady_pure [] _)
          exact alike_bind_of_takes (steady_takeSpaced _) takes_takeSpaced fun c =>
            alike_bind (ih size k (Nat.sub_le_of_le_add hsize)) fun cs => steady_pure (c :: cs) _

theorem takes_takeBraced (n : Nat) : Takes (takeBraced kind n) := by
  induction n with
  | zero => exact takes_failure
  | succ n ih =>
      refine takes_bind takes_takeSpaced fun c => cuts_ite (cuts_pure []) ?_
      exact cuts_bind (steady_require _).cuts fun _ => cuts_bind ih.cuts fun cs =>
        cuts_pure (c :: cs)

/-- **Characters up to a closing brace.** -/
theorem fueled_takeBraced : Fueled (· - 1) (takeBraced kind) := by
  intro fuel
  induction fuel with
  | zero =>
      intro size k (hsize : size - 1 ≤ 0)
      refine ⟨cuts_failure, fun z => (takes_takeBraced kind _).cuts, fun s hs => ?_⟩
      have hnil : s.rest = [] := List.eq_nil_of_length_eq_zero (by omega)
      refine ⟨⟨fun a t h => ?_, fun z a t h => .inr ?_⟩, fun _ z r h => ?_⟩
      · cases h
      · have hlt : t.rest.length < (s.before z).rest.length := (takes_takeBraced kind _ h).2
        rw [Scanner.rest_before, hnil] at hlt
        exact Nat.le_of_lt_succ hlt
      · cases h
  | succ fuel ih =>
      intro size k hsize
      cases size with
      | zero =>
          exact alike_zero (takes_takeBraced kind _).cuts fun z => (takes_takeBraced kind _).cuts
      | succ size =>
          refine alike_bind_of_takes (steady_takeSpaced _) takes_takeSpaced fun c =>
            alike_ite (steady_pure [] _) ?_
          exact alike_bind (steady_require (kind c) _) fun _ =>
            alike_bind (ih size k (Nat.sub_le_of_le_add hsize)) fun cs => steady_pure (c :: cs) _

end Rows

end Regex

end EventQuery
