/-
**What readers take.**

Marks say where a text is wrong and have no part in what is read, so readers are compared by their
results alone.  Many readers drop the blanks behind what they take, and others do not; what is left
is then known up to blanks.

Main definitions:

* `Reader.Takes`, `Reader.Refuses` — a reader takes a value from the front of a text, or fails;
* `Reader.Reads` — a reader takes a value, and what it leaves is known up to blanks;
* `Reader.Repeats` — values one after the other, with blanks between them.

Main results:

* `Reader.reads_many` — **greedy repetition takes all of them**;
* one lemma for each way of combining readers.
-/

import EventQuery.Grammar.Reader
import EventQuery.Query.Printer

set_option relaxedAutoImplicit false
set_option autoImplicit false

namespace EventQuery

namespace Reader

variable {α β : Type}

/-- **The reader takes a value** and leaves the rest of the text. -/
def Takes (p : Reader α) (cs : List Char) (a : α) (rest : List Char) : Prop :=
  (p cs).result = some (a, rest)

/-- **The reader fails.** -/
def Refuses (p : Reader α) (cs : List Char) : Prop := (p cs).result = none

/-- **The reader takes a value**, and what it leaves is the rest of the text up to blanks. -/
def Reads (p : Reader α) (cs : List Char) (a : α) (rest : List Char) : Prop :=
  ∃ left, Takes p cs a left ∧ dropBlank false left = dropBlank false rest

/-! ### Blanks -/

/-- What is left begins with no blank. -/
theorem dropBlank_dropBlank (inComment : Bool) (cs : List Char) :
    dropBlank false (dropBlank inComment cs) = dropBlank inComment cs := by
  fun_induction dropBlank inComment cs with
  | case1 => rfl
  | case2 c cs hend ih => exact ih
  | case3 c cs hend ih => exact ih
  | case4 inComment c cs hin hspace ih => exact ih
  | case5 inComment hin rest hspace ih => exact ih
  | case6 inComment c cs hin hspace hcomment =>
      rw [dropBlank]
      · rw [if_neg (by decide), if_neg hspace]
      · exact hcomment

theorem dropBlank_space (cs : List Char) : dropBlank false (' ' :: cs) = dropBlank false cs := by
  rw [dropBlank.eq_def]
  rfl

/-- Nothing is dropped in front of a character that begins neither a blank nor a comment. -/
theorem dropBlank_cons {c : Char} (hspace : isSpace c = false) (hslash : c ≠ '/')
    (cs : List Char) : dropBlank false (c :: cs) = c :: cs := by
  rw [dropBlank]
  · rw [if_neg (by decide), if_neg (by rw [hspace]; decide)]
  · intro rest hc
    exact absurd hc hslash

theorem takes_blank (cs : List Char) : Takes blank cs () (dropBlank false cs) := rfl

/-! ### Sequence -/

theorem takes_pure (a : α) (cs : List Char) : Takes (pure a) cs a cs := rfl

theorem takes_bind {p : Reader α} {f : α → Reader β} {cs mid rest : List Char} {a : α} {b : β}
    (hp : Takes p cs a mid) (hf : Takes (f a) mid b rest) : Takes (p >>= f) cs b rest := by
  change (resume (p cs) f).result = _
  rw [resume, hp]
  exact hf

theorem takes_map {p : Reader α} {f : α → β} {cs rest : List Char} {a : α}
    (hp : Takes p cs a rest) : Takes (p >>= fun a => pure (f a)) cs (f a) rest :=
  takes_bind hp (takes_pure _ rest)

/-- The value may be known in another form. -/
theorem takes_map_eq {p : Reader α} {f : α → β} {cs rest : List Char} {a : α} {b : β}
    (hp : Takes p cs a rest) (h : f a = b) : Takes (p >>= fun a => pure (f a)) cs b rest := by
  rw [← h]
  exact takes_map hp

theorem refuses_bind {p : Reader α} {f : α → Reader β} {cs : List Char} (hp : Refuses p cs) :
    Refuses (p >>= f) cs := by
  change (resume (p cs) f).result = none
  rw [resume, hp]

theorem refuses_bind_of_takes {p : Reader α} {f : α → Reader β} {cs mid : List Char} {a : α}
    (hp : Takes p cs a mid) (hf : Refuses (f a) mid) : Refuses (p >>= f) cs := by
  change (resume (p cs) f).result = none
  rw [resume, hp]
  exact hf

theorem Takes.reads {p : Reader α} {cs rest : List Char} {a : α} (h : Takes p cs a rest) :
    Reads p cs a rest := ⟨rest, h, rfl⟩

/-- A reader that goes on behind blanks does not see which of them are left. -/
theorem takes_bind_blank {p : Reader α} {k : α → Reader β} {cs mid rest : List Char} {a : α} {b : β}
    (hp : Reads p cs a mid) (hk : Takes (k a) (dropBlank false mid) b rest) :
    Takes (p >>= fun a => blank >>= fun _ => k a) cs b rest := by
  obtain ⟨left, hp, hleft⟩ := hp
  refine takes_bind hp (takes_bind (takes_blank left) ?_)
  rw [hleft]
  exact hk

theorem reads_bind {p : Reader α} {f : α → Reader β} {cs mid rest : List Char} {a : α} {b : β}
    (hp : Takes p cs a mid) (hf : Reads (f a) mid b rest) : Reads (p >>= f) cs b rest := by
  obtain ⟨left, hf, hleft⟩ := hf
  exact ⟨left, takes_bind hp hf, hleft⟩

theorem reads_bind_blank {p : Reader α} {k : α → Reader β} {cs mid rest : List Char} {a : α} {b : β}
    (hp : Reads p cs a mid) (hk : Reads (k a) (dropBlank false mid) b rest) :
    Reads (p >>= fun a => blank >>= fun _ => k a) cs b rest := by
  obtain ⟨left, hk, hleft⟩ := hk
  exact ⟨left, takes_bind_blank hp hk, hleft⟩

theorem reads_map_eq {p : Reader α} {f : α → β} {cs rest : List Char} {a : α} {b : β}
    (hp : Reads p cs a rest) (h : f a = b) : Reads (p >>= fun a => pure (f a)) cs b rest := by
  obtain ⟨left, hp, hleft⟩ := hp
  exact ⟨left, takes_map_eq hp h, hleft⟩

theorem reads_map {p : Reader α} {f : α → β} {cs rest : List Char} {a : α}
    (hp : Reads p cs a rest) : Reads (p >>= fun a => pure (f a)) cs (f a) rest :=
  reads_map_eq hp rfl

/-! ### Rules and tokens -/

theorem takes_rule {p : Reader α} {cs rest : List Char} {a : α} (h : Takes p cs a rest) :
    Takes (rule p) cs a rest := by
  rw [Takes] at h
  simp only [Takes, rule, h]

theorem refuses_rule {p : Reader α} {cs : List Char} (h : Refuses p cs) : Refuses (rule p) cs := by
  rw [Refuses] at h
  simp only [Refuses, rule, h]

theorem reads_rule {p : Reader α} {cs rest : List Char} {a : α} (h : Reads p cs a rest) :
    Reads (rule p) cs a rest := by
  obtain ⟨left, h, hleft⟩ := h
  exact ⟨left, takes_rule h, hleft⟩

theorem takes_scan {f : List Char → Option (α × List Char)} {cs rest : List Char} {a : α}
    (h : f cs = some (a, rest)) : Takes (scan f) cs a rest := takes_rule h

theorem refuses_scan {f : List Char → Option (α × List Char)} {cs : List Char}
    (h : f cs = none) : Refuses (scan f) cs := refuses_rule h

theorem takes_token (text : String) (rest : List Char) :
    Takes (token text) (text.toList ++ rest) () rest := by
  rw [Takes, token, Text.dropPattern?_eq_some_iff.2 rfl, Option.map_some]

theorem refuses_token {text : String} {cs : List Char}
    (h : Text.dropPattern? text.toList cs = none) : Refuses (token text) cs := by
  rw [Refuses, token, h, Option.map_none]

/-! ### Choice -/

theorem takes_orElse_left {p q : Reader α} {cs rest : List Char} {a : α} (h : Takes p cs a rest) :
    Takes (orElse p q) cs a rest := by
  rw [Takes] at h
  simp only [Takes, orElse, h]

theorem takes_orElse_right {p q : Reader α} {cs rest : List Char} {a : α} (hp : Refuses p cs)
    (hq : Takes q cs a rest) : Takes (orElse p q) cs a rest := by
  rw [Refuses] at hp
  rw [Takes] at hq
  simp only [Takes, orElse, hp, hq]

theorem reads_orElse_left {p q : Reader α} {cs rest : List Char} {a : α} (h : Reads p cs a rest) :
    Reads (orElse p q) cs a rest := by
  obtain ⟨left, h, hleft⟩ := h
  exact ⟨left, takes_orElse_left h, hleft⟩

theorem reads_orElse_right {p q : Reader α} {cs rest : List Char} {a : α} (hp : Refuses p cs)
    (hq : Reads q cs a rest) : Reads (orElse p q) cs a rest := by
  obtain ⟨left, hq, hleft⟩ := hq
  exact ⟨left, takes_orElse_right hp hq, hleft⟩

theorem refuses_orElse {p q : Reader α} {cs : List Char} (hp : Refuses p cs) (hq : Refuses q cs) :
    Refuses (orElse p q) cs := by
  rw [Refuses] at hp hq
  simp only [Refuses, orElse, hp, hq]

/-- Readers that fail do not count. -/
theorem takes_firstOf {before after : List (Reader α)} {cs rest : List Char} {a : α}
    (hbefore : ∀ q ∈ before, Refuses q cs) (hafter : Takes (firstOf after) cs a rest) :
    Takes (firstOf (before ++ after)) cs a rest := by
  induction before with
  | nil => exact hafter
  | cons q before ih =>
      exact takes_orElse_right (hbefore q (List.mem_cons_self ..))
        (ih fun r hr => hbefore r (List.mem_cons_of_mem q hr))

theorem takes_optional {p : Reader α} {cs rest : List Char} {a : α} (h : Takes p cs a rest) :
    Takes (optional p) cs (some a) rest := by
  rw [Takes] at h
  simp only [Takes, optional, h]

theorem reads_optional {p : Reader α} {cs rest : List Char} {a : α} (h : Reads p cs a rest) :
    Reads (optional p) cs (some a) rest := by
  obtain ⟨left, h, hleft⟩ := h
  exact ⟨left, takes_optional h, hleft⟩

theorem takes_optional_none {p : Reader α} {cs : List Char} (h : Refuses p cs) :
    Takes (optional p) cs none cs := by
  rw [Refuses] at h
  simp only [Takes, optional, h]

theorem takes_withText {p : Reader α} {cs rest : List Char} {a : α} (h : Takes p cs a rest) :
    Takes (withText p) cs (a, cs.take (cs.length - rest.length)) rest := by
  rw [Takes] at h
  simp only [Takes, withText, h, Option.map_some]

theorem refuses_withText {p : Reader α} {cs : List Char} (h : Refuses p cs) :
    Refuses (withText p) cs := by
  rw [Refuses] at h
  simp only [Refuses, withText, h, Option.map_none]

/-! ### Repetition -/

/-- **Values one after the other**, with blanks between them; each takes a character at least, and
behind the last one the reader fails. -/
inductive Repeats (p : Reader α) : List Char → List α → List Char → Prop where
  | stop {cs : List Char} : Refuses p (dropBlank false cs) → Repeats p cs [] cs
  | more {cs mid rest : List Char} {a : α} {as : List α} : Reads p (dropBlank false cs) a mid →
      (dropBlank false mid).length < (dropBlank false cs).length → Repeats p mid as rest →
      Repeats p cs (a :: as) rest

theorem Repeats.length_le {p : Reader α} {cs rest : List Char} {as : List α}
    (h : Repeats p cs as rest) : as.length ≤ (dropBlank false cs).length := by
  induction h with
  | stop _ => exact Nat.zero_le _
  | more _ hlt _ ih =>
      rw [List.length_cons]
      omega

theorem reads_manyAfterBlank {p : Reader α} {cs rest : List Char} {as : List α}
    (h : Repeats p cs as rest) {fuel : Nat} (hfuel : as.length ≤ fuel) {left : List Char}
    (hleft : dropBlank false left = dropBlank false cs) :
    Reads (manyAfterBlank p fuel) left as rest := by
  -- Only what is behind the blanks counts, so the text may have been entered elsewhere in them.
  induction h generalizing fuel left with
  | stop hp =>
      cases fuel with
      | zero => exact ⟨left, rfl, hleft⟩
      | succ fuel =>
          refine ⟨left, ?_, hleft⟩
          rw [Refuses, ← hleft] at hp
          simp only [Takes, manyAfterBlank, hp]
  | @more cs mid rest a as hp hlt _ ih =>
      obtain ⟨fuel, rfl⟩ : ∃ n, fuel = n + 1 := ⟨fuel - 1, by rw [List.length_cons] at hfuel; omega⟩
      obtain ⟨next, hp, hnext⟩ := hp
      rw [List.length_cons] at hfuel
      obtain ⟨last, hlast, hrest⟩ := ih (Nat.le_of_succ_le_succ hfuel) hnext
      refine ⟨last, ?_, hrest⟩
      rw [Takes] at hp hlast
      simp only [Takes, manyAfterBlank, hleft, hp, hlast, Option.map_some]

/-- Nothing is taken when the reader fails at once. -/
theorem takes_many_nil {p : Reader α} {cs : List Char} (h : Refuses p cs) :
    Takes (many p) cs [] cs := by
  rw [Refuses] at h
  simp only [Takes, many, h]

/-- **Greedy repetition takes all of them.** -/
theorem reads_many {p : Reader α} {cs rest : List Char} {as : List α} (h : Repeats p cs as rest) :
    Reads (many p) (dropBlank false cs) as rest := by
  cases h with
  | stop hp => exact ⟨dropBlank false cs, takes_many_nil hp, dropBlank_dropBlank false cs⟩
  | @more _ mid _ a as hp hlt hmore =>
      obtain ⟨next, hp, hnext⟩ := hp
      have hfuel : as.length ≤ (dropBlank false cs).length := by
        have := hmore.length_le
        omega
      obtain ⟨last, hlast, hrest⟩ := reads_manyAfterBlank hmore hfuel hnext
      refine ⟨last, ?_, hrest⟩
      rw [Takes] at hp hlast
      simp only [Takes, many, hp, hlast, Option.map_some]

/-! ### What has been taken -/

theorem takes_pure_iff {a b : α} {cs rest : List Char} :
    Takes (pure a) cs b rest ↔ b = a ∧ rest = cs := by
  constructor
  · rintro ⟨⟩
    exact ⟨rfl, rfl⟩
  · rintro ⟨rfl, rfl⟩
    exact takes_pure b rest

theorem takes_bind_iff {p : Reader α} {f : α → Reader β} {cs rest : List Char} {b : β} :
    Takes (p >>= f) cs b rest ↔ ∃ a mid, Takes p cs a mid ∧ Takes (f a) mid b rest := by
  constructor
  · intro h
    change (resume (p cs) f).result = _ at h
    unfold resume at h
    split at h
    · cases h
    · next a mid hp => exact ⟨a, mid, hp, h⟩
  · rintro ⟨a, mid, hp, hf⟩
    exact takes_bind hp hf

theorem takes_blank_iff {cs rest : List Char} {u : Unit} :
    Takes blank cs u rest ↔ rest = dropBlank false cs := by
  constructor
  · rintro ⟨⟩
    rfl
  · rintro rfl
    exact takes_blank cs

theorem takes_rule_iff {p : Reader α} {cs rest : List Char} {a : α} :
    Takes (rule p) cs a rest ↔ Takes p cs a rest := by
  constructor
  · intro h
    simp only [Takes, rule] at h
    split at h
    · next hp =>
        cases h
        exact hp
    · cases h
  · exact takes_rule

theorem takes_scan_iff {f : List Char → Option (α × List Char)} {cs rest : List Char} {a : α} :
    Takes (scan f) cs a rest ↔ f cs = some (a, rest) := takes_rule_iff

theorem takes_token_iff {text : String} {cs rest : List Char} {u : Unit} :
    Takes (token text) cs u rest ↔ cs = text.toList ++ rest := by
  simp [Takes, token, Text.dropPattern?_eq_some_iff]

theorem takes_orElse_iff {p q : Reader α} {cs rest : List Char} {a : α} :
    Takes (orElse p q) cs a rest ↔ Takes p cs a rest ∨ Refuses p cs ∧ Takes q cs a rest := by
  constructor
  · intro h
    simp only [Takes, orElse] at h
    split at h
    · next hp =>
        cases h
        exact .inl hp
    · next hp => exact .inr ⟨hp, h⟩
  · rintro (hp | ⟨hp, hq⟩)
    · exact takes_orElse_left hp
    · exact takes_orElse_right hp hq

theorem not_takes_of_refuses {p : Reader α} {cs rest : List Char} {a : α} (h : Refuses p cs) :
    ¬ Takes p cs a rest := by
  intro htakes
  rw [Takes, h] at htakes
  cases htakes

/-- A reader takes one value from a text. -/
theorem Takes.unique {p : Reader α} {cs rest rest' : List Char} {a b : α} (h : Takes p cs a rest)
    (h' : Takes p cs b rest') : a = b ∧ rest = rest' := by
  rw [Takes] at h h'
  rw [h, Option.some.injEq, Prod.mk.injEq] at h'
  exact h'

/-- What the first of several readers takes is taken by one of them. -/
theorem exists_of_takes_firstOf {ps : List (Reader α)} {cs rest : List Char} {a : α}
    (h : Takes (firstOf ps) cs a rest) : ∃ p ∈ ps, Takes p cs a rest := by
  induction ps with
  | nil => cases h
  | cons p ps ih =>
      rcases takes_orElse_iff.1 h with hp | ⟨-, hps⟩
      · exact ⟨p, List.mem_cons_self .., hp⟩
      · obtain ⟨q, hq, htakes⟩ := ih hps
        exact ⟨q, List.mem_cons_of_mem p hq, htakes⟩

theorem takes_optional_iff {p : Reader α} {cs rest : List Char} {o : Option α} :
    Takes (optional p) cs o rest ↔
      (∃ a, o = some a ∧ Takes p cs a rest) ∨ o = none ∧ rest = cs ∧ Refuses p cs := by
  constructor
  · intro h
    simp only [Takes, optional] at h
    split at h
    · next hp =>
        cases h
        exact .inl ⟨_, rfl, hp⟩
    · next hp =>
        cases h
        exact .inr ⟨rfl, rfl, hp⟩
  · rintro (⟨a, rfl, hp⟩ | ⟨rfl, rfl, hp⟩)
    · exact takes_optional hp
    · exact takes_optional_none hp

theorem takes_optional_some_iff {p : Reader α} {cs rest : List Char} {a : α} :
    Takes (optional p) cs (some a) rest ↔ Takes p cs a rest := by
  refine ⟨fun h => ?_, takes_optional⟩
  rcases takes_optional_iff.1 h with ⟨b, hb, hp⟩ | ⟨hnone, -⟩
  · cases hb
    exact hp
  · cases hnone

theorem takes_manyAfterBlank_succ {p : Reader α} {fuel : Nat} {cs rest : List Char} {as : List α}
    (h : Takes (manyAfterBlank p (fuel + 1)) cs as rest) :
    (Refuses p (dropBlank false cs) ∧ as = [] ∧ rest = cs) ∨
      ∃ a mid more, Takes p (dropBlank false cs) a mid ∧
        Takes (manyAfterBlank p fuel) mid more rest ∧ as = a :: more := by
  simp only [Takes, manyAfterBlank] at h
  split at h
  · next hp =>
      cases h
      exact .inl ⟨hp, rfl, rfl⟩
  · next a mid hp =>
      simp only [Option.map_eq_some_iff] at h
      obtain ⟨⟨more, left⟩, hmore, he⟩ := h
      cases he
      exact .inr ⟨a, mid, more, hp, hmore, rfl⟩

theorem takes_many_cases {p : Reader α} {cs rest : List Char} {as : List α}
    (h : Takes (many p) cs as rest) :
    (Refuses p cs ∧ as = [] ∧ rest = cs) ∨
      ∃ a mid more, Takes p cs a mid ∧
        Takes (manyAfterBlank p cs.length) mid more rest ∧ as = a :: more := by
  simp only [Takes, many] at h
  split at h
  · next hp =>
      cases h
      exact .inl ⟨hp, rfl, rfl⟩
  · next a mid hp =>
      simp only [Option.map_eq_some_iff] at h
      obtain ⟨⟨more, left⟩, hmore, he⟩ := h
      cases he
      exact .inr ⟨a, mid, more, hp, hmore, rfl⟩

/-! ### Lists -/

/-- The text begins with no blank, whatever follows. -/
def Solid (text : List Char) : Prop := ∀ after, dropBlank false (text ++ after) = text ++ after

theorem solid_cons {c : Char} (hspace : isSpace c = false) (hslash : c ≠ '/') (cs : List Char) :
    Solid (c :: cs) := fun after => dropBlank_cons hspace hslash (cs ++ after)

theorem Solid.append {text : List Char} (h : Solid text) (more : List Char) :
    Solid (text ++ more) := by
  intro after
  rw [List.append_assoc]
  exact h (more ++ after)

theorem length_dropBlank_le (inComment : Bool) (cs : List Char) :
    (dropBlank inComment cs).length ≤ cs.length := by
  fun_induction dropBlank inComment cs <;> simp only [List.length_cons, List.length_nil] <;> omega

theorem commaJoined_cons (text : List Char) (more : List (List Char)) :
    commaJoined (text :: more) = text ++ more.flatMap fun t => ',' :: ' ' :: t := by
  induction more generalizing text with
  | nil => simp [commaJoined]
  | cons next more ih =>
      have hnext := ih next
      rw [commaJoined] at hnext ⊢
      rw [List.intercalate_cons_cons, hnext, List.flatMap_cons]
      simp

theorem solid_commaJoined {γ : Type} {text : γ → List Char} {items : List γ} (hne : items ≠ [])
    (hitems : ∀ x ∈ items, Solid (text x)) : Solid (commaJoined (items.map text)) := by
  cases items with
  | nil => exact absurd rfl hne
  | cons x items =>
      rw [List.map_cons, commaJoined_cons]
      exact (hitems x (List.mem_cons_self ..)).append _

section Items

variable {γ : Type} {p : Reader α} {text : γ → List Char} {value : γ → α}
  {follows : List Char → Prop} {rest : List Char}

/-- What follows an item of a list is a comma or what follows the list. -/
theorem follows_items (hcomma : ∀ more, follows (',' :: ' ' :: more)) (hrest : follows rest)
    (text : γ → List Char) (items : List γ) :
    follows ((items.map text).flatMap (fun t => ',' :: ' ' :: t) ++ rest) := by
  cases items with
  | nil => exact hrest
  | cons x items => exact hcomma _

/-- Items behind commas are read one after the other. -/
theorem repeats_comma (hcomma : ∀ more, follows (',' :: ' ' :: more)) {items : List γ}
    (hitems : ∀ x ∈ items, Solid (text x) ∧
      ∀ after, follows after → Reads p (text x ++ after) (value x) after)
    (hrest : follows rest) (hend : (dropBlank false rest).head? ≠ some ',') :
    Repeats (token "," >>= fun _ => blank >>= fun _ => p)
      ((items.map text).flatMap (fun t => ',' :: ' ' :: t) ++ rest) (items.map value) rest := by
  induction items with
  | nil =>
      refine .stop (refuses_bind (refuses_token ?_))
      rw [List.map_nil, List.flatMap_nil, List.nil_append]
      cases h : dropBlank false rest with
      | nil => rfl
      | cons c cs =>
          rw [h, List.head?_cons, ne_eq, Option.some.injEq] at hend
          exact if_neg (Ne.symm hend)
  | cons x items ih =>
      obtain ⟨hsolid, hreads⟩ := hitems x (List.mem_cons_self ..)
      have hmore := ih fun y hy => hitems y (List.mem_cons_of_mem x hy)
      have hfollows : follows ((items.map text).flatMap (fun t => ',' :: ' ' :: t) ++ rest) :=
        follows_items hcomma hrest text items
      rw [List.map_cons, List.flatMap_cons, List.append_assoc, List.cons_append, List.cons_append]
      generalize (items.map text).flatMap (fun t => ',' :: ' ' :: t) ++ rest = mid at *
      have hblank : dropBlank false (',' :: ' ' :: (text x ++ mid))
          = ',' :: ' ' :: (text x ++ mid) := dropBlank_cons (by decide) (by decide) _
      refine .more ?_ ?_ hmore
      · rw [hblank]
        refine reads_bind (takes_token "," _) (reads_bind (takes_blank _) ?_)
        rw [dropBlank_space, hsolid]
        exact hreads mid hfollows
      · have := length_dropBlank_le false mid
        rw [hblank, List.length_cons, List.length_cons, List.length_append]
        omega

/-- **A list is read as it is written.** -/
theorem reads_commaSeparated (hcomma : ∀ more, follows (',' :: ' ' :: more)) {items : List γ}
    (hne : items ≠ [])
    (hitems : ∀ x ∈ items, Solid (text x) ∧
      ∀ after, follows after → Reads p (text x ++ after) (value x) after)
    (hrest : follows rest) (hend : (dropBlank false rest).head? ≠ some ',') :
    Reads (commaSeparated p) (commaJoined (items.map text) ++ rest) (items.map value) rest := by
  cases items with
  | nil => exact absurd rfl hne
  | cons x items =>
      have hmore := repeats_comma hcomma (fun y hy => hitems y (List.mem_cons_of_mem x hy))
        hrest hend
      have hfirst := (hitems x (List.mem_cons_self ..)).2 _ (follows_items hcomma hrest text items)
      rw [List.map_cons, commaJoined_cons, List.append_assoc]
      exact reads_bind_blank hfirst (reads_map (reads_many hmore))

end Items

end Reader

end EventQuery
