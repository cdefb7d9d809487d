/-
**An expression in a group.**

The text of an expression is put between the opening of a group and a parenthesis, with a test of
the surroundings beside the group.  The longer text is read as the expression in its place exactly
if the text is an expression that does not end in a comment; otherwise nothing is read.  Only a text
with a parenthesis that nothing opens may close the group early.

Main definitions:

* `Regex.Unopened` — **a parenthesis closes what nothing opens**;
* `Regex.EndsInComment` — the text ends in a comment, which takes in what is put behind it;
* `Regex.Outgrows` — the expression is too large or too deep with a group and a test.

Main results:

* `Regex.fueled_readBranches` — what stands behind a text changes nothing;
* `Regex.inGroup_eq` — **a group is read as the expression in it**;
* `Regex.readWhole_atStart`, `Regex.readWhole_atEnd` — an expression in a group beside a test;
* `Regex.read?_of_readWhole` — which of the longer texts are expressions, and of which form.
-/

import EventQuery.Proofs.Regex.Parts

set_option relaxedAutoImplicit false
set_option autoImplicit false

namespace EventQuery

namespace Regex

/-! ### Branches -/

theorem steady_endsHere : Steady (peek fun _ cs => endsHere cs) :=
  steady_peek fun _ cs z => by
    cases cs with
    | nil => rfl
    | cons c cs => rfl

theorem cuts_readBranches (fuel : Nat) (branches : List Nested) (parts : Parts) :
    Cuts (readBranches branches parts fuel) := by
  induction fuel generalizing branches parts with
  | zero => exact cuts_failure
  | succ fuel ih =>
      refine cuts_bind steady_spaces.cuts fun _ => cuts_bind steady_flagsOf.cuts fun flags =>
        cuts_bind steady_endsHere.cuts fun ends => cuts_ite (cuts_pure _) <|
        cuts_bind steady_take.cuts fun c => cuts_ite (ih _ _) (cuts_ite ?_ ?_)
      · refine cuts_bind (steady_readOpening flags).cuts fun opening => ?_
        cases opening with
        | flags changed => exact cuts_bind (steady_setFlags changed).cuts fun _ => ih _ _
        | group index inner =>
            exact cuts_bind (steady_setFlags inner).cuts fun _ => cuts_bind (ih _ _) fun r =>
              cuts_bind (steady_expect _).cuts fun _ =>
              cuts_bind (steady_setFlags flags).cuts fun _ => ih _ _
      · exact cuts_bind (steady_readPart flags parts c).cuts fun more => ih branches more

/-- **The branches of an expression** are read in the same way, whatever stands behind. -/
theorem fueled_readBranches (branches : List Nested) (parts : Parts) :
    Fueled id (readBranches branches parts) := by
  intro fuel
  induction fuel generalizing branches parts with
  | zero =>
      intro size k hsize
      obtain rfl : size = 0 := Nat.le_zero.1 hsize
      exact alike_zero (cuts_readBranches _ _ _) fun z => cuts_readBranches _ _ _
  | succ fuel ih =>
      intro size k hsize
      cases size with
      | zero => exact alike_zero (cuts_readBranches _ _ _) fun z => cuts_readBranches _ _ _
      | succ size =>
          have hmore (branches : List Nested) (parts : Parts) :=
            ih branches parts size k (Nat.le_of_succ_le_succ hsize)
          refine alike_bind (steady_spaces _) fun _ => alike_bind (steady_flagsOf _) fun flags =>
            alike_bind (steady_endsHere _) fun ends => alike_ite (steady_pure _ _) <|
            alike_bind_of_takes (steady_take _) takes_take fun c =>
            alike_ite (hmore _ _) (alike_ite ?_ ?_)
          · refine alike_bind (steady_readOpening flags _) fun opening => ?_
            cases opening with
            | flags changed => exact alike_bind (steady_setFlags changed _) fun _ => hmore _ _
            | group index inner =>
                exact alike_bind (steady_setFlags inner _) fun _ => alike_bind (hmore _ _) fun r =>
                  alike_bind (steady_expect _ _) fun _ =>
                  alike_bind (steady_setFlags flags _) fun _ => hmore _ _
          · exact alike_bind (steady_readPart flags parts c _) fun more => hmore branches more

/-! ### A group and a test beside it -/

section Steps

variable (branches : List Nested) (parts : Parts) (fuel groups : Nat)
  (names : List (String × Nat)) (cs : List Char)

theorem readBranches_textStart :
    readBranches branches parts (fuel + 1) ⟨'^' :: cs, .start, groups, names⟩
      = readBranches branches (addPart parts (.look .textStart)) fuel ⟨cs, .start, groups, names⟩ :=
  rfl

theorem readBranches_textEnd :
    readBranches branches parts (fuel + 1) ⟨'$' :: cs, .start, groups, names⟩
      = readBranches branches (addPart parts (.look .textEnd)) fuel ⟨cs, .start, groups, names⟩ :=
  rfl

theorem readBranches_nil :
    readBranches branches parts (fuel + 1) ⟨[], .start, groups, names⟩
      = some (ofBranches (ofParts parts :: branches), ⟨[], .start, groups, names⟩) := rfl

/-- A group without a number. -/
theorem readBranches_group :
    readBranches branches parts (fuel + 1) ⟨'(' :: '?' :: ':' :: cs, .start, groups, names⟩
      = (do
          let r ← readBranches [] [] fuel
          expect ')'
          setFlags .start
          readBranches branches (some (ofGroup none r) :: parts) fuel)
        ⟨cs, .start, groups, names⟩ := rfl

end Steps

/-! ### An expression in a group -/

/-- **A parenthesis closes what nothing opens**: the expression ends before the text does. -/
def Unopened (text : String) : Prop :=
  ∃ (r : Nested) (s : Scanner), readFront text.toList = some (r, s) ∧ s.rest ≠ []

/-- **The text ends in a comment**: it is an expression, and it is one still with a parenthesis
behind it. -/
def EndsInComment (text : String) : Prop :=
  (readWhole text).isSome ∧ (readWhole (text ++ ")")).isSome

instance (text : String) : Decidable (Unopened text) :=
  decidable_of_iff ((readFront text.toList).any fun r => !r.2.rest.isEmpty) (by
    rw [Option.any_eq_true]
    constructor
    · rintro ⟨⟨r, s⟩, hfront, hrest⟩
      refine ⟨r, s, hfront, fun hnil => ?_⟩
      rw [hnil] at hrest
      exact Bool.false_ne_true hrest
    · rintro ⟨r, s, hfront, hrest⟩
      refine ⟨(r, s), hfront, ?_⟩
      cases hs : s.rest with
      | nil => exact absurd hs hrest
      | cons c cs => rfl)

instance (text : String) : Decidable (EndsInComment text) :=
  inferInstanceAs (Decidable (_ ∧ _))

/-- The expression of a text that a parenthesis can close. -/
def readClosed (text : String) : Option (Nested × Scanner) :=
  if (readWhole (text ++ ")")).isSome then none else readWhole text

/-- The front of a text, with something behind the text and without it. -/
theorem agrees_readFront (cs : List Char) :
    Agrees (readFront cs) fun z =>
      readBranches [] [] (z.fuel + (cs.length + 1)) ⟨cs ++ z.text, .start, 0, []⟩ :=
  ((fueled_readBranches [] [] (cs.length + 1) (cs.length + 1) Tail.fuel (Nat.le_refl _)).runs
    ⟨cs, .start, 0, []⟩ (Nat.lt_succ_self _)).agrees

/-- Only the parenthesis stands behind the text. -/
def Tail.close (fuel : Nat) : Tail := ⟨[], fuel, fun _ h => absurd h List.not_mem_nil⟩

/-- The parenthesis and the end of the text stand behind the text. -/
def Tail.closeEnd (fuel : Nat) : Tail :=
  ⟨['$'], fuel, fun c h => by
    rw [List.mem_singleton.1 h]
    decide⟩

theorem readFront_close (text : String) :
    readFront (text ++ ")").toList = readBranches [] [] ((Tail.close 1).fuel
      + (text.toList.length + 1)) ⟨text.toList ++ (Tail.close 1).text, .start, 0, []⟩ := by
  have hchars : (text ++ ")").toList = text.toList ++ (Tail.close 1).text := String.toList_append
  rw [readFront, hchars, List.length_append]
  congr 1
  change text.toList.length + 1 + 1 = 1 + (text.toList.length + 1)
  omega

theorem expect_eq_some {c : Char} {s : Scanner} {r : Unit × Scanner} (h : expect c s = some r) :
    ∃ rest, s.rest = c :: rest := by
  obtain ⟨d, t, hd, h⟩ := bind_eq_some_iff.1 h
  obtain ⟨⟨e, rest⟩, hfirst, hpair⟩ := Option.map_eq_some_iff.1 hd
  cases hpair
  rw [require] at h
  split at h
  next heq =>
    rw [firstChar_eq_some_iff.1 hfirst, ← beq_iff_eq.1 heq]
    exact ⟨rest, rfl⟩
  next => cases h

theorem expect_cons (c : Char) (rest : List Char) (flags : Flags) (groups : Nat)
    (names : List (String × Nat)) :
    expect c ⟨c :: rest, flags, groups, names⟩ = some ((), ⟨rest, flags, groups, names⟩) := by
  change (require (c == c) : Scan Unit) ⟨rest, flags, groups, names⟩ = _
  rw [beq_self_eq_true]
  rfl

section Group

variable {α : Type} {text : String} (f : Nested → Scan α) (z : Tail)

/-- The rest of reading behind the opening of a group. -/
def inGroup (fuel : Nat) : Scan α := do
  let r ← readBranches [] [] fuel
  expect ')'
  setFlags .start
  f r

/-- Reading on behind a group, with parts in front of it. -/
def behindGroup (parts : Parts) (fuel : Nat) (r : Nested) : Scan Nested :=
  readBranches [] (some (ofGroup none r) :: parts) fuel

/-- **A group is read as the expression in it**, if no parenthesis closes it early. -/
theorem inGroup_eq (hz : ')' ∉ z.more) (h : ¬ Unopened text) :
    inGroup f (z.fuel + (text.toList.length + 1)) ⟨text.toList ++ z.text, .start, 0, []⟩
      = (readClosed text).bind fun r => f r.1 ⟨z.more, .start, r.2.groups, r.2.names⟩ := by
  have hagrees := agrees_readFront text.toList
  rw [readClosed, readWhole, readWhole]
  cases hfront : readFront text.toList with
  | none =>
      rw [Option.filter_none, ite_self, Option.bind_none, Option.eq_none_iff_forall_ne_some]
      intro r hr
      obtain ⟨a, t, hbranches, hr⟩ := bind_eq_some_iff.1 hr
      obtain ⟨u, v, hexpect, -⟩ := bind_eq_some_iff.1 hr
      obtain ⟨rest, hrest⟩ := expect_eq_some hexpect
      rcases hagrees.back hbranches with ⟨t₀, -, hsome⟩ | htouched
      · rw [hfront] at hsome
        cases hsome
      · -- what is left stands behind the parenthesis
        have hsuffix : t.rest <:+ z.more := List.suffix_of_suffix_length_le
          (cuts_readBranches _ [] [] hbranches)
          ((List.suffix_cons _ _).trans (List.suffix_append _ _)) htouched
        rw [hrest] at hsuffix
        exact hz (hsuffix.subset List.mem_cons_self)
  | some r =>
      obtain ⟨r, s⟩ := r
      have hnil : s.rest = [] := by
        by_contra hrest
        exact h ⟨r, s, hfront, hrest⟩
      have hwhole : (some (r, s)).filter (fun r => r.2.rest.isEmpty) = some (r, s) := by
        rw [Option.filter_some, hnil]
        rfl
      rw [hwhole, readFront_close]
      rcases hagrees.forth hfront with hleft | ⟨-, hswallowed⟩
      · have hbefore (z : Tail) : s.before z = ⟨')' :: z.more, s.flags, s.groups, s.names⟩ := by
          rw [Scanner.before, hnil]
          rfl
        rw [hleft (Tail.close 1), hbefore]
        calc inGroup f (z.fuel + (text.toList.length + 1)) ⟨text.toList ++ z.text, .start, 0, []⟩
            = (expect ')' >>= fun _ => setFlags .start >>= fun _ => f r)
                ⟨')' :: z.more, s.flags, s.groups, s.names⟩ := by
              rw [inGroup, bind_of_eq_some (hleft z), hbefore]
          _ = f r ⟨z.more, .start, s.groups, s.names⟩ := by
              rw [bind_of_eq_some (expect_cons _ _ _ _ _)]
              rfl
      · rw [hswallowed (Tail.close 1), hwhole, if_pos Option.isSome_some, Option.bind_none, inGroup,
          bind_of_eq_some (hswallowed z), Option.eq_none_iff_forall_ne_some]
        intro r hr
        obtain ⟨u, v, hexpect, -⟩ := bind_eq_some_iff.1 hr
        obtain ⟨rest, hrest⟩ := expect_eq_some hexpect
        rw [hnil] at hrest
        cases hrest

end Group

section Whole

variable {text : String} (h : ¬ Unopened text)
include h

/-- **An expression in a group behind a test of the beginning.** -/
theorem readWhole_atStart : readWhole ("^(?:" ++ text ++ ")") = (readClosed text).map fun r =>
    (⟨.seq (.look .textStart) r.1.regex, r.1.depth + 2⟩, ⟨[], .start, r.2.groups, r.2.names⟩) := by
  have hchars : ("^(?:" ++ text ++ ")").toList
      = '^' :: '(' :: '?' :: ':' :: (text.toList ++ (Tail.close 3).text) := by
    rw [String.toList_append, String.toList_append, List.append_assoc]
    rfl
  have hlength : ('^' :: '(' :: '?' :: ':' :: (text.toList ++ (Tail.close 3).text)).length + 1
      = (Tail.close 3).fuel + (text.toList.length + 1) + 1 + 1 := by
    simp only [List.length_cons, List.length_append, Tail.text, Tail.close, List.length_nil]
    omega
  have hbehind (r : Nested) (groups : Nat) (names : List (String × Nat)) :
      behindGroup [some ⟨.look .textStart, 0⟩] ((Tail.close 3).fuel + (text.toList.length + 1)) r
          ⟨[], .start, groups, names⟩
        = some (⟨.seq (.look .textStart) r.regex, r.depth + 2⟩, ⟨[], .start, groups, names⟩) := rfl
  calc readWhole ("^(?:" ++ text ++ ")")
      = (inGroup (behindGroup [some ⟨.look .textStart, 0⟩]
            ((Tail.close 3).fuel + (text.toList.length + 1)))
          ((Tail.close 3).fuel + (text.toList.length + 1))
          ⟨text.toList ++ (Tail.close 3).text, .start, 0, []⟩).filter
            fun r => r.2.rest.isEmpty := by
        rw [readWhole, hchars, readFront, hlength, readBranches_textStart, readBranches_group]
        rfl
    _ = ((readClosed text).bind fun r => behindGroup [some ⟨.look .textStart, 0⟩]
          ((Tail.close 3).fuel + (text.toList.length + 1)) r.1
            ⟨[], .start, r.2.groups, r.2.names⟩).filter fun r => r.2.rest.isEmpty := by
        rw [inGroup_eq _ (Tail.close 3) List.not_mem_nil h]
        rfl
    _ = (readClosed text).map fun r =>
          (⟨.seq (.look .textStart) r.1.regex, r.1.depth + 2⟩,
            ⟨[], .start, r.2.groups, r.2.names⟩) := by
        simp only [hbehind]
        cases readClosed text with
        | none => rfl
        | some r => rfl

/-- **An expression in a group in front of a test of the end.** -/
theorem readWhole_atEnd : readWhole ("(?:" ++ text ++ ")$") = (readClosed text).map fun r =>
    (⟨.seq r.1.regex (.look .textEnd), r.1.depth + 2⟩, ⟨[], .start, r.2.groups, r.2.names⟩) := by
  have hchars : ("(?:" ++ text ++ ")$").toList
      = '(' :: '?' :: ':' :: (text.toList ++ (Tail.closeEnd 4).text) := by
    rw [String.toList_append, String.toList_append, List.append_assoc]
    rfl
  have hlength : ('(' :: '?' :: ':' :: (text.toList ++ (Tail.closeEnd 4).text)).length + 1
      = (Tail.closeEnd 4).fuel + (text.toList.length + 1) + 1 := by
    simp only [List.length_cons, List.length_append, Tail.text, Tail.closeEnd, List.length_nil]
    omega
  have hbehind (r : Nested) (groups : Nat) (names : List (String × Nat)) :
      behindGroup [] ((Tail.closeEnd 4).fuel + (text.toList.length + 1)) r
          ⟨['$'], .start, groups, names⟩
        = some (⟨.seq r.regex (.look .textEnd), r.depth + 2⟩, ⟨[], .start, groups, names⟩) := by
    have hfuel : (Tail.closeEnd 4).fuel + (text.toList.length + 1)
        = text.toList.length + 3 + 1 + 1 := by
      change 4 + (text.toList.length + 1) = _
      omega
    rw [behindGroup, hfuel, readBranches_textEnd, readBranches_nil]
    rfl
  calc readWhole ("(?:" ++ text ++ ")$")
      = (inGroup (behindGroup [] ((Tail.closeEnd 4).fuel + (text.toList.length + 1)))
          ((Tail.closeEnd 4).fuel + (text.toList.length + 1))
          ⟨text.toList ++ (Tail.closeEnd 4).text, .start, 0, []⟩).filter
            fun r => r.2.rest.isEmpty := by
        rw [readWhole, hchars, readFront, hlength, readBranches_group]
        rfl
    _ = ((readClosed text).bind fun r => behindGroup []
          ((Tail.closeEnd 4).fuel + (text.toList.length + 1)) r.1
            ⟨['$'], .start, r.2.groups, r.2.names⟩).filter fun r => r.2.rest.isEmpty := by
        rw [inGroup_eq _ (Tail.closeEnd 4) (by decide) h]
        rfl
    _ = (readClosed text).map fun r =>
          (⟨.seq r.1.regex (.look .textEnd), r.1.depth + 2⟩,
            ⟨[], .start, r.2.groups, r.2.names⟩) := by
        simp only [hbehind]
        cases readClosed text with
        | none => rfl
        | some r => rfl

end Whole

/-! ### Whole expressions -/

/-- **A group and a test are too much**: the expression in a group, with a test beside it, would be
too large or too deep. -/
def Outgrows (text : String) : Prop :=
  ∃ (r : Nested) (s : Scanner), readWhole text = some (r, s)
    ∧ (maxWeight < r.regex.weight + 1 ∨ maxDepth < r.depth + 2)

instance (text : String) : Decidable (Outgrows text) :=
  decidable_of_iff ((readWhole text).any fun r =>
      maxWeight < r.1.regex.weight + 1 ∨ maxDepth < r.1.depth + 2) (by
    rw [Option.any_eq_true]
    constructor
    · rintro ⟨⟨r, s⟩, hwhole, hlarge⟩
      exact ⟨r, s, hwhole, of_decide_eq_true hlarge⟩
    · rintro ⟨r, s, hwhole, hlarge⟩
      exact ⟨(r, s), hwhole, decide_eq_true hlarge⟩)

theorem read?_of_eq_none {text : String} (h : readWhole text = none) :
    Pattern.read? text = none := by
  rw [Pattern.read?, h]
  rfl

/-- A text with a parenthesis that nothing opens is no expression. -/
theorem read?_of_unopened {text : String} (h : Unopened text) : Pattern.read? text = none := by
  obtain ⟨r, s, hfront, hrest⟩ := h
  refine read?_of_eq_none ?_
  rw [readWhole, hfront, Option.filter_some, if_neg]
  exact fun hnil => hrest (List.isEmpty_iff.1 hnil)

theorem read?_of_eq_some {text : String} {r : Nested} {s : Scanner}
    (h : readWhole text = some (r, s)) :
    Pattern.read? text = if r.fits then some ⟨r.regex, s.groups, s.names⟩ else none := by
  rw [Pattern.read?, h, Option.filter_some]
  split <;> rfl

theorem Nested.fits_iff {r : Nested} :
    r.fits ↔ r.regex.weight ≤ maxWeight ∧ r.depth ≤ maxDepth := by
  rw [Nested.fits, Bool.and_eq_true, decide_eq_true_iff, decide_eq_true_iff]

section Read

variable {whole text : String} {build : Regex → Regex}
  (hweight : ∀ r, (build r).weight = r.weight + 1)
  (hread : readWhole whole = (readClosed text).map fun r =>
    (⟨build r.1.regex, r.1.depth + 2⟩, ⟨[], .start, r.2.groups, r.2.names⟩))
include hweight hread

/-- **Nothing is read** where the text is no expression, and where its comment, its size or its
depth does not let it stand in a group; what is read has the expression in its place. -/
theorem read?_of_readWhole :
    (Pattern.read? whole = none
      ↔ Pattern.read? text = none ∨ EndsInComment text ∨ Outgrows text)
    ∧ ∀ p q, Pattern.read? text = some p → Pattern.read? whole = some q →
      q = { p with regex := build p.regex } := by
  rw [readClosed] at hread
  cases htext : readWhole text with
  | none =>
      rw [htext, ite_self] at hread
      have hnone := read?_of_eq_none htext
      refine ⟨iff_of_true (read?_of_eq_none hread) (.inl hnone), fun p q hp _ => ?_⟩
      rw [hnone] at hp
      cases hp
  | some r =>
      obtain ⟨r, s⟩ := r
      rw [htext] at hread
      by_cases hcomment : (readWhole (text ++ ")")).isSome
      · rw [if_pos hcomment] at hread
        have hnone := read?_of_eq_none hread
        have hends : EndsInComment text := ⟨by rw [htext]; rfl, hcomment⟩
        refine ⟨iff_of_true hnone (.inr (.inl hends)), fun p q _ hq => ?_⟩
        rw [hnone] at hq
        cases hq
      · rw [if_neg hcomment] at hread
        have hwhole := read?_of_eq_some hread
        have htext' := read?_of_eq_some htext
        have hends : ¬ EndsInComment text := fun h => hcomment h.2
        have hgrows : Outgrows text ↔ maxWeight < r.regex.weight + 1 ∨ maxDepth < r.depth + 2 := by
          refine ⟨fun ⟨r', s', h, hlarge⟩ => ?_, fun h => ⟨r, s, htext, h⟩⟩
          rw [htext] at h
          cases h
          exact hlarge
        have hfits : (⟨build r.regex, r.depth + 2⟩ : Nested).fits ↔ ¬ Outgrows text := by
          rw [Nested.fits_iff, hweight, hgrows]
          change r.regex.weight + 1 ≤ maxWeight ∧ r.depth + 2 ≤ maxDepth ↔ _
          omega
        by_cases hlarge : Outgrows text
        · rw [if_neg (fun h => hfits.1 h hlarge)] at hwhole
          refine ⟨iff_of_true hwhole (.inr (.inr hlarge)), fun p q _ hq => ?_⟩
          rw [hwhole] at hq
          cases hq
        · have hsmall : r.fits := by
            rw [hgrows] at hlarge
            rw [Nested.fits_iff]
            omega
          rw [if_pos (hfits.2 hlarge)] at hwhole
          rw [if_pos hsmall] at htext'
          rw [hwhole, htext']
          refine ⟨iff_of_false nofun ?_, fun p q hp hq => ?_⟩
          · rintro (h | h | h)
            · cases h
            · exact hends h
            · exact hlarge h
          · cases hp
            cases hq
            rfl

end Read

end Regex

end EventQuery
