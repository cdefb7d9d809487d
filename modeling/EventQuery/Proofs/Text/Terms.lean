/-
**Whole terms.**

The search for a whole term goes from one occurrence to the next by offsets in bytes.  It starts at
the beginning, the first occurrence behind a place between two characters begins at such a place,
and so does the text behind the first character of an occurrence; hence every offset lies between
two characters.  Between an occurrence and the end of its first character no other one begins, so
none is passed over, however much occurrences overlap.

Main definitions:

* `Text.IsWholeTerm` — **an occurrence with no letter or digit on either side**.

Main results:

* `Text.contains_iff`, `Text.offset?_eq_some` — a pattern occurs, and where it does so first;
* `Text.seekTerm?_append` — the search from a place between two characters;
* `Text.hasTerm?_eq_some`, `Text.hasTerm_eq_true_iff` — the search ends, and what it finds;
* `Text.hasTerm_iff_isWholeTerm` — **whole terms are found, and nothing else is**.
-/

import EventQuery.Proofs.Text.Casing
import EventQuery.Text.Search

set_option relaxedAutoImplicit false
set_option autoImplicit false

namespace EventQuery

namespace Text

variable {text pattern term : List Char}

/-! ### Occurrences -/

/-- An occurrence is at the beginning or behind the first character. -/
theorem cons_eq_append_iff {c : Char} {cs u v : List Char} :
    c :: cs = u ++ pattern ++ v ↔
      u = [] ∧ c :: cs = pattern ++ v ∨ ∃ u', u = c :: u' ∧ cs = u' ++ pattern ++ v := by
  cases u with
  | nil => simp
  | cons d u =>
      rw [List.cons_append, List.cons_append, List.cons.injEq]
      constructor
      · rintro ⟨rfl, rfl⟩
        exact .inr ⟨u, rfl, rfl⟩
      · rintro (⟨h, -⟩ | ⟨u', h, hcs⟩)
        · cases h
        · cases h
          exact ⟨rfl, hcs⟩

theorem contains_iff : contains text pattern = true ↔ ∃ u v, text = u ++ pattern ++ v := by
  induction text with
  | nil =>
      rw [contains, List.isEmpty_iff]
      constructor
      · rintro rfl
        exact ⟨[], [], rfl⟩
      · rintro ⟨u, v, h⟩
        have happend := List.append_eq_nil_iff.1 h.symm
        exact (List.append_eq_nil_iff.1 happend.1).2
  | cons c cs ih =>
      rw [contains, Bool.or_eq_true, startsWith_iff, ih]
      constructor
      · rintro (⟨rest, h⟩ | ⟨u, v, rfl⟩)
        · exact ⟨[], rest, h⟩
        · exact ⟨c :: u, v, rfl⟩
      · rintro ⟨u, v, h⟩
        obtain ⟨-, h⟩ | ⟨u', -, h⟩ := cons_eq_append_iff.1 h
        · exact .inl ⟨v, h⟩
        · exact .inr ⟨u', v, h⟩

/-- **There is a first occurrence** where the pattern occurs at all. -/
theorem offset?_isSome_iff : (offset? pattern text).isSome = contains text pattern := by
  induction text with
  | nil => cases h : pattern.isEmpty <;> simp [offset?, contains, h]
  | cons c cs ih =>
      rw [offset?, contains]
      cases h : startsWith (c :: cs) pattern <;> simp [ih]

/-- **The offset of the first occurrence** is that of an occurrence, and no other one is before. -/
theorem offset?_eq_some {n : Nat} (h : offset? pattern text = some n) :
    (∃ u v, text = u ++ pattern ++ v ∧ byteLength u = n) ∧
      ∀ u v, text = u ++ pattern ++ v → n ≤ byteLength u := by
  induction text generalizing n with
  | nil =>
      rw [offset?] at h
      split at h
      · rename_i hempty
        cases h
        rw [List.isEmpty_iff] at hempty
        exact ⟨⟨[], [], by rw [hempty]; rfl, rfl⟩, fun _ _ _ => Nat.zero_le _⟩
      · cases h
  | cons c cs ih =>
      rw [offset?] at h
      split at h
      · rename_i hstarts
        cases h
        obtain ⟨rest, hrest⟩ := startsWith_iff.1 hstarts
        exact ⟨⟨[], rest, hrest, rfl⟩, fun _ _ _ => Nat.zero_le _⟩
      · rename_i hstarts
        obtain ⟨m, hm, rfl⟩ := Option.map_eq_some_iff.1 h
        obtain ⟨⟨u, v, rfl, rfl⟩, hfirst⟩ := ih hm
        refine ⟨⟨c :: u, v, rfl, rfl⟩, fun u' v' hsplit => ?_⟩
        obtain ⟨-, hhere⟩ | ⟨u'', rfl, hbehind⟩ := cons_eq_append_iff.1 hsplit
        · exact absurd (startsWith_iff.2 ⟨v', hhere⟩) hstarts
        · exact Nat.add_le_add_left (hfirst u'' v' hbehind) _

/-! ### Whole terms -/

/-- **An occurrence of a term with no letter or digit on either side.** -/
structure IsWholeTerm (text term u v : List Char) : Prop where
  split : text = u ++ term ++ v
  before : isEdge u.getLast? = true
  after : isEdge v.head? = true

/-- Of two beginnings of a text the one of fewer bytes begins the other. -/
theorem exists_append_of_byteLength_le {u v u' v' : List Char} (h : u ++ v = u' ++ v')
    (hle : byteLength u ≤ byteLength u') : ∃ w, u' = u ++ w ∧ v = w ++ v' := by
  obtain ⟨w, hu', hv⟩ | ⟨w, hu, hv'⟩ := List.append_eq_append_iff.1 h
  · exact ⟨w, hu', hv⟩
  · cases w with
    | nil => exact ⟨[], by simp [hu], by simp [hv']⟩
    | cons c w =>
        have hsize := c.utf8Size_pos
        rw [hu, byteLength_append, byteLength_cons] at hle
        omega

/-- **No occurrence begins inside the first character of another one.** -/
theorem eq_of_byteLength_lt {c : Char} {cs u v u' v' : List Char}
    (h : u ++ c :: cs ++ v = u' ++ c :: cs ++ v') (hle : byteLength u ≤ byteLength u')
    (hlt : byteLength u' < byteLength u + c.utf8Size) : u' = u ∧ v' = v := by
  rw [List.append_assoc, List.append_assoc] at h
  obtain ⟨w, rfl, hw⟩ := exists_append_of_byteLength_le h hle
  cases w with
  | nil => exact ⟨List.append_nil u, (List.append_cancel_left hw).symm⟩
  | cons d w =>
      obtain ⟨rfl, -⟩ := List.cons_eq_cons.1 hw
      rw [byteLength_append, byteLength_cons] at hlt
      omega

/-- The whole terms that do not begin before a place are those of the text behind it, when there is
none. -/
theorem exists_of_isWholeTerm {passed rest u v : List Char}
    (h : IsWholeTerm (passed ++ rest) term u v) (hle : byteLength passed ≤ byteLength u) :
    ∃ w, u = passed ++ w ∧ rest = w ++ term ++ v := by
  obtain ⟨w, hu, hrest⟩ :=
    exists_append_of_byteLength_le (h.split.trans (List.append_assoc ..)) hle
  exact ⟨w, hu, hrest.trans (List.append_assoc ..).symm⟩

section Search

variable (passed : List Char)

/-- **A step of the search**: without another occurrence it ends. -/
theorem seekTerm?_of_not_contains {rest : List Char} (h : contains rest term = false) :
    seekTerm? (passed ++ rest) term (byteLength passed) = some false := by
  rw [← offset?_isSome_iff, Option.isSome_eq_false_iff, Option.isNone_iff_eq_none] at h
  rw [seekTerm?]
  split
  · rename_i hcut
    rw [cut?_append] at hcut
    cases hcut
  · rename_i hcut
    rw [cut?_append] at hcut
    cases hcut
    rw [h]

/-- **A step of the search**: it ends with the next occurrence, or goes on behind the first
character of this one. -/
theorem seekTerm?_of_offset? {w v : List Char}
    (h : offset? term (w ++ term ++ v) = some (byteLength w)) :
    seekTerm? (passed ++ (w ++ term ++ v)) term (byteLength passed)
      = if isEdge (passed ++ w).getLast? && isEdge v.head? then some true
        else seekTerm? (passed ++ (w ++ term ++ v)) term
          (byteLength (passed ++ w) + stride term) := by
  have hfirst := cut?_append (passed ++ w) (term ++ v)
  have hbehind := cut?_append (passed ++ w ++ term) v
  simp only [byteLength_append, List.append_assoc] at h hfirst hbehind ⊢
  rw [seekTerm?]
  split
  · rename_i hcut
    rw [cut?_append] at hcut
    cases hcut
  · rename_i hcut
    rw [cut?_append] at hcut
    cases hcut
    rw [h]
    simp only [Nat.add_assoc, hfirst, hbehind]

/-- **The search from a place between two characters** ends, and it finds the whole terms that do
not begin before. -/
theorem seekTerm?_append (hterm : term ≠ []) (rest : List Char) :
    ∃ found, seekTerm? (passed ++ rest) term (byteLength passed) = some found ∧
      (found = true ↔ ∃ u v, IsWholeTerm (passed ++ rest) term u v ∧
        byteLength passed ≤ byteLength u) := by
  obtain ⟨c, cs, rfl⟩ := List.exists_cons_of_ne_nil hterm
  induction hlength : rest.length using Nat.strong_induction_on generalizing passed rest with
  | h n ih =>
      cases hoffset : offset? (c :: cs) rest with
      | none =>
          have hcontains : contains rest (c :: cs) = false := by
            rw [← offset?_isSome_iff, hoffset, Option.isSome_none]
          refine ⟨false, seekTerm?_of_not_contains passed hcontains, by simp, ?_⟩
          rintro ⟨u, v, hwhole, hle⟩
          obtain ⟨w, -, hrest⟩ := exists_of_isWholeTerm hwhole hle
          rw [contains_iff.2 ⟨w, v, hrest⟩] at hcontains
          cases hcontains
      | some distance =>
          obtain ⟨⟨w, v, rfl, rfl⟩, hfirst⟩ := offset?_eq_some hoffset
          rw [seekTerm?_of_offset? passed hoffset]
          split
          · rename_i hedges
            rw [Bool.and_eq_true] at hedges
            refine ⟨true, rfl, fun _ => ⟨passed ++ w, v, ⟨by simp, hedges.1, hedges.2⟩, ?_⟩,
              fun _ => rfl⟩
            rw [byteLength_append]
            exact Nat.le_add_right ..
          · rename_i hedges
            -- the rest is searched from behind the first character of the occurrence
            obtain ⟨found, hfound, hiff⟩ := ih (cs ++ v).length (by simp [← hlength]; omega)
              (passed ++ w ++ [c]) (cs ++ v) rfl
            have htext : passed ++ w ++ [c] ++ (cs ++ v) = passed ++ (w ++ c :: cs ++ v) := by simp
            have hstart : byteLength (passed ++ w ++ [c])
                = byteLength (passed ++ w) + stride (c :: cs) := by
              rw [byteLength_append (passed ++ w)]
              rfl
            rw [htext, hstart] at hfound hiff
            refine ⟨found, hfound, hiff.trans ?_⟩
            -- what begins before that is this occurrence, which is no whole term
            constructor
            · rintro ⟨u, v', hwhole, hle⟩
              rw [byteLength_append] at hle
              exact ⟨u, v', hwhole, by omega⟩
            · rintro ⟨u, v', hwhole, hle⟩
              refine ⟨u, v', hwhole, Nat.le_of_not_lt fun hlt => hedges ?_⟩
              obtain ⟨w', rfl, hrest⟩ := exists_of_isWholeTerm hwhole hle
              have hle' := hfirst w' v' hrest
              rw [byteLength_append, byteLength_append, stride] at hlt
              obtain ⟨rfl, rfl⟩ := eq_of_byteLength_lt hrest hle' (by omega)
              rw [Bool.and_eq_true]
              exact ⟨hwhole.before, hwhole.after⟩

end Search

/-! ### Folded texts -/

theorem fold_eq_nil_iff {exactCase : Bool} : fold exactCase text = [] ↔ text = [] := by
  cases exactCase with
  | true => exact Iff.rfl
  | false =>
      rw [fold, if_neg Bool.false_ne_true, lowerChars_eq_lowerBetween, lowerBetween_eq_nil_iff]

/-- **The search for a whole term** ends, and it finds the whole terms of the folded text. -/
theorem hasTerm?_eq_some (text term : List Char) (exactCase : Bool) :
    ∃ found, hasTerm? text term exactCase = some found ∧
      (found = true ↔
        term = [] ∨ ∃ u v, IsWholeTerm (fold exactCase text) (fold exactCase term) u v) := by
  rw [hasTerm?]
  split
  · rename_i hempty
    exact ⟨true, rfl, fun _ => .inl (List.isEmpty_iff.1 hempty), fun _ => rfl⟩
  · rename_i hterm
    rw [List.isEmpty_iff] at hterm
    obtain ⟨found, hfound, hiff⟩ :=
      seekTerm?_append [] (mt fold_eq_nil_iff.1 hterm) (fold exactCase text)
    refine ⟨found, hfound, hiff.trans ?_⟩
    simp [hterm]

theorem hasTerm_eq_true_iff {exactCase : Bool} : hasTerm text term exactCase = true ↔
    term = [] ∨ ∃ u v, IsWholeTerm (fold exactCase text) (fold exactCase term) u v := by
  obtain ⟨found, hfound, hiff⟩ := hasTerm?_eq_some text term exactCase
  rw [hasTerm, hfound, Option.getD_some, hiff]

theorem isEdge_iff {neighbour : Option Char} :
    isEdge neighbour = true ↔ ∀ c ∈ neighbour, isAlphanumeric c = false := by
  cases neighbour with
  | none => simp [isEdge]
  | some c => simp [isEdge]

/-- **Whole terms are found, and nothing else is.**  The search always has an answer: each offset
that it comes to lies between two characters of the folded text.  The answer is yes exactly if the
term is empty or the folded text has the folded term between two parts of which the first does not
end and the second does not begin with a letter or a digit; so the text contains the term. -/
theorem hasTerm_iff_isWholeTerm (text term : List Char) (exactCase : Bool) :
    hasTerm? text term exactCase = some (hasTerm text term exactCase) ∧
    (hasTerm text term exactCase = true ↔
      term = [] ∨ ∃ u v, fold exactCase text = u ++ fold exactCase term ++ v ∧
        (∀ c ∈ u.getLast?, isAlphanumeric c = false) ∧ ∀ c ∈ v.head?, isAlphanumeric c = false) ∧
    (hasTerm text term exactCase = true →
      contains (fold exactCase text) (fold exactCase term) = true) := by
  refine ⟨?_, ?_, fun h => contains_iff.2 ?_⟩
  · obtain ⟨found, hfound, -⟩ := hasTerm?_eq_some text term exactCase
    rw [hasTerm, hfound, Option.getD_some]
  · rw [hasTerm_eq_true_iff]
    refine or_congr_right (exists_congr fun u => exists_congr fun v => ?_)
    rw [← isEdge_iff, ← isEdge_iff]
    exact ⟨fun h => ⟨h.split, h.before, h.after⟩, fun h => ⟨h.1, h.2.1, h.2.2⟩⟩
  · obtain hempty | ⟨u, v, hwhole⟩ := hasTerm_eq_true_iff.1 h
    · exact ⟨[], fold exactCase text, by rw [fold_eq_nil_iff.2 hempty]; rfl⟩
    · exact ⟨u, v, hwhole.split⟩

/-- The whole term overlaps an occurrence that is none. -/
example : hasTerm "ΧΑ·Α·Α".toList "α·α".toList false = true := by decide +kernel

end Text

end EventQuery
