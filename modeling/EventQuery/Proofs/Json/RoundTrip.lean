/-
**JSON is read back as it was written.**

A compact text is followed by a comma, a closing bracket or nothing, so each of its parts is read
back up to there.  The reader spends one unit of fuel for each value and one more for each item or
field, so twice the length of the text is enough.

Main definitions:

* `Json.Exact` — values that a compact text keeps: no numbers but integers of 64 bits, distinct
  names, and a bound on the nesting;
* `Json.ReadsBack` — the reader takes the compact text of a value whole.

Main results:

* `Json.Exact.readsBack` — **exact values are read back, whatever follows them**;
* `Json.read?_compact` — a whole text.
-/

import EventQuery.Proofs.Json.Scalar

set_option relaxedAutoImplicit false
set_option autoImplicit false

namespace EventQuery

namespace Json

/-- **Values that a compact text keeps**, nested at most so many levels deep. -/
inductive Exact : Nat → Json → Prop where
  | null (depth : Nat) : Exact depth .null
  | bool (depth : Nat) (b : Bool) : Exact depth (.bool b)
  | integer (depth : Nat) {n : Int} : -0x8000000000000000 ≤ n → n < 0x8000000000000000 →
      Exact depth (.integer n)
  | string (depth : Nat) (s : String) : Exact depth (.string s)
  | array {depth : Nat} {items : List Json} : (∀ j ∈ items, Exact depth j) →
      Exact (depth + 1) (.array items)
  | object {depth : Nat} {fields : List (String × Json)} : (Fields.names fields).Nodup →
      (∀ f ∈ fields, Exact depth f.2) → Exact (depth + 1) (.object fields)

/-- The reader takes the compact text of a value whole. -/
def ReadsBack (depth : Nat) (j : Json) : Prop :=
  ∀ (fuel : Nat) (rest : List Char), 2 * j.compactChars.length ≤ fuel → numberEnd rest = true →
    readValue? depth fuel (j.compactChars ++ rest) = some (j, rest)

/-! ### First characters -/

theorem skip_cons {c : Char} (h : isSpace c = false) (cs : List Char) : skip (c :: cs) = c :: cs :=
  List.dropWhile_cons_of_neg (by rw [h]; decide)

/-- A character that begins a value: it is no blank and closes nothing. -/
def startsValue (c : Char) : Bool := !isSpace c && c != ']' && c != '\x7d'

theorem startsValue_digit {c : Char} (h : Digits.isDigit c = true) : startsValue c = true :=
  Digits.of_isDigit (fun c => startsValue c = true) (by decide) h

theorem Exact.chars_cons {depth : Nat} {j : Json} (h : Exact depth j) :
    ∃ c cs, j.compactChars = c :: cs ∧ startsValue c = true := by
  cases h with
  | null => exact ⟨_, _, rfl, by decide⟩
  | bool _ b => cases b <;> exact ⟨_, _, rfl, by decide⟩
  | @integer _ n =>
      obtain ⟨c, cs, hchars, hc⟩ := Digits.writeInt_cons n
      refine ⟨c, cs, hchars, ?_⟩
      rcases hc with rfl | hc
      · rfl
      · exact startsValue_digit hc
  | string => exact ⟨_, _, rfl, by decide⟩
  | array => exact ⟨_, _, rfl, by decide⟩
  | object => exact ⟨_, _, rfl, by decide⟩

/-! ### Scalars -/

theorem readValue?_number (depth fuel : Nat) {c : Char} (h : c = '-' ∨ Digits.isDigit c = true)
    (cs : List Char) : readValue? depth (fuel + 1) (c :: cs) = readNumber? (c :: cs) := by
  rcases h with rfl | h
  · rfl
  · rcases Digits.isDigit_cases h with rfl | rfl | rfl | rfl | rfl | rfl | rfl | rfl | rfl | rfl
      <;> rfl

theorem readsBack_integer (depth : Nat) {n : Int} (hlow : -0x8000000000000000 ≤ n)
    (hhigh : n < 0x8000000000000000) : ReadsBack depth (.integer n) := by
  intro fuel rest hfuel hrest
  have hread := readNumber?_writeInt hlow hhigh hrest
  obtain ⟨c, cs, hchars, hc⟩ := Digits.writeInt_cons n
  rw [compactChars] at hfuel ⊢
  rw [hchars] at hfuel hread ⊢
  rw [List.length_cons] at hfuel
  obtain ⟨fuel, rfl⟩ : ∃ n, fuel = n + 1 := ⟨fuel - 1, by omega⟩
  rw [List.cons_append, readValue?_number depth fuel hc]
  exact hread

theorem readsBack_string (depth : Nat) (s : String) : ReadsBack depth (.string s) := by
  intro fuel rest hfuel _
  have hread := readString?_quote s rest
  rw [compactChars, quote] at hfuel ⊢
  rw [List.cons_append, List.length_cons] at hfuel
  obtain ⟨fuel, rfl⟩ : ∃ n, fuel = n + 1 := ⟨fuel - 1, by omega⟩
  rw [List.cons_append, List.cons_append, List.append_assoc, List.singleton_append]
  change (readString? _).map _ = _
  rw [hread, Option.map_some]

/-! ### Arrays -/

theorem compactItems_cons (j : Json) {more : List Json} (h : more ≠ []) :
    compactItems (j :: more) = j.compactChars ++ ',' :: compactItems more := by
  cases more with
  | nil => exact absurd rfl h
  | cons k more => rfl

theorem readItems?_compactItems {depth : Nat} {items : List Json} (hne : items ≠ [])
    (hitems : ∀ j ∈ items, ReadsBack depth j) {fuel : Nat}
    (hfuel : 2 * (compactItems items).length + 1 ≤ fuel) (rest : List Char) :
    readItems? depth fuel (compactItems items ++ ']' :: rest) = some (items, rest) := by
  induction items generalizing fuel with
  | nil => exact absurd rfl hne
  | cons j items ih =>
      have hj := hitems j (List.mem_cons_self ..)
      obtain ⟨fuel, rfl⟩ : ∃ n, fuel = n + 1 := ⟨fuel - 1, by omega⟩
      cases items with
      | nil =>
          have hread := hj fuel (']' :: rest) (Nat.le_of_succ_le_succ hfuel) rfl
          rw [readItems?, compactItems, hread]
          rfl
      | cons k items =>
          rw [compactItems_cons j (List.cons_ne_nil k items)] at hfuel ⊢
          rw [List.length_append, List.length_cons] at hfuel
          have hread := hj fuel (',' :: (compactItems (k :: items) ++ ']' :: rest)) (by omega) rfl
          have hmore := ih (List.cons_ne_nil k items)
            (fun l hl => hitems l (List.mem_cons_of_mem j hl)) (by omega : _ ≤ fuel)
          rw [List.append_assoc, List.cons_append, readItems?, hread]
          change (readItems? depth fuel _).map _ = _
          rw [hmore, Option.map_some]

/-- The reader sees whether an array is empty by its first character. -/
theorem readValue?_array {depth fuel : Nat} {c : Char} (hc : startsValue c = true)
    (cs : List Char) : readValue? (depth + 1) (fuel + 1) ('[' :: c :: cs)
      = (readItems? depth fuel (c :: cs)).map fun r => (.array r.1, r.2) := by
  simp only [startsValue, Bool.and_eq_true, Bool.not_eq_true', bne_iff_ne] at hc
  have hskip := skip_cons hc.1.1 cs
  rw [readValue?, skip_cons (by decide)]
  simp only [hskip]
  split
  · next h => cases h
  · split
    · next h =>
        cases h
        exact absurd rfl hc.1.2
    · rfl

theorem readsBack_array {depth : Nat} {items : List Json} (hitems : ∀ j ∈ items, Exact depth j)
    (hread : ∀ j ∈ items, ReadsBack depth j) : ReadsBack (depth + 1) (.array items) := by
  intro fuel rest hfuel _
  rw [compactChars, List.cons_append, List.length_cons, List.length_append,
    List.length_singleton] at hfuel
  rw [compactChars, List.cons_append, List.cons_append, List.append_assoc, List.singleton_append]
  obtain ⟨fuel, rfl⟩ : ∃ n, fuel = n + 1 := ⟨fuel - 1, by omega⟩
  cases items with
  | nil => rfl
  | cons j items =>
      have hmore := readItems?_compactItems (List.cons_ne_nil j items) hread
        (by omega : _ ≤ fuel) rest
      obtain ⟨c, cs, hchars, hc⟩ := (hitems j (List.mem_cons_self ..)).chars_cons
      have hfirst : ∃ ds, compactItems (j :: items) = c :: ds := by
        cases items with
        | nil => exact ⟨cs, hchars⟩
        | cons k items => exact ⟨_, by
            rw [compactItems_cons j (List.cons_ne_nil k items), hchars, List.cons_append]⟩
      obtain ⟨ds, hds⟩ := hfirst
      rw [hds, List.cons_append] at hmore ⊢
      rw [readValue?_array hc, hmore, Option.map_some]

/-! ### Objects -/

theorem compactFields_cons (name : String) (j : Json) {more : List (String × Json)}
    (h : more ≠ []) : compactFields ((name, j) :: more)
      = quote name ++ ':' :: j.compactChars ++ ',' :: compactFields more := by
  cases more with
  | nil => exact absurd rfl h
  | cons field more => rfl

/-- A field is read with its colon; behind a comma come more of them. -/
theorem readFields?_more {depth fuel : Nat} {name : String} {j : Json} {rest : List Char}
    (hread : readValue? depth fuel (j.compactChars ++ ',' :: rest) = some (j, ',' :: rest)) :
    readFields? depth (fuel + 1) (quote name ++ ':' :: (j.compactChars ++ ',' :: rest))
      = (readFields? depth fuel rest).map fun (fields, rest) => ((name, j) :: fields, rest) := by
  have hname := readString?_quote name (':' :: (j.compactChars ++ ',' :: rest))
  rw [quote, List.cons_append, List.cons_append, List.append_assoc, List.singleton_append,
    readFields?, skip_cons (by decide)]
  simp only [hname, skip_cons (show isSpace ':' = false from rfl), hread,
    skip_cons (show isSpace ',' = false from rfl)]

/-- The brace ends the fields. -/
theorem readFields?_last {depth fuel : Nat} {name : String} {j : Json} {rest : List Char}
    (hread : readValue? depth fuel (j.compactChars ++ '\x7d' :: rest) = some (j, '\x7d' :: rest)) :
    readFields? depth (fuel + 1) (quote name ++ ':' :: (j.compactChars ++ '\x7d' :: rest))
      = some ([(name, j)], rest) := by
  have hname := readString?_quote name (':' :: (j.compactChars ++ '\x7d' :: rest))
  rw [quote, List.cons_append, List.cons_append, List.append_assoc, List.singleton_append,
    readFields?, skip_cons (by decide)]
  simp only [hname, skip_cons (show isSpace ':' = false from rfl), hread,
    skip_cons (show isSpace '\x7d' = false from rfl)]

theorem readFields?_compactFields {depth : Nat} {fields : List (String × Json)} (hne : fields ≠ [])
    (hfields : ∀ f ∈ fields, ReadsBack depth f.2) {fuel : Nat}
    (hfuel : 2 * (compactFields fields).length + 1 ≤ fuel) (rest : List Char) :
    readFields? depth fuel (compactFields fields ++ '\x7d' :: rest) = some (fields, rest) := by
  induction fields generalizing fuel with
  | nil => exact absurd rfl hne
  | cons field fields ih =>
      obtain ⟨name, j⟩ := field
      have hj : ReadsBack depth j := hfields (name, j) (List.mem_cons_self ..)
      obtain ⟨fuel, rfl⟩ : ∃ n, fuel = n + 1 := ⟨fuel - 1, by omega⟩
      cases fields with
      | nil =>
          rw [compactFields, List.length_append, List.length_cons] at hfuel
          have hread := hj fuel ('\x7d' :: rest) (by omega) rfl
          rw [compactFields, List.append_assoc, List.cons_append, readFields?_last hread]
      | cons next fields =>
          rw [compactFields_cons name j (List.cons_ne_nil next fields)] at hfuel ⊢
          rw [List.length_append, List.length_append, List.length_cons, List.length_cons] at hfuel
          have hread := hj fuel (',' :: (compactFields (next :: fields) ++ '\x7d' :: rest))
            (by omega) rfl
          have hmore := ih (List.cons_ne_nil next fields)
            (fun f hf => hfields f (List.mem_cons_of_mem (name, j) hf)) (by omega : _ ≤ fuel)
          rw [List.append_assoc, List.append_assoc, List.cons_append, List.cons_append,
            readFields?_more hread, hmore, Option.map_some]

theorem readsBack_object {depth : Nat} {fields : List (String × Json)}
    (hnames : (Fields.names fields).Nodup) (hread : ∀ f ∈ fields, ReadsBack depth f.2) :
    ReadsBack (depth + 1) (.object fields) := by
  intro fuel rest hfuel _
  rw [compactChars, List.cons_append, List.length_cons, List.length_append,
    List.length_singleton] at hfuel
  rw [compactChars, List.cons_append, List.cons_append, List.append_assoc, List.singleton_append]
  obtain ⟨fuel, rfl⟩ : ∃ n, fuel = n + 1 := ⟨fuel - 1, by omega⟩
  cases fields with
  | nil => rfl
  | cons field fields =>
      have hmore := readFields?_compactFields (List.cons_ne_nil field fields) hread
        (by omega : _ ≤ fuel) rest
      have hfirst : ∃ ds, compactFields (field :: fields) = '"' :: ds := by
        obtain ⟨name, j⟩ := field
        cases fields with
        | nil => exact ⟨_, rfl⟩
        | cons next fields => exact ⟨_, rfl⟩
      obtain ⟨ds, hds⟩ := hfirst
      rw [hds, List.cons_append] at hmore ⊢
      change (readFields? depth fuel _).map _ = _
      rw [hmore, Option.map_some]
      simp only [Fields.ofPairs_of_nodup hnames]

/-! ### Values -/

/-- **Exact values are read back, whatever follows them.** -/
theorem Exact.readsBack {depth : Nat} {j : Json} (h : Exact depth j) : ReadsBack depth j := by
  induction h with
  | null depth =>
      intro fuel rest hfuel _
      cases fuel with
      | zero => exact absurd hfuel (by decide)
      | succ fuel => rfl
  | bool depth b =>
      intro fuel rest hfuel _
      cases fuel with
      | zero => cases b <;> exact absurd hfuel (by decide)
      | succ fuel => cases b <;> rfl
  | integer depth hlow hhigh => exact readsBack_integer depth hlow hhigh
  | string depth s => exact readsBack_string depth s
  | array hitems ih => exact readsBack_array hitems ih
  | object hnames _ ih => exact readsBack_object hnames ih

/-- **A compact text is read back.** -/
theorem read?_compact {j : Json} (h : Exact maxDepth j) : read? j.compact = some j := by
  have hread := h.readsBack (2 * j.compactChars.length + 2) [] (by omega) rfl
  rw [List.append_nil] at hread
  simp only [read?, compact, String.toList_ofList, hread]
  rfl

end Json

end EventQuery
