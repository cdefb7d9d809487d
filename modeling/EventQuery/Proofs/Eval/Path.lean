/-
**Paths of names.**

A dotted name can be meant in two ways: as the name of one field, or as names that lead through
nested records.  A look-up by a dotted name takes the field of that name first and follows nested
records only when there is none.  A path of names is evaluated from the left instead: a record is
looked into for the next name, and only what is not a record makes way for the field of all names so
far.

So nested records come first for a path.  It gives what the look-up by its dotted name gives when
the record has no two readings of the names.

Main definitions:

* `Expr.pathOf` — a path of names;
* `Record.trail` — **a path read from the left**.

Main results:

* `Record.dottedParts_intercalate` — the parts of a dotted name are the names in it;
* `Record.trail_of_follow?` — nested records come first;
* `Expr.evalInside_pathOf` — what a path of names gives, and when it gives what the look-up by the
  dotted name gives;
* `Expr.not_evalInside_pathOf_eq_fieldOrEmpty` — a path that differs from its dotted name.
-/

import EventQuery.Proofs.Eval.Equations
import EventQuery.Proofs.Text.Splitting
import Mathlib.Data.List.Induction

set_option relaxedAutoImplicit false
set_option autoImplicit false

namespace EventQuery

/-! ### Names and points -/

/-- The dotted name of more names. -/
theorem intercalate_concat (first : String) (rest : List String) (name : String) :
    ".".intercalate (first :: (rest ++ [name]))
      = ".".intercalate (first :: rest) ++ "." ++ name := by
  induction rest generalizing first with
  | nil => exact String.intercalate_cons_cons
  | cons second rest ih =>
      rw [List.cons_append, String.intercalate_cons_cons, ih, String.intercalate_cons_cons]
      simp only [String.append_assoc]

namespace Record

/-- **The parts of a dotted name are the names in it.** -/
theorem dottedParts_intercalate {names : List String} (hne : names ≠ [])
    (h : ∀ name ∈ names, '.' ∉ name.toList) : dottedParts (".".intercalate names) = names := by
  have hparts : ∀ part ∈ names.map String.toList, '.' ∉ part := by
    simpa using h
  rw [dottedParts, Text.splitOn_singleton, String.toList_intercalate]
  change (List.splitOn '.' (['.'].intercalate _)).map _ = _
  rw [List.splitOn_intercalate '.' hparts (by simpa using hne), List.map_map]
  simp

/-! ### Nested records -/

/-- Names lead on through what the names before them lead to. -/
theorem follow?_concat {r : Record} {names : List String} (hne : names ≠ []) (name : String) :
    r.follow? (names ++ [name])
      = match r.follow? names with
        | some (.record fields) => Fields.get? fields name
        | _ => none := by
  induction names generalizing r with
  | nil => exact absurd rfl hne
  | cons first rest ih =>
      cases rest with
      | nil => rfl
      | cons second rest =>
          change (match Fields.get? r first with
            | some (.record inner) => follow? inner (second :: rest ++ [name])
            | _ => none) = match (match Fields.get? r first with
              | some (.record inner) => follow? inner (second :: rest)
              | _ => none) with
            | some (.record fields) => Fields.get? fields name
            | _ => none
          cases Fields.get? r first with
          | none => rfl
          | some v =>
              cases v with
              | record inner => exact ih (List.cons_ne_nil _ _)
              | _ => rfl

theorem follow?_cons_concat (r : Record) (first : String) (rest : List String) (name : String) :
    r.follow? (first :: (rest ++ [name]))
      = match r.follow? (first :: rest) with
        | some (.record fields) => Fields.get? fields name
        | _ => none := follow?_concat (List.cons_ne_nil first rest) name

/-- A plain name is looked up as it stands. -/
theorem fieldOrEmpty_of_noPoint {name : String} (h : '.' ∉ name.toList) (r : Record) :
    r.fieldOrEmpty name = (Fields.get? r name).getD (.string "") := by
  rw [fieldOrEmpty, field?]
  cases Fields.get? r name with
  | some v => rfl
  | none => rw [if_neg (by simpa using h)]

/-- **A dotted name is looked up as one name first**, and through nested records else. -/
theorem fieldOrEmpty_intercalate {first : String} {rest : List String} (hne : rest ≠ [])
    (h : ∀ name ∈ first :: rest, '.' ∉ name.toList) (r : Record) :
    r.fieldOrEmpty (".".intercalate (first :: rest))
      = ((Fields.get? r (".".intercalate (first :: rest))).or
          (r.follow? (first :: rest))).getD (.string "") := by
  have hpoint : (".".intercalate (first :: rest)).toList.contains '.' = true := by
    obtain ⟨second, rest, rfl⟩ := List.exists_cons_of_ne_nil hne
    rw [String.intercalate_cons_cons]
    simp
  rw [fieldOrEmpty, field?]
  cases Fields.get? r (".".intercalate (first :: rest)) with
  | some v => rfl
  | none => rw [if_pos hpoint, dottedParts_intercalate (List.cons_ne_nil _ _) h, Option.none_or]

/-! ### From the left -/

/-- One more name: a record is looked into, and only what is not a record makes way for the field of
all names so far. -/
def stride (r : Record) (known : String × Value) (name : String) : String × Value :=
  (known.1 ++ "." ++ name,
    match known.2 with
    | .record fields => (Fields.get? fields name).getD (.string "")
    | _ => (Fields.get? r (known.1 ++ "." ++ name)).getD (.string ""))

/-- The names so far, and what they lead to from the left. -/
def trailFrom (r : Record) (first : String) (rest : List String) : String × Value :=
  rest.foldl r.stride (first, (Fields.get? r first).getD (.string ""))

/-- **What a path of names leads to when it is read from the left.** -/
def trail (r : Record) (first : String) (rest : List String) : Value := (r.trailFrom first rest).2

theorem trailFrom_concat (r : Record) (first : String) (rest : List String) (name : String) :
    r.trailFrom first (rest ++ [name]) = r.stride (r.trailFrom first rest) name := by
  rw [trailFrom, List.foldl_append]
  rfl

theorem fst_trailFrom (r : Record) (first : String) (rest : List String) :
    (r.trailFrom first rest).1 = ".".intercalate (first :: rest) := by
  induction rest using List.reverseRecOn with
  | nil => rfl
  | append_singleton rest name ih =>
      rw [trailFrom_concat, stride, ih, intercalate_concat]

/-- A record is looked into. -/
theorem trail_concat_of_record {r : Record} {first : String} {rest : List String} {fields : Record}
    (h : r.trail first rest = .record fields) (name : String) :
    r.trail first (rest ++ [name]) = (Fields.get? fields name).getD (.string "") := by
  rw [trail] at h
  rw [trail, trailFrom_concat, stride, h]

/-- What is not a record makes way for the field of all names. -/
theorem trail_concat_of_not_record {r : Record} {first : String} {rest : List String}
    (h : ∀ fields, r.trail first rest ≠ .record fields) (name : String) :
    r.trail first (rest ++ [name])
      = (Fields.get? r (".".intercalate (first :: (rest ++ [name])))).getD (.string "") := by
  rw [trail, trailFrom_concat, stride, fst_trailFrom, intercalate_concat]
  split
  · next fields hfields => exact absurd hfields (h fields)
  · rfl

/-- **Nested records come first.** -/
theorem trail_of_follow? {r : Record} {first : String} {rest : List String} {v : Value}
    (h : r.follow? (first :: rest) = some v) : r.trail first rest = v := by
  induction rest using List.reverseRecOn generalizing v with
  | nil =>
      change Fields.get? r first = some v at h
      rw [trail, trailFrom, List.foldl_nil, h, Option.getD_some]
  | append_singleton rest name ih =>
      rw [follow?_cons_concat] at h
      split at h
      · next fields hfields => rw [trail_concat_of_record (ih hfields), h, Option.getD_some]
      · cases h

/-- Where no nested records lead on and no names but all of them together name a field, nothing
before the last name is a record. -/
theorem trail_ne_record {r : Record} {first : String} {rest : List String}
    (hnested : ∀ fields, r.follow? (first :: rest) ≠ some (.record fields))
    (hflat : ∀ part, part <+: rest → part ≠ [] →
      Fields.get? r (".".intercalate (first :: part)) = none) :
    ∀ fields, r.trail first rest ≠ .record fields := by
  induction rest using List.reverseRecOn with
  | nil =>
      intro fields h
      rw [trail, trailFrom, List.foldl_nil] at h
      cases hfirst : Fields.get? r first with
      | none =>
          rw [hfirst] at h
          cases h
      | some v =>
          rw [hfirst, Option.getD_some] at h
          exact hnested fields (hfirst.trans (congrArg some h))
  | append_singleton rest name ih =>
      intro fields h
      -- Either nested records lead as far as the names before, and then on to this one, or the
      -- names before lead to no record, and this one to a flat name, of which there is none.
      by_cases hbefore : ∃ inner, r.follow? (first :: rest) = some (.record inner)
      · obtain ⟨inner, hinner⟩ := hbefore
        rw [trail_concat_of_record (trail_of_follow? hinner)] at h
        refine hnested fields ?_
        rw [follow?_cons_concat, hinner]
        cases hname : Fields.get? inner name with
        | none =>
            rw [hname] at h
            cases h
        | some v =>
            rw [hname, Option.getD_some] at h
            exact hname.trans (congrArg some h)
      · have hrest := ih (fun inner hinner => hbefore ⟨inner, hinner⟩) fun part hpart =>
          hflat part (hpart.trans (List.prefix_append rest [name]))
        rw [trail_concat_of_not_record hrest, hflat _ List.prefix_rfl (by simp)] at h
        cases h

/-- Behind what is not a record, the look-up by the dotted name finds the field of all names or
nothing, and so does the path. -/
theorem trail_concat_eq_fieldOrEmpty {r : Record} {first : String} {rest : List String}
    {name : String} (hnames : ∀ n ∈ first :: (rest ++ [name]), '.' ∉ n.toList)
    (h : ∀ fields, r.trail first rest ≠ .record fields) :
    r.trail first (rest ++ [name])
      = r.fieldOrEmpty (".".intercalate (first :: (rest ++ [name]))) := by
  have hnone : r.follow? (first :: (rest ++ [name])) = none := by
    rw [follow?_cons_concat]
    split
    · next fields hfields => exact absurd (trail_of_follow? hfields) (h fields)
    · rfl
  rw [trail_concat_of_not_record h, fieldOrEmpty_intercalate (by simp) hnames, hnone,
    Option.or_none]

/-- **The look-up by the dotted name agrees** with the path read from the left, where the record has
no two readings of the names. -/
theorem trail_eq_fieldOrEmpty {r : Record} {first : String} {rest : List String}
    (hnames : ∀ name ∈ first :: rest, '.' ∉ name.toList)
    (hflat : ∀ part, part <+: rest.dropLast → part ≠ [] →
      Fields.get? r (".".intercalate (first :: part)) = none)
    (hone : Fields.get? r (".".intercalate (first :: rest)) = none ∨
      ∀ fields, r.follow? (first :: rest.dropLast) ≠ some (.record fields)) :
    r.trail first rest = r.fieldOrEmpty (".".intercalate (first :: rest)) := by
  rcases List.eq_nil_or_concat rest with rfl | ⟨rest, name, hrest⟩
  · exact (fieldOrEmpty_of_noPoint (hnames first (List.mem_cons_self ..)) r).symm
  · rw [List.concat_eq_append] at hrest
    subst hrest
    rw [List.dropLast_concat] at hflat hone
    by_cases hnested : ∃ fields, r.follow? (first :: rest) = some (.record fields)
    · obtain ⟨fields, hfields⟩ := hnested
      have hwhole := hone.resolve_right fun h => h fields hfields
      rw [trail_concat_of_record (trail_of_follow? hfields),
        fieldOrEmpty_intercalate (by simp) hnames, hwhole, Option.none_or, follow?_cons_concat,
        hfields]
    · exact trail_concat_eq_fieldOrEmpty hnames
        (trail_ne_record (fun fields hfields => hnested ⟨fields, hfields⟩) hflat)

end Record

namespace Expr

/-! ### Paths -/

/-- There is no point in a name that is written without brackets. -/
theorem noPoint_of_isPlainName {name : String} (h : isPlainName name = true) :
    '.' ∉ name.toList := by
  unfold isPlainName at h
  split at h
  · cases h
  · next c cs hchars =>
      simp only [Bool.and_eq_true, List.all_eq_true] at h
      obtain ⟨⟨hstart, hall⟩, -⟩ := h
      rw [hchars]
      intro hpoint
      rcases List.mem_cons.1 hpoint with rfl | hpoint
      · exact absurd hstart (by decide)
      · exact absurd (hall '.' hpoint) (by decide)

/-- **A path of names.** -/
def pathOf (first : String) (rest : List String) : Expr := rest.foldl .path (.property first)

theorem pathOf_concat (first : String) (rest : List String) (name : String) :
    pathOf first (rest ++ [name]) = .path (pathOf first rest) name := by
  rw [pathOf, List.foldl_append]
  rfl

theorem dottedName?_pathOf (first : String) (rest : List String) :
    dottedName? (pathOf first rest) = some (".".intercalate (first :: rest)) := by
  induction rest using List.reverseRecOn with
  | nil => rfl
  | append_singleton rest name ih =>
      rw [pathOf_concat, dottedName?, ih, intercalate_concat]
      rfl

/-- **A path of names is read from the left.** -/
theorem evalWith_pathOf (env : Environment) (enter : Enter) (r : Record) {first : String}
    {rest : List String} (hnames : ∀ name ∈ first :: rest, '.' ∉ name.toList) :
    evalWith env enter r (pathOf first rest) = .ok (r.trail first rest) := by
  induction rest using List.reverseRecOn with
  | nil =>
      change Except.ok (r.fieldOrEmpty first) = _
      rw [Record.fieldOrEmpty_of_noPoint (hnames first (List.mem_cons_self ..))]
      rfl
  | append_singleton rest name ih =>
      have hbase := ih fun name hname => hnames name (by
        rw [← List.cons_append]
        exact List.mem_append_left _ hname)
      rw [pathOf_concat, evalWith, ← pathOf_concat, hbase, dottedName?_pathOf]
      by_cases hrecord : ∃ fields, r.trail first rest = .record fields
      · obtain ⟨fields, hfields⟩ := hrecord
        rw [Record.trail_concat_of_record hfields, hfields]
        rfl
      · have hnot : ∀ fields, r.trail first rest ≠ .record fields :=
          fun fields hfields => hrecord ⟨fields, hfields⟩
        rw [Record.trail_concat_eq_fieldOrEmpty hnames hnot]
        cases hv : r.trail first rest with
        | record fields => exact absurd hv (hnot fields)
        | _ => rfl

/-- **What a path of names gives**: always a value, that of the names read from the left.  Nested
records that lead to a record before the last name come first, whatever flat names there are.  The
value is that of the look-up by the dotted name, if no fewer names, but more than one, name a field
together, and if not both all names together do and nested records lead to the last one. -/
theorem evalInside_pathOf (env : Environment) (depth : Nat) (r : Record) {first : String}
    {rest : List String} (hnames : ∀ name ∈ first :: rest, '.' ∉ name.toList) :
    evalInside env depth r (pathOf first rest) = .ok (r.trail first rest) ∧
    (∀ before name fields, rest = before ++ [name] →
      r.follow? (first :: before) = some (.record fields) →
      r.trail first rest = (Fields.get? fields name).getD (.string "")) ∧
    ((∀ part, part <+: rest.dropLast → part ≠ [] →
        Fields.get? r (".".intercalate (first :: part)) = none) →
      (Fields.get? r (".".intercalate (first :: rest)) = none ∨
        ∀ fields, r.follow? (first :: rest.dropLast) ≠ some (.record fields)) →
      r.trail first rest = r.fieldOrEmpty (".".intercalate (first :: rest))) := by
  refine ⟨?_, ?_, Record.trail_eq_fieldOrEmpty hnames⟩
  · rw [evalInside_eq]
    exact evalWith_pathOf env _ r hnames
  · rintro before name fields rfl hfields
    exact Record.trail_concat_of_record (Record.trail_of_follow? hfields) name

/-- One record with nested records beside a flat name, with a flat name alone, and with a record
under a flat name. -/
theorem evalInside_pathOf_of_flat_names :
    let r : Record := [("actor.id", .string "flat"), ("actor", .record [("id", .string "nested")]),
      ("log.level", .long 5), ("a.b", .record [("c", .long 7)])]
    (∀ name ∈ ["actor", "id"], '.' ∉ name.toList) ∧ (∀ name ∈ ["log", "level"], '.' ∉ name.toList) ∧
      (∀ name ∈ ["a", "b", "c"], '.' ∉ name.toList) ∧
      evalInside default 0 r (pathOf "actor" ["id"]) = .ok (.string "nested") ∧
      evalInside default 0 r (pathOf "log" ["level"]) = .ok (r.fieldOrEmpty "log.level") ∧
      evalInside default 0 r (pathOf "a" ["b", "c"]) = .ok (.long 7) := by
  intro r
  have hactor : ∀ name ∈ ["actor", "id"], '.' ∉ name.toList :=
    fun name hname => noPoint_of_isPlainName (by revert name; decide)
  have hlog : ∀ name ∈ ["log", "level"], '.' ∉ name.toList :=
    fun name hname => noPoint_of_isPlainName (by revert name; decide)
  have habc : ∀ name ∈ ["a", "b", "c"], '.' ∉ name.toList :=
    fun name hname => noPoint_of_isPlainName (by revert name; decide)
  obtain ⟨hpath, hnested, -⟩ := evalInside_pathOf default 0 r hactor
  obtain ⟨hlevel, -, hflat⟩ := evalInside_pathOf default 0 r hlog
  refine ⟨hactor, hlog, habc, ?_, ?_, (evalInside_pathOf default 0 r habc).1⟩
  · rw [hpath, hnested [] "id" [("id", .string "nested")] rfl rfl]
    rfl
  · rw [hlevel, hflat (fun part hpart hne => absurd (List.prefix_nil.1 hpart) hne) (.inr ?_)]
    · rfl
    · intro fields hfields
      cases hfields

/-- **A path may differ from its dotted name**: nested records come before a field of the whole
name. -/
theorem not_evalInside_pathOf_eq_fieldOrEmpty :
    ¬ ∀ (env : Environment) (r : Record) (first : String) (rest : List String),
      (∀ name ∈ first :: rest, isPlainName name = true) →
      evalInside env 0 r (pathOf first rest)
        = .ok (r.fieldOrEmpty (".".intercalate (first :: rest))) := by
  intro h
  let r : Record := [("actor.id", .string "flat"), ("actor", .record [("id", .string "nested")])]
  have hsame := h default r "actor" ["id"] (by decide)
  have hpath : evalInside default 0 r (pathOf "actor" ["id"]) = .ok (.string "nested") := rfl
  have hlookup : r.fieldOrEmpty (".".intercalate ["actor", "id"]) = .string "flat" := rfl
  rw [hpath, hlookup] at hsame
  exact absurd (Value.string.inj (Except.ok.inj hsame)) (by decide)

end Expr

end EventQuery
