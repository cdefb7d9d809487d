/-
**Named fields in order.**

Fields are kept in the order in which their names first came up; giving a name a new value leaves it
at its place.

Main definitions:

* `Fields` — the pairs of a name and a value;
* `Fields.get?` — the value of a name;
* `Fields.put` — give a name a value;
* `Fields.erase` — drop a name, keeping the order of the others.
-/

set_option relaxedAutoImplicit false
set_option autoImplicit false

namespace EventQuery

/-- Pairs of a name and a value, in order. -/
abbrev Fields (α : Type) := List (String × α)

namespace Fields

variable {α : Type}

/-- The value of a name. -/
def get? : Fields α → String → Option α
  | [], _ => none
  | (k, v) :: rest, name => if k = name then some v else get? rest name

/-- **Give a name a value**: at its place when it has one, at the end otherwise. -/
def put : Fields α → String → α → Fields α
  | [], name, x => [(name, x)]
  | (k, v) :: rest, name, x => if k = name then (k, x) :: rest else (k, v) :: put rest name x

/-- Drop a name. -/
def erase (fields : Fields α) (name : String) : Fields α :=
  fields.filter fun field => field.1 != name

/-- The names in order. -/
def names (fields : Fields α) : List String := fields.map Prod.fst

/-- Give names their values one after the other. -/
def putAll (fields more : Fields α) : Fields α :=
  more.foldl (fun all field => all.put field.1 field.2) fields

/-- The fields that pairs amount to: a repeated name keeps its first place and takes its last
value. -/
def ofPairs (pairs : List (String × α)) : Fields α := putAll [] pairs

/-! ### One lemma per operation, through `get?` -/

@[simp] theorem get?_nil (name : String) : get? ([] : Fields α) name = none := rfl

theorem get?_put (fields : Fields α) (name other : String) (x : α) :
    (fields.put name x).get? other = if name = other then some x else fields.get? other := by
  induction fields with
  | nil => simp [put, get?]
  | cons field rest ih =>
      obtain ⟨k, v⟩ := field
      unfold put
      by_cases hk : k = name
      · subst hk
        by_cases ho : k = other <;> simp [get?, ho]
      · rw [if_neg hk]
        by_cases ho : k = other
        · subst ho
          simp [get?, Ne.symm hk]
        · simp [get?, ho, ih]

@[simp] theorem get?_put_self (fields : Fields α) (name : String) (x : α) :
    (fields.put name x).get? name = some x := by simp [get?_put]

/-- A dropped name is gone and the others are as before. -/
theorem get?_erase (fields : Fields α) (name other : String) :
    (fields.erase name).get? other = if name = other then none else fields.get? other := by
  induction fields with
  | nil => simp [erase]
  | cons field rest ih =>
      obtain ⟨k, v⟩ := field
      simp only [erase] at ih ⊢
      by_cases hk : k = name
      · subst hk
        by_cases ho : k = other <;> simp_all [get?]
      · by_cases ho : k = other
        · subst ho
          simp [get?, hk, Ne.symm hk]
        · simp [get?, hk, ho, ih]

/-- A new name goes to the end and a known one keeps its place. -/
theorem names_put (fields : Fields α) (name : String) (x : α) :
    (fields.put name x).names
      = if name ∈ fields.names then fields.names else fields.names ++ [name] := by
  induction fields with
  | nil => simp [put, names]
  | cons field rest ih =>
      obtain ⟨k, v⟩ := field
      unfold put
      by_cases hk : k = name
      · subst hk
        simp [names]
      · rw [if_neg hk]
        simp only [names, List.map_cons, List.mem_cons] at ih ⊢
        rw [ih]
        by_cases hm : name ∈ rest.map Prod.fst <;> simp [hm, Ne.symm hk]

/-! ### Distinct names -/

theorem put_of_notMem {fields : Fields α} {name : String} (h : name ∉ fields.names) (x : α) :
    fields.put name x = fields ++ [(name, x)] := by
  induction fields with
  | nil => rfl
  | cons field rest ih =>
      obtain ⟨k, v⟩ := field
      rw [names, List.map_cons, List.mem_cons, not_or] at h
      rw [put, if_neg (Ne.symm h.1), ih h.2, List.cons_append]

theorem putAll_of_nodup {fields more : Fields α} (h : (names (fields ++ more)).Nodup) :
    putAll fields more = fields ++ more := by
  induction more generalizing fields with
  | nil => exact (List.append_nil fields).symm
  | cons field rest ih =>
      obtain ⟨k, v⟩ := field
      have hfresh : k ∉ names fields := by
        intro hk
        rw [names, List.map_append, List.nodup_append] at h
        exact h.2.2 k hk k (List.mem_cons_self ..) rfl
      have hstep : putAll fields ((k, v) :: rest) = putAll (fields.put k v) rest := rfl
      rw [hstep, put_of_notMem hfresh, ih (by rwa [List.append_assoc, List.singleton_append]),
        List.append_assoc, List.singleton_append]

/-- Pairs with distinct names are fields as they stand. -/
theorem ofPairs_of_nodup {pairs : List (String × α)} (h : (names pairs).Nodup) :
    ofPairs pairs = pairs := putAll_of_nodup h

theorem get?_append {head : Fields α} {name : String} (h : name ∉ head.names) (v : α)
    (rest : Fields α) : get? (head ++ (name, v) :: rest) name = some v := by
  induction head with
  | nil => rw [List.nil_append, get?, if_pos rfl]
  | cons field head ih =>
      obtain ⟨k, w⟩ := field
      rw [names, List.map_cons, List.mem_cons, not_or] at h
      rw [List.cons_append, get?, if_neg (Ne.symm h.1), ih h.2]

theorem put_append {head : Fields α} {name : String} (h : name ∉ head.names) (v x : α)
    (rest : Fields α) :
    put (head ++ (name, v) :: rest) name x = head ++ (name, x) :: rest := by
  induction head with
  | nil => rw [List.nil_append, put, if_pos rfl, List.nil_append]
  | cons field head ih =>
      obtain ⟨k, w⟩ := field
      rw [names, List.map_cons, List.mem_cons, not_or] at h
      rw [List.cons_append, put, if_neg (Ne.symm h.1), ih h.2, List.cons_append]

end Fields

end EventQuery
