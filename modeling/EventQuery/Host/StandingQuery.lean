/-
**Standing queries.**

A standing query is a query text together with the pipeline that it was built into, and a mark that
tells whether it is valid.  A text that does not build gives a query that is not valid and tells why.

Main definitions:

* `QueryDefinition` — what a query is made from;
* `StandingQuery` — a query with its state;
* `StandingQuery.build`, `StandingQuery.start` — the pipeline of the text, and a new query;
* `StandingQuery.next`, `StandingQuery.complete` — one record, and the end;
* `StandingQuery.resubscribe`, `StandingQuery.dispose` — begin anew, and stop for good;
* `StandingQuery.evaluate` — one record through a fresh pipeline.
-/

import EventQuery.Pipeline.Basic

set_option relaxedAutoImplicit false
set_option autoImplicit false

namespace EventQuery

/-- What a standing query is made from. -/
structure QueryDefinition where
  name : Option String
  description : Option String
  comment : String
  text : String
  deriving DecidableEq, Inhabited

/-- **A standing query**: what it was made from, whether it is valid, why it is not or why it failed
last, how often it was evaluated, and its pipeline. -/
structure StandingQuery where
  id : Nat
  name : String
  description : String
  comment : String
  text : String
  valid : Bool
  failure : Option String
  evaluations : Nat
  pipeline : Option Pipeline
  deriving Inhabited

namespace QueryDefinition

/-- A query text and the comment above it. -/
def ofSource (source : QuerySource) : QueryDefinition := ⟨none, none, source.comment, source.text⟩

/-- What a line of a comment says: blanks and the slashes in front do not count. -/
def remark (line : List Char) : List Char :=
  Text.strip ((Text.strip line).dropWhile (· == '/'))

/-- The first line of a comment that says something. -/
def headline? (comment : String) : Option String :=
  (((Text.lines comment.toList).map remark).find? fun line => !line.isEmpty).map String.ofList

/-- **The name of a query**: the one it was given, else the first line of its comment that says
something, else one made from its number. -/
def nameFor (d : QueryDefinition) (id : Nat) : String :=
  match d.name with
  | some name => name
  | none => (headline? d.comment).getD ("Query" ++ String.ofList (Digits.write id))

end QueryDefinition

namespace StandingQuery

/-- **Build the pipeline of the text**; a query is valid once it is built, and nothing about it
changes when its text does not build. -/
def build (q : StandingQuery) : StandingQuery × Result Unit :=
  let built := Pipeline.read q.text
  let q :=
    { q with
      pipeline := match built with
        | .ok p => some p
        | .error _ => q.pipeline
      valid := match built with
        | .ok _ => true
        | .error _ => q.valid }
  (q, built.map fun _ => ())

/-- A query that is not built yet. -/
def unbuilt (id : Nat) (d : QueryDefinition) : StandingQuery where
  id := id
  name := d.nameFor id
  description := d.description.getD ""
  comment := d.comment
  text := d.text
  valid := false
  failure := none
  evaluations := 0
  pipeline := none

/-- **A new query**; the reason is kept when its text does not build. -/
def start (id : Nat) (d : QueryDefinition) : StandingQuery :=
  let (q, result) := (unbuilt id d).build
  { q with
    failure := match result with
      | .ok () => q.failure
      | .error e => some e.message }

/-- The pipeline through which records go: that of a valid query. -/
def active (q : StandingQuery) : Option Pipeline := q.pipeline.filter fun _ => q.valid

/-- **One record.**  It counts as an evaluation whether it fails or not; a query that is not active
lets nothing out. -/
def next (env : Environment) (q : StandingQuery) (r : Record) :
    StandingQuery × Result (List Record) :=
  match q.active with
  | none => (q, .ok [])
  | some p =>
      let (p, result) := p.next env r
      ({ q with pipeline := some p, evaluations := q.evaluations + 1 }, result)

/-- **The end.** -/
def complete (env : Environment) (q : StandingQuery) : StandingQuery × Result (List Record) :=
  match q.active with
  | none => (q, .ok [])
  | some p =>
      let (p, result) := p.complete env
      ({ q with pipeline := some p }, result)

/-- **Stop for good.** -/
def dispose (q : StandingQuery) : StandingQuery := { q with pipeline := none, valid := false }

/-- **Begin anew** with a pipeline built from the text; what was held back is lost. -/
def resubscribe (q : StandingQuery) : StandingQuery × Result Unit := q.dispose.build

/-! ### Building, by whether the text builds -/

section Build

variable {id : Nat} {d : QueryDefinition} {q : StandingQuery} {p : Pipeline} {e : EvalError}

theorem build_of_ok (h : Pipeline.read q.text = .ok p) :
    q.build = ({ q with pipeline := some p, valid := true }, .ok ()) := by
  unfold build
  rw [h]
  rfl

theorem build_of_error (h : Pipeline.read q.text = .error e) : q.build = (q, .error e) := by
  unfold build
  rw [h]
  rfl

theorem start_of_ok (h : Pipeline.read d.text = .ok p) :
    start id d = { unbuilt id d with pipeline := some p, valid := true } := by
  have hbuild := build_of_ok (q := unbuilt id d) h
  unfold start
  rw [hbuild]

theorem start_of_error (h : Pipeline.read d.text = .error e) :
    start id d = { unbuilt id d with failure := some e.message } := by
  have hbuild := build_of_error (q := unbuilt id d) h
  unfold start
  rw [hbuild]

theorem resubscribe_of_ok (h : Pipeline.read q.text = .ok p) :
    q.resubscribe = ({ q with pipeline := some p, valid := true }, .ok ()) :=
  build_of_ok (q := q.dispose) h

theorem resubscribe_of_error (h : Pipeline.read q.text = .error e) :
    q.resubscribe = (q.dispose, .error e) :=
  build_of_error (q := q.dispose) h

end Build

/-- **One record through a fresh pipeline**, to the end; the state of the query plays no part. -/
def evaluate (env : Environment) (q : StandingQuery) (r : Record) : Result (List Record) := do
  let p ← Pipeline.read q.text
  let (p, out) := p.next env r
  let out ← out
  let (_, held) := p.complete env
  let held ← held
  return out ++ held

end StandingQuery

end EventQuery
