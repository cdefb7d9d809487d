/-
**Many queries over one stream of records.**

The host gives every record to each of its active queries, in the order in which they came.  A query
that fails is dealt with on its own, and the others still see the record.

Main definitions:

* `Recovery` — what becomes of a query that fails;
* `Host` — the queries, those that did not build, and the functions;
* `Host.add`, `Host.addAll`, `Host.load`, `Host.remove` — which queries there are;
* `Host.next`, `Host.complete` — one record, and the end.
-/

import EventQuery.Host.StandingQuery

set_option relaxedAutoImplicit false
set_option autoImplicit false

namespace EventQuery

/-- What becomes of a query that fails. -/
inductive Recovery where
  | dispose
  | resubscribe
  deriving DecidableEq, Repr, Inhabited

/-- A record that a query let out. -/
structure QueryOutput where
  query : Nat
  name : String
  comment : String
  record : Record

/-- A failure of a query, at a record or at the end. -/
structure QueryFailure where
  query : Nat
  name : String
  comment : String
  error : String
  record : Option Record

/-- **What came of a record**, or of the end. -/
structure Delivery where
  outputs : List QueryOutput
  failures : List QueryFailure

namespace Delivery

/-- Nothing. -/
def empty : Delivery := ⟨[], []⟩

/-- Nothing came of it. -/
def isEmpty (o : Delivery) : Bool := o.outputs.isEmpty && o.failures.isEmpty

/-- Everything that came of several queries, one after the other. -/
def concat (parts : List Delivery) : Delivery :=
  ⟨parts.flatMap Delivery.outputs, parts.flatMap Delivery.failures⟩

end Delivery

/-- What came of a library: the queries and the functions that it added, and what was wrong. -/
structure LoadReport where
  added : List Nat
  functions : List String
  errors : List String

/-- **The host**: how failures are dealt with and whether they are told, the functions, the queries
that were built, those that were not, and the next number. -/
structure Host where
  recovery : Recovery
  tellsFailures : Bool
  registry : Registry
  queries : List StandingQuery
  failed : List StandingQuery
  nextId : Nat
  deriving Inhabited

namespace Host

/-- A host without queries. -/
def empty (recovery : Recovery) (tellsFailures : Bool) (registry : Registry) : Host :=
  ⟨recovery, tellsFailures, registry, [], [], 1⟩

/-! ### Which queries there are -/

/-- **A new query**; one that does not build is kept apart. -/
def add (h : Host) (d : QueryDefinition) : Host × Nat :=
  let q := StandingQuery.start h.nextId d
  if q.valid then ({ h with queries := h.queries ++ [q], nextId := h.nextId + 1 }, h.nextId)
  else ({ h with failed := h.failed ++ [q], nextId := h.nextId + 1 }, h.nextId)

/-- New queries one after the other. -/
def addEach (h : Host) : List QueryDefinition → Host × List Nat
  | [] => (h, [])
  | d :: rest =>
      let (h, id) := h.add d
      let (h, ids) := addEach h rest
      (h, id :: ids)

/-- **New queries**, in the place of all others or beside them. -/
def addAll (h : Host) (ds : List QueryDefinition) (replace : Bool) : Host × List Nat :=
  addEach (if replace then { h with queries := [], failed := [] } else h) ds

/-- Drop a query; tells whether there was one. -/
def remove (h : Host) (id : Nat) : Host × Bool :=
  let there := (h.queries ++ h.failed).any fun q => q.id == id
  ({ h with
      queries := h.queries.filter fun q => q.id != id
      failed := h.failed.filter fun q => q.id != id }, there)

/-- The query of a number, among those that were built first. -/
def query? (h : Host) (id : Nat) : Option StandingQuery :=
  (h.queries ++ h.failed).find? fun q => q.id == id

/-! ### Libraries -/

/-- What is wrong with a query that did not build. -/
def complaint (q : StandingQuery) : String := q.name ++ ": " ++ q.failure.getD ""

/-- What became of a query of a library that was given a number: the number when it was built, and
what is wrong when it was not. -/
def loaded (added : Host × Nat) : List Nat × List String :=
  match added.1.failed.find? fun q => q.id == added.2 with
  | some q => ([], [complaint q])
  | none => ([added.2], [])

/-- Queries of a library one after the other: those that were built, and what is wrong with the
others. -/
def loadQueries (h : Host) : List QuerySource → Host × List Nat × List String
  | [] => (h, [], [])
  | source :: rest =>
      let added := h.add (.ofSource source)
      let more := loadQueries added.1 rest
      (more.1, (loaded added).1 ++ more.2.1, (loaded added).2 ++ more.2.2)

/-- **The contents of a library**: first the functions, then the queries. -/
def load (h : Host) (l : Library) : Host × LoadReport :=
  let h := { h with registry := h.registry.defineAll l.functions }
  let (h, added, errors) := h.loadQueries l.queries
  (h, ⟨added, l.functions.map UserFunction.name, l.errors ++ errors⟩)

/-- **What was found at a path**, which may have been nothing. -/
def loadFound (h : Host) (found : Except QueryError Library) : Host × Result LoadReport :=
  match found with
  | .ok l =>
      let (h, report) := h.load l
      (h, .ok report)
  | .error e => (h, .error (.query e))

/-! ### Functions -/

/-- Define every function of a text, or none of them when one does not read. -/
def defineText (h : Host) (text : String) : Host × Result (List String) :=
  match h.registry.defineText text with
  | .ok (names, registry) => ({ h with registry }, .ok names)
  | .error e => (h, .error e)

/-! ### Records -/

/-- **The query after a failure**: the message is kept, and the query begins anew or stops. -/
def recover (recovery : Recovery) (q : StandingQuery) (message : String) : StandingQuery :=
  let q := { q with failure := some message }
  match recovery with
  | .dispose => q.dispose
  | .resubscribe => q.resubscribe.1

/-- What a query made of a record: the query after it, and what came of it. -/
def settle (h : Host) (record : Option Record) (made : StandingQuery × Result (List Record)) :
    StandingQuery × Delivery :=
  let (q, result) := made
  match result with
  | .ok out => (q, ⟨out.map fun r => ⟨q.id, q.name, q.comment, r⟩, []⟩)
  | .error e =>
      let failures :=
        if h.tellsFailures then [⟨q.id, q.name, q.comment, e.message, record⟩] else []
      (recover h.recovery q e.message, ⟨[], failures⟩)

/-- **Every active query takes part**, each on its own. -/
def deliver (h : Host) (record : Option Record)
    (part : StandingQuery → StandingQuery × Result (List Record)) : Host × Delivery :=
  let results := h.queries.map fun q =>
    if q.valid then h.settle record (part q) else (q, .empty)
  ({ h with queries := results.map Prod.fst }, .concat (results.map Prod.snd))

/-- What an evaluation depends on, at a time. -/
def environment (h : Host) (now : Instant) : Environment := ⟨h.registry, now⟩

/-- **One record.** -/
def next (h : Host) (now : Instant) (r : Record) : Host × Delivery :=
  h.deliver (some r) fun q => q.next (h.environment now) r

/-- **The end.** -/
def complete (h : Host) (now : Instant) : Host × Delivery :=
  h.deliver none fun q => q.complete (h.environment now)

/-- One record through a fresh pipeline of a query. -/
def evaluate (h : Host) (now : Instant) (id : Nat) (r : Record) :
    Option (Result (List Record)) :=
  (h.query? id).map fun q => q.evaluate (h.environment now) r

end Host

end EventQuery
