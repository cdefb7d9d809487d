/-
**What an evaluation depends on besides the expression and the record.**

Main definitions:

* `Environment` — the registry and the current time;
* `isAggregation` — names that only `summarize` understands.
-/

import EventQuery.Function.Registry

set_option relaxedAutoImplicit false
set_option autoImplicit false

namespace EventQuery

/-- The functions that can be called, and the current time. -/
structure Environment where
  registry : Registry
  now : Instant
  deriving Inhabited

/-- The names of aggregations. -/
def aggregationNames : List String :=
  ["count", "sum", "min", "max", "make_list", "makelist", "make_set", "makeset"]

/-- The name is one of an aggregation. -/
def isAggregation (name : String) : Bool := aggregationNames.contains name

end EventQuery
