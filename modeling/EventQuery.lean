import EventQuery.Main
import EventQuery.Proofs.Pipeline.Composition
import EventQuery.Proofs.Host.Recovery
import EventQuery.Proofs.Pipeline.Streaming
import EventQuery.Proofs.Pipeline.InPlace
import EventQuery.Proofs.Grammar.Query
import EventQuery.Proofs.Grammar.Survival
import EventQuery.Proofs.Grammar.Outline
import EventQuery.Proofs.Library.Paragraphs
import EventQuery.Proofs.Host.Bookkeeping
import EventQuery.Proofs.Expr.Layers
import EventQuery.Proofs.Pipeline.Columns
import EventQuery.Proofs.Eval.Limit
import EventQuery.Proofs.Eval.Path
import EventQuery.Proofs.Number.Order
import EventQuery.Proofs.Value.Order
import EventQuery.Proofs.Value.Between
import EventQuery.Proofs.Eval.Membership
import EventQuery.Proofs.Text.Casing
import EventQuery.Proofs.Value.Matching
import EventQuery.Proofs.Timespan.Literal
import EventQuery.Proofs.Instant.RoundTrip
import EventQuery.Proofs.Function.Multiples
import EventQuery.Proofs.Pipeline.Totals
import EventQuery.Proofs.Pipeline.Collections
import EventQuery.Proofs.Function.Occurrences
import EventQuery.Proofs.Function.Integers
import EventQuery.Proofs.Pipeline.Projection
import EventQuery.Proofs.Function.Trimming
import EventQuery.Proofs.Value.Arithmetic
import EventQuery.Proofs.Pipeline.Fusion
import EventQuery.Proofs.Function.Addresses
import EventQuery.Proofs.Function.TypedConstants
import EventQuery.Proofs.Function.IntegerMultiples
import EventQuery.Proofs.Grammar.Fault
import EventQuery.Proofs.Library.Definitions
import EventQuery.Proofs.Timespan.Ticks
