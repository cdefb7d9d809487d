/-
**Reading expressions.**

The text of an expression is read whole before anything in it is given a meaning: an expression that
is well formed but holds a bad constant is a *draft* that carries the error, and the leftmost error
counts.

Main definitions:

* `Draft` — a value, or the error of a well-formed text;
* `Grammar.typedLiteral` — a constant such as `datetime(2021-01-01)`, or a conversion;
* `Grammar.level` — expressions over a reader of the expressions inside them;
* `Expr.read` — the expression that a text holds.
-/

import EventQuery.Decimal.Reader
import EventQuery.Expr.Precedence
import EventQuery.Grammar.Token
import EventQuery.Instant.Reader
import EventQuery.Query.Error

set_option relaxedAutoImplicit false
set_option autoImplicit false

namespace EventQuery

/-- What a well-formed text means: a value, or an error. -/
abbrev Draft (α : Type) : Type := Except QueryError α

namespace Grammar

open Reader

/-! ### Constants -/

/-- The text between quotes of one kind, its escapes resolved; any other text stays as it is. -/
def unquote (cs : List Char) : List Char :=
  match cs with
  | q :: rest =>
      if Text.isQuote q && rest.getLast? == some q then Token.unescape rest.dropLast else cs
  | [] => []

/-- The truth values by name. -/
def boolConstant? (cs : List Char) : Option Bool :=
  if cs = "true".toList then some true else if cs = "false".toList then some false else none

/-- The words of typed constants, each with the constants that it reads. -/
def typedWords : List (String × (List Char → Option Value)) :=
  [("datetime", fun cs => (Instant.read? (String.ofList cs)).map Value.datetime),
    ("timespan", fun cs => (Timespan.read? (String.ofList cs)).map Value.timespan),
    ("time", fun cs => (Timespan.read? (String.ofList cs)).map Value.timespan),
    ("guid", fun cs => (Guid.read? (String.ofList cs)).map Value.guid),
    ("decimal", fun cs => (Decimal.read? (String.ofList cs)).map Value.decimal),
    ("long", fun cs => (Number.readLong? cs).map Value.long),
    ("int", fun cs => (Number.readInt? cs).map Value.int),
    ("real", fun cs => (Number.readFloat? cs).map Value.real),
    ("double", fun cs => (Number.readFloat? cs).map Value.real),
    ("bool", fun cs => (boolConstant? cs).map Value.bool)]

/-- The constant that a word reads from a text. -/
def typedConstant? (word : String) (cs : List Char) : Option Value :=
  (Fields.get? typedWords word).bind fun read? => read? cs

/-- A whole text that holds one expression. -/
def whole (inner : Reader (Draft Expr)) : Reader (Draft Expr) := do
  blank
  let e ← inner
  blank
  finish
  return e

/-- **A typed constant.**  A body that is no constant of its type is an expression to be converted,
unless it is a constant of another type. -/
def typedLiteral (inner : Reader (Draft Expr)) (word : String) (body : List Char) : Draft Expr :=
  let raw := Text.strip body
  if raw = "null".toList then .ok (.const .null)
  else
    match typedConstant? word (unquote raw) with
    | some v => .ok (.const v)
    | none =>
        match (whole inner raw).result with
        | some (.ok e, _) =>
            if e.isConst then .error (.literal (String.ofList (Expr.wrapped word raw)))
            else .ok (.call word [e])
        | _ => .error (.literal (String.ofList (Expr.wrapped word raw)))

/-- A constant given as JSON. -/
def dynamicLiteral (body : List Char) : Draft Expr :=
  match Json.read? (String.ofList (Text.strip body)) with
  | some j => .ok (.const (Value.ofJson j))
  | none => .error (.literal (String.ofList (Expr.wrapped "dynamic" body)))

/-- A number with a unit. -/
def spanLiteral (cs : List Char) : Draft Expr :=
  match Timespan.readLiteral? (String.ofList cs) with
  | some d => .ok (.const (.timespan d))
  | none => .error (.timespan (String.ofList cs))

/-- A number with a fraction or an exponent. -/
def realLiteral (cs : List Char) : Draft Expr :=
  match Number.readFloat? cs with
  | some x => .ok (.const (.real x))
  | none => .error (.literal (String.ofList cs))

/-- A whole number: of 32 bits when it fits, of 64 bits otherwise. -/
def integerLiteral (cs : List Char) : Draft Expr :=
  match Number.readInt? cs with
  | some n => .ok (.const (.int n))
  | none =>
      match Number.readLong? cs with
      | some n => .ok (.const (.long n))
      | none => .error (.literal (String.ofList cs))

/-! ### Operands -/

section Level

variable (inner : Reader (Draft Expr))

/-- An expression in parentheses. -/
def parenthesized : Reader (Draft Expr) := do
  token "("
  blank
  let e ← inner
  blank
  token ")"
  return e

/-- A word and a body in parentheses right behind it. -/
def typed : Reader (Draft Expr) := rule do
  let word ← Token.word (typedWords.map Prod.fst)
  token "("
  let body ← Token.body
  token ")"
  return typedLiteral inner word body

/-- The word `dynamic` and a body in parentheses right behind it. -/
def dynamic : Reader (Draft Expr) := rule do
  token "dynamic"
  token "("
  let body ← Token.body
  token ")"
  return dynamicLiteral body

/-- A constant. -/
def literal : Reader (Draft Expr) :=
  firstOf
    [dynamic,
      typed inner,
      Token.verbatim >>= fun s => pure (.ok (.const (.string s))),
      Token.quoted >>= fun s => pure (.ok (.const (.string s))),
      Token.word ["true", "false"] >>= fun w => pure (.ok (.const (.bool (w == "true")))),
      Token.span >>= fun cs => pure (spanLiteral cs),
      Token.real >>= fun cs => pure (realLiteral cs),
      Token.integer >>= fun cs => pure (integerLiteral cs)]

/-- A function name and its arguments. -/
def call : Reader (Draft (String × List Expr)) := rule do
  let name ← Token.name
  blank
  token "("
  blank
  let args ← optional (commaSeparated inner)
  blank
  token ")"
  return (args.getD []).mapM id >>= fun args => .ok (name, args)

/-- A column name, in brackets or bare. -/
def columnName : Reader String := orElse Token.bracketName Token.name

/-- An operand without signs and suffixes. -/
def primary : Reader (Draft Expr) :=
  firstOf
    [parenthesized inner,
      literal inner,
      call inner >>= fun c => pure (c.map fun (name, args) => .call name args),
      columnName >>= fun name => pure (.ok (.property name))]

/-! ### Suffixes -/

/-- A point and a field. -/
def pathSuffix : Reader (Draft Suffix) := rule do
  token "."
  blank
  let selector ← orElse Token.name Token.bracketName
  return .ok (.path selector)

/-- An index in brackets. -/
def indexSuffix : Reader (Draft Suffix) := rule do
  token "["
  blank
  let i ← inner
  blank
  token "]"
  return i.map Suffix.index

/-- A range test. -/
def betweenSuffix (negated : Bool) : Reader (Draft Suffix) := rule do
  let _ ← Token.word [Expr.betweenWord negated]
  blank
  token "("
  blank
  let low ← inner
  blank
  token ".."
  blank
  let high ← inner
  blank
  token ")"
  return low >>= fun low => high.map fun high => .between negated low high

/-- The word of a list test. -/
def amongStart (negated ignoreCase : Bool) : Reader String :=
  if ignoreCase then Token.symbol (Expr.amongWord negated true)
  else Token.wordNoTilde (Expr.amongWord negated false)

/-- A list test. -/
def amongSuffix (negated ignoreCase : Bool) : Reader (Draft Suffix) := rule do
  let _ ← amongStart negated ignoreCase
  blank
  token "("
  blank
  let candidates ← commaSeparated inner
  blank
  token ")"
  return (candidates.mapM id).map fun candidates => .among negated ignoreCase candidates

/-- A suffix. -/
def suffix : Reader (Draft Suffix) :=
  firstOf
    [pathSuffix, indexSuffix inner, betweenSuffix inner false, betweenSuffix inner true,
      amongSuffix inner false true, amongSuffix inner false false,
      amongSuffix inner true true, amongSuffix inner true false]

/-! ### Expressions -/

/-- An operand with its signs and suffixes. -/
def operand : Reader (Draft Operand) := do
  let signs ← many Token.sign
  blank
  let head ← primary inner
  blank
  let suffixes ← many (suffix inner)
  return head >>= fun head => (suffixes.mapM id).map fun suffixes => ⟨signs, head, suffixes⟩

/-- A binary operator and the operand behind it. -/
def link : Reader (Draft (Operator × Operand)) := do
  let op ← Token.operator
  blank
  let o ← operand inner
  return o.map fun o => (op, o)

/-- **Expressions over a reader of the expressions inside them.** -/
def level : Reader (Draft Expr) := rule do
  let first ← operand inner
  blank
  let rest ← many (link inner)
  return first >>= fun first => (rest.mapM id).map fun rest => Phrase.tree ⟨first, rest⟩

end Level

/-- Expressions with a given number of levels of nesting. -/
def expression : Nat → Reader (Draft Expr)
  | 0 => fail
  | depth + 1 => level (expression depth)

/-- Expressions of any nesting: a level takes a character at least. -/
def expr : Reader (Draft Expr) := fun cs => expression (cs.length + 1) cs

/-- What a reading of a whole text comes to; a text that is not well formed is reported by `fault`
with a diagnostic. -/
def settle {α : Type} (fault : String → QueryError) (cs : List Char) (o : Outcome (Draft α)) :
    Except QueryError α :=
  match o.result with
  | some (draft, _) => draft
  | none => .error (fault (diagnostic cs o.mark))

end Grammar

/-- **The expression that a text holds.**  Every error names the whole text. -/
def Expr.read (s : String) : Except QueryError Expr :=
  (Grammar.settle (fun d => .query s [d]) s.toList (Grammar.whole Grammar.expr s.toList)).mapError
    (QueryError.forQuery s)

end EventQuery
