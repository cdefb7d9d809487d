/-
**From a row of operators to a tree.**

An expression is read as a row: operands, each with signs in front and suffixes behind, joined by
binary operators.  The row becomes a tree by precedence.  From loosest to tightest: `or`, `and`,
equality and text search together with the suffixes of a range or list test, relations, sums,
products, signs, and last member access and indexing.  Binary operators of one level group to the
left, and a suffix takes everything of its own or a tighter level to its left.

Main definitions:

* `Phrase` — the row;
* `Phrase.State` — the operators that wait for an operand, and the operand at hand;
* `Phrase.closeDownTo` — the operators that bind at least as tightly as a level are closed;
* `Phrase.tree` — the tree of a row.
-/

import EventQuery.Expr.Basic

set_option relaxedAutoImplicit false
set_option autoImplicit false

namespace EventQuery

/-- What stands in front of an operand. -/
inductive Sign where
  | not
  | minus
  deriving DecidableEq, Repr

/-- What stands behind an operand. -/
inductive Suffix where
  | path (selector : String)
  | index (i : Expr)
  | between (negated : Bool) (low high : Expr)
  | among (negated ignoreCase : Bool) (candidates : List Expr)

/-- An operand with its signs and suffixes. -/
structure Operand where
  signs : List Sign
  head : Expr
  suffixes : List Suffix

/-- A row of operands joined by binary operators. -/
structure Phrase where
  first : Operand
  rest : List (Operator × Operand)

/-! ### Levels -/

/-- How tightly an operator binds. -/
def Operator.level : Operator → Nat
  | .logic .either => 10
  | .logic .both => 20
  | .equality .. | .search .. | .pattern => 30
  | .relation _ => 40
  | .arithmetic .add | .arithmetic .sub => 50
  | .arithmetic .mul | .arithmetic .div | .arithmetic .mod => 60

/-- How tightly a sign binds what follows it. -/
def Sign.level : Nat := 69

/-- A sign binds more tightly than every binary operator. -/
theorem Operator.level_lt_sign (op : Operator) : op.level < Sign.level := by
  have hall : ∀ op ∈ Operator.all, op.level < Sign.level := by decide
  exact hall op (Operator.mem_all op)

/-- How tightly a suffix binds. -/
def Suffix.level : Suffix → Nat
  | .path _ | .index _ => 80
  | .between .. | .among .. => 30

/-! ### Building nodes -/

/-- A sign in front of an expression; a minus subtracts from zero. -/
def Sign.build : Sign → Expr → Expr
  | .not, e => .not e
  | .minus, e => .binary (.arithmetic .sub) (.const (.int 0)) e

/-- A suffix behind an expression; an index that is a text constant is member access. -/
def Suffix.build : Suffix → Expr → Expr
  | .path selector, e => .path e selector
  | .index (.const (.string selector)), e => .path e selector
  | .index i, e => .index e i
  | .between negated low high, e => .between negated e low high
  | .among negated ignoreCase candidates, e => .among negated ignoreCase e candidates

/-- An operator that waits for what stands to its right. -/
inductive Pending where
  | sign (s : Sign)
  | infixed (op : Operator) (left : Expr)

namespace Pending

/-- What binds more tightly than this belongs to the right side of the operator. -/
def level : Pending → Nat
  | .sign _ => Sign.level
  | .infixed op _ => op.level

/-- The right side of the operator is complete. -/
def close : Pending → Expr → Expr
  | .sign s, e => s.build e
  | .infixed op left, e => .binary op left e

end Pending

namespace Phrase

/-- The operators that wait, the innermost first, and the expression read last. -/
structure State where
  waiting : List Pending
  current : Expr

/-- Close the innermost operators that bind at least as tightly as the given level. -/
def closeDownTo (level : Nat) : List Pending → Expr → State
  | [], e => ⟨[], e⟩
  | p :: ps, e => if level ≤ p.level then closeDownTo level ps (p.close e) else ⟨p :: ps, e⟩

/-- A suffix comes up. -/
def State.suffix (s : State) (x : Suffix) : State :=
  let t := closeDownTo x.level s.waiting s.current
  ⟨t.waiting, x.build t.current⟩

/-- An operand comes up behind the operators that wait. -/
def operand (waiting : List Pending) (o : Operand) : State :=
  o.suffixes.foldl State.suffix ⟨(o.signs.map Pending.sign).reverse ++ waiting, o.head⟩

/-- A binary operator and its right operand come up. -/
def State.infixed (s : State) (link : Operator × Operand) : State :=
  let t := closeDownTo link.1.level s.waiting s.current
  operand (.infixed link.1 t.current :: t.waiting) link.2

/-- **The tree of a row.** -/
def tree (p : Phrase) : Expr :=
  let s := p.rest.foldl State.infixed (operand [] p.first)
  (closeDownTo 0 s.waiting s.current).current

end Phrase

end EventQuery
