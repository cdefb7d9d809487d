/-
**Scalar expressions.**

Main definitions:

* `Expr` — the expressions;
* `Expr.beq` — equality, constants being compared as values are;
* `Expr.implicitName?` — the column name that an expression brings along.
-/

import EventQuery.Expr.Operator
import EventQuery.Value.Basic

set_option relaxedAutoImplicit false
set_option autoImplicit false

namespace EventQuery

/-- **A scalar expression**: constants, fields, member access by a fixed name, indexing by a
computed one, calls, negation, binary operators, and the tests of a range and of a list. -/
inductive Expr where
  | const (v : Value)
  | property (name : String)
  | path (base : Expr) (selector : String)
  | index (base i : Expr)
  | call (name : String) (args : List Expr)
  | not (e : Expr)
  | binary (op : Operator) (left right : Expr)
  | between (negated : Bool) (e low high : Expr)
  | among (negated ignoreCase : Bool) (e : Expr) (candidates : List Expr)
  deriving Inhabited

namespace Expr

mutual

/-- **Equality of expressions.** -/
def beq : Expr → Expr → Bool
  | .const a, .const b => a == b
  | .property a, .property b => a == b
  | .path a s, .path b t => beq a b && s == t
  | .index a i, .index b j => beq a b && beq i j
  | .call f xs, .call g ys => f == g && beqAll xs ys
  | .not a, .not b => beq a b
  | .binary o a b, .binary p c d => o == p && beq a c && beq b d
  | .between n a b c, .between m d e f => n == m && beq a d && beq b e && beq c f
  | .among n i a xs, .among m j b ys => n == m && i == j && beq a b && beqAll xs ys
  | _, _ => false

/-- Expression by expression. -/
def beqAll : List Expr → List Expr → Bool
  | [], [] => true
  | x :: xs, y :: ys => beq x y && beqAll xs ys
  | _, _ => false

end

instance : BEq Expr := ⟨beq⟩

/-- **The column name that an expression brings along**: a field its name, and a path the names on
it joined by underscores. -/
def implicitName? : Expr → Option String
  | .property name => some name
  | .path base selector => (implicitName? base).map fun name => name ++ "_" ++ selector
  | _ => none

/-- A path of fields as one dotted name. -/
def dottedName? : Expr → Option String
  | .property name => some name
  | .path base selector => (dottedName? base).map fun name => name ++ "." ++ selector
  | _ => none

/-- The expression is a constant. -/
def isConst : Expr → Bool
  | .const _ => true
  | _ => false

end Expr

end EventQuery
