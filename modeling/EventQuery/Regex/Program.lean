/-
**Programs of regular expressions.**

An expression becomes a row of instructions, each of which names the ones that may follow it.  Where
there are two, the first is preferred.

Main definitions:

* `Regex.Instr` — the instructions;
* `Regex.compile` — the instructions of an expression in front of a given continuation;
* `Program.ofPattern` — the program of a whole expression.
-/

import EventQuery.Regex.Basic

set_option relaxedAutoImplicit false
set_option autoImplicit false

namespace EventQuery

namespace Regex

/-- An instruction: take a character of a set, test the surroundings, note the place, go on in one
of two ways, or accept. -/
inductive Instr where
  | set (members : Ranges) (next : Nat)
  | look (test : Look) (next : Nat)
  | save (slot next : Nat)
  | split (first second : Nat)
  | accept
  deriving Inhabited

/-- A row of instructions. -/
abbrev Code := Array Instr

/-- Instructions put in front of a continuation: the longer row and where they begin. -/
abbrev Emit := Nat → Code → Code × Nat

/-- Put one instruction in front. -/
def push (instr : Instr) (code : Code) : Code × Nat := (code.push instr, code.size)

/-- A choice between a body and going on. -/
def branch (greedy : Bool) (body next : Nat) : Instr :=
  if greedy then .split body next else .split next body

/-- A number of copies. -/
def copies (emit : Emit) : Nat → Emit
  | 0, next, code => (code, next)
  | n + 1, next, code =>
      let (code, start) := emit next code
      copies emit n start code

/-- Up to a number of copies, each of which may be the last; all leave to the same place. -/
def upTo (emit : Emit) (greedy : Bool) (exit : Nat) : Nat → Code → Code × Nat
  | 0, code => (code, exit)
  | n + 1, code =>
      let (code, after) := upTo emit greedy exit n code
      let (code, start) := emit after code
      push (branch greedy start exit) code

/-- One copy or more: behind the body there is a choice to begin it again.  Gives the beginning of
the body and the place of the choice. -/
def loop (emit : Emit) (greedy : Bool) (next : Nat) (code : Code) : Code × Nat × Nat :=
  let choice := code.size
  let (code, start) := emit choice (code.push .accept)
  (code.setIfInBounds choice (branch greedy start next), start, choice)

/-- Any number of copies.  A body that takes text begins at the choice itself; one that may match
the empty text is entered through a choice of its own, so that an empty round ends the loop. -/
def star (emit : Emit) (needsText greedy : Bool) : Emit := fun next code =>
  let (code, start, choice) := loop emit greedy next code
  if needsText then (code, choice) else push (branch greedy start next) code

/-- The places where a body begins and ends are noted.  The numbers from zero on belong to the whole
match, and to the groups behind it. -/
def capture (number : Nat) (emit : Emit) : Emit := fun next code =>
  let (code, last) := push (.save (2 * number + 1) next) code
  let (code, start) := emit last code
  push (.save (2 * number) start) code

/-- **The instructions of an expression** in front of a continuation. -/
def compile : Regex → Emit
  | .empty => fun next code => (code, next)
  | .set members => fun next code => push (.set members next) code
  | .look test => fun next code => push (.look test next) code
  | .seq a b => fun next code =>
      let (code, second) := compile b next code
      compile a second code
  | .alt a b => fun next code =>
      let (code, first) := compile a next code
      let (code, second) := compile b next code
      push (.split first second) code
  | .repeated least most greedy body => fun next code =>
      match most with
      | some most =>
          let (code, rest) := upTo (compile body) greedy next (most - least) code
          copies (compile body) least rest code
      | none =>
          match least with
          | 0 => star (compile body) body.needsText greedy next code
          | n + 1 =>
              let (code, start, _) := loop (compile body) greedy next code
              copies (compile body) n start code
  | .group index body => capture (index + 1) (compile body)

end Regex

/-- **A program**: instructions, where they begin, and the number of places noted. -/
structure Program where
  code : Regex.Code
  start : Nat
  slots : Nat

/-- The program of a whole expression. -/
def Program.ofPattern (p : Pattern) : Program :=
  let (code, start) := Regex.capture 0 (Regex.compile p.regex) 0 #[.accept]
  ⟨code, start, 2 * (p.groups + 1)⟩

end EventQuery
