/-
**The brackets of a row.**

A row of operands, signs, suffixes and binary operators has no brackets of its own; its tree puts
them in.  A bracketing respects the ranks of the operators when nothing to the right of a binary
operator, and nothing behind a sign, binds as loosely as it does, and when no operator that reaches
to the end of what stands to the left of an operator or of a suffix binds more loosely than that.  A
row has one such bracketing, and the tree of the row is what it builds.

The row is read from the left, one addition at a time: a suffix, or a binary operator with the signs
and the head of its right side.  An addition goes to a place on the right edge of the bracketing so
far, which is where the operators wait in a `Phrase.State`.

Main definitions:

* `Lexeme`, `Phrase.lexemes` — the pieces of a row, in order;
* `Bracketing` — a row with its brackets, with `Bracketing.lexemes` and `Bracketing.build`;
* `Bracketing.Ranked` — **the brackets respect the ranks**;
* `Bracketing.insert` — an addition on the right edge;
* `Phrase.bracketing` — the brackets of a row.

Main results:

* `Bracketing.Ranked.insert`, `Phrase.ranked_bracketing` — the brackets of a row respect the ranks;
* `Bracketing.Ranked.eq_bracketing` — **no other brackets do**;
* `Bracketing.add_spine`, `Phrase.build_bracketing` — **the tree of a row is what they build**.
-/

import EventQuery.Expr.Precedence

set_option relaxedAutoImplicit false
set_option autoImplicit false

namespace EventQuery

/-- A piece of a row. -/
inductive Lexeme where
  | sign (s : Sign)
  | operand (e : Expr)
  | suffix (x : Suffix)
  | infixed (op : Operator)

/-- The pieces of an operand with its signs and suffixes. -/
def Operand.lexemes (o : Operand) : List Lexeme :=
  o.signs.map .sign ++ .operand o.head :: o.suffixes.map .suffix

/-- **The pieces of a row**, in order. -/
def Phrase.lexemes (p : Phrase) : List Lexeme :=
  p.first.lexemes ++ p.rest.flatMap fun (op, o) => .infixed op :: o.lexemes

/-- **A row with its brackets.** -/
inductive Bracketing where
  | operand (e : Expr)
  | signed (s : Sign) (t : Bracketing)
  | suffixed (t : Bracketing) (x : Suffix)
  | infixed (op : Operator) (left right : Bracketing)

namespace Bracketing

/-- The row without the brackets. -/
def lexemes : Bracketing → List Lexeme
  | operand e => [.operand e]
  | signed s t => .sign s :: t.lexemes
  | suffixed t x => t.lexemes ++ [.suffix x]
  | infixed op left right => left.lexemes ++ .infixed op :: right.lexemes

/-- The expression that the brackets build. -/
def build : Bracketing → Expr
  | operand e => e
  | signed s t => s.build t.build
  | suffixed t x => x.build t.build
  | infixed op left right => .binary op left.build right.build

/-- How tightly the suffixes and the binary operators bind, in order. -/
def joints : Bracketing → List Nat
  | operand _ => []
  | signed _ t => t.joints
  | suffixed t x => t.joints ++ [x.level]
  | infixed op left right => left.joints ++ op.level :: right.joints

/-- How tightly the operators bind that reach to the end of the row, the outermost first. -/
def edge : Bracketing → List Nat
  | operand _ | suffixed .. => []
  | signed _ t => Sign.level :: t.edge
  | infixed op _ right => op.level :: right.edge

/-- **The brackets respect the ranks.**  Behind a sign, and to the right of a binary operator, stands
only what binds more tightly.  To the left of a suffix or of a binary operator no operator that
reaches up to it binds more loosely. -/
def Ranked : Bracketing → Prop
  | operand _ => True
  | signed _ t => t.Ranked ∧ ∀ n ∈ t.joints, Sign.level < n
  | suffixed t x => t.Ranked ∧ ∀ n ∈ t.edge, x.level ≤ n
  | infixed op left right => left.Ranked ∧ right.Ranked ∧
      (∀ n ∈ left.edge, op.level ≤ n) ∧ ∀ n ∈ right.joints, op.level < n

/-! ### The right edge -/

/-- What reaches to the end of the row is a sign or a joint. -/
theorem mem_joints_of_mem_edge {t : Bracketing} {n : Nat} (h : n ∈ t.edge) :
    n = Sign.level ∨ n ∈ t.joints := by
  induction t with
  | operand e => exact absurd h List.not_mem_nil
  | suffixed t x => exact absurd h List.not_mem_nil
  | signed s t ih =>
      rcases List.mem_cons.1 h with rfl | h
      · exact .inl rfl
      · exact ih h
  | infixed op left right ihl ihr =>
      rcases List.mem_cons.1 h with rfl | h
      · exact .inr (List.mem_append_right _ (List.mem_cons_self ..))
      · exact (ihr h).imp id fun hn =>
          List.mem_append_right _ (List.mem_cons_of_mem _ hn)

/-- What binds more loosely than all joints, and no more tightly than a sign, binds no more tightly
than the right edge. -/
theorem le_edge {t : Bracketing} {level : Nat} (hsign : level ≤ Sign.level)
    (h : ∀ n ∈ t.joints, level < n) : ∀ n ∈ t.edge, level ≤ n := by
  intro n hn
  rcases mem_joints_of_mem_edge hn with rfl | hjoint
  · exact hsign
  · exact Nat.le_of_lt (h n hjoint)

/-- On the right edge, the operators bind more tightly the further in they are: no looser one waits
inside a sign, -/
theorem Ranked.le_edge_signed {s : Sign} {t : Bracketing} (h : (signed s t).Ranked) :
    ∀ n ∈ (signed s t).edge, Sign.level ≤ n :=
  List.forall_mem_cons.2 ⟨Nat.le_refl _, le_edge (Nat.le_refl _) h.2⟩

/-- ... or inside a binary operator. -/
theorem Ranked.le_edge_infixed {op : Operator} {left right : Bracketing}
    (h : (infixed op left right).Ranked) :
    ∀ n ∈ (infixed op left right).edge, op.level ≤ n :=
  List.forall_mem_cons.2 ⟨Nat.le_refl _, le_edge (Nat.le_of_lt op.level_lt_sign) h.2.2.2⟩

end Bracketing

/-! ### Additions -/

/-- **An addition to a row**: a suffix, or a binary operator with the signs and the head of its
right side. -/
inductive Addition where
  | suffix (x : Suffix)
  | infixed (op : Operator) (signs : List Sign) (head : Expr)

namespace Bracketing

/-- A head behind its signs. -/
def behind (signs : List Sign) (head : Expr) : Bracketing :=
  signs.foldr .signed (.operand head)

end Bracketing

namespace Addition

def level : Addition → Nat
  | suffix x => x.level
  | infixed op .. => op.level

def lexemes : Addition → List Lexeme
  | suffix x => [.suffix x]
  | infixed op signs head => .infixed op :: (signs.map .sign ++ [.operand head])

/-- An addition takes all of a bracketing. -/
def onto : Addition → Bracketing → Bracketing
  | suffix x, t => .suffixed t x
  | infixed op signs head, t => .infixed op t (.behind signs head)

end Addition

/-- What an operand adds to its signs and its head. -/
def Operand.additions (o : Operand) : List Addition := o.suffixes.map .suffix

/-- What a row adds to the signs and the head of its first operand. -/
def Phrase.additions (p : Phrase) : List Addition :=
  p.first.additions ++ p.rest.flatMap fun (op, o) => .infixed op o.signs o.head :: o.additions

namespace Bracketing

/-- **An addition goes to a place on the right edge**: it takes all that binds at least as tightly
and stays inside everything looser. -/
def insert (a : Addition) : Bracketing → Bracketing
  | infixed op left right =>
      if a.level ≤ op.level then a.onto (infixed op left right)
      else infixed op left (insert a right)
  | signed s t =>
      if a.level ≤ Sign.level then a.onto (signed s t) else signed s (insert a t)
  | t => a.onto t

/-- Additions, one behind the other. -/
def insertAll (t : Bracketing) (as : List Addition) : Bracketing :=
  as.foldl (fun t a => t.insert a) t

theorem insertAll_cons (t : Bracketing) (a : Addition) (as : List Addition) :
    t.insertAll (a :: as) = (t.insert a).insertAll as := rfl

theorem insertAll_append (t : Bracketing) (as bs : List Addition) :
    t.insertAll (as ++ bs) = (t.insertAll as).insertAll bs :=
  List.foldl_append

end Bracketing

/-- **The brackets of a row.** -/
def Phrase.bracketing (p : Phrase) : Bracketing :=
  (Bracketing.behind p.first.signs p.first.head).insertAll p.additions

namespace Bracketing

/-! ### Heads behind signs -/

@[simp] theorem behind_cons (s : Sign) (signs : List Sign) (head : Expr) :
    behind (s :: signs) head = signed s (behind signs head) := rfl

@[simp] theorem joints_behind (signs : List Sign) (head : Expr) :
    (behind signs head).joints = [] := by
  induction signs with
  | nil => rfl
  | cons s rest ih => exact ih

theorem ranked_behind (signs : List Sign) (head : Expr) : (behind signs head).Ranked := by
  induction signs with
  | nil => trivial
  | cons s rest ih =>
      refine ⟨ih, fun n hn => ?_⟩
      change n ∈ (behind rest head).joints at hn
      rw [joints_behind] at hn
      exact absurd hn List.not_mem_nil

theorem lexemes_behind (signs : List Sign) (head : Expr) :
    (behind signs head).lexemes = signs.map .sign ++ [.operand head] := by
  induction signs with
  | nil => rfl
  | cons s rest ih => rw [behind_cons, lexemes, ih, List.map_cons, List.cons_append]

/-! ### The place of an addition -/

variable {a : Addition} {t : Bracketing}

/-- An addition that is no tighter than the right edge takes all. -/
theorem insert_of_le_edge (h : ∀ n ∈ t.edge, a.level ≤ n) : t.insert a = a.onto t := by
  cases t with
  | operand e => rfl
  | suffixed t x => rfl
  | signed s t => exact if_pos (h _ (List.mem_cons_self ..))
  | infixed op left right => exact if_pos (h _ (List.mem_cons_self ..))

theorem lexemes_onto (a : Addition) (t : Bracketing) :
    (a.onto t).lexemes = t.lexemes ++ a.lexemes := by
  cases a with
  | suffix x => rfl
  | infixed op signs head => rw [Addition.onto, lexemes, lexemes_behind]; rfl

theorem joints_onto (a : Addition) (t : Bracketing) :
    (a.onto t).joints = t.joints ++ [a.level] := by
  cases a with
  | suffix x => rfl
  | infixed op signs head => rw [Addition.onto, joints, joints_behind]; rfl

/-- An addition comes behind the row, -/
theorem lexemes_insert (a : Addition) (t : Bracketing) :
    (t.insert a).lexemes = t.lexemes ++ a.lexemes := by
  induction t with
  | operand e => exact lexemes_onto a _
  | suffixed t x => exact lexemes_onto a _
  | signed s t ih =>
      rw [insert]
      split
      · exact lexemes_onto a _
      · rw [lexemes, ih, lexemes, List.cons_append]
  | infixed op left right ihl ihr =>
      rw [insert]
      split
      · exact lexemes_onto a _
      · rw [lexemes, ihr, lexemes, List.append_assoc, List.cons_append]

/-- ... and so does its joint. -/
theorem joints_insert (a : Addition) (t : Bracketing) :
    (t.insert a).joints = t.joints ++ [a.level] := by
  induction t with
  | operand e => exact joints_onto a _
  | suffixed t x => exact joints_onto a _
  | signed s t ih =>
      rw [insert]
      split
      · exact joints_onto a _
      · exact ih
  | infixed op left right ihl ihr =>
      rw [insert]
      split
      · exact joints_onto a _
      · rw [joints, ihr, joints, List.append_assoc, List.cons_append]

/-- An addition that takes all respects the ranks when it is no tighter than the right edge. -/
theorem Ranked.onto (h : t.Ranked) (hedge : ∀ n ∈ t.edge, a.level ≤ n) : (a.onto t).Ranked := by
  cases a with
  | suffix x => exact ⟨h, hedge⟩
  | infixed op signs head =>
      refine ⟨h, ranked_behind signs head, hedge, fun n hn => ?_⟩
      rw [joints_behind] at hn
      exact absurd hn List.not_mem_nil

/-- What binds more tightly than all joints and than an addition does so after it. -/
theorem lt_joints_insert {level : Nat} (h : ∀ n ∈ t.joints, level < n) (ha : level < a.level) :
    ∀ n ∈ (t.insert a).joints, level < n := by
  intro n hn
  rw [joints_insert, List.mem_append, List.mem_singleton] at hn
  rcases hn with hn | rfl
  · exact h n hn
  · exact ha

/-- **An addition respects the ranks.** -/
theorem Ranked.insert (h : t.Ranked) (a : Addition) : (t.insert a).Ranked := by
  induction t with
  | operand e => exact h.onto fun n hn => absurd hn List.not_mem_nil
  | suffixed t x => exact h.onto fun n hn => absurd hn List.not_mem_nil
  | signed s t ih =>
      rw [Bracketing.insert]
      split
      next hle => exact h.onto fun n hn => Nat.le_trans hle (h.le_edge_signed n hn)
      next hlt => exact ⟨ih h.1, lt_joints_insert h.2 (Nat.lt_of_not_le hlt)⟩
  | infixed op left right ihl ihr =>
      rw [Bracketing.insert]
      split
      next hle => exact h.onto fun n hn => Nat.le_trans hle (h.le_edge_infixed n hn)
      next hlt =>
          obtain ⟨hleft, hright, hedge, hjoints⟩ := h
          exact ⟨hleft, ihr hright, hedge, lt_joints_insert hjoints (Nat.lt_of_not_le hlt)⟩

/-! ### Many additions -/

theorem Ranked.insertAll (h : t.Ranked) (as : List Addition) : (t.insertAll as).Ranked :=
  List.foldlRecOn as _ h fun _ ht a _ => ht.insert a

theorem lexemes_insertAll (t : Bracketing) (as : List Addition) :
    (t.insertAll as).lexemes = t.lexemes ++ as.flatMap Addition.lexemes := by
  induction as generalizing t with
  | nil => exact (List.append_nil _).symm
  | cons a rest ih =>
      rw [insertAll_cons, ih, lexemes_insert, List.flatMap_cons,
        List.append_assoc]

/-- Additions that pass by what stands around a bracketing go inside it. -/
theorem insertAll_inside (around : Bracketing → Bracketing) {level : Nat}
    (haround : ∀ a t, level < a.level → (around t).insert a = around (t.insert a))
    {as : List Addition} (h : ∀ a ∈ as, level < a.level) (t : Bracketing) :
    (around t).insertAll as = around (t.insertAll as) := by
  induction as generalizing t with
  | nil => rfl
  | cons a rest ih =>
      rw [insertAll_cons, haround a t (h a (List.mem_cons_self ..))]
      exact ih (fun b hb => h b (List.mem_cons_of_mem _ hb)) (t.insert a)

/-- Tight additions go to the right side of a looser operator, -/
theorem insertAll_infixed {op : Operator} {left : Bracketing} {as : List Addition}
    (h : ∀ a ∈ as, op.level < a.level) (right : Bracketing) :
    (infixed op left right).insertAll as = infixed op left (right.insertAll as) :=
  insertAll_inside (infixed op left) (fun _ _ ha => if_neg (Nat.not_le_of_lt ha)) h right

/-- ... and behind a looser sign. -/
theorem insertAll_signed {s : Sign} {as : List Addition} (h : ∀ a ∈ as, Sign.level < a.level)
    (t : Bracketing) : (signed s t).insertAll as = signed s (t.insertAll as) :=
  insertAll_inside (signed s) (fun _ _ ha => if_neg (Nat.not_le_of_lt ha)) h t

/-! ### No other brackets -/

/-- The signs at the front, -/
def signs : Bracketing → List Sign
  | operand _ => []
  | signed s t => s :: t.signs
  | suffixed t _ | infixed _ t _ => t.signs

/-- the head behind them, -/
def head : Bracketing → Expr
  | operand e => e
  | signed _ t | suffixed t _ | infixed _ t _ => t.head

/-- and what the row adds to it. -/
def additions : Bracketing → List Addition
  | operand _ => []
  | signed _ t => t.additions
  | suffixed t x => t.additions ++ [.suffix x]
  | infixed op left right => left.additions ++ .infixed op right.signs right.head :: right.additions

theorem level_additions (t : Bracketing) : t.additions.map Addition.level = t.joints := by
  induction t with
  | operand e => rfl
  | signed s t ih => exact ih
  | suffixed t x ih => rw [additions, List.map_append, ih]; rfl
  | infixed op left right ihl ihr =>
      rw [additions, List.map_append, List.map_cons, ihl, ihr]
      rfl

theorem lt_level_of_mem_additions {level : Nat} (h : ∀ n ∈ t.joints, level < n) :
    ∀ a ∈ t.additions, level < a.level := fun _ ha =>
  h _ (level_additions t ▸ List.mem_map_of_mem ha)

theorem lexemes_eq (t : Bracketing) :
    t.lexemes = t.signs.map .sign ++ .operand t.head :: t.additions.flatMap Addition.lexemes := by
  induction t with
  | operand e => rfl
  | signed s t ih => rw [lexemes, ih]; rfl
  | suffixed t x ih =>
      rw [lexemes, ih, List.append_assoc, List.cons_append, additions, List.flatMap_append]
      rfl
  | infixed op left right ihl ihr =>
      rw [lexemes, ihl, ihr, List.append_assoc, List.cons_append, additions, List.flatMap_append,
        List.flatMap_cons, Addition.lexemes, List.cons_append, List.append_assoc]
      rfl

/-- **Brackets that respect the ranks are those that the additions find.** -/
theorem Ranked.insertAll_additions (h : t.Ranked) :
    (behind t.signs t.head).insertAll t.additions = t := by
  induction t with
  | operand e => rfl
  | signed s t ih =>
      rw [signs, behind_cons, additions, head,
        insertAll_signed (lt_level_of_mem_additions h.2), ih h.1]
  | suffixed t x ih =>
      rw [signs, head, additions, insertAll_append, ih h.1]
      exact insert_of_le_edge h.2
  | infixed op left right ihl ihr =>
      obtain ⟨hleft, hright, hedge, hjoints⟩ := h
      have htake : left.insert (.infixed op right.signs right.head)
          = infixed op left (behind right.signs right.head) :=
        insert_of_le_edge hedge
      rw [signs, head, additions, insertAll_append, ihl hleft, insertAll_cons, htake,
        insertAll_infixed (lt_level_of_mem_additions hjoints), ihr hright]

/-- A row tells its signs, its head and what follows. -/
theorem cut_lexemes {signs signs' : List Sign} {head head' : Expr} {rest rest' : List Lexeme}
    (h : signs.map Lexeme.sign ++ .operand head :: rest
      = signs'.map Lexeme.sign ++ .operand head' :: rest') :
    signs = signs' ∧ head = head' ∧ rest = rest' := by
  induction signs generalizing signs' with
  | nil =>
      cases signs' with
      | nil =>
          obtain ⟨hhead, hrest⟩ := List.cons.inj h
          exact ⟨rfl, Lexeme.operand.inj hhead, hrest⟩
      | cons s' more' => exact nomatch (List.cons.inj h).1
  | cons s more ih =>
      cases signs' with
      | nil => exact nomatch (List.cons.inj h).1
      | cons s' more' =>
          obtain ⟨hsign, hrest⟩ := List.cons.inj h
          obtain ⟨rfl, htail⟩ := ih hrest
          exact ⟨congrArg (· :: more) (Lexeme.sign.inj hsign), htail⟩

/-- A row tells what it adds. -/
theorem additions_injective {as bs : List Addition}
    (h : as.flatMap Addition.lexemes = bs.flatMap Addition.lexemes) : as = bs := by
  induction as generalizing bs with
  | nil =>
      match bs, h with
      | [], _ => rfl
      | .suffix x :: rest, h => exact nomatch h
      | .infixed op signs head :: rest, h => exact nomatch h
  | cons a rest ih =>
      match a, bs, h with
      | .suffix x, [], h => exact nomatch h
      | .infixed op signs head, [], h => exact nomatch h
      | .suffix x, .infixed op signs head :: more, h => exact nomatch (List.cons.inj h).1
      | .infixed op signs head, .suffix x :: more, h => exact nomatch (List.cons.inj h).1
      | .suffix x, .suffix y :: more, h =>
          obtain ⟨hx, hrest⟩ := List.cons.inj h
          rw [Lexeme.suffix.inj hx, ih hrest]
      | .infixed op signs head, .infixed op' signs' head' :: more, h =>
          simp only [List.flatMap_cons, Addition.lexemes, List.cons_append, List.append_assoc,
            List.nil_append, List.cons.injEq] at h
          obtain ⟨hop, hback⟩ := h
          obtain rfl := Lexeme.infixed.inj hop
          obtain ⟨rfl, rfl, hrest⟩ := cut_lexemes hback
          rw [ih hrest]

end Bracketing

/-! ### What the brackets build -/

/-- One more addition. -/
def Phrase.State.add (s : Phrase.State) : Addition → Phrase.State
  | .suffix x => s.suffix x
  | .infixed op signs head => s.infixed (op, ⟨signs, head, []⟩)

namespace Bracketing

variable {a : Addition} {t : Bracketing}

/-- **The operators on the right edge wait**, the innermost first. -/
def spine : Bracketing → List Pending → Phrase.State
  | signed s t, waiting => t.spine (.sign s :: waiting)
  | infixed op left right, waiting => right.spine (.infixed op left.build :: waiting)
  | operand e, waiting => ⟨waiting, e⟩
  | suffixed t x, waiting => ⟨waiting, x.build t.build⟩

theorem spine_behind (signs : List Sign) (head : Expr) (waiting : List Pending) :
    (behind signs head).spine waiting = ⟨(signs.map Pending.sign).reverse ++ waiting, head⟩ := by
  induction signs generalizing waiting with
  | nil => rfl
  | cons s rest ih =>
      rw [behind_cons, spine, ih, List.map_cons, List.reverse_cons, List.append_assoc,
        List.singleton_append]

/-- What is no tighter than the right edge closes all of it. -/
theorem closeDownTo_spine {level : Nat} (h : ∀ n ∈ t.edge, level ≤ n) (waiting : List Pending) :
    Phrase.closeDownTo level (t.spine waiting).waiting (t.spine waiting).current
      = Phrase.closeDownTo level waiting t.build := by
  induction t generalizing waiting with
  | operand e => rfl
  | suffixed t x => rfl
  | signed s t ih =>
      rw [spine, ih fun n hn => h n (List.mem_cons_of_mem _ hn)]
      exact if_pos (h _ (List.mem_cons_self ..))
  | infixed op left right ihl ihr =>
      rw [spine, ihr fun n hn => h n (List.mem_cons_of_mem _ hn)]
      exact if_pos (h _ (List.mem_cons_self ..))

/-- What is tighter than the innermost operator that waits closes nothing. -/
theorem closeDownTo_of_lt {level : Nat} {waiting : List Pending}
    (h : ∀ p ∈ waiting.head?, p.level < level) (e : Expr) :
    Phrase.closeDownTo level waiting e = ⟨waiting, e⟩ := by
  cases waiting with
  | nil => rfl
  | cons p ps => exact if_neg (Nat.not_le_of_lt (h p rfl))

section Simulation

variable {waiting : List Pending} (hwaiting : ∀ p ∈ waiting.head?, p.level < a.level)
include hwaiting

theorem add_spine_of_le_edge (h : ∀ n ∈ t.edge, a.level ≤ n) :
    (t.spine waiting).add a = (a.onto t).spine waiting := by
  have hclose := (closeDownTo_spine h waiting).trans (closeDownTo_of_lt hwaiting t.build)
  cases a with
  | suffix x =>
      change Phrase.closeDownTo x.level _ _ = _ at hclose
      rw [Phrase.State.add, Phrase.State.suffix, hclose]
      rfl
  | infixed op signs head =>
      change Phrase.closeDownTo op.level _ _ = _ at hclose
      rw [Phrase.State.add, Phrase.State.infixed, hclose, Addition.onto, spine, spine_behind]
      rfl

/-- **The operators that wait are those on the right edge**, one addition after the other. -/
theorem add_spine (h : t.Ranked) : (t.spine waiting).add a = (t.insert a).spine waiting := by
  induction t generalizing waiting with
  | operand e => exact add_spine_of_le_edge hwaiting fun n hn => absurd hn List.not_mem_nil
  | suffixed t x => exact add_spine_of_le_edge hwaiting fun n hn => absurd hn List.not_mem_nil
  | signed s t ih =>
      rw [insert]
      split
      next hle =>
          exact add_spine_of_le_edge hwaiting fun n hn => Nat.le_trans hle (h.le_edge_signed n hn)
      next hlt =>
          refine ih ?_ h.1
          rintro _ ⟨⟩
          exact Nat.lt_of_not_le hlt
  | infixed op left right ihl ihr =>
      rw [insert]
      split
      next hle =>
          exact add_spine_of_le_edge hwaiting fun n hn => Nat.le_trans hle (h.le_edge_infixed n hn)
      next hlt =>
          refine ihr ?_ h.2.1
          rintro _ ⟨⟩
          exact Nat.lt_of_not_le hlt

end Simulation

theorem foldl_add_spine (h : t.Ranked) (as : List Addition) :
    as.foldl Phrase.State.add (t.spine []) = (t.insertAll as).spine [] := by
  induction as generalizing t with
  | nil => rfl
  | cons a rest ih =>
      have hstep : (t.spine []).add a = (t.insert a).spine [] :=
        add_spine (fun p hp => absurd hp (Option.not_mem_none p)) h
      rw [List.foldl_cons, hstep, ih (h.insert a), insertAll_cons]

end Bracketing

/-! ### The brackets of a row -/

namespace Phrase

open Bracketing

theorem lexemes_additions (o : Operand) :
    o.additions.flatMap Addition.lexemes = o.suffixes.map Lexeme.suffix := by
  rw [Operand.additions, List.flatMap_map, List.map_eq_flatMap]
  rfl

theorem lexemes_eq (p : Phrase) :
    p.lexemes = p.first.signs.map .sign ++ .operand p.first.head ::
      p.additions.flatMap Addition.lexemes := by
  have hlink : ∀ link : Operator × Operand,
      (Addition.infixed link.1 link.2.signs link.2.head :: link.2.additions).flatMap
        Addition.lexemes = .infixed link.1 :: link.2.lexemes := by
    intro link
    rw [List.flatMap_cons, lexemes_additions, Addition.lexemes, Operand.lexemes, List.cons_append,
      List.append_assoc, List.singleton_append]
  rw [additions, List.flatMap_append, lexemes_additions, List.flatMap_assoc, lexemes,
    Operand.lexemes, List.append_assoc, List.cons_append]
  simp only [hlink]

/-- **The brackets of a row respect the ranks**, -/
theorem ranked_bracketing (p : Phrase) : p.bracketing.Ranked :=
  (ranked_behind _ _).insertAll p.additions

/-- and without them it is the row again. -/
theorem lexemes_bracketing (p : Phrase) : p.bracketing.lexemes = p.lexemes := by
  rw [bracketing, lexemes_insertAll, lexemes_behind, lexemes_eq, List.append_assoc,
    List.singleton_append]

theorem foldl_suffix_eq_add (s : State) (o : Operand) :
    o.suffixes.foldl State.suffix s = o.additions.foldl State.add s := by
  rw [Operand.additions, List.foldl_map]
  rfl

theorem foldl_infixed_eq_add (s : State) (links : List (Operator × Operand)) :
    links.foldl State.infixed s
      = (links.flatMap fun (op, o) =>
          Addition.infixed op o.signs o.head :: o.additions).foldl State.add s := by
  induction links generalizing s with
  | nil => rfl
  | cons link rest ih =>
      have hlink : s.infixed link
          = link.2.additions.foldl State.add (s.add (.infixed link.1 link.2.signs link.2.head)) :=
        foldl_suffix_eq_add _ link.2
      rw [List.foldl_cons, hlink, ih, List.flatMap_cons, List.foldl_append, List.foldl_cons]

/-- **The tree of a row is what its brackets build.** -/
theorem build_bracketing (p : Phrase) : p.bracketing.build = p.tree := by
  have hstart : (behind p.first.signs p.first.head).spine []
      = ⟨(p.first.signs.map Pending.sign).reverse ++ [], p.first.head⟩ := spine_behind _ _ _
  have hend : p.rest.foldl State.infixed (operand [] p.first) = p.bracketing.spine [] := by
    rw [foldl_infixed_eq_add, operand, foldl_suffix_eq_add, ← List.foldl_append, ← hstart,
      foldl_add_spine (ranked_behind _ _)]
    rfl
  rw [tree, hend, closeDownTo_spine fun n _ => Nat.zero_le n]
  rfl

end Phrase

/-- **No other brackets respect the ranks.** -/
theorem Bracketing.Ranked.eq_bracketing {t : Bracketing} (h : t.Ranked) {p : Phrase}
    (hrow : t.lexemes = p.lexemes) : t = p.bracketing := by
  rw [t.lexemes_eq, p.lexemes_eq] at hrow
  obtain ⟨hsigns, hhead, hrest⟩ := cut_lexemes hrow
  calc t = (behind t.signs t.head).insertAll t.additions := h.insertAll_additions.symm
    _ = p.bracketing := by
      rw [hsigns, hhead, additions_injective hrest]
      rfl

end EventQuery
