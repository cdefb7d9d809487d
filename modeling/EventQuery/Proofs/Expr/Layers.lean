/-
**The layered grammar.**

Precedence is documented as a grammar in layers: `or`, `and`, equality and text search together with
the tests of a range and of a list, relations, sums, products, signs, and last member access and
indexing.  Each layer has its operators, which group to the left, and passes on to the next tighter
one.

A row is not read by this grammar but flat.  Whenever the grammar derives a row, it derives the tree
of the row and nothing else.  There are rows that it does not derive: those in which something
tighter comes directly behind a test, such as `a in (1) + 2`.  There the tree goes on from the test.

Main definitions:

* `Layer`, `Operator.layer`, `Suffix.layer` — the layers, and what belongs to them;
* `Derives` — **the grammar**;
* `Lexeme.MayPrecede` — no suffix comes directly before anything tighter.

Main results:

* `Derives.lexemes_eq`, `Derives.ranked`, `Derives.isChain` — what a derivation says about its row
  and its brackets;
* `Bracketing.Ranked.derives` — brackets that respect the ranks are derived when no suffix comes
  directly before anything tighter;
* `Phrase.tree_of_layers` — **the tree of a row is that of the grammar**;
* `Phrase.not_derives_test_before_sum` — a row that the grammar does not derive.
-/

import EventQuery.Grammar.Expression
import EventQuery.Proofs.Expr.Bracketing
import Mathlib

set_option relaxedAutoImplicit false
set_option autoImplicit false

namespace EventQuery

/-! ### The grammar -/

/-- The layers, the loosest first. -/
inductive Layer where
  | either
  | both
  | equality
  | relation
  | sum
  | product
  | sign
  | member
  deriving DecidableEq, Repr

namespace Layer

/-- The layer that is tighter by one. -/
def next : Layer → Layer
  | either => both
  | both => equality
  | equality => relation
  | relation => sum
  | sum => product
  | product => sign
  | sign | member => member

end Layer

/-- The layer of a binary operator. -/
def Operator.layer : Operator → Layer
  | .logic .either => .either
  | .logic .both => .both
  | .equality .. | .search .. | .pattern => .equality
  | .relation _ => .relation
  | .arithmetic .add | .arithmetic .sub => .sum
  | .arithmetic .mul | .arithmetic .div | .arithmetic .mod => .product

/-- The layer of a suffix. -/
def Suffix.layer : Suffix → Layer
  | .path _ | .index _ => .member
  | .between .. | .among .. => .equality

/-- **The grammar**: what a layer derives, and with which brackets. -/
inductive Derives : Layer → List Lexeme → Bracketing → Prop
  | operand (e : Expr) : Derives .member [.operand e] (.operand e)
  | signed (s : Sign) {row : List Lexeme} {t : Bracketing} (h : Derives .sign row t) :
      Derives .sign (.sign s :: row) (.signed s t)
  | suffixed (x : Suffix) {row : List Lexeme} {t : Bracketing} (h : Derives x.layer row t) :
      Derives x.layer (row ++ [.suffix x]) (.suffixed t x)
  | infixed (op : Operator) {row row' : List Lexeme} {left right : Bracketing}
      (hleft : Derives op.layer row left) (hright : Derives op.layer.next row' right) :
      Derives op.layer (row ++ .infixed op :: row') (.infixed op left right)
  | pass {layer : Layer} {row : List Lexeme} {t : Bracketing} (h : Derives layer.next row t) :
      Derives layer row t

/-! ### Layers and levels -/

namespace Layer

/-- How tightly the operators of a layer bind. -/
def level : Layer → Nat
  | either => 10
  | both => 20
  | equality => 30
  | relation => 40
  | sum => 50
  | product => 60
  | sign => Sign.level
  | member => 80

theorem level_le_next (layer : Layer) : layer.level ≤ layer.next.level := by
  cases layer <;> decide

theorem next_level_le_iff {outer inner : Layer} (h : outer ≠ .member) :
    outer.next.level ≤ inner.level ↔ outer.level < inner.level := by
  cases outer <;> cases inner <;> first | decide | exact absurd rfl h

theorem level_le_member (layer : Layer) : layer.level ≤ Layer.member.level := by
  cases layer <;> decide

theorem level_injective {layer layer' : Layer} (h : layer.level = layer'.level) :
    layer = layer' := by
  cases layer <;> cases layer' <;> first | rfl | exact absurd h (by decide)

end Layer

theorem Operator.level_layer (op : Operator) : op.layer.level = op.level := by
  have hall : ∀ op ∈ Operator.all, op.layer.level = op.level := by decide
  exact hall op (Operator.mem_all op)

theorem Suffix.level_layer (x : Suffix) : x.layer.level = x.level := by
  cases x <;> rfl

theorem Operator.layer_ne_member (op : Operator) : op.layer ≠ .member := by
  have hall : ∀ op ∈ Operator.all, op.layer ≠ .member := by decide
  exact hall op (Operator.mem_all op)

/-- **A layer derives what tighter layers derive.** -/
theorem Derives.loosen {outer inner : Layer} {row : List Lexeme} {t : Bracketing}
    (h : Derives inner row t) (hle : outer.level ≤ inner.level) : Derives outer row t := by
  by_cases hsame : outer.level = inner.level
  · exact Layer.level_injective hsame ▸ h
  · have hlt : outer.level < inner.level := Nat.lt_of_le_of_ne hle hsame
    have hne : outer ≠ .member := by
      rintro rfl
      exact absurd hlt (Nat.not_lt_of_le inner.level_le_member)
    have hnext := (Layer.next_level_le_iff hne).2 hlt
    -- the next layer is strictly tighter, and there is a tightest one
    have hprogress : outer.level < outer.next.level :=
      (Layer.next_level_le_iff hne).1 (Nat.le_refl _)
    have hbound := inner.level_le_member
    exact .pass (h.loosen hnext)
  termination_by 80 - outer.level
  decreasing_by
    have hlast : Layer.member.level = 80 := rfl
    omega

/-! ### What a derivation says -/

/-- How tightly a piece of a row joins what stands to its left. -/
def Lexeme.joint? : Lexeme → Option Nat
  | sign _ | operand _ => none
  | suffix x => some x.level
  | infixed op => some op.level

/-- **No suffix comes directly before anything tighter.** -/
def Lexeme.MayPrecede : Lexeme → Lexeme → Prop
  | suffix x, b => ∀ n ∈ b.joint?, n ≤ x.level
  | sign _, _ | operand _, _ | infixed _, _ => True

namespace Bracketing

/-- Nothing joins as tightly as a sign binds. -/
theorem ne_of_mem_joints {t : Bracketing} {n : Nat} (h : n ∈ t.joints) : n ≠ Sign.level := by
  induction t with
  | operand e => exact absurd h List.not_mem_nil
  | signed s t ih => exact ih h
  | suffixed t x ih =>
      rcases List.mem_append.1 h with h | h
      · exact ih h
      · rw [List.mem_singleton.1 h]
        cases x <;> exact Nat.ne_of_beq_eq_false rfl
  | infixed op left right ihl ihr =>
      rcases List.mem_append.1 h with h | h
      · exact ihl h
      · rcases List.mem_cons.1 h with rfl | h
        · exact Nat.ne_of_lt op.level_lt_sign
        · exact ihr h

/-- The suffixes of a row are among its joints. -/
theorem level_mem_joints {t : Bracketing} {x : Suffix} (h : .suffix x ∈ t.lexemes) :
    x.level ∈ t.joints := by
  induction t with
  | operand e => exact nomatch List.mem_singleton.1 h
  | signed s t ih =>
      rcases List.mem_cons.1 h with h | h
      · exact nomatch h
      · exact ih h
  | suffixed t y ih =>
      rcases List.mem_append.1 h with h | h
      · exact List.mem_append_left _ (ih h)
      · rw [Lexeme.suffix.inj (List.mem_singleton.1 h)]
        exact List.mem_append_right _ (List.mem_singleton_self _)
  | infixed op left right ihl ihr =>
      rcases List.mem_append.1 h with h | h
      · exact List.mem_append_left _ (ihl h)
      · rcases List.mem_cons.1 h with h | h
        · exact nomatch h
        · exact List.mem_append_right _ (List.mem_cons_of_mem _ (ihr h))

/-- Behind tight joints, whatever is no tighter may follow. -/
theorem mayPrecede_of_le_joints {t : Bracketing} {level : Nat} (h : ∀ n ∈ t.joints, level ≤ n)
    {b : Lexeme} (hb : ∀ n ∈ b.joint?, n ≤ level) :
    ∀ a ∈ t.lexemes.getLast?, a.MayPrecede b := by
  intro a ha
  cases a with
  | suffix x =>
      have hx := h _ (level_mem_joints (List.mem_of_mem_getLast? ha))
      exact fun n hn => Nat.le_trans (hb n hn) hx
  | sign s => trivial
  | operand e => trivial
  | infixed op => trivial

end Bracketing

namespace Derives

variable {layer : Layer} {row : List Lexeme} {t : Bracketing}

/-- A derivation is one of the row, -/
theorem lexemes_eq (h : Derives layer row t) : t.lexemes = row := by
  induction h with
  | operand e => rfl
  | signed s _ ih => rw [Bracketing.lexemes, ih]
  | suffixed x _ ih => rw [Bracketing.lexemes, ih]
  | infixed op _ _ ihl ihr => rw [Bracketing.lexemes, ihl, ihr]
  | pass _ ih => exact ih

/-- whose joints are not looser than the layer, -/
theorem le_joints (h : Derives layer row t) : ∀ n ∈ t.joints, layer.level ≤ n := by
  induction h with
  | operand e => exact fun n hn => absurd hn List.not_mem_nil
  | signed s _ ih => exact ih
  | suffixed x _ ih =>
      intro n hn
      rcases List.mem_append.1 hn with hn | hn
      · exact ih n hn
      · exact Nat.le_of_eq (x.level_layer.trans (List.mem_singleton.1 hn).symm)
  | infixed op _ _ ihl ihr =>
      intro n hn
      rcases List.mem_append.1 hn with hn | hn
      · exact ihl n hn
      · rcases List.mem_cons.1 hn with rfl | hn
        · exact Nat.le_of_eq op.level_layer
        · exact Nat.le_trans op.layer.level_le_next (ihr n hn)
  | pass _ ih => exact fun n hn => Nat.le_trans (Layer.level_le_next _) (ih n hn)

/-- and neither is what reaches to its end. -/
theorem le_edge (h : Derives layer row t) : ∀ n ∈ t.edge, layer.level ≤ n := by
  induction h with
  | operand e => exact fun n hn => absurd hn List.not_mem_nil
  | signed s _ ih =>
      intro n hn
      rcases List.mem_cons.1 hn with rfl | hn
      · exact Nat.le_refl _
      · exact ih n hn
  | suffixed x _ ih => exact fun n hn => absurd hn List.not_mem_nil
  | infixed op _ _ ihl ihr =>
      intro n hn
      rcases List.mem_cons.1 hn with rfl | hn
      · exact Nat.le_of_eq op.level_layer
      · exact Nat.le_trans op.layer.level_le_next (ihr n hn)
  | pass _ ih => exact fun n hn => Nat.le_trans (Layer.level_le_next _) (ih n hn)

/-- **Its brackets respect the ranks**, -/
theorem ranked (h : Derives layer row t) : t.Ranked := by
  induction h with
  | operand e => trivial
  | signed s h ih =>
      refine ⟨ih, fun n hn => ?_⟩
      exact Nat.lt_of_le_of_ne (h.le_joints n hn) (Bracketing.ne_of_mem_joints hn).symm
  | suffixed x h ih => exact ⟨ih, fun n hn => x.level_layer ▸ h.le_edge n hn⟩
  | infixed op hleft hright ihl ihr =>
      refine ⟨ihl, ihr, fun n hn => op.level_layer ▸ hleft.le_edge n hn, fun n hn => ?_⟩
      have hnext : op.layer.level < op.layer.next.level :=
        (Layer.next_level_le_iff op.layer_ne_member).1 (Nat.le_refl _)
      rw [op.level_layer] at hnext
      exact Nat.lt_of_lt_of_le hnext (hright.le_joints n hn)
  | pass _ ih => exact ih

/-- **and no suffix of it comes directly before anything tighter.** -/
theorem isChain (h : Derives layer row t) : row.IsChain Lexeme.MayPrecede := by
  induction h with
  | operand e => exact List.isChain_singleton _
  | signed s _ ih => exact List.isChain_cons.2 ⟨fun _ _ => trivial, ih⟩
  | suffixed x h ih =>
      refine List.isChain_append.2 ⟨ih, List.isChain_singleton _, ?_⟩
      rintro a ha _ ⟨⟩
      refine Bracketing.mayPrecede_of_le_joints h.le_joints ?_ a (h.lexemes_eq ▸ ha)
      rintro _ ⟨⟩
      rw [x.level_layer]
  | infixed op hleft _ ihl ihr =>
      refine List.isChain_append.2 ⟨ihl, List.isChain_cons.2 ⟨fun _ _ => trivial, ihr⟩, ?_⟩
      rintro a ha _ ⟨⟩
      refine Bracketing.mayPrecede_of_le_joints hleft.le_joints ?_ a (hleft.lexemes_eq ▸ ha)
      rintro _ ⟨⟩
      rw [op.level_layer]
  | pass _ ih => exact ih

end Derives

/-! ### What has a derivation -/

namespace Bracketing

variable {t : Bracketing}

/-- The layer of what is applied last. -/
def layer : Bracketing → Layer
  | operand _ => .member
  | signed .. => .sign
  | suffixed _ x => x.layer
  | infixed op .. => op.layer

/-- What is applied last is as tight as what reaches to the end or ends the row, -/
theorem le_layer_of_edge {outer : Layer} (hedge : ∀ n ∈ t.edge, outer.level ≤ n)
    (hlast : ∀ x, .suffix x ∈ t.lexemes.getLast? → outer.level ≤ x.level) :
    outer.level ≤ t.layer.level := by
  cases t with
  | operand e => exact outer.level_le_member
  | signed s t => exact hedge _ (List.mem_cons_self ..)
  | suffixed t x =>
      rw [layer, x.level_layer]
      exact hlast x (by rw [lexemes, List.getLast?_concat]; rfl)
  | infixed op left right =>
      rw [layer, op.level_layer]
      exact hedge _ (List.mem_cons_self ..)

/-- ... and as tight as all joints and the signs. -/
theorem le_layer_of_joints {level : Nat} (hsign : level ≤ Sign.level)
    (hjoints : ∀ n ∈ t.joints, level ≤ n) : level ≤ t.layer.level := by
  cases t with
  | operand e => exact Nat.le_trans hsign (Layer.level_le_member .sign)
  | signed s t => exact hsign
  | suffixed t x =>
      rw [layer, x.level_layer]
      exact hjoints _ (List.mem_append_right _ (List.mem_singleton_self _))
  | infixed op left right =>
      rw [layer, op.level_layer]
      exact hjoints _ (List.mem_append_right _ (List.mem_cons_self ..))

/-- **Brackets that respect the ranks are derived** when no suffix comes directly before anything
tighter. -/
theorem Ranked.derives (h : t.Ranked) (hrow : t.lexemes.IsChain Lexeme.MayPrecede) :
    Derives t.layer t.lexemes t := by
  induction t with
  | operand e => exact .operand e
  | signed s t ih =>
      have hle : Layer.sign.level ≤ t.layer.level :=
        le_layer_of_joints (Nat.le_refl _) fun n hn => Nat.le_of_lt (h.2 n hn)
      exact .signed s ((ih h.1 (List.isChain_cons.1 hrow).2).loosen hle)
  | suffixed t x ih =>
      obtain ⟨hrow, -, hseam⟩ := List.isChain_append.1 hrow
      have hle : x.layer.level ≤ t.layer.level := by
        rw [x.level_layer]
        refine x.level_layer ▸ le_layer_of_edge (fun n hn => ?_) fun y hy => ?_
        · exact x.level_layer ▸ h.2 n hn
        · exact x.level_layer ▸ hseam _ hy _ rfl _ rfl
      exact .suffixed x ((ih h.1 hrow).loosen hle)
  | infixed op left right ihl ihr =>
      obtain ⟨hleft, hright, hedge, hjoints⟩ := h
      obtain ⟨hrow, hrow', hseam⟩ := List.isChain_append.1 hrow
      have hle : op.layer.level ≤ left.layer.level := by
        refine le_layer_of_edge (fun n hn => ?_) fun y hy => ?_
        · exact op.level_layer ▸ hedge n hn
        · exact op.level_layer ▸ hseam _ hy _ rfl _ rfl
      have hlt : op.layer.next.level ≤ right.layer.level := by
        refine (Layer.next_level_le_iff op.layer_ne_member).2 ?_
        rw [op.level_layer]
        exact le_layer_of_joints op.level_lt_sign hjoints
      exact .infixed op ((ihl hleft hrow).loosen hle)
        ((ihr hright (List.isChain_cons.1 hrow').2).loosen hlt)

end Bracketing

/-! ### The tree of a row -/

/-- **The tree of a row is that of the grammar.**  A row has one bracketing that respects the ranks,
and its tree is what that builds.  The grammar derives the row with these brackets and no others; it
derives the row if and only if no suffix comes directly before anything tighter. -/
theorem Phrase.tree_of_layers (p : Phrase) : ∃ t : Bracketing, t.build = p.tree ∧
    (∀ t' : Bracketing, t'.Ranked ∧ t'.lexemes = p.lexemes ↔ t' = t) ∧
    ∀ t' : Bracketing, Derives .either p.lexemes t' ↔
      t' = t ∧ p.lexemes.IsChain Lexeme.MayPrecede := by
  refine ⟨p.bracketing, p.build_bracketing, fun t' => ⟨fun h => h.1.eq_bracketing h.2, ?_⟩,
    fun t' => ⟨fun h => ?_, ?_⟩⟩
  · rintro rfl
    exact ⟨p.ranked_bracketing, p.lexemes_bracketing⟩
  · exact ⟨h.ranked.eq_bracketing h.lexemes_eq, h.isChain⟩
  · rintro ⟨rfl, hrow⟩
    have hderives := p.ranked_bracketing.derives (p.lexemes_bracketing ▸ hrow)
    rw [p.lexemes_bracketing] at hderives
    refine hderives.loosen ?_
    cases p.bracketing.layer <;> decide

/-- **There are rows that the grammar does not derive**: `a in (1) + 2` is read, as the sum of the
test and `2`, but in the grammar a test cannot be the left side of a sum. -/
theorem Phrase.not_derives_test_before_sum :
    let p : Phrase := ⟨⟨[], .property "a", [.among false false [.const (.int 1)]]⟩,
      [(.arithmetic .add, ⟨[], .const (.int 2), []⟩)]⟩
    Expr.read "a in (1) + 2" = .ok p.tree ∧
      p.tree = .binary (.arithmetic .add)
        (.among false false (.property "a") [.const (.int 1)]) (.const (.int 2)) ∧
      ¬ ∃ t, Derives .either p.lexemes t := by
  intro p
  refine ⟨by cbv, rfl, ?_⟩
  rintro ⟨t, h⟩
  have hrow := (List.isChain_cons_cons.1 (List.isChain_cons_cons.1 h.isChain).2).1
  exact absurd (hrow 50 rfl) (by decide)

end EventQuery
