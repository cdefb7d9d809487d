/-
**The row that the text of an expression is.**

The text of an expression puts every binary operation in parentheses, so seen from outside it is one
operand: a negation is a sign, member access and indexing are suffixes behind it, and everything
else is a head without suffixes.  A suffix binds more tightly than a sign, so what stands behind a
negation is read as a part of what is negated: the text of an expression can mean another one.

Main definitions:

* `Expr.WellFormed` — **the expressions that are read at all**;
* `Expr.reread` — **the expression that the text of an expression means**;
* `Expr.row` — the operand that the text of an expression is, in front of more suffixes;
* `Expr.Printable` — the expressions of the core language, which mean themselves;
* `Expr.bareChars` — the text of an expression without its outer parentheses.

Main results:

* `Expr.row_eq`, `Expr.map_alone_row` — the operand has suffixes that bind tightly, and alone it is
  the expression that the text means;
* `Operand.Tight.tree_alone`, `Operand.Tight.tree_binary`, `Operand.Tight.tree_suffix` — the trees
  of the rows that texts are;
* `Expr.WellFormed.solid`, `Expr.WellFormed.passes` — texts of expressions may stand behind blanks
  and inside parentheses.
-/

import EventQuery.Proofs.Except
import EventQuery.Proofs.Grammar.Constant

set_option relaxedAutoImplicit false
set_option autoImplicit false

namespace EventQuery

namespace Draft

variable {α β : Type}

/-! ### What drafts come to -/

/-- An error stays an error, whatever it names. -/
theorem mapError_eq_ok_iff {d : Draft α} {f : QueryError → QueryError} {a : α} :
    d.mapError f = .ok a ↔ d = .ok a := by
  cases d with
  | error _ => constructor <;> rintro ⟨⟩
  | ok _ => exact Iff.rfl

/-- What a whole text comes to is what was taken, if anything was. -/
theorem settle_eq_ok_iff {fault : String → QueryError} {cs : List Char}
    {o : Outcome (Draft α)} {a : α} :
    Grammar.settle fault cs o = .ok a ↔ ∃ rest, o.result = some (.ok a, rest) := by
  unfold Grammar.settle
  constructor
  · intro h
    split at h
    · next draft rest hresult => exact ⟨rest, by rw [hresult, h]⟩
    · cases h
  · rintro ⟨rest, hresult⟩
    rw [hresult]

/-! ### Drafts one after the other -/

theorem all_nil : ([] : List (Draft α)).mapM id = .ok [] := rfl

theorem all_cons (d : Draft α) (ds : List (Draft α)) :
    (d :: ds).mapM id = d.bind fun a => (ds.mapM id).map (a :: ·) := by
  rw [List.mapM_cons]
  cases d <;> cases ds.mapM id <;> rfl

theorem all_ok (as : List α) : (as.map Except.ok : List (Draft α)).mapM id = .ok as := by
  induction as with
  | nil => rfl
  | cons a as ih =>
      rw [List.map_cons, all_cons, ih]
      rfl

end Draft

/-! ### Trees -/

namespace Operand

/-- The expression of an operand whose suffixes bind more tightly than its signs. -/
def alone (o : Operand) : Expr :=
  o.signs.foldr Sign.build (o.suffixes.foldl (fun e x => x.build e) o.head)

/-- The operand with more suffixes. -/
def extend (o : Operand) (xs : List Suffix) : Operand := { o with suffixes := o.suffixes ++ xs }

/-- **All suffixes are member access or indexing.** -/
def Tight (o : Operand) : Prop := ∀ x ∈ o.suffixes, x.level = 80

/-- Nothing binds as tightly as member access. -/
theorem closeDownTo_member (waiting : List Pending) (e : Expr) :
    Phrase.closeDownTo 80 waiting e = ⟨waiting, e⟩ := by
  cases waiting with
  | nil => rfl
  | cons p waiting =>
      have hlevel : p.level ≤ 69 := by
        cases p with
        | sign _ => exact Nat.le_refl 69
        | infixed op _ => exact Nat.le_of_lt op.level_lt_sign
      rw [Phrase.closeDownTo, if_neg (by omega)]

theorem foldl_suffix {xs : List Suffix} (h : ∀ x ∈ xs, x.level = 80) (waiting : List Pending)
    (e : Expr) : xs.foldl Phrase.State.suffix ⟨waiting, e⟩
      = ⟨waiting, xs.foldl (fun b x => x.build b) e⟩ := by
  induction xs generalizing e with
  | nil => rfl
  | cons x xs ih =>
      have hstep : Phrase.State.suffix ⟨waiting, e⟩ x = ⟨waiting, x.build e⟩ := by
        rw [Phrase.State.suffix, h x (List.mem_cons_self ..), closeDownTo_member]
      rw [List.foldl_cons, List.foldl_cons, hstep,
        ih (fun y hy => h y (List.mem_cons_of_mem x hy))]

/-- Signs are closed by whatever binds less tightly. -/
theorem closeDownTo_signs {level : Nat} (hlevel : level ≤ 69) (signs : List Sign)
    (waiting : List Pending) (e : Expr) :
    Phrase.closeDownTo level ((signs.map Pending.sign).reverse ++ waiting) e
      = Phrase.closeDownTo level waiting (signs.foldr Sign.build e) := by
  induction signs generalizing waiting with
  | nil => rfl
  | cons s signs ih =>
      rw [List.map_cons, List.reverse_cons, List.append_assoc, List.singleton_append, ih]
      exact if_pos hlevel

section Tree

variable {o : Operand} (h : o.Tight)
include h

/-- Whatever binds less tightly than a sign sees the whole operand. -/
theorem Tight.closeDownTo_operand {level : Nat} (hlevel : level ≤ 69) (waiting : List Pending) :
    Phrase.closeDownTo level (Phrase.operand waiting o).waiting (Phrase.operand waiting o).current
      = Phrase.closeDownTo level waiting o.alone := by
  rw [Phrase.operand, foldl_suffix h]
  exact closeDownTo_signs hlevel _ _ _

theorem Tight.tree_alone : Phrase.tree ⟨o, []⟩ = o.alone :=
  congrArg Phrase.State.current (h.closeDownTo_operand (Nat.zero_le 69) [])

theorem Tight.tree_binary {right : Operand} (hright : right.Tight) (op : Operator) :
    Phrase.tree ⟨o, [(op, right)]⟩ = .binary op o.alone right.alone := by
  have hfirst := h.closeDownTo_operand (Nat.le_of_lt op.level_lt_sign) []
  have hclose := hright.closeDownTo_operand (Nat.zero_le 69) [.infixed op o.alone]
  have hstate : Phrase.State.infixed (Phrase.operand [] o) (op, right)
      = Phrase.operand [.infixed op o.alone] right := by
    rw [Phrase.State.infixed, hfirst]
    rfl
  rw [Phrase.tree, List.foldl_cons, List.foldl_nil, hstate, hclose]
  rfl

/-- A range or list test takes the whole operand in front of it. -/
theorem Tight.tree_suffix {x : Suffix} (hx : x.level = 30) :
    Phrase.tree ⟨o.extend [x], []⟩ = x.build o.alone := by
  have hclose := h.closeDownTo_operand (show 30 ≤ 69 by decide) []
  have hstate : Phrase.operand [] (o.extend [x])
      = Phrase.State.suffix (Phrase.operand [] o) x := by
    rw [Phrase.operand, extend, List.foldl_append]
    rfl
  rw [Phrase.tree, List.foldl_nil, hstate, Phrase.State.suffix, hx, hclose]
  rfl

end Tree

end Operand

/-- **A suffix behind a text**: behind a negation it belongs to what is negated. -/
def Suffix.behind (x : Suffix) : Expr → Expr
  | .not e => .not (x.build e)
  | e => x.build e

namespace Expr

open Reader

/-! ### Expressions that are read -/

/-- A negation. -/
def isNot : Expr → Bool
  | .not _ => true
  | _ => false

/-- A text constant. -/
def isText : Expr → Bool
  | .const (.string _) => true
  | _ => false

/-- The words that begin a constant when a parenthesis stands behind them. -/
def constantWords : List String := "dynamic" :: Grammar.typedWords.map Prod.fst

/-- **The expressions that are read at all.**  A call has a name that begins neither a negation nor
a constant, an index that is a text constant is member access, and a list test has candidates. -/
inductive WellFormed : Expr → Prop where
  | const (v : Value) : WellFormed (.const v)
  | property (name : String) : WellFormed (.property name)
  | path {base : Expr} (selector : String) : WellFormed base → WellFormed (.path base selector)
  | index {base i : Expr} : WellFormed base → WellFormed i → i.isText = false →
      WellFormed (.index base i)
  | call {name : String} {args : List Expr} : Token.IsName name →
      name ∉ ["not", "true", "false"] → (∀ e ∈ args, WellFormed e) → WellFormed (.call name args)
  | not {e : Expr} : WellFormed e → WellFormed (.not e)
  | binary (op : Operator) {left right : Expr} : WellFormed left → WellFormed right →
      WellFormed (.binary op left right)
  | between (negated : Bool) {e low high : Expr} : WellFormed e → WellFormed low →
      WellFormed high → WellFormed (.between negated e low high)
  | among (negated ignoreCase : Bool) {e : Expr} {candidates : List Expr} : WellFormed e →
      candidates ≠ [] → (∀ c ∈ candidates, WellFormed c) →
      WellFormed (.among negated ignoreCase e candidates)

/-- **The expressions whose text is read back.**  A suffix behind a negation would belong to what is
negated, and an index that is a text constant is member access. -/
inductive Printable : Expr → Prop where
  | const {v : Value} : v.Printable → Printable (.const v)
  | property (name : String) : Printable (.property name)
  | path {base : Expr} (selector : String) : Printable base → base.isNot = false →
      Printable (.path base selector)
  | index {base i : Expr} : Printable base → base.isNot = false → Printable i → i.isText = false →
      Printable (.index base i)
  | call {name : String} {args : List Expr} : isPlainName name = true → name ∉ constantWords →
      (∀ e ∈ args, Printable e) → Printable (.call name args)
  | not {e : Expr} : Printable e → Printable (.not e)
  | binary (op : Operator) {left right : Expr} : Printable left → Printable right →
      Printable (.binary op left right)
  | between (negated : Bool) {e low high : Expr} : Printable e → Printable low → Printable high →
      Printable (.between negated e low high)
  | among (negated ignoreCase : Bool) {e : Expr} {candidates : List Expr} : Printable e →
      candidates ≠ [] → (∀ c ∈ candidates, Printable c) →
      Printable (.among negated ignoreCase e candidates)

theorem Printable.wellFormed {e : Expr} (h : Printable e) : WellFormed e := by
  induction h with
  | const _ => exact .const _
  | property name => exact .property name
  | path selector _ _ ih => exact .path selector ih
  | index _ _ _ htext ih ihi => exact .index ih ihi htext
  | @call name args hname _ _ ih =>
      obtain ⟨hname, hreserved⟩ := Token.isName_of_isPlainName hname
      have hwords : ∀ w ∈ ["not", "true", "false"], w ∈ reserved := by decide
      exact .call hname (fun h => hreserved (hwords name h)) ih
  | not _ ih => exact .not ih
  | binary op _ _ ihl ihr => exact .binary op ihl ihr
  | between negated _ _ _ ih ihl ihh => exact .between negated ih ihl ihh
  | among negated ignoreCase _ hne _ ih ihc => exact .among negated ignoreCase ih hne ihc

/-! ### Suffixes -/

/-- Member access as a suffix; a name that is not plain is written as an index. -/
def member (selector : String) : Suffix :=
  if isPlainName selector then .path selector else .index (.const (.string selector))

/-- The text of member access and of an index. -/
def suffixChars : Suffix → List Char
  | .path selector => '.' :: selector.toList
  | .index i => '[' :: chars i ++ [']']
  | .between .. | .among .. => []

theorem chars_path (base : Expr) (selector : String) :
    chars (.path base selector) = chars base ++ suffixChars (member selector) := by
  rw [chars, member]
  split
  · rfl
  · rw [suffixChars, chars, literalChars, List.append_assoc, List.cons_append]

theorem chars_index (base i : Expr) :
    chars (.index base i) = chars base ++ suffixChars (.index i) := by
  rw [chars, suffixChars, List.append_assoc, List.cons_append]

theorem member_build (selector : String) (e : Expr) :
    (member selector).build e = .path e selector := by
  unfold member
  split <;> rfl

theorem index_build {i : Expr} (h : i.isText = false) (e : Expr) :
    (Suffix.index i).build e = .index e i := by
  unfold Suffix.build
  split
  · next he => cases he
  · next he =>
      cases he
      cases h
  · next he =>
      cases he
      rfl
  · next he => cases he
  · next he => cases he

theorem member_level (selector : String) : (member selector).level = 80 := by
  unfold member
  split <;> rfl

/-! ### What texts mean -/

mutual

/-- **The expression that the text of an expression means.**  A word of constants in front of a
parenthesis begins a constant, or a conversion, whatever it was a call of. -/
def reread : Expr → Draft Expr
  | .const v => Grammar.literalDraft Grammar.expr v
  | .property name => .ok (.property name)
  | .path base selector => (reread base).map (member selector).behind
  | .index base i => do
      let base ← reread base
      let i ← reread i
      return (Suffix.index i).behind base
  | .call name args =>
      if name = "dynamic" then Grammar.dynamicLiteral (listChars args)
      else if name ∈ Grammar.typedWords.map Prod.fst then
        Grammar.typedLiteral Grammar.expr name (listChars args)
      else (rereadAll args).map (.call name)
  | .not e => (reread e).map .not
  | .binary op left right => do
      let left ← reread left
      let right ← reread right
      return .binary op left right
  | .between negated e low high => do
      let e ← reread e
      let low ← reread low
      let high ← reread high
      return .between negated e low high
  | .among negated ignoreCase e candidates => do
      let e ← reread e
      let candidates ← rereadAll candidates
      return .among negated ignoreCase e candidates

/-- Expression by expression. -/
def rereadAll : List Expr → Draft (List Expr)
  | [] => .ok []
  | e :: rest => do
      let e ← reread e
      let rest ← rereadAll rest
      return e :: rest

end

theorem rereadAll_eq_mapM (es : List Expr) : rereadAll es = (es.map reread).mapM id := by
  induction es with
  | nil => rfl
  | cons e es ih =>
      rw [rereadAll, ih, List.map_cons, List.mapM_cons]
      rfl

theorem rereadAll_ok {es : List Expr} (h : ∀ e ∈ es, reread e = .ok e) : rereadAll es = .ok es := by
  induction es with
  | nil => rfl
  | cons e es ih =>
      rw [rereadAll, h e (List.mem_cons_self ..), ih fun f hf => h f (List.mem_cons_of_mem e hf)]
      rfl

theorem behind_of_isNot {e : Expr} (h : e.isNot = false) (x : Suffix) : x.behind e = x.build e := by
  cases e <;> first | rfl | cases h

/-- **Expressions of the core language mean themselves.** -/
theorem Printable.reread {e : Expr} (h : Printable e) : e.reread = .ok e := by
  induction h with
  | const hv => exact Grammar.literalDraft_of_printable _ hv
  | property name => rfl
  | path selector _ hnot ih =>
      rw [Expr.reread, ih, Except.map, behind_of_isNot hnot, member_build]
  | @index base i _ hnot _ htext ih ihi =>
      rw [Expr.reread, ih, ihi, ← index_build htext base, ← behind_of_isNot hnot]
      rfl
  | @call name args _ hword _ ih =>
      rw [Expr.reread, if_neg (List.ne_of_not_mem_cons hword),
        if_neg (List.not_mem_of_not_mem_cons hword), rereadAll_ok ih]
      rfl
  | not _ ih =>
      rw [Expr.reread, ih]
      rfl
  | binary op _ _ ihl ihr =>
      rw [Expr.reread, ihl, ihr]
      rfl
  | between negated _ _ _ ih ihl ihh =>
      rw [Expr.reread, ih, ihl, ihh]
      rfl
  | among negated ignoreCase _ _ _ ih ihc =>
      rw [Expr.reread, ih, rereadAll_ok ihc]
      rfl

/-! ### Rows -/

/-- Signs, a head and suffixes. -/
def parts (signs : List Sign) (head : Draft Expr) (xs : List (Draft Suffix)) : Draft Operand :=
  head.bind fun head => (xs.mapM id).map fun xs => ⟨signs, head, xs⟩

/-- **The operand that the text of an expression is**, in front of more suffixes. -/
def row : Expr → List (Draft Suffix) → Draft Operand
  | .path base selector, more => row base (.ok (member selector) :: more)
  | .index base i, more => row base ((reread i).map Suffix.index :: more)
  | .not e, more => parts [.not] (reread e) more
  | e, more => parts [] (reread e) more

theorem parts_eq (signs : List Sign) (head : Draft Expr) (more : List (Draft Suffix)) :
    parts signs head more = (parts signs head []).bind fun o => (more.mapM id).map o.extend := by
  cases head with
  | error _ => rfl
  | ok e =>
      cases h : more.mapM id <;>
        simp only [parts, h, Draft.all_nil, Except.bind, Except.map, Operand.extend, List.nil_append]

/-- More suffixes come behind the suffixes of the expression. -/
theorem row_eq (e : Expr) (more : List (Draft Suffix)) :
    row e more = (row e []).bind fun o => (more.mapM id).map o.extend := by
  have hchain {base : Expr} {d : Draft Suffix}
      (ih : ∀ more, row base more = (row base []).bind fun o => (more.mapM id).map o.extend) :
      row base (d :: more)
        = (row base [d]).bind fun o => (more.mapM id).map o.extend := by
    rw [ih (d :: more), ih [d]]
    cases row base [] with
    | error _ => rfl
    | ok o =>
        cases d with
        | error _ => rfl
        | ok x =>
            cases h : more.mapM id <;>
              simp only [h, Draft.all_nil, Draft.all_cons, Except.bind, Except.map,
                Operand.extend, List.append_assoc, List.cons_append, List.nil_append]
  match e with
  | .path base _ => exact hchain (row_eq base)
  | .index base _ => exact hchain (row_eq base)
  | .not _ => exact parts_eq _ _ more
  | .const _ => exact parts_eq _ _ more
  | .property _ => exact parts_eq _ _ more
  | .call .. => exact parts_eq _ _ more
  | .binary .. => exact parts_eq _ _ more
  | .between .. => exact parts_eq _ _ more
  | .among .. => exact parts_eq _ _ more

theorem build_isNot (x : Suffix) (e : Expr) : (x.build e).isNot = false := by
  unfold Suffix.build
  split <;> rfl

/-- **The shape of a row**: either a negation is its one sign, or it has none and is no negation. -/
structure Row (o : Operand) : Prop where
  tight : o.Tight
  sign : o.signs = [.not] ∨ o.signs = [] ∧ o.alone.isNot = false

theorem Row.extend {o : Operand} (h : Row o) {x : Suffix} (hx : x.level = 80) :
    Row (o.extend [x]) ∧ (o.extend [x]).alone = x.behind o.alone := by
  have htight : (o.extend [x]).Tight := by
    intro y hy
    rcases List.mem_append.1 hy with hy | hy
    · exact h.tight y hy
    · rw [List.mem_singleton.1 hy]
      exact hx
  have hfold : (o.extend [x]).alone
      = o.signs.foldr Sign.build (x.build (o.suffixes.foldl (fun e x => x.build e) o.head)) := by
    rw [Operand.alone, Operand.extend, List.foldl_append]
    rfl
  rcases h.sign with hsign | ⟨hsign, hnot⟩
  · refine ⟨⟨htight, .inl hsign⟩, ?_⟩
    rw [hfold, Operand.alone, hsign]
    rfl
  · have halone : o.alone = o.suffixes.foldl (fun e x => x.build e) o.head := by
      rw [Operand.alone, hsign]
      rfl
    have hbuild : (o.extend [x]).alone = x.build o.alone := by
      rw [hfold, hsign, halone]
      rfl
    refine ⟨⟨htight, .inr ⟨hsign, ?_⟩⟩, ?_⟩
    · rw [hbuild]
      exact build_isNot x _
    · rw [hbuild, behind_of_isNot hnot]

theorem isNot_of_isConst {e : Expr} (h : e.isConst = true) : e.isNot = false := by
  cases e <;> first | rfl | cases h

/-- A head without signs and suffixes makes a row. -/
theorem row_of_head {e : Expr} (hrow : row e [] = parts [] (reread e) [])
    (hnot : ∀ {f}, reread e = .ok f → f.isNot = false) :
    (row e []).map Operand.alone = reread e ∧ ∀ {o}, row e [] = .ok o → Row o := by
  rw [hrow]
  cases h : reread e with
  | error _ => exact ⟨rfl, fun ho => by cases ho⟩
  | ok f =>
      refine ⟨rfl, fun ho => ?_⟩
      cases ho
      exact ⟨fun _ hx => absurd hx List.not_mem_nil, .inr ⟨rfl, hnot h⟩⟩

/-- One suffix more. -/
theorem row_of_base {base : Expr} {d : Draft Suffix} (hd : ∀ {x}, d = .ok x → x.level = 80)
    (ih : (row base []).map Operand.alone = reread base ∧ ∀ {o}, row base [] = .ok o → Row o) :
    (row base [d]).map Operand.alone = ((reread base).bind fun b => d.map fun x => x.behind b) ∧
      ∀ {o}, row base [d] = .ok o → Row o := by
  rw [row_eq, ← ih.1]
  cases hbase : row base [] with
  | error _ => exact ⟨rfl, fun ho => by cases ho⟩
  | ok o =>
      cases d with
      | error _ => exact ⟨rfl, fun ho => by cases ho⟩
      | ok x =>
          obtain ⟨hextend, halone⟩ := (ih.2 hbase).extend (hd rfl)
          have hrow : ((Except.ok o : Draft Operand).bind fun o =>
              (List.mapM id [(Except.ok x : Draft Suffix)]).map o.extend) = .ok (o.extend [x]) := rfl
          rw [hrow]
          refine ⟨congrArg Except.ok halone, fun ho => ?_⟩
          cases ho
          exact hextend

/-- **The operand that the text of an expression is means the expression that the text means.** -/
theorem row_spec : ∀ e : Expr, (row e []).map Operand.alone = reread e ∧
    ∀ {o}, row e [] = .ok o → Row o
  | .path base selector => by
      have hd : ∀ {x}, (Except.ok (member selector) : Draft Suffix) = .ok x → x.level = 80 := by
        rintro x ⟨⟩
        exact member_level selector
      obtain ⟨hmap, hrow⟩ := row_of_base hd (row_spec base)
      refine ⟨hmap.trans ?_, hrow⟩
      rw [reread]
      cases reread base <;> rfl
  | .index base i => by
      have hd : ∀ {x}, (reread i).map Suffix.index = .ok x → x.level = 80 := by
        intro x hx
        obtain ⟨i, -, rfl⟩ := Except.map_eq_ok_iff.1 hx
        rfl
      obtain ⟨hmap, hrow⟩ := row_of_base hd (row_spec base)
      refine ⟨hmap.trans ?_, hrow⟩
      rw [reread]
      cases reread base <;> cases reread i <;> rfl
  | .not e => by
      rw [reread, row, parts]
      cases reread e with
      | error _ => exact ⟨rfl, fun ho => by cases ho⟩
      | ok f =>
          refine ⟨rfl, fun ho => ?_⟩
          cases ho
          exact ⟨fun _ hx => absurd hx List.not_mem_nil, .inl rfl⟩
  | .const v => by
      refine row_of_head rfl fun {f} h => ?_
      rcases Grammar.literalDraft_eq_ok _ h with hconst | ⟨word, g, rfl⟩
      · exact isNot_of_isConst hconst
      · rfl
  | .property name => by
      refine row_of_head rfl fun {f} h => ?_
      cases h
      rfl
  | .call name args => by
      refine row_of_head rfl fun {f} h => ?_
      rw [reread] at h
      split at h
      · exact isNot_of_isConst (Grammar.dynamicLiteral_eq_ok h)
      · split at h
        · rcases Grammar.typedLiteral_eq_ok _ h with hconst | ⟨g, -, rfl, -⟩
          · exact isNot_of_isConst hconst
          · rfl
        · obtain ⟨args, -, rfl⟩ := Except.map_eq_ok_iff.1 h
          rfl
  | .binary op left right => by
      refine row_of_head rfl fun {f} h => ?_
      rw [reread] at h
      obtain ⟨l, -, h⟩ := Except.bind_eq_ok_iff.1 h
      obtain ⟨r, -, h⟩ := Except.bind_eq_ok_iff.1 h
      cases h
      rfl
  | .between negated e low high => by
      refine row_of_head rfl fun {f} h => ?_
      rw [reread] at h
      obtain ⟨f, -, h⟩ := Except.bind_eq_ok_iff.1 h
      obtain ⟨l, -, h⟩ := Except.bind_eq_ok_iff.1 h
      obtain ⟨r, -, h⟩ := Except.bind_eq_ok_iff.1 h
      cases h
      rfl
  | .among negated ignoreCase e candidates => by
      refine row_of_head rfl fun {f} h => ?_
      rw [reread] at h
      obtain ⟨f, -, h⟩ := Except.bind_eq_ok_iff.1 h
      obtain ⟨cs, -, h⟩ := Except.bind_eq_ok_iff.1 h
      cases h
      rfl

/-! ### The text of an expression -/

/-- The text of an expression without its outer parentheses. -/
def bareChars : Expr → List Char
  | .binary op left right => chars left ++ ' ' :: op.token.toList ++ ' ' :: chars right
  | .between negated e low high =>
      chars e ++ ' ' :: (betweenWord negated).toList ++ " (".toList ++ chars low
        ++ " .. ".toList ++ chars high ++ [')']
  | .among negated ignoreCase e candidates =>
      chars e ++ ' ' :: (amongWord negated ignoreCase).toList ++ " (".toList
        ++ listChars candidates ++ [')']
  | e => chars e

theorem listChars_eq_commaJoined (es : List Expr) : listChars es = commaJoined (es.map chars) := by
  induction es with
  | nil => rfl
  | cons e es ih =>
      cases es with
      | nil =>
          rw [listChars, List.map_singleton, commaJoined_cons, List.flatMap_nil, List.append_nil]
      | cons f es =>
          have hmore : listChars (e :: f :: es)
              = chars e ++ ',' :: ' ' :: listChars (f :: es) := rfl
          rw [hmore, ih]
          simp only [List.map_cons, commaJoined_cons, List.flatMap_cons, List.cons_append]

/-! ### First characters -/

theorem solid_name {name : String} (h : Token.IsName name) : Solid name.toList := by
  obtain ⟨c, cs, hchars, hstart, -⟩ := h
  obtain ⟨hspace, hslash, -⟩ := Token.of_isNameStart hstart
  rw [hchars]
  exact solid_cons hspace hslash cs

theorem solid_nameChars (name : String) : Solid (nameChars name) := by
  rw [nameChars]
  split
  · next h => exact solid_name (Token.isName_of_isPlainName h).1
  · exact solid_cons (by decide) (by decide) _

/-- A character that begins a constant. -/
def beginsConstant (c : Char) : Bool := !isSpace c && c != '/' && c != '(' && c != 'n'

theorem beginsConstant_digit {c : Char} (h : Digits.isDigit c = true) : beginsConstant c = true :=
  Digits.of_isDigit (fun c => beginsConstant c = true) (by decide) h

/-- A minus that begins a constant is that of a number. -/
theorem writeInt_begins (n : Int) : ∃ c cs, Digits.writeInt n = c :: cs ∧ beginsConstant c = true ∧
    (c = '-' → ∃ d ds, cs = d :: ds ∧ Digits.isDigit d = true) := by
  obtain ⟨c, cs, hchars, hc⟩ := Digits.write_cons n.natAbs
  rw [Digits.writeInt]
  by_cases hn : n < 0
  · exact ⟨'-', c :: cs, by rw [if_pos hn, hchars], by decide, fun _ => ⟨c, cs, rfl, hc⟩⟩
  · refine ⟨c, cs, by rw [if_neg hn, hchars], beginsConstant_digit hc, ?_⟩
    rintro rfl
    exact absurd hc (by decide)

theorem wrapped_begins {word : String} (h : word ∈ constantWords) (t : List Char) :
    ∃ c cs, wrapped word t = c :: cs ∧ beginsConstant c = true ∧ c ≠ '-' := by
  have hall : ∀ w ∈ constantWords,
      w.toList.head?.any (fun c => beginsConstant c && c != '-') = true := by decide
  have hhead := hall word h
  cases hchars : word.toList with
  | nil =>
      rw [hchars] at hhead
      cases hhead
  | cons c cs =>
      rw [hchars, List.head?_cons, Option.any_some, Bool.and_eq_true, bne_iff_ne] at hhead
      exact ⟨c, cs ++ '(' :: t ++ [')'], by rw [wrapped, hchars]; rfl, hhead⟩

/-- No constant begins with a blank or a parenthesis, or as a sign does. -/
theorem literalChars_begins (v : Value) :
    ∃ c cs, literalChars v = c :: cs ∧ beginsConstant c = true ∧
      (c = '-' → ∃ d ds, cs = d :: ds ∧ Digits.isDigit d = true) := by
  have hword {word : String} (h : word ∈ constantWords) (t : List Char) :
      ∃ c cs, wrapped word t = c :: cs ∧ beginsConstant c = true ∧
        (c = '-' → ∃ d ds, cs = d :: ds ∧ Digits.isDigit d = true) := by
    obtain ⟨c, cs, hchars, hc, hminus⟩ := wrapped_begins h t
    exact ⟨c, cs, hchars, hc, fun h => absurd h hminus⟩
  cases v with
  | null => exact hword (by decide) _
  | bool b => cases b <;> exact ⟨_, _, rfl, by decide, fun h => absurd h (by decide)⟩
  | int n => exact writeInt_begins n.toInt
  | long n =>
      rw [literalChars]
      split
      · exact hword (by decide) _
      · exact writeInt_begins n.toInt
  | real x =>
      rw [literalChars]
      split
      · next hfinite =>
          obtain ⟨sign, whole, tail, htext, hsign, hne, hwhole, -⟩ := Token.write_literal hfinite
          obtain ⟨c, cs, rfl⟩ := List.exists_cons_of_ne_nil hne
          have hc : Digits.isDigit c = true := List.all_eq_true.1 hwhole c (List.mem_cons_self ..)
          rw [htext]
          rcases hsign with rfl | rfl
          · refine ⟨c, cs ++ tail, rfl, beginsConstant_digit hc, ?_⟩
            rintro rfl
            exact absurd hc (by decide)
          · exact ⟨'-', c :: cs ++ tail, rfl, by decide, fun _ => ⟨c, cs ++ tail, rfl, hc⟩⟩
      · exact hword (by decide) _
  | decimal d => exact hword (by decide) _
  | datetime t => exact hword (by decide) _
  | timespan d =>
      rw [literalChars]
      split
      · exact hword (by decide) _
      · next hnonneg =>
          obtain ⟨n, name, htext, -⟩ := Token.literalChars_timespan hnonneg
          obtain ⟨c, cs, hchars, hc⟩ := Digits.write_cons n
          refine ⟨c, cs ++ name.toList, by rw [htext, hchars, List.cons_append],
            beginsConstant_digit hc, ?_⟩
          rintro rfl
          exact absurd hc (by decide)
  | guid g => exact hword (by decide) _
  | string s => exact ⟨_, _, rfl, by decide, fun h => absurd h (by decide)⟩
  | record fields => exact hword (by decide) _
  | list items => exact hword (by decide) _

theorem solid_literalChars (v : Value) : Solid (literalChars v) := by
  obtain ⟨c, cs, hchars, hc, -⟩ := literalChars_begins v
  simp only [beginsConstant, Bool.and_eq_true, Bool.not_eq_true', bne_iff_ne] at hc
  rw [hchars]
  exact solid_cons hc.1.1.1 hc.1.1.2 cs

/-- No expression begins with a blank. -/
theorem WellFormed.solid {e : Expr} (h : WellFormed e) : Solid e.chars := by
  induction h with
  | const v => exact solid_literalChars v
  | property name => exact solid_nameChars name
  | path selector _ ih =>
      rw [chars_path]
      exact ih.append _
  | index _ _ _ ih _ =>
      rw [chars_index]
      exact ih.append _
  | call hname _ _ _ =>
      rw [chars, List.append_assoc]
      exact (solid_name hname).append _
  | not => exact solid_cons (by decide) (by decide) _
  | binary => exact solid_cons (by decide) (by decide) _
  | between => exact solid_cons (by decide) (by decide) _
  | among => exact solid_cons (by decide) (by decide) _

theorem solid_listChars {es : List Expr} (hne : es ≠ []) (hes : ∀ e ∈ es, WellFormed e) :
    Solid (listChars es) := by
  rw [listChars_eq_commaJoined]
  exact solid_commaJoined hne fun e he => (hes e he).solid

theorem WellFormed.solid_bare {e : Expr} (h : WellFormed e) : Solid e.bareChars := by
  have hsolid := h.solid
  cases h with
  | binary op hleft _ =>
      rw [bareChars, List.append_assoc]
      exact hleft.solid.append _
  | between negated he _ _ =>
      simp only [bareChars, List.append_assoc]
      exact he.solid.append _
  | among negated ignoreCase he _ _ =>
      simp only [bareChars, List.append_assoc]
      exact he.solid.append _
  | const => exact hsolid
  | property => exact hsolid
  | path => exact hsolid
  | index => exact hsolid
  | call => exact hsolid
  | not => exact hsolid

/-! ### Inside parentheses -/

open Token in
theorem passes_wrapped {word : String} (h : word ∈ constantWords) {t : List Char}
    (ht : Passes t) : Passes (wrapped word t) := by
  have hall : ∀ w ∈ constantWords, w.toList.all isFlat = true := by decide
  rw [wrapped, List.append_assoc]
  exact (passes_all (hall word h)).append ht.enclosed

theorem passes_quoteChars (s : String) : Token.Passes (quoteChars s) := by
  refine Token.passes_of_scanQuoted ?_ fun rest => ⟨_, Token.scanQuoted_quoteChars s rest⟩
  rw [quoteChars, List.cons_append, List.length_cons]
  omega

theorem passes_bracketName (s : String) : Token.Passes ('[' :: quoteChars s ++ [']']) :=
  .cons (by decide) ((passes_quoteChars s).append (Token.passes_flat (by decide)))

theorem passes_nameChars (name : String) : Token.Passes (nameChars name) := by
  rw [nameChars]
  split
  · next h => exact (Token.bare_name (Token.isName_of_isPlainName h).1).passes
  · exact passes_bracketName name

/-- Constants may stand in parentheses. -/
theorem passes_literalChars (v : Value) : Token.Passes (literalChars v) := by
  cases v with
  | null => exact passes_wrapped (by decide) (Token.passes_all (by decide))
  | bool b => cases b <;> exact Token.passes_all (by decide)
  | int n => exact (Token.bare_writeInt _).passes
  | long n =>
      rw [literalChars]
      split
      · exact passes_wrapped (by decide) (Token.bare_writeInt _).passes
      · exact (Token.bare_writeInt _).passes
  | real x =>
      rw [literalChars]
      split
      · exact (Token.bare_layout _ x).passes
      · exact passes_wrapped (by decide) (Token.bare_layout _ x).passes
  | decimal d => exact passes_wrapped (by decide) (Token.bare_decimal d).passes
  | datetime t => exact passes_wrapped (by decide) (Token.bare_isoChars t).passes
  | timespan d =>
      rw [literalChars]
      split
      · exact passes_wrapped (by decide) (Token.bare_clockChars d).passes
      · exact (Token.bare_timespan d).passes
  | guid g => exact passes_wrapped (by decide) (Token.bare_guid g).passes
  | string s => exact passes_quoteChars s
  | record fields =>
      rw [literalChars, Value.chars, Value.text]
      exact passes_wrapped (by decide) (Token.passes_compact _)
  | list items =>
      rw [literalChars, Value.chars, Value.text]
      exact passes_wrapped (by decide) (Token.passes_compact _)

theorem passes_listChars {es : List Expr} (h : ∀ e ∈ es, Token.Passes e.chars) :
    Token.Passes (listChars es) := by
  induction es with
  | nil => exact Token.passes_nil
  | cons e es ih =>
      have he := h e (List.mem_cons_self ..)
      have hmore := ih fun f hf => h f (List.mem_cons_of_mem e hf)
      cases es with
      | nil => exact he
      | cons f es => exact he.append (.cons (by decide) (.cons (by decide) hmore))

theorem passes_member (selector : String) :
    Token.Passes (suffixChars (member selector)) := by
  rw [member]
  split
  · next h => exact .cons (by decide) (Token.bare_name (Token.isName_of_isPlainName h).1).passes
  · exact passes_bracketName selector

/-- **Expressions may stand in parentheses.** -/
theorem WellFormed.passes {e : Expr} (h : WellFormed e) : Token.Passes e.chars := by
  induction h with
  | const v => exact passes_literalChars v
  | property name => exact passes_nameChars name
  | path selector _ ih =>
      rw [chars_path]
      exact ih.append (passes_member selector)
  | index _ _ _ ih ihi =>
      rw [chars_index]
      exact ih.append (.cons (by decide) (ihi.append (Token.passes_flat (by decide))))
  | call hname _ _ ih =>
      rw [chars, List.append_assoc]
      exact (Token.bare_name hname).passes.append (passes_listChars ih).enclosed
  | @not e _ ih =>
      have htext : chars (.not e) = "not".toList ++ '(' :: (chars e ++ [')']) := by simp [chars]
      rw [htext]
      exact (Token.passes_all (by decide)).append ih.enclosed
  | @binary op left right _ _ ihl ihr =>
      have hall : ∀ op ∈ Operator.all, op.token.toList.all Token.isFlat = true := by decide
      have htoken := Token.passes_all (hall op (Operator.mem_all op))
      have htext : chars (.binary op left right) = '(' :: (chars left
          ++ (' ' :: (op.token.toList ++ ' ' :: chars right)) ++ [')']) := by
        simp [chars]
      rw [htext]
      exact (ihl.append (.cons (by decide) (htoken.append (.cons (by decide) ihr)))).enclosed
  | @between negated e low high _ _ _ ih ihl ihh =>
      have hword : Token.Passes (' ' :: (betweenWord negated).toList ++ [' ']) := by
        cases negated <;> exact Token.passes_all (by decide)
      have hpoints : Token.Passes " .. ".toList := Token.passes_all (by decide)
      have htext : chars (.between negated e low high) = '(' :: (chars e
          ++ (' ' :: (betweenWord negated).toList ++ [' ']
            ++ '(' :: (chars low ++ (" .. ".toList ++ chars high) ++ [')'])) ++ [')']) := by
        simp [chars]
      rw [htext]
      exact (ih.append (hword.append (ihl.append (hpoints.append ihh)).enclosed)).enclosed
  | @among negated ignoreCase e candidates _ _ _ ih ihc =>
      have hword : Token.Passes (' ' :: (amongWord negated ignoreCase).toList ++ [' ']) := by
        cases negated <;> cases ignoreCase <;> exact Token.passes_all (by decide)
      have htext : chars (.among negated ignoreCase e candidates) = '(' :: (chars e
          ++ (' ' :: (amongWord negated ignoreCase).toList ++ [' ']
            ++ '(' :: (listChars candidates ++ [')'])) ++ [')']) := by
        simp [chars]
      rw [htext]
      exact (ih.append (hword.append (passes_listChars ihc).enclosed)).enclosed

end Expr

end EventQuery
