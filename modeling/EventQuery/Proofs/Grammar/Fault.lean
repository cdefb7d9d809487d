/-
**Every error names the whole text.**

A text can be wrong in two ways.  It is not well formed, and then the furthest mark says where; or
it is, and something in it has no meaning: a constant, a column without a name, a division of time.
Such a cause names neither a text nor a file, however deep it lies, for every way of combining
drafts passes on the cause of one of its parts.  A constant in parentheses whose body is read once
more is no exception: what is wrong with the body is not told, the constant itself is the cause.  So
the error of a whole text, which is where a text is named, names that text, and there is one
diagnostic.

Main definitions:

* `QueryError.IsCause` — an error about a part of a text;
* `Draft.Caused` — a draft that is in error for such a cause;
* `Grammar.Diagnosis` — what is wrong with a whole text.

Main results:

* `Grammar.yields_caused_expr`, `Grammar.yields_caused_query` — **what is wrong inside a text is a
  cause**;
* `Query.read_eq_error_iff` — **the errors of expressions and queries**.
-/

import EventQuery.Grammar.Query
import EventQuery.Proofs.Grammar.Shape

set_option relaxedAutoImplicit false
set_option autoImplicit false

namespace EventQuery

/-- **An error about a part of a text**: it names no query and no file, and is about no
definition. -/
def QueryError.IsCause : QueryError → Prop
  | .malformed _ | .literal _ | .timespan _ => True
  | .query .. | .definition _ | .file _ => False

/-- A cause is told as the one diagnostic of the query. -/
theorem QueryError.IsCause.forQuery {e : QueryError} (h : e.IsCause) (s : String) :
    e.forQuery s = .query s [e.message] := by
  cases e <;> first | rfl | cases h

namespace Reader

variable {α : Type} {P : α → Prop} {p : Reader α} (h : Yields P p)
include h

/-! ### Lists of values -/

theorem yields_many : Yields (fun as => ∀ a ∈ as, P a) (many p) := by
  intro cs rest as htakes
  rcases takes_many_cases htakes with ⟨-, rfl, -⟩ | ⟨a, mid, more, ha, hmore, rfl⟩
  · exact List.forall_mem_nil _
  · exact List.forall_mem_cons.2 ⟨h ha, yields_manyAfterBlank h.blank _ hmore⟩

theorem yields_commaSeparated_all : Yields (fun as => ∀ a ∈ as, P a) (commaSeparated p) :=
  yields_bind h fun _ ha => yields_behind fun _ =>
    yields_bind (yields_many (yields_behind fun _ => yields_behind fun _ => h)) fun _ has =>
      yields_pure (List.forall_mem_cons.2 ⟨ha, has⟩)

end Reader

namespace Draft

variable {α β : Type}

/-- **When the draft is in error**, the error is about a part of the text. -/
def Caused (d : Draft α) : Prop := ∀ ⦃e⦄, d = .error e → e.IsCause

theorem caused_ok (a : α) : Caused (.ok a : Draft α) := by
  rintro e ⟨⟩

theorem caused_error {e : QueryError} (h : e.IsCause) : Caused (.error e : Draft α) := by
  rintro e ⟨⟩
  exact h

theorem Caused.bind {d : Draft α} {f : α → Draft β} (h : Caused d) (hf : ∀ a, Caused (f a)) :
    Caused (d >>= f) := by
  cases d with
  | error e => exact caused_error (h rfl)
  | ok a => exact hf a

theorem Caused.map {d : Draft α} (h : Caused d) (f : α → β) : Caused (d.map f) := by
  cases d with
  | error e => exact caused_error (h rfl)
  | ok a => exact caused_ok (f a)

theorem caused_mapM {γ : Type} {f : γ → Draft α} {xs : List γ} (h : ∀ x ∈ xs, Caused (f x)) :
    Caused (xs.mapM f) := by
  induction xs with
  | nil => exact caused_ok []
  | cons x xs ih =>
      rw [List.mapM_cons]
      exact (h x (List.mem_cons_self ..)).bind fun a =>
        (ih fun y hy => h y (List.mem_cons_of_mem x hy)).bind fun as => caused_ok (a :: as)

end Draft

namespace Grammar

open Reader Draft

/-! ### Constants -/

/-- What is wrong with the body of a constant is not told. -/
theorem caused_typedLiteral (inner : Reader (Draft Expr)) (word : String) (body : List Char) :
    Caused (typedLiteral inner word body) := by
  simp only [typedLiteral]
  split
  · exact caused_ok _
  · split
    · exact caused_ok _
    · split
      · split
        · exact caused_error trivial
        · exact caused_ok _
      · exact caused_error trivial

theorem caused_dynamicLiteral (body : List Char) : Caused (dynamicLiteral body) := by
  unfold dynamicLiteral
  split
  · exact caused_ok _
  · exact caused_error trivial

theorem caused_spanLiteral (cs : List Char) : Caused (spanLiteral cs) := by
  unfold spanLiteral
  split
  · exact caused_ok _
  · exact caused_error trivial

theorem caused_realLiteral (cs : List Char) : Caused (realLiteral cs) := by
  unfold realLiteral
  split
  · exact caused_ok _
  · exact caused_error trivial

theorem caused_integerLiteral (cs : List Char) : Caused (integerLiteral cs) := by
  unfold integerLiteral
  split
  · exact caused_ok _
  · split
    · exact caused_ok _
    · exact caused_error trivial

/-! ### Expressions -/

/-- A draft made from what a reader takes, in a way that fails for a cause only. -/
theorem yields_caused_map {α β : Type} {p : Reader α} {f : α → Draft β} (hf : ∀ a, Caused (f a)) :
    Yields Caused (p >>= fun a => pure (f a)) :=
  yields_behind fun a => yields_pure (hf a)

theorem yields_caused_literal (inner : Reader (Draft Expr)) : Yields Caused (literal inner) := by
  have hdynamic : Yields Caused dynamic :=
    yields_rule (yields_behind fun _ => yields_behind fun _ => yields_behind fun body =>
      yields_behind fun _ => yields_pure (caused_dynamicLiteral body))
  have htyped : Yields Caused (typed inner) :=
    yields_rule (yields_behind fun word => yields_behind fun _ => yields_behind fun body =>
      yields_behind fun _ => yields_pure (caused_typedLiteral inner word body))
  refine yields_firstOf ?_
  simp only [List.forall_mem_cons, List.not_mem_nil, false_implies, implies_true, and_true]
  exact ⟨hdynamic, htyped, yields_caused_map fun _ => caused_ok _,
    yields_caused_map fun _ => caused_ok _, yields_caused_map fun _ => caused_ok _,
    yields_caused_map caused_spanLiteral, yields_caused_map caused_realLiteral,
    yields_caused_map caused_integerLiteral⟩

section Level

variable {inner : Reader (Draft Expr)} (h : Yields Caused inner)
include h

theorem yields_caused_call : Yields Caused (call inner) := by
  refine yields_rule (yields_behind fun name => yields_behind fun _ => yields_behind fun _ =>
    yields_behind fun _ => yields_bind (yields_optional (yields_commaSeparated_all h))
      fun args hargs => yields_behind fun _ => yields_behind fun _ => yields_pure ?_)
  refine (caused_mapM fun d hd => ?_).bind fun es => caused_ok (name, es)
  cases args with
  | none => exact absurd hd List.not_mem_nil
  | some ds => exact hargs ds rfl d hd

theorem yields_caused_primary : Yields Caused (primary inner) := by
  have hparenthesized : Yields Caused (parenthesized inner) :=
    yields_behind fun _ => yields_behind fun _ => yields_bind h fun _ hd =>
      yields_behind fun _ => yields_behind fun _ => yields_pure hd
  refine yields_firstOf ?_
  simp only [List.forall_mem_cons, List.not_mem_nil, false_implies, implies_true, and_true]
  exact ⟨hparenthesized, yields_caused_literal inner,
    yields_bind (yields_caused_call h) fun _ hc => yields_pure (hc.map _),
    yields_caused_map fun _ => caused_ok _⟩

theorem yields_caused_suffix : Yields Caused (suffix inner) := by
  have hpath : Yields Caused pathSuffix :=
    yields_rule (yields_behind fun _ => yields_behind fun _ =>
      yields_caused_map fun _ => caused_ok _)
  have hindex : Yields Caused (indexSuffix inner) :=
    yields_rule (yields_behind fun _ => yields_behind fun _ => yields_bind h fun _ hd =>
      yields_behind fun _ => yields_behind fun _ => yields_pure (hd.map _))
  have hbetween (negated : Bool) : Yields Caused (betweenSuffix inner negated) :=
    yields_rule (yields_behind fun _ => yields_behind fun _ => yields_behind fun _ =>
      yields_behind fun _ => yields_bind h fun _ hlow => yields_behind fun _ =>
        yields_behind fun _ => yields_behind fun _ => yields_bind h fun _ hhigh =>
          yields_behind fun _ => yields_behind fun _ =>
            yields_pure (hlow.bind fun _ => hhigh.map _))
  have hamong (negated ignoreCase : Bool) :
      Yields Caused (amongSuffix inner negated ignoreCase) :=
    yields_rule (yields_behind fun _ => yields_behind fun _ => yields_behind fun _ =>
      yields_behind fun _ => yields_bind (yields_commaSeparated_all h) fun _ hds =>
        yields_behind fun _ => yields_behind fun _ => yields_pure ((caused_mapM hds).map _))
  exact yields_suffix_of hpath hindex hbetween hamong

theorem yields_caused_operand : Yields Caused (operand inner) :=
  yields_behind fun _ => yields_behind fun _ => yields_bind (yields_caused_primary h)
    fun _ hhead => yields_behind fun _ => yields_bind (yields_many (yields_caused_suffix h))
      fun _ hds => yields_pure (hhead.bind fun _ => (caused_mapM hds).map _)

/-- **One level more**: the draft of an expression fails where one of its operands does. -/
theorem yields_caused_level : Yields Caused (level inner) := by
  have hlink : Yields Caused (link inner) :=
    yields_behind fun _ => yields_behind fun _ => yields_bind (yields_caused_operand h)
      fun _ hd => yields_pure (hd.map _)
  exact yields_rule (yields_bind (yields_caused_operand h) fun _ hfirst => yields_behind fun _ =>
    yields_bind (yields_many hlink) fun _ hds =>
      yields_pure (hfirst.bind fun _ => (caused_mapM hds).map _))

end Level

theorem yields_caused_expression (depth : Nat) : Yields Caused (expression depth) := by
  induction depth with
  | zero => exact fun _ _ _ htakes => by cases htakes
  | succ depth ih => exact yields_caused_level ih

/-- **What is wrong inside an expression is a cause.** -/
theorem yields_caused_expr : Yields Caused expr := by
  intro cs rest d htakes
  rw [Takes, result_expr] at htakes
  exact yields_caused_expression _ htakes

theorem yields_caused_whole : Yields Caused (whole expr) :=
  yields_behind fun _ => yields_bind yields_caused_expr fun _ hd => yields_behind fun _ =>
    yields_behind fun _ => yields_pure hd

/-! ### Stages -/

theorem yields_caused_column : Yields Caused column :=
  yields_rule (yields_behind fun _ => yields_behind fun _ => yields_bind yields_caused_expr
    fun _ hd => yields_pure (hd.map _))

theorem yields_caused_columns : Yields (fun ds => ∀ d ∈ ds, Caused d) (commaSeparated column) :=
  yields_commaSeparated_all yields_caused_column

theorem yields_caused_aggregation : Yields Caused aggregation :=
  yields_rule (yields_behind fun _ => yields_behind fun _ =>
    yields_bind (yields_caused_call yields_caused_expr) fun _ hc => yields_pure (hc.map _))

theorem caused_extendColumn (c : Option String × Expr) : Caused (extendColumn c) := by
  unfold extendColumn
  split
  · exact caused_ok _
  · exact caused_error trivial

theorem caused_projectColumns {ds : List (Draft (Option String × Expr))}
    (h : ∀ d ∈ ds, Caused d) (unnamed : Nat) : Caused (projectColumns unnamed ds) := by
  induction ds generalizing unnamed with
  | nil => exact caused_ok []
  | cons d ds ih =>
      rw [projectColumns]
      exact (h d (List.mem_cons_self ..)).bind fun _ =>
        (ih (fun e he => h e (List.mem_cons_of_mem d he)) _).bind fun _ => caused_ok _

/-- A second division of time, one that is not positive, and one without a name. -/
theorem caused_add (g : Grouping) (c : Option String × Expr) : Caused (g.add c) := by
  unfold Grouping.add
  split
  · split
    · exact caused_error trivial
    · split
      · exact caused_error trivial
      · split
        · exact caused_ok _
        · exact caused_error trivial
  · exact caused_ok _

theorem caused_addAll {ds : List (Draft (Option String × Expr))} (h : ∀ d ∈ ds, Caused d)
    (g : Grouping) : Caused (g.addAll ds) := by
  induction ds generalizing g with
  | nil => exact caused_ok g
  | cons d ds ih =>
      rw [Grouping.addAll]
      exact (h d (List.mem_cons_self ..)).bind fun c => (caused_add g c).bind fun g' =>
        ih (fun e he => h e (List.mem_cons_of_mem d he)) g'

theorem caused_summary {aggregations : List (Draft Aggregation)}
    {columns : List (Draft (Option String × Expr))} (haggregations : ∀ d ∈ aggregations, Caused d)
    (hcolumns : ∀ d ∈ columns, Caused d) : Caused (summary aggregations columns) :=
  (caused_mapM haggregations).bind fun _ => (caused_addAll hcolumns _).bind fun _ => caused_ok _

theorem caused_takeCount (cs : List Char) : Caused (takeCount cs) := by
  unfold takeCount
  split
  · exact caused_ok _
  · exact caused_error trivial

theorem yields_caused_summarizeStage : Yields Caused summarizeStage := by
  have hclause : Yields (fun ds => ∀ d ∈ ds, Caused d) byClause :=
    yields_rule (yields_behind fun _ => yields_behind fun _ => yields_caused_columns)
  refine yields_rule (yields_behind fun _ => yields_behind fun _ =>
    yields_bind (yields_commaSeparated_all yields_caused_aggregation) fun _ has =>
      yields_behind fun _ => yields_bind (yields_optional hclause) fun columns hcolumns =>
        yields_pure ?_)
  refine (caused_summary has fun d hd => ?_).map _
  cases columns with
  | none => exact absurd hd List.not_mem_nil
  | some ds => exact hcolumns ds rfl d hd

theorem yields_caused_stage : Yields Caused stage := by
  have hfilter : Yields Caused filterStage :=
    yields_rule (yields_behind fun _ => yields_behind fun _ => yields_bind yields_caused_expr
      fun _ hd => yields_pure (hd.map _))
  have hextend : Yields Caused extendStage :=
    yields_rule (yields_behind fun _ => yields_behind fun _ => yields_bind yields_caused_columns
      fun _ hds => yields_pure
        ((caused_mapM fun d hd => (hds d hd).bind caused_extendColumn).map _))
  have hproject : Yields Caused projectStage :=
    yields_rule (yields_behind fun _ => yields_behind fun _ => yields_bind yields_caused_columns
      fun _ hds => yields_pure ((caused_projectColumns hds 0).map _))
  have hnames (word : String) (stage : List String → Stage) :
      Yields Caused (namesStage word stage) :=
    yields_rule (yields_behind fun _ => yields_behind fun _ => yields_caused_map fun _ =>
      caused_ok _)
  have hunfold : Yields Caused unfoldStage :=
    yields_rule (yields_behind fun _ => yields_behind fun _ =>
      yields_bind (yields_caused_call yields_caused_expr) fun _ hc => yields_pure (hc.map _))
  have htake : Yields Caused takeStage :=
    yields_rule (yields_behind fun _ => yields_behind fun _ => yields_caused_map caused_takeCount)
  refine yields_firstOf ?_
  simp only [List.forall_mem_cons, List.not_mem_nil, false_implies, implies_true, and_true]
  exact ⟨hfilter, hextend, hnames _ _, hnames _ _, hproject, hunfold,
    yields_caused_summarizeStage, htake⟩

/-- **What is wrong inside a query is a cause.** -/
theorem yields_caused_query : Yields Caused query :=
  yields_behind fun _ => yields_behind fun _ => yields_behind fun _ =>
    yields_bind (yields_many (yields_behind fun _ => yields_behind fun _ => yields_caused_stage))
      fun _ hds => yields_behind fun _ => yields_behind fun _ =>
        yields_pure ((caused_mapM hds).map _)

/-! ### Whole texts -/

/-- **What is wrong with a whole text**: it is not well formed from the furthest mark on, or
something in it has no meaning. -/
inductive Diagnosis {α : Type} (p : Reader (Draft α)) (s : String) : String → Prop where
  | refused : Refuses p s.toList →
      Diagnosis p s (diagnostic s.toList (p s.toList).mark)
  | cause {e : QueryError} {rest : List Char} : Takes p s.toList (.error e) rest → e.IsCause →
      Diagnosis p s e.message

/-- **The error of a whole text names the text** and has one diagnostic. -/
theorem settle_eq_error_iff {α : Type} {p : Reader (Draft α)} (h : Yields Caused p) {s : String}
    {e : QueryError} :
    (settle (fun d => .query s [d]) s.toList (p s.toList)).mapError (QueryError.forQuery s)
      = .error e ↔ ∃ d, e = .query s [d] ∧ Diagnosis p s d := by
  constructor
  · intro he
    unfold settle at he
    split at he
    · next draft rest htakes =>
        cases draft with
        | ok a => cases he
        | error cause =>
            have hcause : cause.IsCause := h htakes rfl
            cases he
            exact ⟨_, hcause.forQuery s, .cause htakes hcause⟩
    · next hrefused =>
        cases he
        exact ⟨_, rfl, .refused hrefused⟩
  · rintro ⟨d, rfl, hrefused | ⟨htakes, hcause⟩⟩
    · rw [Refuses] at hrefused
      rw [settle, hrefused]
      rfl
    · rw [Takes] at htakes
      rw [settle, htakes]
      exact congrArg Except.error (hcause.forQuery s)

end Grammar

/-- **The errors of expressions and queries.**  An error is told about the whole text that was to be
read, with one diagnostic: where the text is not well formed, or the cause inside it.  Every such
text is in error. -/
theorem Query.read_eq_error_iff (s : String) (e : QueryError) :
    (Expr.read s = .error e ↔
      ∃ d, e = .query s [d] ∧ Grammar.Diagnosis (Grammar.whole Grammar.expr) s d) ∧
    (Query.read s = .error e ↔ ∃ d, e = .query s [d] ∧ Grammar.Diagnosis Grammar.query s d) :=
  ⟨Grammar.settle_eq_error_iff Grammar.yields_caused_whole,
    Grammar.settle_eq_error_iff Grammar.yields_caused_query⟩

/-- What is wrong with the body of a constant is told as the constant, in the whole text. -/
example : Expr.read "-long(+)"
    = .error (.query "-long(+)" [(QueryError.literal "long(+)").message]) :=
  (Grammar.settle_eq_error_iff Grammar.yields_caused_whole).2 ⟨_, rfl, .cause (by cbv) trivial⟩

end EventQuery
