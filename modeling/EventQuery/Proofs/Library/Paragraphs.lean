/-
**Query files, line by line.**

A query file is read in one pass over its lines.  Two lists grow on the way, the comment and the
body of the paragraph that is open, and an empty line closes the paragraph and empties both.  So
what a paragraph contributes depends on its own lines alone, and texts with an empty line between
them are read one after the other.

Main definitions:

* `Library.Pass` — what has been read, and the paragraph that is open;
* `Library.Pass.line`, `Library.Pass.run` — one line, and several.

Main results:

* `Library.Pass.run_append_library` — what was read before only stands in front;
* `Library.read_eq_pass` — **reading a text is the pass over its lines**;
* `Library.read_append_blank_line` — **texts with an empty line between them are read one after the
  other**.
-/

import EventQuery.Library.Basic
import EventQuery.Proofs.Grammar.Strip

set_option relaxedAutoImplicit false
set_option autoImplicit false

namespace EventQuery

namespace Text

/-! ### Lines -/

theorem splitFeeds_ne_nil (cs : List Char) : splitFeeds cs ≠ [] := by
  cases cs with
  | nil => exact List.cons_ne_nil _ _
  | cons c rest =>
      rw [splitFeeds]
      split
      · exact List.cons_ne_nil _ _
      · split <;> exact List.cons_ne_nil _ _

/-- **A line feed ends a line**, whatever stands in front of it and behind it. -/
theorem splitFeeds_append (cs ds : List Char) :
    splitFeeds (cs ++ '\n' :: ds) = splitFeeds cs ++ splitFeeds ds := by
  induction cs with
  | nil => rfl
  | cons c rest ih =>
      rw [List.cons_append, splitFeeds, splitFeeds]
      by_cases hc : c = '\n'
      · rw [if_pos hc, if_pos hc, ih, List.cons_append]
      · rw [if_neg hc, if_neg hc, ih]
        cases hsplit : splitFeeds rest with
        | nil => exact absurd hsplit (splitFeeds_ne_nil rest)
        | cons line more => rfl

/-- Blanks at the end are stripped. -/
theorem strip_append_blanks (cs : List Char) {blanks : List Char}
    (h : ∀ c ∈ blanks, isBlank c = true) : strip (cs ++ blanks) = strip cs := by
  have hnone : dropEndWhile isBlank blanks = [] := by
    rw [dropEndWhile, List.reverse_eq_nil_iff, List.dropWhile_eq_nil_iff]
    exact fun c hc => h c (List.mem_reverse.1 hc)
  rw [strip, strip, stripWhere, stripWhere, List.dropWhile_append]
  split
  · next hempty =>
      rw [List.isEmpty_iff.1 hempty, List.dropWhile_eq_nil_iff.2 h]
  · rw [dropEndWhile_append, if_pos hnone]

/-- The carriage return of an ending is a blank like others. -/
theorem strip_dropReturn (cs : List Char) : strip (dropReturn cs) = strip cs := by
  unfold dropReturn
  split
  · next rest hreverse =>
      have hcs : cs = rest.reverse ++ ['\r'] := by
        rw [← List.reverse_reverse cs, hreverse, List.reverse_cons]
      rw [hcs, strip_append_blanks]
      exact fun c hc => List.mem_singleton.1 hc ▸ rfl
  · rfl

/-- A character that ends no line joins the last one. -/
theorem exists_splitFeeds_concat (cs : List Char) {c : Char} (hc : c ≠ '\n') :
    ∃ lines last, splitFeeds cs = lines ++ [last] ∧
      splitFeeds (cs ++ [c]) = lines ++ [last ++ [c]] := by
  induction cs with
  | nil => exact ⟨[], [], rfl, by rw [List.nil_append, splitFeeds, if_neg hc]; rfl⟩
  | cons d rest ih =>
      obtain ⟨lines, last, hrest, hconcat⟩ := ih
      rw [List.cons_append, splitFeeds, splitFeeds, hrest, hconcat]
      by_cases hd : d = '\n'
      · rw [if_pos hd, if_pos hd]
        exact ⟨[] :: lines, last, rfl, rfl⟩
      · rw [if_neg hd, if_neg hd]
        cases lines with
        | nil => exact ⟨[], d :: last, rfl, rfl⟩
        | cons line more => exact ⟨(d :: line) :: more, last, rfl, rfl⟩

/-- A carriage return at the end of a text is stripped from its last line. -/
theorem map_strip_splitFeeds_return (cs : List Char) :
    (splitFeeds (cs ++ ['\r'])).map strip = (splitFeeds cs).map strip := by
  obtain ⟨lines, last, hcs, hconcat⟩ := exists_splitFeeds_concat cs (c := '\r') (by decide)
  have hlast : strip (last ++ ['\r']) = strip last :=
    strip_append_blanks last fun c hc => List.mem_singleton.1 hc ▸ rfl
  rw [hcs, hconcat, List.map_append, List.map_append, List.map_singleton, List.map_singleton, hlast]

end Text

namespace Library

/-! ### Libraries one after another -/

theorem append_def (a b : Library) :
    a ++ b = ⟨a.queries ++ b.queries, a.functions ++ b.functions, a.errors ++ b.errors⟩ := rfl

@[simp] theorem append_empty (a : Library) : a ++ empty = a := by
  rw [append_def, empty, List.append_nil, List.append_nil, List.append_nil]

@[simp] theorem empty_append (a : Library) : empty ++ a = a := rfl

theorem append_assoc (a b c : Library) : a ++ b ++ c = a ++ (b ++ c) := by
  simp only [append_def, List.append_assoc]

theorem concat_cons (a : Library) (rest : List Library) :
    concat (a :: rest) = a ++ concat rest := rfl

/-! ### One pass over the lines -/

/-- **What has been read**, and the comment and the body of the paragraph that is open. -/
structure Pass where
  library : Library
  comment : List (List Char)
  body : List (List Char)

namespace Pass

/-- Nothing has been read. -/
def start : Pass := ⟨empty, [], []⟩

/-- **One line**: an empty one closes the paragraph, and another one joins its comment or its
body. -/
def line (p : Pass) (l : List Char) : Pass :=
  if l.isEmpty then ⟨p.library ++ ofParts p.comment p.body, [], []⟩
  else
    match commentLine? l with
    | some remark => { p with comment := p.comment ++ [remark] }
    | none => { p with body := p.body ++ [l] }

/-- **Several lines.** -/
def run (p : Pass) (lines : List (List Char)) : Pass := lines.foldl line p

theorem run_cons (p : Pass) (l : List Char) (rest : List (List Char)) :
    p.run (l :: rest) = (p.line l).run rest := rfl

theorem run_append (p : Pass) (before after : List (List Char)) :
    p.run (before ++ after) = (p.run before).run after := List.foldl_append

theorem line_empty (p : Pass) :
    p.line [] = ⟨p.library ++ ofParts p.comment p.body, [], []⟩ := rfl

/-- **What was read before only stands in front.** -/
theorem run_append_library (l : Library) (p : Pass) (lines : List (List Char)) :
    run { p with library := l ++ p.library } lines
      = { p.run lines with library := l ++ (p.run lines).library } := by
  induction lines generalizing p with
  | nil => rfl
  | cons first rest ih =>
      have hline : line { p with library := l ++ p.library } first
          = { p.line first with library := l ++ (p.line first).library } := by
        unfold line
        by_cases hempty : first.isEmpty = true
        · simp only [if_pos hempty, append_assoc]
        · simp only [if_neg hempty]
          cases commentLine? first <;> rfl
      rw [run_cons, run_cons, hline, ih]

/-- An empty line leaves no paragraph open. -/
theorem run_closed (p : Pass) (lines : List (List Char)) :
    p.run (lines ++ [[]]) = ⟨(p.run (lines ++ [[]])).library, [], []⟩ := by
  rw [run_append]
  rfl

/-- **The paragraphs of a pass**: the first one is open at its beginning. -/
theorem run_paragraphs (p : Pass) (lines : List (List Char)) :
    ∃ first more, paragraphsOf lines = first :: more ∧
      (p.run (lines ++ [[]])).library
        = p.library ++ ofParts (p.comment ++ first.filterMap commentLine?)
            (p.body ++ first.filter fun l => (commentLine? l).isNone)
          ++ concat (more.map ofParagraph) := by
  induction lines generalizing p with
  | nil =>
      refine ⟨[], [], rfl, ?_⟩
      rw [List.nil_append, run_cons, line_empty]
      simp [run, concat]
  | cons l rest ih =>
      obtain ⟨first, more, hrest, hlibrary⟩ := ih (p.line l)
      rw [List.cons_append, run_cons, hlibrary, paragraphsOf, hrest]
      by_cases hempty : l.isEmpty = true
      · rw [if_pos hempty]
        refine ⟨[], first :: more, rfl, ?_⟩
        rw [List.isEmpty_iff.1 hempty, line_empty, List.map_cons, concat_cons, ofParagraph]
        simp [append_assoc]
      · rw [if_neg hempty]
        refine ⟨l :: first, more, rfl, ?_⟩
        unfold line
        rw [if_neg hempty]
        cases hremark : commentLine? l <;> simp [hremark]

end Pass

/-- **Reading a text is the pass over its lines**, with an empty one behind them. -/
theorem read_eq_pass (s : String) :
    read s = (Pass.start.run ((Text.lines s.toList).map Text.strip ++ [[]])).library := by
  obtain ⟨first, more, hparagraphs, hlibrary⟩ :=
    Pass.start.run_paragraphs ((Text.lines s.toList).map Text.strip)
  rw [hlibrary, read, paragraphs, hparagraphs, List.map_cons, concat_cons, ofParagraph]
  simp only [Pass.start, empty_append, List.nil_append]

/-- The endings of the lines do not count, and neither does whether the last line has one. -/
theorem Pass.run_closeLines (p : Pass) (feeds : List (List Char)) :
    (p.run ((Text.closeLines feeds).map Text.strip ++ [[]])).library
      = (p.run (feeds.map Text.strip ++ [[]])).library := by
  induction feeds generalizing p with
  | nil => rfl
  | cons l rest ih =>
      cases rest with
      | nil =>
          rw [Text.closeLines]
          split
          · next hempty =>
              -- One more empty line closes a paragraph that is not open.
              rw [List.isEmpty_iff.1 hempty, List.map_singleton, Text.strip_nil, run_append,
                run_append]
              exact (append_empty _).symm
          · rfl
      | cons next more =>
          rw [Text.closeLines, List.map_cons, List.map_cons, Text.strip_dropReturn,
            List.cons_append, List.cons_append, run_cons, run_cons, ih]
          exact List.cons_ne_nil next more

/-- **Reading a text is the pass over what stands between its line feeds.** -/
theorem read_eq_run (s : String) :
    read s = (Pass.start.run ((Text.splitFeeds s.toList).map Text.strip ++ [[]])).library := by
  rw [read_eq_pass, Text.lines, Pass.run_closeLines]

/-- A pass that goes on behind an empty line. -/
theorem Pass.run_behind (p : Pass) (before after : List (List Char)) :
    (p.run (before ++ [[]] ++ after)).library
      = (p.run (before ++ [[]])).library ++ (start.run after).library := by
  have hstart : p.run (before ++ [[]])
      = { start with library := (p.run (before ++ [[]])).library ++ start.library } := by
    rw [start, append_empty]
    exact p.run_closed before
  rw [run_append, hstart, run_append_library, start, append_empty]

/-- Texts between whose lines there is one that is blank. -/
theorem read_of_splitFeeds {s a b : String} (h : (Text.splitFeeds s.toList).map Text.strip
      = (Text.splitFeeds a.toList).map Text.strip ++ [[]]
        ++ (Text.splitFeeds b.toList).map Text.strip) : read s = read a ++ read b := by
  rw [read_eq_run, read_eq_run, read_eq_run, h, List.append_assoc _ _ [[]], Pass.run_behind]

/-- **Texts with an empty line between them are read one after the other**: the queries with their
comments, the functions with theirs, and what is wrong.  So nothing in one paragraph bears on what
another one contributes, whether lines end in a line feed alone or in a carriage return and a line
feed. -/
theorem read_append_blank_line (a b : String) :
    read (a ++ "\n\n" ++ b) = read a ++ read b ∧
      read (a ++ "\r\n\r\n" ++ b) = read a ++ read b := by
  have hfeed : (a ++ "\n\n" ++ b).toList = a.toList ++ '\n' :: ([] ++ '\n' :: b.toList) := by
    simp
  have hreturn : (a ++ "\r\n\r\n" ++ b).toList
      = (a.toList ++ ['\r']) ++ '\n' :: (['\r'] ++ '\n' :: b.toList) := by
    simp
  constructor
  · refine read_of_splitFeeds ?_
    rw [hfeed, Text.splitFeeds_append, Text.splitFeeds_append, List.map_append, List.map_append,
      ← List.append_assoc]
    rfl
  · refine read_of_splitFeeds ?_
    have hblank : (Text.splitFeeds ['\r']).map Text.strip = [[]] := by decide
    rw [hreturn, Text.splitFeeds_append, Text.splitFeeds_append, List.map_append, List.map_append,
      ← List.append_assoc, Text.map_strip_splitFeeds_return, hblank]

end Library

end EventQuery
