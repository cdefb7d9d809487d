/-
**Definitions in query files.**

Whether a paragraph defines a function is decided twice.  The file reader looks at the words of the
paragraph, which blanks separate; the grammar looks for a point, a keyword and the word `function`,
with blanks or comments between them and anything but a name character behind.  Both agree where
there are blanks only.  Elsewhere the grammar accepts a definition that the file reader passes over
without an error.

Main definitions:

* `Library.OneParagraph`, `Library.trimmed` — a text that is one paragraph without a comment line,
  and what the paragraph says;
* `Library.Heading` — what a definition begins with, as the grammar has it;
* `Library.Heading.Spaced` — there are only blanks around the words of a heading.

Main results:

* `Text.words_append_blanks`, `Text.words_run` — what the words of a text are;
* `Library.Heading.definesFunction_iff` — **the file reader sees the headings with blanks only**;
* `Library.exists_heading_of_read` — every definition has a heading;
* `Library.read_definition` — **what becomes of a definition in a query file**.
-/

import EventQuery.Function.Registry
import EventQuery.Proofs.Grammar.Source
import EventQuery.Proofs.Library.Paragraphs
import Mathlib

set_option relaxedAutoImplicit false
set_option autoImplicit false

namespace EventQuery

namespace Text

/-! ### Words

Blanks in front do not count, and a run of other characters is a word as far as it goes. -/

/-- A character that belongs to a word. -/
def isInk (c : Char) : Bool := !isBlank c

theorem isInk_iff {c : Char} : isInk c = true ↔ isBlank c = false := by
  rw [isInk, Bool.not_eq_true']

theorem wordsFrom_run (current : List Char) {c : Char} (hc : isInk c = true) (cs : List Char) :
    wordsFrom current (c :: cs)
      = (current.reverse ++ (c :: cs).takeWhile isInk) :: wordsFrom [] (cs.dropWhile isInk) := by
  rw [wordsFrom, isInk_iff.1 hc, if_neg (by decide), List.takeWhile_cons_of_pos hc]
  induction cs generalizing current c with
  | nil => simp [wordsFrom]
  | cons d ds ih =>
      cases hd : isInk d with
      | true =>
          rw [wordsFrom, isInk_iff.1 hd, if_neg (by decide), ih (c :: current) hd,
            List.takeWhile_cons_of_pos hd, List.dropWhile_cons_of_pos hd, List.reverse_cons,
            List.append_assoc, List.singleton_append]
      | false =>
          have hblank : isBlank d = true := by rwa [isInk, Bool.not_eq_false'] at hd
          rw [List.takeWhile_cons_of_neg (by rw [hd]; decide),
            List.dropWhile_cons_of_neg (by rw [hd]; decide)]
          simp [wordsFrom, hblank]

/-- **Blanks in front do not count.** -/
theorem words_append_blanks {blanks : List Char} (h : ∀ c ∈ blanks, isBlank c = true)
    (cs : List Char) : words (blanks ++ cs) = words cs := by
  induction blanks with
  | nil => rfl
  | cons c rest ih =>
      obtain ⟨hc, hrest⟩ := List.forall_mem_cons.1 h
      rw [List.cons_append, words, wordsFrom, if_pos hc]
      exact ih hrest

/-- **A run of characters without a blank is a word** as far as it goes. -/
theorem words_run {w : List Char} (hne : w ≠ []) (h : w.all isInk = true) (cs : List Char) :
    words (w ++ cs) = (w ++ cs.takeWhile isInk) :: words (cs.dropWhile isInk) := by
  obtain ⟨c, rest, rfl⟩ := List.exists_cons_of_ne_nil hne
  have hink : ∀ d ∈ c :: rest, isInk d = true := List.all_eq_true.1 h
  have hrest : ∀ d ∈ rest, isInk d = true := fun d hd => hink d (List.mem_cons_of_mem c hd)
  rw [words, List.cons_append, wordsFrom_run [] (hink c (List.mem_cons_self ..)), List.reverse_nil,
    List.nil_append, ← List.cons_append, List.takeWhile_append_of_pos hink,
    List.dropWhile_append_of_pos hrest, words]

theorem takeWhile_isInk_eq_nil_iff {cs : List Char} :
    cs.takeWhile isInk = [] ↔ ∀ c ∈ cs.head?, isBlank c = true := by
  cases cs with
  | nil => simp
  | cons c cs => simp [List.takeWhile_cons, isInk]

/-- A blank ends a word. -/
theorem words_word {w : List Char} (hne : w ≠ []) (h : w.all isInk = true) {cs : List Char}
    (hcs : ∀ c ∈ cs.head?, isBlank c = true) : words (w ++ cs) = w :: words cs := by
  have htake := takeWhile_isInk_eq_nil_iff.2 hcs
  have hdrop : cs.dropWhile isInk = cs := by
    rw [← List.nil_append (cs.dropWhile isInk), ← htake, List.takeWhile_append_dropWhile]
  rw [words_run hne h, htake, hdrop, List.append_nil]

/-! ### Lines -/

/-- What stripping leaves has no blank at its ends. -/
theorem neat_strip {cs : List Char} (h : strip cs ≠ []) : Neat (strip cs) := by
  refine ⟨h, fun c hc => ?_, fun c hc => ?_⟩
  · obtain ⟨more, hmore⟩ : strip cs <+: cs.dropWhile isBlank := List.rdropWhile_prefix isBlank _
    have hfirst := List.head?_dropWhile_not isBlank cs
    rw [← hmore, List.head?_append_of_ne_nil _ h, hc] at hfirst
    exact hfirst
  · have hlast := List.head?_dropWhile_not isBlank (cs.dropWhile isBlank).reverse
    rw [strip, stripWhere, dropEndWhile, List.getLast?_reverse] at hc
    rw [hc] at hlast
    exact hlast

/-- A pattern without a line feed stands in front of a text when it does so in front of its first
line. -/
theorem prefix_line {pattern line rest : List Char} (hfeed : '\n' ∉ pattern)
    (h : pattern <+: line ++ '\n' :: rest) : pattern <+: line := by
  rcases List.prefix_or_prefix_of_prefix h (List.prefix_append line ('\n' :: rest)) with hle | hle
  · exact hle
  · obtain ⟨more, rfl⟩ := hle
    rw [List.prefix_append_right_inj] at h
    cases more with
    | nil => exact ⟨[], by rw [List.append_nil, List.append_nil]⟩
    | cons c more =>
        rw [List.cons_prefix_cons] at h
        exact absurd (List.mem_append_right line (h.1 ▸ List.mem_cons_self ..)) hfeed

end Text

namespace Library

/-! ### Texts of one paragraph -/

/-- **The text is one paragraph** without a comment line: no line is blank, and none begins with two
slashes. -/
def OneParagraph (t : String) : Prop :=
  ∀ line ∈ Text.lines t.toList, Text.strip line ≠ [] ∧ ¬ ['/', '/'] <+: Text.strip line

instance (t : String) : Decidable (OneParagraph t) := by
  unfold OneParagraph
  infer_instance

/-- **What the paragraph says**: its lines without the blanks at their ends. -/
def trimmed (t : String) : String := joinLines ((Text.lines t.toList).map Text.strip)

/-- A line that does not begin with two slashes is no comment. -/
theorem commentLine?_eq_none {line : List Char} (h : ¬ ['/', '/'] <+: line) :
    commentLine? line = none := by
  rw [commentLine?, Option.map_eq_none_iff, Option.eq_none_iff_forall_ne_some]
  intro rest hrest
  exact h ⟨rest, (Text.dropPattern?_eq_some_iff.1 hrest).symm⟩

/-- Without an empty line there is one paragraph. -/
theorem paragraphsOf_of_ne_nil {lines : List (List Char)} (h : ∀ line ∈ lines, line ≠ []) :
    paragraphsOf lines = [lines] := by
  induction lines with
  | nil => rfl
  | cons line rest ih =>
      obtain ⟨hline, hrest⟩ := List.forall_mem_cons.1 h
      rw [paragraphsOf, if_neg (fun hempty => hline (List.isEmpty_iff.1 hempty)), ih hrest]

/-- **A text of one paragraph contributes what its lines do.** -/
theorem OneParagraph.read_eq {t : String} (h : OneParagraph t) :
    read t = ofParts [] ((Text.lines t.toList).map Text.strip) := by
  have hlines : ∀ line ∈ (Text.lines t.toList).map Text.strip,
      line ≠ [] ∧ commentLine? line = none := by
    intro line hline
    obtain ⟨raw, hraw, rfl⟩ := List.mem_map.1 hline
    exact ⟨(h raw hraw).1, commentLine?_eq_none (h raw hraw).2⟩
  have hcomment : ((Text.lines t.toList).map Text.strip).filterMap commentLine? = [] :=
    List.filterMap_eq_nil_iff.2 fun line hline => (hlines line hline).2
  have hbody : (((Text.lines t.toList).map Text.strip).filter fun line =>
      (commentLine? line).isNone) = (Text.lines t.toList).map Text.strip :=
    List.filter_eq_self.2 fun line hline => Option.isNone_iff_eq_none.2 (hlines line hline).2
  rw [read, paragraphs, paragraphsOf_of_ne_nil fun line hline => (hlines line hline).1,
    List.map_singleton, concat_cons, ofParagraph, hcomment, hbody]
  exact append_empty _

/-- A paragraph that begins with a point is a definition, for the file reader, when its words say
so. -/
theorem OneParagraph.read_command {t : String} (h : OneParagraph t) {cs : List Char}
    (hpoint : (trimmed t).toList = '.' :: cs) :
    read t = if definesFunction ('.' :: cs) then
      match UserFunction.read (trimmed t) with
      | .ok f => ⟨[], [{ f with comment := "" }], []⟩
      | .error e => ⟨[], [], [e.message]⟩
      else empty := by
  have hne : ((Text.lines t.toList).map Text.strip).isEmpty = false := by
    cases hlines : (Text.lines t.toList).map Text.strip with
    | nil =>
        rw [trimmed, hlines] at hpoint
        cases hpoint
    | cons line rest => rfl
  rw [h.read_eq, ofParts, hne, if_neg (by decide)]
  simp only [← trimmed.eq_1, hpoint]
  generalize UserFunction.read (trimmed t) = r
  rw [if_neg (by simp [Text.startsWith, Text.dropPattern?])]
  cases definesFunction ('.' :: cs) <;> rfl

/-- Lines without blanks at their ends make a text without blanks at its ends. -/
theorem neat_joinLines {line : List Char} {rest : List (List Char)}
    (h : ∀ l ∈ line :: rest, Text.Neat l) : Text.Neat (joinLines (line :: rest)).toList := by
  rw [joinLines, String.toList_ofList]
  induction rest generalizing line with
  | nil =>
      rw [List.intercalate_singleton]
      exact h line (List.mem_cons_self ..)
  | cons next more ih =>
      obtain ⟨hline, hrest⟩ := List.forall_mem_cons.1 h
      rw [List.intercalate_cons_cons]
      exact hline.append ['\n'] (ih hrest)

/-- **Neither a blank nor a comment stands in front** of what the paragraph says, and no blank
behind it. -/
theorem OneParagraph.trimmed_front {t : String} (h : OneParagraph t) :
    Text.strip (trimmed t).toList = (trimmed t).toList ∧
      Reader.dropBlank false (trimmed t).toList = (trimmed t).toList := by
  cases hlines : Text.lines t.toList with
  | nil => rw [trimmed, hlines]; exact ⟨rfl, rfl⟩
  | cons raw more =>
      have hneat : Text.Neat (trimmed t).toList := by
        rw [trimmed, hlines]
        refine neat_joinLines fun l hl => ?_
        obtain ⟨l, hmem, rfl⟩ := List.mem_map.1 (List.map_cons ▸ hl)
        exact Text.neat_strip (h l (hlines ▸ hmem)).1
      have hslashes : ¬ ['/', '/'] <+: (trimmed t).toList := by
        intro hslashes
        rw [trimmed, hlines, List.map_cons, joinLines, String.toList_ofList] at hslashes
        refine (h raw (hlines ▸ List.mem_cons_self ..)).2 ?_
        cases more with
        | nil => rwa [List.map_nil, List.intercalate_singleton] at hslashes
        | cons next more =>
            rw [List.map_cons, List.intercalate_cons_cons, List.append_assoc] at hslashes
            exact Text.prefix_line (by decide) hslashes
      refine ⟨hneat.strip, ?_⟩
      cases hchars : (trimmed t).toList with
      | nil => rfl
      | cons c cs =>
          have hspace : ¬ Reader.isSpace c = true := by
            intro hspace
            have hblank := hneat.first c (by rw [hchars]; rfl)
            rw [Reader.isBlank_of_isSpace hspace] at hblank
            cases hblank
          rw [Reader.dropBlank]
          · rw [if_neg (by decide), if_neg hspace]
          · rintro rest rfl rfl
            exact hslashes ⟨rest, hchars.symm⟩

/-! ### Headings -/

/-- **What a definition begins with**, as the grammar has it: a point, a keyword and the word
`function`, with blanks and comments between them. -/
structure Heading where
  front : List Char
  keyword : String
  gap : List Char
  rest : List Char
  front_skips : Reader.Skips false front false
  keyword_mem : keyword ∈ definingWords
  gap_skips : Reader.Skips false gap false
  gap_ne_nil : gap ≠ []
  rest_end : Token.atWordEnd rest = true

namespace Heading

/-- The text with the heading. -/
def text (h : Heading) : List Char :=
  '.' :: (h.front ++ (h.keyword.toList ++ (h.gap ++ ("function".toList ++ h.rest))))

/-- **There are only blanks around the words**, and one behind them unless the text ends there. -/
structure Spaced (h : Heading) : Prop where
  front : ∀ c ∈ h.front, Text.isBlank c = true
  gap : ∀ c ∈ h.gap, Text.isBlank c = true
  rest : ∀ c ∈ h.rest.head?, Text.isBlank c = true

end Heading

/-- The words with which a definition begins are words, and not comments. -/
theorem definingWords_plain : ∀ w ∈ definingWords,
    w.toList ≠ [] ∧ w.toList.all Text.isInk = true ∧ '/' ∉ w.toList := by decide

/-- What the file reader looks at. -/
theorem definesFunction_iff_words {text : List Char} :
    definesFunction text = true ↔ ∃ w ∈ definingWords, ∃ more,
      Text.words (text.drop 1) = w.toList :: "function".toList :: more := by
  unfold definesFunction
  constructor
  · intro h
    split at h
    · next first second more hwords =>
        rw [Bool.and_eq_true, List.contains_iff_mem, beq_iff_eq] at h
        exact ⟨_, h.1, more, by rw [hwords, String.toList_ofList, h.2]⟩
    · cases h
  · rintro ⟨w, hw, more, hwords⟩
    rw [hwords]
    simpa using hw

/-- Blanks and comments are blanks, or a comment stands behind blanks. -/
theorem blanks_or_comment {t : List Char} {o : Bool} (h : Reader.Skips false t o) :
    (∀ c ∈ t, Text.isBlank c = true) ∨
      ∃ blanks more, t = blanks ++ '/' :: more ∧ ∀ c ∈ blanks, Text.isBlank c = true := by
  generalize hstart : false = start at h
  induction h with
  | nil => exact .inl (List.forall_mem_nil _)
  | @space c cs o hspace _ ih =>
      have hc := Reader.isBlank_of_isSpace hspace
      rcases ih hstart with hall | ⟨blanks, more, rfl, hblanks⟩
      · exact .inl (List.forall_mem_cons.2 ⟨hc, hall⟩)
      · exact .inr ⟨c :: blanks, more, rfl, List.forall_mem_cons.2 ⟨hc, hblanks⟩⟩
  | @slashes cs o _ _ => exact .inr ⟨[], '/' :: cs, rfl, List.forall_mem_nil _⟩
  | inside => cases hstart
  | close => cases hstart

/-- A comment behind blanks is a word of its own kind. -/
theorem words_comment {blanks : List Char} (h : ∀ c ∈ blanks, Text.isBlank c = true)
    (cs : List Char) :
    ∃ more others, Text.words (blanks ++ '/' :: cs) = ('/' :: more) :: others := by
  rw [Text.words_append_blanks h, ← List.singleton_append,
    Text.words_run (List.cons_ne_nil _ _) (by decide)]
  exact ⟨_, _, rfl⟩

namespace Heading

variable (h : Heading)

/-- Blanks around the keyword make it the first word. -/
theorem words_of_blanks (hfront : ∀ c ∈ h.front, Text.isBlank c = true)
    (hgap : ∀ c ∈ h.gap, Text.isBlank c = true) : Text.words (h.text.drop 1)
      = h.keyword.toList :: Text.words ("function".toList ++ h.rest) := by
  obtain ⟨hne, hink, -⟩ := definingWords_plain h.keyword h.keyword_mem
  have hhead : ∀ c ∈ (h.gap ++ ("function".toList ++ h.rest)).head?, Text.isBlank c = true := by
    rw [List.head?_append_of_ne_nil _ h.gap_ne_nil]
    exact fun c hc => hgap c (List.mem_of_mem_head? hc)
  rw [text, List.drop_one, List.tail_cons, Text.words_append_blanks hfront,
    Text.words_word hne hink hhead, Text.words_append_blanks hgap]

section Words

variable {h} {w : String} {more : List (List Char)} (hw : w ∈ definingWords)
  (hwords : Text.words (h.text.drop 1) = w.toList :: "function".toList :: more)
include hw hwords

/-- A comment in front of the keyword would begin the first word. -/
theorem front_blank : ∀ c ∈ h.front, Text.isBlank c = true := by
  refine (blanks_or_comment h.front_skips).resolve_right ?_
  rintro ⟨blanks, remark, hremark, hblanks⟩
  obtain ⟨first, others, hcomment⟩ := words_comment hblanks (remark ++ (h.keyword.toList
    ++ (h.gap ++ ("function".toList ++ h.rest))))
  rw [text, List.drop_one, List.tail_cons, hremark, List.append_assoc, List.cons_append,
    hcomment] at hwords
  exact (definingWords_plain w hw).2.2 ((List.cons.inj hwords).1 ▸ List.mem_cons_self ..)

/-- A comment behind the keyword would belong to the first word, or begin the second one. -/
theorem gap_blank : ∀ c ∈ h.gap, Text.isBlank c = true := by
  obtain ⟨hne, hink, -⟩ := definingWords_plain h.keyword h.keyword_mem
  refine (blanks_or_comment h.gap_skips).resolve_right ?_
  rintro ⟨blanks, remark, hremark, hblanks⟩
  have hfront := front_blank hw hwords
  rw [text, List.drop_one, List.tail_cons, Text.words_append_blanks hfront, hremark,
    List.append_assoc, List.cons_append] at hwords
  cases blanks with
  | nil =>
      rw [List.nil_append, Text.words_run hne hink,
        List.takeWhile_cons_of_pos (by decide)] at hwords
      exact (definingWords_plain w hw).2.2
        ((List.cons.inj hwords).1 ▸ List.mem_append_right _ (List.mem_cons_self ..))
  | cons c blanks =>
      obtain ⟨second, others, hcomment⟩ := words_comment hblanks (remark ++ ("function".toList
        ++ h.rest))
      have hhead : ∀ d ∈ (c :: blanks ++ '/' :: (remark ++ ("function".toList ++ h.rest))).head?,
          Text.isBlank d = true := by
        rintro d ⟨⟩
        exact hblanks c (List.mem_cons_self ..)
      rw [Text.words_word hne hink hhead, hcomment] at hwords
      have hsecond : '/' :: second = "function".toList :=
        (List.cons.inj (List.cons.inj hwords).2).1
      exact absurd (List.cons.inj hsecond).1 (by decide)

end Words

/-- **The file reader sees the headings with blanks only.** -/
theorem definesFunction_iff : definesFunction h.text = true ↔ h.Spaced := by
  rw [definesFunction_iff_words]
  constructor
  · rintro ⟨w, hw, more, hwords⟩
    have hfront := front_blank hw hwords
    have hgap := gap_blank hw hwords
    rw [h.words_of_blanks hfront hgap, Text.words_run (by decide) (by decide)] at hwords
    have hsecond := (List.cons.inj (List.cons.inj hwords).2).1
    exact ⟨hfront, hgap, Text.takeWhile_isInk_eq_nil_iff.1 (List.append_right_eq_self.1 hsecond)⟩
  · intro hs
    refine ⟨h.keyword, h.keyword_mem, Text.words h.rest, ?_⟩
    rw [h.words_of_blanks hs.front hs.gap, Text.words_word (by decide) (by decide) hs.rest]

end Heading

/-! ### Definitions -/

open Reader in
/-- **A definition has a heading**, behind blanks and comments. -/
theorem exists_heading_of_takes {cs rest : List Char} {d : Draft UserFunction}
    (h : Takes Grammar.definition cs d rest) :
    ∃ heading : Heading, dropBlank false cs = heading.text := by
  obtain ⟨_, _, hblank, h⟩ := takes_bind_iff.1 h
  obtain ⟨_, behind, hpoint, h⟩ := takes_bind_iff.1 h
  obtain ⟨_, _, hblank', h⟩ := takes_bind_iff.1 h
  obtain ⟨keyword, middle, hkeyword, h⟩ := takes_bind_iff.1 h
  obtain ⟨_, _, hblank'', h⟩ := takes_bind_iff.1 h
  obtain ⟨word, left, hword, -⟩ := takes_bind_iff.1 h
  rw [takes_blank_iff] at hblank hblank' hblank''
  subst hblank hblank' hblank''
  obtain ⟨hkeyword, hmiddle⟩ := Option.filter_eq_some_iff.1 (takes_scan_iff.1 hkeyword)
  obtain ⟨hmem, hbehind⟩ := Token.firstWord_eq_some hkeyword
  obtain ⟨hword, hleft⟩ := Option.filter_eq_some_iff.1 (takes_scan_iff.1 hword)
  obtain ⟨hfunction, htext⟩ := Token.firstWord_eq_some hword
  obtain rfl := List.mem_singleton.1 hfunction
  obtain ⟨front, hfront, hskips⟩ := exists_skips_closed behind (by
    rw [hbehind]
    exact List.append_ne_nil_of_left_ne_nil (definingWords_plain keyword hmem).1 _)
  obtain ⟨gap, hgap, hskips'⟩ := exists_skips_closed middle (by
    rw [htext]
    exact List.append_ne_nil_of_left_ne_nil (by decide) _)
  rw [hbehind] at hfront
  rw [htext] at hgap
  have hne : gap ≠ [] := by
    rintro rfl
    rw [hgap] at hmiddle
    cases hmiddle
  refine ⟨⟨front, keyword, gap, left, hskips, hmem, hskips', hne, hleft⟩, ?_⟩
  rw [takes_token_iff.1 hpoint, Heading.text, ← hgap, ← hfront]
  rfl

open Reader Draft in
/-- The grammar gives a definition no comment. -/
theorem yields_definition :
    Yields (Holds fun f : UserFunction => f.comment = "") Grammar.definition := by
  -- Whatever is taken, the definition is made of it at the end.
  repeat refine yields_behind fun _ => ?_
  refine yields_pure fun f hf => ?_
  obtain ⟨body, -, rfl⟩ := Except.map_eq_ok_iff.1 hf
  rfl

/-- The grammar takes what the paragraph says as it stands. -/
theorem OneParagraph.read_eq_ok_iff {t : String} (h : OneParagraph t) {f : UserFunction} :
    UserFunction.read (trimmed t) = .ok f ↔
      ∃ rest, Reader.Takes Grammar.definition (trimmed t).toList (.ok f) rest := by
  simp only [UserFunction.read, h.trimmed_front.1, Draft.settle_eq_ok_iff]
  exact Iff.rfl

/-- **What the grammar takes for a definition has a heading, and no comment.** -/
theorem OneParagraph.exists_heading {t : String} (h : OneParagraph t) {f : UserFunction}
    (hread : UserFunction.read (trimmed t) = .ok f) :
    (∃ heading : Heading, (trimmed t).toList = heading.text) ∧ f.comment = "" := by
  obtain ⟨rest, htakes⟩ := h.read_eq_ok_iff.1 hread
  obtain ⟨heading, hheading⟩ := exists_heading_of_takes htakes
  rw [h.trimmed_front.2] at hheading
  exact ⟨⟨heading, hheading⟩, yields_definition htakes rfl⟩

/-- **What becomes of a definition in a query file**, when the text is one paragraph without a
comment line.  A definition that the grammar accepts begins with a heading.  With nothing but blanks
around the words of the heading, it is read and registered; otherwise it vanishes, and so nothing is
there to be registered.  A command whose words say that it is a definition, and that is none, is
reported once. -/
theorem read_definition {t : String} (h : OneParagraph t) :
    (∀ f, UserFunction.read (trimmed t) = .ok f →
      (∃ heading : Heading, (trimmed t).toList = heading.text) ∧
      ∀ heading : Heading, (trimmed t).toList = heading.text →
        (heading.Spaced → f.comment = "" ∧ read t = ⟨[], [f], []⟩ ∧
          ∀ g : Registry, g.defineText t = .ok ([f.name], g.define f)) ∧
        (¬ heading.Spaced → read t = empty ∧ ∀ g : Registry, g.defineText t
          = .error (.invalidArgument "no function definition found"))) ∧
    ∀ e cs w more, UserFunction.read (trimmed t) = .error e → (trimmed t).toList = '.' :: cs →
      w ∈ definingWords → Text.words cs = w.toList :: "function".toList :: more →
      read t = ⟨[], [], [e.message]⟩ := by
  refine ⟨fun f hread => ?_, fun e cs w more hread hpoint hw hwords => ?_⟩
  · obtain ⟨hheading, hcomment⟩ := h.exists_heading hread
    refine ⟨hheading, fun heading hheading => ?_⟩
    have hlibrary := h.read_command hheading
    rw [← Heading.text, hread] at hlibrary
    refine ⟨fun hs => ?_, fun hs => ?_⟩
    · rw [if_pos (heading.definesFunction_iff.2 hs)] at hlibrary
      have hf : read t = ⟨[], [f], []⟩ := by
        rw [hlibrary, ← hcomment]
      exact ⟨hcomment, hf, fun g => by rw [Registry.defineText, hf]; rfl⟩
    · rw [if_neg (fun hdefines => hs (heading.definesFunction_iff.1 hdefines))] at hlibrary
      exact ⟨hlibrary, fun g => by rw [Registry.defineText, hlibrary]; rfl⟩
  · have hdefines : definesFunction ('.' :: cs) = true :=
      definesFunction_iff_words.2 ⟨w, hw, more, hwords⟩
    rw [h.read_command hpoint, hread, if_pos hdefines]

/-- A definition on two lines is read, and one that ends with its heading is reported. -/
theorem read_definition_of_spaced :
    (OneParagraph " .create\n function f() \x7b 1 \x7d" ∧
      read " .create\n function f() \x7b 1 \x7d" = ⟨[], [⟨"f", [], .const (.int 1), ""⟩], []⟩) ∧
    OneParagraph ".create function" ∧ ∃ message, read ".create function" = ⟨[], [], [message]⟩ := by
  have h : OneParagraph " .create\n function f() \x7b 1 \x7d" := by decide
  have htrimmed : (trimmed " .create\n function f() \x7b 1 \x7d").toList
      = ".create\nfunction f() \x7b 1 \x7d".toList := by decide
  have hread : UserFunction.read (trimmed " .create\n function f() \x7b 1 \x7d")
      = .ok ⟨"f", [], .const (.int 1), ""⟩ := by
    rw [h.read_eq_ok_iff, htrimmed]
    exact ⟨[], by cbv⟩
  let heading : Heading := ⟨[], "create", ['\n'], " f() \x7b 1 \x7d".toList, .nil false, by decide,
    .space rfl (.nil false), by decide, by decide⟩
  have hspaced : heading.Spaced := by
    refine ⟨List.forall_mem_nil _, List.forall_mem_singleton.2 (by decide), fun c hc => ?_⟩
    obtain rfl : ' ' = c := Option.some.inj hc
    decide
  obtain ⟨-, hlibrary, -⟩ :=
    (((read_definition h).1 _ hread).2 heading (htrimmed.trans (by decide))).1 hspaced
  have hshort : OneParagraph ".create function" := by decide
  have hpoint : (trimmed ".create function").toList = '.' :: "create function".toList := by decide
  refine ⟨⟨h, hlibrary⟩, hshort, ?_⟩
  cases hread : UserFunction.read (trimmed ".create function") with
  | ok f =>
      obtain ⟨rest, htakes⟩ := hshort.read_eq_ok_iff.1 hread
      have hrefused : Reader.Refuses Grammar.definition ('.' :: "create function".toList) := by cbv
      exact absurd (hpoint ▸ htakes) (Reader.not_takes_of_refuses hrefused)
  | error e =>
      exact ⟨_, (read_definition hshort).2 e _ "create" [] hread hpoint (by decide) (by decide)⟩

/-- A definition that vanishes: a name may begin right behind the word. -/
theorem not_read_definition : ¬ ∀ (t : String) (f : UserFunction), OneParagraph t →
    UserFunction.read (trimmed t) = .ok f → read t = ⟨[], [f], []⟩ := by
  intro h
  have hparagraph : OneParagraph ".create-or-alter function@f() \x7b 1 \x7d" := by decide
  have hpoint : (trimmed ".create-or-alter function@f() \x7b 1 \x7d").toList
      = '.' :: "create-or-alter function@f() \x7b 1 \x7d".toList := by decide
  have hread : UserFunction.read (trimmed ".create-or-alter function@f() \x7b 1 \x7d")
      = .ok ⟨"@f", [], .const (.int 1), ""⟩ := by
    rw [hparagraph.read_eq_ok_iff, hpoint]
    exact ⟨[], by cbv⟩
  have hlibrary := h _ _ hparagraph hread
  rw [hparagraph.read_command hpoint, if_neg (by decide)] at hlibrary
  cases hlibrary

end Library

end EventQuery
