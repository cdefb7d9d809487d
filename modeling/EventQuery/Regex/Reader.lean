/-
**Reading regular expressions.**

The written form has groups, names of groups, flags, classes with set operations, repetitions with
bounds, escapes and tests of the surroundings.  It has neither references to groups nor tests that
look at a whole expression ahead or behind.

Main definitions:

* `Regex.Flags` — what flags change;
* `Regex.Scanner`, `Regex.Scan` — the state of reading, and readers over it;
* `Regex.readEscape`, `Regex.readClass`, `Regex.readOpening`, `Regex.readBounds` — the parts;
* `Regex.readBranches` — the expression up to the end of its group;
* `Pattern.read?` — a whole expression; none when it is malformed or too large.
-/

import EventQuery.Number.Digits
import EventQuery.Number.Hex
import EventQuery.Regex.Basic
import EventQuery.Regex.CharSet
import EventQuery.Regex.Property
import EventQuery.Text.Alphanumeric
import EventQuery.Text.Search

set_option relaxedAutoImplicit false
set_option autoImplicit false

namespace EventQuery

namespace Regex

/-- What flags change. -/
structure Flags where
  ignoreCase : Bool
  manyLines : Bool
  dotAll : Bool
  swapGreed : Bool
  unicode : Bool
  returns : Bool
  verbose : Bool

/-- The flags at the beginning. -/
def Flags.start : Flags := ⟨false, false, false, false, true, false, false⟩

/-- The state of reading: the rest of the text, the flags in force, and the groups so far. -/
structure Scanner where
  rest : List Char
  flags : Flags
  groups : Nat
  names : List (String × Nat)

/-- Readers over the state. -/
abbrev Scan (α : Type) : Type := StateT Scanner Option α

/-! ### Characters -/

/-- Drop blanks, and comments from a number sign to the end of the line. -/
def dropVerbose (inComment : Bool) : List Char → List Char
  | [] => []
  | c :: cs =>
      if inComment then dropVerbose (c != '\n') cs
      else if Text.isBlank c then dropVerbose false cs
      else if c = '#' then dropVerbose true cs
      else c :: cs

/-- The text without what the verbose form lets stand in front of a part. -/
def Flags.unspaced (flags : Flags) (cs : List Char) : List Char :=
  if flags.verbose then dropVerbose false cs else cs

section Steps

variable {α : Type}

/-- Look at the flags and the rest of the text. -/
def peek (f : Flags → List Char → α) : Scan α := fun s => some (f s.flags s.rest, s)

/-- **Take something from the front of the text.** -/
def cut (f : List Char → Option (α × List Char)) : Scan α := fun s =>
  (f s.rest).map fun r => (r.1, { s with rest := r.2 })

end Steps

/-- The flags in force. -/
def flagsOf : Scan Flags := peek fun flags _ => flags

/-- The number of characters that are left. -/
def left : Scan Nat := peek fun _ cs => cs.length

/-- A character of a kind comes next. -/
def comesKind (kind : Char → Bool) : Scan Bool := peek fun _ cs => cs.head?.any kind

/-- A given character comes next. -/
def comes (c : Char) : Scan Bool := comesKind (· == c)

/-- Put flags in force. -/
def setFlags (flags : Flags) : Scan Unit := fun s => some ((), { s with flags := flags })

/-- Drop what the verbose form lets stand between parts. -/
def spaces : Scan Unit := fun s => some ((), { s with rest := s.flags.unspaced s.rest })

/-- The first character of a text and what stands behind it. -/
def firstChar : List Char → Option (Char × List Char)
  | [] => none
  | c :: cs => some (c, cs)

/-- Take the next character. -/
def take : Scan Char := cut firstChar

/-- Take the next character and the spaces behind it. -/
def takeSpaced : Scan Char := do
  let c ← take
  spaces
  return c

/-- A fixed text at the front, if it stands there. -/
def fixedText (text : List Char) (cs : List Char) : Bool × List Char :=
  match Text.dropPattern? text cs with
  | some rest => (true, rest)
  | none => (false, cs)

/-- Take a fixed text, if it comes next. -/
def takeIf (text : String) : Scan Bool := cut fun cs => some (fixedText text.toList cs)

/-- Fail unless a condition holds. -/
def require (condition : Bool) : Scan Unit := if condition then pure () else failure

/-- The value, if there is one. -/
def orFail {α : Type} (a : Option α) : Scan α := fun s => a.map fun a => (a, s)

/-- Take a given character. -/
def expect (c : Char) : Scan Unit := do require ((← take) == c)

/-- Take a given character and the spaces behind it. -/
def expectSpaced (c : Char) : Scan Unit := do require ((← takeSpaced) == c)

/-- As many characters of a kind as there are, each with the spaces behind it. -/
def takeWhile (kind : Char → Bool) : Nat → Scan (List Char)
  | 0 => return []
  | fuel + 1 => do
      if ← comesKind kind then do
        let c ← takeSpaced
        return c :: (← takeWhile kind fuel)
      else return []

/-- Characters of a kind up to the closing brace, each with the spaces behind it. -/
def takeBraced (kind : Char → Bool) : Nat → Scan (List Char)
  | 0 => failure
  | fuel + 1 => do
      let c ← takeSpaced
      if c = '\x7d' then return []
      else do
        require (kind c)
        return c :: (← takeBraced kind fuel)

/-! ### Sets as expressions -/

/-- The expression of a set.  Without Unicode, a set that reaches beyond the first 128 code points
is refused. -/
def ofSet (flags : Flags) (s : CharSet) : Scan Regex := do
  require (flags.unicode || s.isBelow 128)
  return .set s.toTable

/-- A set with its partners when case is ignored. -/
def foldIf (flags : Flags) (s : CharSet) : CharSet :=
  if flags.ignoreCase then CharSet.foldClosure s else s

/-- One character, with its partners when case is ignored. -/
def literal (flags : Flags) (c : Char) : Regex :=
  let closed := foldIf flags (CharSet.single c)
  let kept :=
    if flags.unicode then closed else closed.filter fun r => r.2 < 128 || r.1 == c.toNat
  .set kept.toTable

/-- Any character, line feeds only when the flags say so. -/
def dot (flags : Flags) : Scan Regex :=
  let feeds : CharSet :=
    if flags.dotAll then [] else if flags.returns then [(10, 10), (13, 13)] else [(10, 10)]
  ofSet flags (CharSet.complement feeds)

/-- The beginning of the text or of a line. -/
def startLook (flags : Flags) : Look :=
  if flags.manyLines then .lineStart flags.returns else .textStart

/-- The end of the text or of a line. -/
def endLook (flags : Flags) : Look := if flags.manyLines then .lineEnd flags.returns else .textEnd

/-! ### Escapes -/

/-- What an escape or a plain character stands for. -/
inductive Atom where
  | char (c : Char)
  | members (s : CharSet)
  | look (test : Look)
  | dot

/-- Characters with a meaning of their own. -/
def isMeta (c : Char) : Bool := "\\.+*?()|[]\x7b\x7d^$#&-~".toList.contains c

/-- A character that stands for itself behind a backslash. -/
def isEscapable (c : Char) : Bool :=
  isMeta c || (c.toNat < 128 && !c.isAlphanum && c != '<' && c != '>')

/-- The letter that names a class of characters. -/
def shorthandClass? (unicode : Bool) (c : Char) : Option CharSet :=
  if c = 'd' then some (if unicode then CharSet.digit else CharSet.asciiDigit)
  else if c = 's' then some (if unicode then CharSet.space else CharSet.asciiSpace)
  else if c = 'w' then some (if unicode then CharSet.word else CharSet.asciiWord)
  else none

/-- A character by its letter. -/
def namedChar? (c : Char) : Option Char :=
  if c = 'a' then some '\x07'
  else if c = 'f' then some '\x0c'
  else if c = 't' then some '\t'
  else if c = 'n' then some '\n'
  else if c = 'r' then some '\r'
  else if c = 'v' then some '\x0b'
  else none

/-- A character by its number. -/
def scalar? (n : Nat) : Option Char :=
  if n < 0xD800 ∨ (0xE000 ≤ n ∧ n ≤ 0x10FFFF) then some (Char.ofNat n) else none

/-- A hexadecimal digit. -/
def isHexDigit (c : Char) : Bool := (Hex.value? c).isSome

/-- A given number of hexadecimal digits. -/
def readHexDigits : Nat → Scan (List Char)
  | 0 => return []
  | n + 1 => do
      let c ← takeSpaced
      require (isHexDigit c)
      return c :: (← readHexDigits n)

/-- A character by its hexadecimal number: digits in braces, or a fixed count of them. -/
def readHex (count : Nat) : Scan Char := do
  spaces
  if ← comes '\x7b' then do
    let _ ← takeSpaced
    let digits ← takeBraced isHexDigit (← left)
    require !digits.isEmpty
    orFail ((Hex.read? digits).bind scalar?)
  else do
    let digits ← readHexDigits count
    orFail ((Hex.read? digits).bind scalar?)

/-- A character of the word that says which word edge is meant. -/
def isEdgeChar (c : Char) : Bool := c.isAlpha || c == '-'

/-- A word in braces comes next. -/
def namesEdge (flags : Flags) : List Char → Bool
  | '\x7b' :: more => (flags.unspaced more).head?.any isEdgeChar
  | _ => false

/-- The word edge that a word stands for. -/
def edge? (ascii : Bool) (word : String) : Option Look :=
  match word with
  | "start" => some (.wordStart ascii)
  | "end" => some (.wordEnd ascii)
  | "start-half" => some (.noWordBefore ascii)
  | "end-half" => some (.noWordAfter ascii)
  | _ => none

/-- The test of a word edge, perhaps with a word in braces that says which. -/
def readEdge (ascii : Bool) : Scan Look := do
  if ← peek namesEdge then do
    let _ ← takeSpaced
    let letters ← takeWhile isEdgeChar (← left)
    expect '\x7d'
    orFail (edge? ascii (String.ofList letters))
  else return .edge ascii

/-- The kind and the value of a property, with a colon or an equals sign between them; an
exclamation mark may stand before the equals sign. -/
def splitProperty (cs : List Char) : Option (List Char) × List Char :=
  match Text.split2 ':' cs with
  | some (kind, value) => (some kind, value)
  | none =>
      match Text.split2 '=' cs with
      | some (kind, value) =>
          (some (if kind.getLast? = some '!' then kind.dropLast else kind), value)
      | none => (none, cs)

/-- The kind and the value of a property: one letter, or a name in braces. -/
def readPropertyName : Scan (Option (List Char) × List Char) := do
  spaces
  let c ← takeSpaced
  if c = '\x7b' then do
    let name ← takeBraced (fun _ => true) (← left)
    return splitProperty name
  else do
    require (c != '\\')
    return (none, [c])

/-- The set of a property. -/
def readProperty (flags : Flags) (negated : Bool) : Scan CharSet := do
  let (kind, value) ← readPropertyName
  require flags.unicode
  let s ← orFail (CharSet.ofProperty? kind value)
  return if negated then (foldIf flags s).complement else foldIf flags s

/-- The set of a letter that names a class of characters; a capital letter stands for the others. -/
def shorthandSet? (unicode : Bool) (c : Char) : Option CharSet :=
  (shorthandClass? unicode c).orElse fun _ =>
    (shorthandClass? unicode c.toLower).map CharSet.complement

/-- The test that a letter stands for. -/
def namedLook? (ascii : Bool) (c : Char) : Option Look :=
  if c = 'A' then some .textStart
  else if c = 'z' then some .textEnd
  else if c = 'B' then some (.noEdge ascii)
  else if c = '<' then some (.wordStart ascii)
  else if c = '>' then some (.wordEnd ascii)
  else none

/-- What one character behind a backslash stands for. -/
def simpleEscape? (unicode : Bool) (c : Char) : Option Atom :=
  ((shorthandSet? unicode c).map Atom.members).orElse fun _ =>
    if isEscapable c then some (.char c)
    else ((namedChar? c).map Atom.char).orElse fun _ => (namedLook? (!unicode) c).map Atom.look

/-- **An escape**, behind its backslash. -/
def readEscape : Scan Atom := do
  let flags ← flagsOf
  let c ← take
  if c = 'x' then return .char (← readHex 2)
  else if c = 'u' then return .char (← readHex 4)
  else if c = 'U' then return .char (← readHex 8)
  else if c = 'p' then return .members (← readProperty flags false)
  else if c = 'P' then return .members (← readProperty flags true)
  else if c = 'b' then return .look (← readEdge !flags.unicode)
  else orFail (simpleEscape? flags.unicode c)

/-! ### Classes -/

/-- The operations on sets. -/
inductive SetOp where
  | inter
  | diff
  | symmDiff
  deriving DecidableEq

/-- Parts that stand in one row: two of them or more nest one level deeper than they do. -/
def nest (depths : List Nat) : Nat :=
  depths.foldl max 0 + if 1 < depths.length then 1 else 0

/-- What has been read of a class: the union of its items, and how deeply each of them nests. -/
structure Items where
  set : CharSet
  depths : List Nat

/-- An item more. -/
def Items.add (items : Items) (s : CharSet) (depth : Nat) : Items :=
  ⟨items.set.union s, depth :: items.depths⟩

/-- The left side of an operation, and how deeply it nests. -/
structure Pending where
  op : SetOp
  left : CharSet
  depth : Nat

/-- Close an operation that waits for its right side. -/
def closeOp (flags : Flags) (pending : Option Pending) (items : Items) : CharSet × Nat :=
  let s := CharSet.normalize items.set
  match pending with
  | none => (s, nest items.depths)
  | some p =>
      let left := foldIf flags p.left
      let right := foldIf flags s
      let made := match p.op with
        | .inter => CharSet.inter left right
        | .diff => CharSet.diff left right
        | .symmDiff => CharSet.symmDiff left right
      (made, max p.depth (nest items.depths) + 1)

/-- The operation that two equal characters stand for. -/
def setOp? : List Char → Option SetOp
  | '&' :: '&' :: _ => some .inter
  | '-' :: '-' :: _ => some .diff
  | '~' :: '~' :: _ => some .symmDiff
  | _ => none

/-- A class with a name, behind the sign that negates it. -/
def namedBody? (negated : Bool) (cs : List Char) : Option (CharSet × List Char) := do
  let name := cs.takeWhile (· != ':')
  let rest ← Text.dropPattern? [':', ']'] (cs.drop name.length)
  let s ← CharSet.named? (String.ofList name)
  return (if negated then s.complement else s, rest)

/-- A class with a name in brackets and colons; none when it is not one. -/
def namedClass? (cs : List Char) : Option (CharSet × List Char) := do
  match ← Text.dropPattern? ['[', ':'] cs with
  | '^' :: more => namedBody? true more
  | rest => namedBody? false rest

/-- A class with a name at the front, if it stands there. -/
def namedAhead (cs : List Char) : Option CharSet × List Char :=
  match namedClass? cs with
  | some (s, rest) => (some s, rest)
  | none => (none, cs)

/-- An operation at the front, if it stands there. -/
def opAhead (cs : List Char) : Option SetOp × List Char :=
  match setOp? cs with
  | some op => (some op, cs.drop 2)
  | none => (none, cs)

/-- A character or an escape inside a class. -/
def readClassAtom : Scan Atom := do
  let c ← take
  if c = '\\' then readEscape else return .char c

/-- What an atom adds to a class. -/
def atomSet : Atom → Option CharSet
  | .char c => some (CharSet.single c)
  | .members s => some s
  | _ => none

/-- A hyphen that makes a range comes next: neither the end of the class nor another hyphen stands
behind it. -/
def beginsRange (flags : Flags) : List Char → Bool
  | '-' :: more =>
      let after := (flags.unspaced more).head?
      after != some ']' && after != some '-'
  | _ => false

/-- The characters between two ends. -/
def between? : Atom → Atom → Option CharSet
  | .char a, .char b => if a.toNat ≤ b.toNat then some [(a.toNat, b.toNat)] else none
  | _, _ => none

/-- A character, a range of characters or an escape inside a class. -/
def readRange : Scan CharSet := do
  let first ← readClassAtom
  spaces
  if ← peek beginsRange then do
    let _ ← takeSpaced
    let second ← readClassAtom
    orFail (between? first second)
  else orFail (atomSet first)

/-- What stands for itself at the beginning of a class: hyphens, or else a closing bracket. -/
def readClassStart : Scan Items := do
  let hyphens ← takeWhile (· == '-') (← left)
  if hyphens.isEmpty then
    if ← comes ']' then do
      let _ ← takeSpaced
      return ⟨CharSet.single ']', [0]⟩
    else return ⟨[], []⟩
  else return ⟨CharSet.single '-', hyphens.map fun _ => 0⟩

mutual

/-- **A class**, behind its opening bracket, and how deeply it nests.  Case is folded before a class
is negated. -/
def readClass : Nat → Scan (CharSet × Nat)
  | 0 => failure
  | fuel + 1 => do
      let flags ← flagsOf
      spaces
      let negated ← comes '^'
      if negated then do
        let _ ← takeSpaced
        let (s, depth) ← readItems none (← readClassStart) fuel
        return ((foldIf flags s).complement, depth + 1)
      else do
        let (s, depth) ← readItems none (← readClassStart) fuel
        return (foldIf flags s, depth + 1)

/-- The items of a class up to its closing bracket. -/
def readItems (pending : Option Pending) (items : Items) : Nat → Scan (CharSet × Nat)
  | 0 => failure
  | fuel + 1 => do
      let flags ← flagsOf
      spaces
      if ← comes '[' then do
        match ← cut fun cs => some (namedAhead cs) with
        | some s => readItems pending (items.add s 0) fuel
        | none => do
            let _ ← take
            let (s, depth) ← readClass fuel
            readItems pending (items.add s depth) fuel
      else if ← comes ']' then do
        let _ ← take
        return closeOp flags pending items
      else do
        match ← cut fun cs => some (opAhead cs) with
        | some op => do
            let (s, depth) := closeOp flags pending items
            readItems (some ⟨op, s, depth⟩) ⟨[], []⟩ fuel
        | none => do
            let s ← readRange
            readItems pending (items.add s 0) fuel

end

/-! ### Flags and groups -/

/-- Set a flag by its letter. -/
def setFlag? (flags : Flags) (on : Bool) (c : Char) : Option Flags :=
  if c = 'i' then some { flags with ignoreCase := on }
  else if c = 'm' then some { flags with manyLines := on }
  else if c = 's' then some { flags with dotAll := on }
  else if c = 'U' then some { flags with swapGreed := on }
  else if c = 'u' then some { flags with unicode := on }
  else if c = 'R' then some { flags with returns := on }
  else if c = 'x' then some { flags with verbose := on }
  else none

/-- The letters of a group of flags and the sign behind them: the flags, whether the sign closes the
group, and whether there were no letters.  No letter comes twice, and at most one minus sign, which
switches off the flags behind it and does not stand last. -/
def scanFlags (flags : Flags) (on : Bool) (seen : List Char) :
    List Char → Option ((Flags × Bool × Bool) × List Char)
  | [] => none
  | c :: cs =>
      if c = ':' ∨ c = ')' then
        if seen.head? = some '-' then none else some ((flags, c == ')', seen.isEmpty), cs)
      else if seen.contains c then none
      else if c = '-' then scanFlags flags false (c :: seen) cs
      else
        match setFlag? flags on c with
        | some changed => scanFlags changed on (c :: seen) cs
        | none => none

/-- A character of the name of a group. -/
def isGroupNameChar (first : Bool) (c : Char) : Bool :=
  c == '_' || (if first then Text.isAlphanumeric c && !CharSet.digit.mem c.toNat
    else Text.isAlphanumeric c || c == '.' || c == '[' || c == ']')

/-- The characters name a group. -/
def isGroupName : List Char → Bool
  | [] => false
  | c :: cs => isGroupNameChar true c && cs.all (isGroupNameChar false)

/-- The name of a group, up to the closing angle bracket. -/
def scanGroupName (cs : List Char) : Option (String × List Char) :=
  let name := cs.takeWhile (· != '>')
  if isGroupName name then
    (Text.dropPattern? ['>'] (cs.drop name.length)).map fun rest => (String.ofList name, rest)
  else none

/-- What opens with a parenthesis. -/
inductive Opening where
  | flags (flags : Flags)
  | group (index : Option Nat) (flags : Flags)

/-- A new group, and the number of groups before it. -/
def newGroup : Scan Nat := fun s => some (s.groups, { s with groups := s.groups + 1 })

/-- Give a group a name, which no other group has. -/
def nameGroup (name : String) (index : Nat) : Scan Unit := fun s =>
  if s.names.any fun entry => entry.1 == name then none
  else some ((), { s with names := s.names ++ [(name, index)] })

/-- The text begins with the mark of a test that looks ahead or behind. -/
def looksAround (cs : List Char) : Bool :=
  [['?', '='], ['?', '!'], ['?', '<', '='], ['?', '<', '!']].any fun mark =>
    Text.startsWith cs mark

/-- What stands behind an opening parenthesis. -/
def readOpening (flags : Flags) : Scan Opening := do
  spaces
  require !(← peek fun _ cs => looksAround cs)
  if ← takeIf "?P<" then readNamedGroup
  else if ← takeIf "?<" then readNamedGroup
  else if ← takeIf "?" then do
    let (changed, closed, bare) ← cut (scanFlags flags true [])
    if closed then do
      require !bare
      return .flags changed
    else return .group none changed
  else return .group (some (← newGroup)) flags
where
  /-- A group with a name. -/
  readNamedGroup : Scan Opening := do
    let index ← newGroup
    nameGroup (← cut scanGroupName) (index + 1)
    return .group (some index) flags

/-! ### Repetition -/

/-- A number of rounds, blanks around it being dropped; it has to fit in 32 bits. -/
def scanCount (cs : List Char) : Option (Nat × List Char) :=
  let rest := cs.dropWhile Text.isBlank
  let digits := rest.takeWhile Digits.isDigit
  if digits.isEmpty ∨ 0x100000000 ≤ Digits.read digits then none
  else some (Digits.read digits, (rest.drop digits.length).dropWhile Text.isBlank)

/-- The bounds of a repetition, behind the opening brace. -/
def readBounds : Scan (Nat × Option Nat) := do
  spaces
  let least ← cut scanCount
  if ← comes ',' then do
    let _ ← takeSpaced
    if ← comes '\x7d' then do
      let _ ← takeSpaced
      return (least, none)
    else do
      let most ← cut scanCount
      expectSpaced '\x7d'
      require (least ≤ most)
      return (least, some most)
  else do
    expectSpaced '\x7d'
    return (least, some least)

/-- A question mark makes a repetition lazy. -/
def readLazy (flags : Flags) : Scan Bool := do
  let isLazy ← takeIf "?"
  return (!isLazy) != flags.swapGreed

/-! ### Expressions -/

/-- An expression, and how deeply the parts nest of which it is written. -/
structure Nested where
  regex : Regex
  depth : Nat
  deriving Inhabited

/-- What has been read of a sequence: the last part comes first, and one that only sets flags cannot
be repeated. -/
abbrev Parts := List (Option Nested)

/-- A sequence from its parts. -/
def ofParts (parts : Parts) : Nested :=
  ⟨sequence (parts.reverse.filterMap fun p => p.map Nested.regex),
    nest (parts.map fun p => (p.map Nested.depth).getD 0)⟩

/-- The expression of branches, the last one first. -/
def ofBranches (branches : List Nested) : Nested :=
  ⟨choice (branches.reverse.map Nested.regex), nest (branches.map Nested.depth)⟩

/-- The expression of an atom outside classes. -/
def ofAtom (flags : Flags) : Atom → Scan Regex
  | .char c => return literal flags c
  | .members s => ofSet flags s
  | .look test => return .look test
  | .dot => dot flags

/-- A repetition sign behind the last part. -/
def repeatLast (flags : Flags) (parts : Parts) (least : Nat) (most : Option Nat) : Scan Parts :=
  match parts with
  | some r :: rest => do
      let greedy ← readLazy flags
      return some ⟨.repeated least most greedy r.regex, r.depth + 1⟩ :: rest
  | _ => failure

/-- A part without depth of its own. -/
def addPart (parts : Parts) (r : Regex) : Parts := some ⟨r, 0⟩ :: parts

/-- A part that is no group, behind its first character. -/
def readPart (flags : Flags) (parts : Parts) (c : Char) : Scan Parts := do
  match c with
  | '[' => do
      let (s, depth) ← readClass (2 * (← left) + 2)
      return some ⟨← ofSet flags s, depth⟩ :: parts
  | '*' => repeatLast flags parts 0 none
  | '+' => repeatLast flags parts 1 none
  | '?' => repeatLast flags parts 0 (some 1)
  | '\x7b' => do
      let (least, most) ← readBounds
      repeatLast flags parts least most
  | '\\' => return addPart parts (← ofAtom flags (← readEscape))
  | '.' => return addPart parts (← ofAtom flags .dot)
  | '^' => return addPart parts (.look (startLook flags))
  | '$' => return addPart parts (.look (endLook flags))
  | c => return addPart parts (literal flags c)

/-- The expression or a group of it ends here. -/
def endsHere (cs : List Char) : Bool := cs.head?.all (· == ')')

/-- The expression of a group around another one. -/
def ofGroup (index : Option Nat) (r : Nested) : Nested :=
  ⟨match index with
    | some i => .group i r.regex
    | none => r.regex, r.depth + 1⟩

/-- **The branches of an expression**, up to the end of the text or of the group.  `branches` holds
the branches before this one, the last one first. -/
def readBranches (branches : List Nested) (parts : Parts) : Nat → Scan Nested
  | 0 => failure
  | fuel + 1 => do
      spaces
      let flags ← flagsOf
      if ← peek fun _ cs => endsHere cs then return ofBranches (ofParts parts :: branches)
      else do
        let c ← take
        if c = '|' then readBranches (ofParts parts :: branches) [] fuel
        else if c = '(' then do
          match ← readOpening flags with
          | .flags changed => do
              setFlags changed
              readBranches branches (none :: parts) fuel
          | .group index inner => do
              setFlags inner
              let r ← readBranches [] [] fuel
              expect ')'
              setFlags flags
              readBranches branches (some (ofGroup index r) :: parts) fuel
        else do
          readBranches branches (← readPart flags parts c) fuel

/-- The greatest weight of an expression. -/
def maxWeight : Nat := 300000

/-- The greatest depth of an expression. -/
def maxDepth : Nat := 250

/-- An expression that is neither too large nor too deep. -/
def Nested.fits (r : Nested) : Bool := r.regex.weight ≤ maxWeight && r.depth ≤ maxDepth

/-- The expression at the front of a text, and the state behind it. -/
def readFront (cs : List Char) : Option (Nested × Scanner) :=
  readBranches [] [] (cs.length + 1) ⟨cs, .start, 0, []⟩

/-- The expression that a whole text is, and the state behind it. -/
def readWhole (text : String) : Option (Nested × Scanner) :=
  (readFront text.toList).filter fun r => r.2.rest.isEmpty

end Regex

/-- **A whole expression**; none when it is malformed or too large. -/
def Pattern.read? (text : String) : Option Pattern :=
  ((Regex.readWhole text).filter fun r => r.1.fits).map fun r =>
    ⟨r.1.regex, r.2.groups, r.2.names⟩

end EventQuery
