/-
**The smallest parts of a query text.**

Names, words, text and number constants, operators, and the raw bodies of literals in parentheses.

Main definitions:

* `Token.name`, `Token.word` — names and words with a meaning;
* `Token.quoted`, `Token.verbatim`, `Token.unescape` — text constants;
* `Token.span`, `Token.real`, `Token.integer` — number constants, as their texts;
* `Token.operator` — binary operators;
* `Token.body` — a body with balanced parentheses.
-/

import EventQuery.Expr.Precedence
import EventQuery.Expr.Printer
import EventQuery.Grammar.Reader

set_option relaxedAutoImplicit false
set_option autoImplicit false

namespace EventQuery

namespace Token

open Reader

/-! ### Names and words -/

/-- A word ends here: no name character follows. -/
def atWordEnd : List Char → Bool
  | [] => true
  | c :: _ => !Expr.isNameChar c

/-- A result that no name character follows. -/
def closed {α : Type} (r : Option (α × List Char)) : Option (α × List Char) :=
  r.filter fun r => atWordEnd r.2

/-- The characters of a name. -/
def scanName : List Char → Option (String × List Char)
  | [] => none
  | c :: cs =>
      if Expr.isNameStart c then
        some (String.ofList (c :: cs.takeWhile Expr.isNameChar), cs.dropWhile Expr.isNameChar)
      else none

/-- A name. -/
def name : Reader String := scan scanName

/-- The first of several words that the text begins with. -/
def firstWord (words : List String) (cs : List Char) : Option (String × List Char) :=
  words.findSome? fun w => (Text.dropPattern? w.toList cs).map fun rest => (w, rest)

/-- **One of several words**, with no name character behind it. -/
def word (words : List String) : Reader String := scan fun cs => closed (firstWord words cs)

/-- The word `project`, which no hyphen may follow either. -/
def projectWord : Reader String :=
  scan fun cs => (closed (firstWord ["project"] cs)).filter fun r => r.2.head? != some '-'

/-- One of several words, with neither a name character nor a tilde behind it. -/
def wordNoTilde (w : String) : Reader String :=
  scan fun cs => (closed (firstWord [w] cs)).filter fun r => r.2.head? != some '~'

/-- A fixed text as a rule. -/
def symbol (text : String) : Reader String := scan fun cs => firstWord [text] cs

/-- The name of a type: a letter and name characters. -/
def typeName : Reader String :=
  scan fun cs => if cs.head?.any Expr.isLetter then scanName cs else none

/-! ### Text constants -/

/-- The characters up to a closing quote; a backslash protects the character behind it. -/
def untilQuote (quote : Char) : List Char → Option (List Char × List Char)
  | [] => none
  | c :: cs =>
      if c = quote then some ([], cs)
      else if c = '\\' then
        match cs with
        | [] => none
        | d :: rest => (untilQuote quote rest).map fun r => (c :: d :: r.1, r.2)
      else (untilQuote quote cs).map fun r => (c :: r.1, r.2)

/-- The inside of a quoted text, with its escapes. -/
def scanQuoted : List Char → Option (List Char × List Char)
  | [] => none
  | c :: cs => if Text.isQuote c then untilQuote c cs else none

/-- **Resolve escapes.**  A backslash in front of any other character stands for itself. -/
def unescape : List Char → List Char
  | [] => []
  | c :: cs =>
      if c = '\\' then
        match cs with
        | [] => ['\\']
        | d :: rest =>
            if d = '"' ∨ d = '\'' ∨ d = '\\' then d :: unescape rest
            else if d = 'n' then '\n' :: unescape rest
            else if d = 'r' then '\r' :: unescape rest
            else if d = 't' then '\t' :: unescape rest
            else '\\' :: d :: unescape rest
      else c :: unescape cs

/-- A quoted text. -/
def quoted : Reader String := scan fun cs =>
  (scanQuoted cs).map fun r => (String.ofList (unescape r.1), r.2)

/-- A quoted text after an `@`, without escapes. -/
def scanVerbatim : List Char → Option (String × List Char)
  | '@' :: q :: cs =>
      if Text.isQuote q then
        match cs.dropWhile (· != q) with
        | [] => none
        | _ :: rest => some (String.ofList (cs.takeWhile (· != q)), rest)
      else none
  | _ => none

/-- A verbatim text. -/
def verbatim : Reader String := scan scanVerbatim

/-- A name in brackets and quotes. -/
def bracketName : Reader String := rule do
  token "["
  let s ← quoted
  token "]"
  return s

/-! ### Number constants -/

/-- One digit or more. -/
def scanDigits (cs : List Char) : Option (List Char × List Char) :=
  let digits := cs.takeWhile Digits.isDigit
  if digits.isEmpty then none else some (digits, cs.dropWhile Digits.isDigit)

/-- A point and one digit or more. -/
def scanFraction : List Char → Option (List Char × List Char)
  | '.' :: cs => (scanDigits cs).map fun r => ('.' :: r.1, r.2)
  | _ => none

/-- An optional sign out of a list. -/
def scanSign (signs : List Char) : List Char → List Char × List Char
  | c :: cs => if signs.contains c then ([c], cs) else ([], c :: cs)
  | [] => ([], [])

/-- The letter `e` and a number with an optional sign. -/
def scanExponent : List Char → Option (List Char × List Char)
  | c :: cs =>
      if c = 'e' ∨ c = 'E' then
        let (sign, cs) := scanSign ['+', '-'] cs
        (scanDigits cs).map fun r => (c :: sign ++ r.1, r.2)
      else none
  | [] => none

/-- Nothing is taken when the scan fails. -/
def orNothing (scan : List Char → Option (List Char × List Char)) (cs : List Char) :
    List Char × List Char := (scan cs).getD ([], cs)

/-- The units of timespans; a unit comes before the ones that it begins with. -/
def units : List String :=
  ["days", "day", "d", "hours", "hour", "hrs", "hr", "h", "minutes", "minute", "mins", "min",
    "milliseconds", "millisecond", "millis", "milli", "ms", "microseconds", "microsecond", "m",
    "seconds", "second", "secs", "sec", "s", "ticks", "tick"]

/-- A number with a unit. -/
def scanSpan (cs : List Char) : Option (List Char × List Char) := do
  let (whole, rest) ← scanDigits cs
  let (fraction, rest) := orNothing scanFraction rest
  let (unit, rest) ← closed (firstWord units rest)
  return (whole ++ fraction ++ unit.toList, rest)

/-- A number with a unit. -/
def span : Reader (List Char) := scan scanSpan

/-- A number with a fraction, an exponent, or both. -/
def scanReal (cs : List Char) : Option (List Char × List Char) := do
  let (sign, rest) := scanSign ['-'] cs
  let (whole, rest) ← scanDigits rest
  let (tail, rest) ←
    match scanFraction rest with
    | some (fraction, rest) =>
        let (exponent, rest) := orNothing scanExponent rest
        some (fraction ++ exponent, rest)
    | none => scanExponent rest
  closed (some (sign ++ whole ++ tail, rest))

/-- A number with a fraction, an exponent, or both. -/
def real : Reader (List Char) := scan scanReal

/-- A whole number with an optional minus sign. -/
def scanInteger (cs : List Char) : Option (List Char × List Char) := do
  let (sign, rest) := scanSign ['-'] cs
  let (digits, rest) ← scanDigits rest
  closed (some (sign ++ digits, rest))

/-- A whole number with an optional minus sign. -/
def integer : Reader (List Char) := scan scanInteger

/-- A row of digits. -/
def digits : Reader (List Char) := scan scanDigits

/-! ### Operators -/

/-- One blank or more between two words on a line. -/
def dropGap (cs : List Char) : Option (List Char) :=
  let rest := cs.dropWhile fun c => c == ' ' || c == '\t'
  if rest.length < cs.length then some rest else none

/-- How an operator is read: operators in words need a word end behind them, and inequality has a
second spelling. -/
def scanOperator (op : Operator) (cs : List Char) : Option (Operator × List Char) :=
  match op with
  | .pattern => do
      let rest ← Text.dropPattern? "matches".toList cs
      let rest ← dropGap rest
      let rest ← Text.dropPattern? "regex".toList rest
      closed (some (op, rest))
  | .logic _ | .search .. => closed ((Text.dropPattern? op.token.toList cs).map fun r => (op, r))
  | .equality true false => (firstWord ["!=", "<>"] cs).map fun r => (op, r.2)
  | _ => (Text.dropPattern? op.token.toList cs).map fun r => (op, r)

/-- The operators in the order in which they are tried. -/
def operatorOrder : List Operator :=
  [.logic .either, .logic .both,
    .search .contains true true, .search .contains true false,
    .search .contains false true, .search .contains false false,
    .search .term true true, .search .term true false,
    .search .term false true, .search .term false false,
    .search .start true true, .search .start true false,
    .search .start false true, .search .start false false,
    .search .finish true true, .search .finish true false,
    .search .finish false true, .search .finish false false,
    .pattern, .equality false false, .equality false true, .equality true false,
    .equality true true, .relation .atLeast, .relation .atMost, .relation .greater,
    .relation .less, .arithmetic .add, .arithmetic .sub, .arithmetic .mul, .arithmetic .div,
    .arithmetic .mod]

/-- **A binary operator.** -/
def operator : Reader Operator := firstOf (operatorOrder.map fun op => scan (scanOperator op))

/-- The sign `not`, which needs a word end, or a minus that no digit follows. -/
def sign : Reader Sign :=
  orElse (scan fun cs => (closed (firstWord ["not"] cs)).map fun r => (.not, r.2))
    (scan fun cs =>
      match cs with
      | '-' :: rest => if rest.head?.any Digits.isDigit then none else some (.minus, rest)
      | _ => none)

/-! ### Raw bodies -/

/-- Where a body ends, and how many characters are left where looking for its end stopped.  Quoted
texts are passed over whole.  The body ends at the first closing parenthesis without a partner; when
an opening one has no partner, it ends at the outermost of these.  `outer` holds the text from the
outermost open parenthesis on; every step takes a character, so the number of characters is fuel
enough. -/
def bodyEnd (depth : Nat) (outer : List Char) : Nat → List Char → List Char × Nat
  | 0, cs => (if depth = 0 then cs else outer, cs.length)
  | fuel + 1, cs =>
      match scanQuoted cs with
      | some (_, rest) => bodyEnd depth outer fuel rest
      | none =>
          match cs with
          | [] => (if depth = 0 then [] else outer, 0)
          | '(' :: rest => bodyEnd (depth + 1) (if depth = 0 then cs else outer) fuel rest
          | ')' :: rest =>
              if depth = 0 then (cs, cs.length) else bodyEnd (depth - 1) outer fuel rest
          | _ :: rest => bodyEnd depth outer fuel rest

/-- **A body with balanced parentheses**, up to the closing one. -/
def body : Reader (List Char) := fun cs =>
  let (rest, left) := bodyEnd 0 [] (cs.length + 1) cs
  ⟨some (cs.take (cs.length - rest.length), rest), some left⟩

/-- Where a body without parentheses ends: at the first closing one outside quoted texts. -/
def flatBodyEnd : Nat → List Char → List Char
  | 0, cs => cs
  | fuel + 1, cs =>
      match scanQuoted cs with
      | some (_, rest) => flatBodyEnd fuel rest
      | none =>
          match cs with
          | [] => []
          | ')' :: _ => cs
          | _ :: rest => flatBodyEnd fuel rest

/-- A body that is passed over. -/
def flatBody : Reader Unit := fun cs =>
  let rest := flatBodyEnd (cs.length + 1) cs
  ⟨some ((), rest), some rest.length⟩

end Token

end EventQuery
