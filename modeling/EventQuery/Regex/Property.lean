/-
**Sets of characters by the names of their properties.**

A property is a general category or a group of them, a script, or one of a few yes-or-no properties.
Names are compared loosely: case, blanks, hyphens and underscores do not count, nor does `is` in
front of a name.

Main definitions:

* `CharSet.looseName` — the form in which names are compared;
* `CharSet.ofCategory?` — the general categories, such as `Lu` or `Letter`;
* `CharSet.ofScript?` — the scripts, such as `Greek`;
* `CharSet.ofProperty?` — a property by its name alone, or by its kind and its value.
-/

import EventQuery.Regex.CategoryTable
import EventQuery.Regex.CharSet
import EventQuery.Text.Alphanumeric

set_option relaxedAutoImplicit false
set_option autoImplicit false

namespace EventQuery

namespace Regex

namespace CharSet

/-! ### Names -/

/-- A letter or digit of a name, a small letter for a capital one; none for what does not count. -/
def looseChar? (c : Char) : Option Char :=
  if c == ' ' || c == '_' || c == '-' || c.toNat ≥ 128 then none else some c.toLower

/-- A name in the form in which names are compared.  The one name that `is` would leave with the
letter `c` alone keeps it. -/
def looseName (cs : List Char) : String :=
  match cs with
  | i :: s :: rest =>
      if i.toLower = 'i' ∧ s.toLower = 's' then
        match rest.filterMap looseChar? with
        | ['c'] => "isc"
        | kept => String.ofList kept
      else String.ofList (cs.filterMap looseChar?)
  | _ => String.ofList (cs.filterMap looseChar?)

/-! ### Categories -/

/-- The code points of runs. -/
def ofRuns (runs : List StepRun) : CharSet :=
  normalize (runs.flatMap fun (first, last, step) =>
    if step = 1 then [(first, last)]
    else (List.range ((last - first) / step + 1)).map fun i =>
      (first + i * step, first + i * step))

/-- A category with characters of its own, by its two letters. -/
def ofShortCategory (name : String) : CharSet :=
  match name with
  | "lu" => ofRuns upperLetterRuns
  | "ll" => ofRuns lowerLetterRuns
  | "lt" => ofTable titleLetterTable
  | "lm" => ofTable modifierLetterTable
  | "lo" => ofTable otherLetterTable
  | "mn" => ofTable nonspacingMarkTable
  | "mc" => ofTable spacingMarkTable
  | "me" => ofTable enclosingMarkTable
  | "nd" => digit
  | "nl" => ofTable letterNumberTable
  | "no" => ofTable otherNumberTable
  | "pc" => ofTable connectorPunctuationTable
  | "pd" => ofTable dashPunctuationTable
  | "ps" => ofTable openPunctuationTable
  | "pe" => ofTable closePunctuationTable
  | "pi" => ofTable initialPunctuationTable
  | "pf" => ofTable finalPunctuationTable
  | "po" => ofTable otherPunctuationTable
  | "sm" => ofTable mathSymbolTable
  | "sc" => ofTable currencySymbolTable
  | "sk" => ofTable modifierSymbolTable
  | "so" => ofTable otherSymbolTable
  | "zs" => ofTable spaceSeparatorTable
  | "zl" => ofTable lineSeparatorTable
  | "zp" => ofTable paragraphSeparatorTable
  | "cc" => ofTable controlTable
  | "cf" => ofTable formatTable
  | "co" => ofTable privateUseTable
  | _ => []

/-- The groups of categories by the letter that begins their names. -/
def letters : List String := ["lu", "ll", "lt", "lm", "lo"]

@[inherit_doc letters] def marks : List String := ["mn", "mc", "me"]

@[inherit_doc letters] def numbers : List String := ["nd", "nl", "no"]

@[inherit_doc letters] def punctuation : List String := ["pc", "pd", "ps", "pe", "pi", "pf", "po"]

@[inherit_doc letters] def symbols : List String := ["sm", "sc", "sk", "so"]

@[inherit_doc letters] def separators : List String := ["zs", "zl", "zp"]

/-- All categories of assigned characters. -/
def assigned : List String :=
  letters ++ marks ++ numbers ++ punctuation ++ symbols ++ separators ++ ["cc", "cf", "co"]

/-- The members of some categories. -/
def ofCategories (names : List String) : CharSet := normalize (names.flatMap ofShortCategory)

/-- The names of the categories and of their groups, each with the categories it stands for. -/
def categoryNames : List (List String × List String) :=
  [(["l", "letter"], letters), (["lc", "casedletter"], ["lu", "ll", "lt"]),
    (["m", "mark", "combiningmark"], marks), (["n", "number"], numbers),
    (["p", "punctuation", "punct"], punctuation), (["s", "symbol"], symbols),
    (["z", "separator"], separators), (["assigned"], assigned),
    (["lu", "uppercaseletter"], ["lu"]), (["ll", "lowercaseletter"], ["ll"]),
    (["lt", "titlecaseletter"], ["lt"]), (["lm", "modifierletter"], ["lm"]),
    (["lo", "otherletter"], ["lo"]), (["mn", "nonspacingmark"], ["mn"]),
    (["mc", "spacingmark"], ["mc"]), (["me", "enclosingmark"], ["me"]),
    (["nd", "decimalnumber", "digit"], ["nd"]), (["nl", "letternumber"], ["nl"]),
    (["no", "othernumber"], ["no"]), (["pc", "connectorpunctuation"], ["pc"]),
    (["pd", "dashpunctuation"], ["pd"]), (["ps", "openpunctuation"], ["ps"]),
    (["pe", "closepunctuation"], ["pe"]), (["pi", "initialpunctuation"], ["pi"]),
    (["pf", "finalpunctuation"], ["pf"]), (["po", "otherpunctuation"], ["po"]),
    (["sm", "mathsymbol"], ["sm"]), (["sc", "currencysymbol"], ["sc"]),
    (["sk", "modifiersymbol"], ["sk"]), (["so", "othersymbol"], ["so"]),
    (["zs", "spaceseparator"], ["zs"]), (["zl", "lineseparator"], ["zl"]),
    (["zp", "paragraphseparator"], ["zp"]), (["cc", "control", "cntrl"], ["cc"]),
    (["cf", "format"], ["cf"]), (["co", "privateuse"], ["co"])]

/-- **The members of a category or of a group of categories.** -/
def ofCategory? (name : String) : Option CharSet :=
  if name = "any" then some [(0, maxPoint)]
  else if name = "ascii" then some [(0, 0x7f)]
  else if name = "cn" ∨ name = "unassigned" then some (complement (ofCategories assigned))
  else if name = "c" ∨ name = "other" then
    some (complement (ofCategories
      (letters ++ marks ++ numbers ++ punctuation ++ symbols ++ separators)))
  else
    (categoryNames.find? fun entry => entry.1.contains name).map fun entry => ofCategories entry.2

/-! ### Scripts -/

/-- **The characters of a script**, by its name or its code of four letters. -/
def ofScript? (name : String) : Option CharSet :=
  match name with
  | "latin" | "latn" => some (ofTable latinTable)
  | "greek" | "grek" => some (ofTable greekTable)
  | "cyrillic" | "cyrl" => some (ofTable cyrillicTable)
  | "armenian" | "armn" => some (ofTable armenianTable)
  | "hebrew" | "hebr" => some (ofTable hebrewTable)
  | "arabic" | "arab" => some (ofTable arabicTable)
  | "devanagari" | "deva" => some (ofTable devanagariTable)
  | "thai" => some (ofTable thaiTable)
  | "georgian" | "geor" => some (ofTable georgianTable)
  | "hangul" | "hang" => some (ofTable hangulTable)
  | "hiragana" | "hira" => some (ofTable hiraganaTable)
  | "katakana" | "kana" => some (ofTable katakanaTable)
  | "han" | "hani" => some (ofTable hanTable)
  | _ => none

/-! ### Properties -/

/-- The upper-case characters: letters, and numbers and symbols made of them. -/
def uppercase : CharSet :=
  union (ofShortCategory "lu") [(0x2160, 0x216f), (0x24b6, 0x24cf), (0x1f130, 0x1f149),
    (0x1f150, 0x1f169), (0x1f170, 0x1f189)]

/-- The lower-case characters: those with case that are neither upper-case nor title-case. -/
def lowercase : CharSet :=
  diff (ofTable Text.casedTable) (union uppercase (ofShortCategory "lt"))

/-- The alphabetic characters: the alphanumeric ones that are no digits or other numbers. -/
def alphabetic : CharSet :=
  diff (ofTable Text.alphanumericTable) (ofCategories ["nd", "no"])

/-- The members of a yes-or-no property. -/
def ofFlag? (name : String) : Option CharSet :=
  match name with
  | "alphabetic" | "alpha" => some alphabetic
  | "uppercase" | "upper" => some uppercase
  | "lowercase" | "lower" => some lowercase
  | "cased" => some (ofTable Text.casedTable)
  | "caseignorable" | "ci" => some (ofTable Text.caseIgnorableTable)
  | "whitespace" | "wspace" | "space" => some space
  | "asciihexdigit" | "ahex" => some [(0x30, 0x39), (0x41, 0x46), (0x61, 0x66)]
  | "hexdigit" | "hex" =>
      some [(0x30, 0x39), (0x41, 0x46), (0x61, 0x66), (0xff10, 0xff19), (0xff21, 0xff26),
        (0xff41, 0xff46)]
  | _ => none

/-- **The members of a property.**  With a kind, the value is a category or a script as the kind
says; a name alone may be any of the three. -/
def ofProperty? (kind : Option (List Char)) (value : List Char) : Option CharSet :=
  let name := looseName value
  match kind.map looseName with
  | none => ofFlag? name <|> ofCategory? name <|> ofScript? name
  | some "gc" | some "generalcategory" => ofCategory? name
  | some "sc" | some "script" => ofScript? name
  | some _ => none

end CharSet

end Regex

end EventQuery
