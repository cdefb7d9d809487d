/-
**Texts of expressions.**

Every binary operation is put in parentheses, so the text does not depend on precedence.

Main definitions:

* `Expr.isPlainName` — a name that is written without brackets;
* `Expr.quote` — a text constant;
* `Expr.literalChars` — a constant;
* `Expr.print` — the text of an expression;
* `Expr.toJson` — its JSON rendering.
-/

import EventQuery.Expr.Basic
import EventQuery.Value.Text

set_option relaxedAutoImplicit false
set_option autoImplicit false

namespace EventQuery

namespace Expr

/-! ### Names -/

/-- A letter of the Latin alphabet without marks. -/
def isLetter (c : Char) : Bool := ('a' ≤ c && c ≤ 'z') || ('A' ≤ c && c ≤ 'Z')

/-- A character inside a name. -/
def isNameChar (c : Char) : Bool := isLetter c || Digits.isDigit c || c == '_'

/-- A character that begins a name. -/
def isNameStart (c : Char) : Bool := isLetter c || c == '_' || c == '@' || c == '$'

/-- Words with a meaning of their own. -/
def reserved : List String :=
  ["and", "or", "not", "by", "true", "false", "between", "in", "contains", "contains_cs",
    "has", "has_cs", "startswith", "startswith_cs", "endswith", "endswith_cs", "matches"]

/-- **A name that is written without brackets**: letters, digits and underscores, of which a digit
does not come first but `@` or `$` may, and none of the words with a meaning of their own. -/
def isPlainName (name : String) : Bool :=
  match name.toList with
  | [] => false
  | c :: cs => isNameStart c && cs.all isNameChar && !reserved.contains name

/-! ### Constants -/

/-- A character of a text constant. -/
def escapeChar (c : Char) : List Char :=
  if c = '"' then ['\\', '"']
  else if c = '\\' then ['\\', '\\']
  else if c = '\n' then ['\\', 'n']
  else if c = '\r' then ['\\', 'r']
  else if c = '\t' then ['\\', 't']
  else [c]

/-- The characters of a text constant, in quotes. -/
def quoteChars (s : String) : List Char := '"' :: s.toList.flatMap escapeChar ++ ['"']

/-- **A text constant**, in quotes. -/
def quote (s : String) : String := String.ofList (quoteChars s)

/-- A word with an argument in parentheses. -/
def wrapped (word : String) (body : List Char) : List Char := word.toList ++ '(' :: body ++ [')']

/-- **A constant.**  What has no bare form is written as a word with its text in parentheses. -/
def literalChars : Value → List Char
  | .null => wrapped "dynamic" "null".toList
  | .bool b => (Value.boolText b).toList
  | .int n => Digits.writeInt n.toInt
  | .long n =>
      if (Number.int? n.toInt).isSome then wrapped "long" (Digits.writeInt n.toInt)
      else Digits.writeInt n.toInt
  | .real x =>
      if Binary.isFinite x then (Layout.literal.write x).toList
      else wrapped "real" (Layout.plain.write x).toList
  | .decimal d => wrapped "decimal" d.writeChars
  | .datetime t => wrapped "datetime" t.isoChars
  | .timespan d => if d.nanos < 0 then wrapped "timespan" d.clockChars else d.literalChars
  | .guid g => wrapped "guid" g.write.toList
  | .string s => quoteChars s
  | .record fields => wrapped "dynamic" (Value.chars (.record fields))
  | .list items => wrapped "dynamic" (Value.chars (.list items))

/-- A name, in brackets and quotes when it is not plain. -/
def nameChars (name : String) : List Char :=
  if isPlainName name then name.toList else '[' :: quoteChars name ++ [']']

/-! ### Expressions -/

/-- The word of a range test. -/
def betweenWord (negated : Bool) : String := if negated then "!between" else "between"

/-- The word of a list test. -/
def amongWord (negated ignoreCase : Bool) : String :=
  (if negated then "!in" else "in") ++ (if ignoreCase then "~" else "")

mutual

/-- The characters of an expression. -/
def chars : Expr → List Char
  | .const v => literalChars v
  | .property name => nameChars name
  | .path base selector =>
      if isPlainName selector then chars base ++ '.' :: selector.toList
      else chars base ++ '[' :: quoteChars selector ++ [']']
  | .index base i => chars base ++ '[' :: chars i ++ [']']
  | .call name args => name.toList ++ '(' :: listChars args ++ [')']
  | .not e => "not(".toList ++ chars e ++ [')']
  | .binary op left right =>
      '(' :: chars left ++ ' ' :: op.token.toList ++ ' ' :: chars right ++ [')']
  | .between negated e low high =>
      '(' :: chars e ++ ' ' :: (betweenWord negated).toList ++ " (".toList ++ chars low
        ++ " .. ".toList ++ chars high ++ "))".toList
  | .among negated ignoreCase e candidates =>
      '(' :: chars e ++ ' ' :: (amongWord negated ignoreCase).toList ++ " (".toList
        ++ listChars candidates ++ "))".toList

/-- Expressions separated by commas. -/
def listChars : List Expr → List Char
  | [] => []
  | [e] => chars e
  | e :: rest => chars e ++ ',' :: ' ' :: listChars rest

end

/-- **The text of an expression.** -/
def print (e : Expr) : String := String.ofList e.chars

/-! ### JSON -/

mutual

/-- **The JSON rendering of an expression**: an object whose one field is named for the kind. -/
def toJson : Expr → Json
  | .const v => .object [("Const", v.toJson)]
  | .property name => .object [("Property", .string name)]
  | .path base selector =>
      .object [("Path", .object [("base", toJson base), ("selector", .string selector)])]
  | .index base i => .object [("Index", .object [("base", toJson base), ("index", toJson i)])]
  | .call name args =>
      .object [("Call", .object [("name", .string name), ("args", .array (listToJson args))])]
  | .not e => .object [("Not", toJson e)]
  | .binary op left right =>
      .object [("Binary", .object
        [("op", .string op.tag), ("left", toJson left), ("right", toJson right)])]
  | .between negated e low high =>
      .object [("Between", .object
        [("value", toJson e), ("low", toJson low), ("high", toJson high),
          ("negated", .bool negated)])]
  | .among negated ignoreCase e candidates =>
      .object [("In", .object
        [("value", toJson e), ("candidates", .array (listToJson candidates)),
          ("case_insensitive", .bool ignoreCase), ("negated", .bool negated)])]

/-- Expression by expression. -/
def listToJson : List Expr → List Json
  | [] => []
  | e :: rest => toJson e :: listToJson rest

end

end Expr

end EventQuery
