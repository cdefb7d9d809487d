/-
**The built-in functions.**

Main definitions:

* `Function.table` — the built-in functions by name;
* `Function.builtin?` — the built-in function of a name;
* `Function.builtinNames` — their names in order.
-/

import EventQuery.Function.Dynamic
import EventQuery.Function.Network
import EventQuery.Function.Text

set_option relaxedAutoImplicit false
set_option autoImplicit false

namespace EventQuery

namespace Function

/-- The functions of texts. -/
def textFunctions : Fields Function :=
  [("strcat", variadic "strcat" 1 (some 64) joinTexts),
    ("strcat_delim", variadic "strcat_delim" 3 (some 65) joinTextsBy),
    ("strlen", unary "strlen" textLength),
    ("substring", variadic "substring" 2 (some 3) substring),
    ("split", variadic "split" 2 (some 3) split),
    ("replace", variadic "replace" 3 (some 3) replace),
    ("extract", variadic "extract" 3 (some 4) extract),
    ("indexof", variadic "indexof" 2 (some 5) indexOf),
    ("indexof_regex", variadic "indexof_regex" 2 (some 5) indexOfPattern),
    ("tolower", unary "tolower" lower),
    ("toupper", unary "toupper" upper),
    ("reverse", unary "reverse" reverse),
    ("trim", binary "trim" (trimming trimBoth)),
    ("trim_start", binary "trim_start" (trimming trimStart)),
    ("trim_end", binary "trim_end" (trimming trimEnd)),
    ("hash_sha256", unary "hash_sha256" hash)]

/-- The conversions; several have more than one name. -/
def conversions : Fields Function :=
  [("tostring", conversion "tostring" convertText),
    ("tobool", conversion "tobool" convertBool),
    ("toboolean", conversion "tobool" convertBool),
    ("bool", conversion "tobool" convertBool),
    ("toint", conversion "toint" convertInt),
    ("int", conversion "toint" convertInt),
    ("tolong", conversion "tolong" convertLong),
    ("long", conversion "tolong" convertLong),
    ("toreal", conversion "toreal" convertReal),
    ("todouble", conversion "toreal" convertReal),
    ("real", conversion "toreal" convertReal),
    ("double", conversion "toreal" convertReal),
    ("todecimal", conversion "todecimal" convertDecimal),
    ("decimal", conversion "todecimal" convertDecimal),
    ("todatetime", conversion "todatetime" convertInstant),
    ("datetime", conversion "todatetime" convertInstant),
    ("totimespan", conversion "totimespan" convertTimespan),
    ("timespan", conversion "totimespan" convertTimespan),
    ("time", conversion "totimespan" convertTimespan),
    ("toguid", conversion "toguid" convertGuid),
    ("guid", conversion "toguid" convertGuid)]

/-- The functions of times. -/
def timeFunctions : Fields Function :=
  [("ago", ago),
    ("now", now),
    ("datepart", binary "datepart" datePart),
    ("format_datetime", binary "format_datetime" formatInstant),
    ("bin", binary "bin" bin),
    ("floor", binary "bin" bin)]

/-- The functions of network addresses. -/
def networkFunctions : Fields Function :=
  [("parse_ipv4", unary "parse_ipv4" parseAddress),
    ("ipv4_fromnumber", unary "ipv4_fromnumber" addressOfNumber),
    ("InSubnet", binary "InSubnet" inSubnet),
    ("IpAddressInRange", variadic "IpAddressInRange" 3 (some 3) inRange)]

/-- The functions of records, lists and absent values. -/
def dynamicFunctions : Fields Function :=
  [("pack", variadic "pack" 2 none pack),
    ("pack_array", variadic "pack_array" 0 none fun args => .ok (.list args)),
    ("packarray", variadic "pack_array" 0 none fun args => .ok (.list args)),
    ("bag_unpack", variadic "bag_unpack" 1 (some 2) unpack),
    ("array_length", unary "array_length" size),
    ("isempty", unary "isempty" (test Value.isAbsent)),
    ("isnotempty", unary "isnotempty" (test fun v => !v.isAbsent)),
    ("isnull", unary "isnull" (test isBlank)),
    ("isnotnull", unary "isnotnull" (test fun v => !isBlank v)),
    ("not", unary "not" negate),
    ("coalesce", variadic "coalesce" 1 (some 64) coalesce),
    ("throw", variadic "throw" 0 (some 1) raise)]

/-- **The built-in functions by name.** -/
def table : Fields Function :=
  textFunctions ++ conversions ++ timeFunctions ++ networkFunctions ++ dynamicFunctions

/-- The built-in function of a name. -/
def builtin? (name : String) : Option Function := table.get? name

/-- The names of the built-in functions. -/
def builtinNames : List String := table.names

end Function

end EventQuery
