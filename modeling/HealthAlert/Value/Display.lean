import HealthAlert.Decimal.Layout
import HealthAlert.Text.Quotation
import HealthAlert.Value.Basic

/-!
# Values in messages

`Value.quoted` shows a value so that its type can be seen: texts in quotes, lists in brackets,
tuples in parentheses, records in braces. `Value.display` shows a text as it is and every other
value like `quoted`.
-/

namespace HealthAlert

/-- A foreign value, shown with its type. -/
def Foreign.quoted : Foreign → String
  | .emptySet => "set()"
  | .emptyFrozenSet => "frozenset()"
  | .bytes => "b'x'"
  | .byteArray => "bytearray(b'x')"
  | .complex => "1j"
  | .range => "range(0, 3)"
  | .exactDecimal => "Decimal('1')"
  | .object _ _ shown => shown

/-- A foreign value as a text. -/
def Foreign.display : Foreign → String
  | .exactDecimal => "1"
  | .object _ text _ => text
  | k => k.quoted

namespace Value

mutual

/-- The value, shown with its type. -/
def quoted : Value → String
  | .null => "None"
  | .bool b => if b then "True" else "False"
  | .int n => toString n
  | .float x => x.text
  | .text s => Text.quotation s
  | .member m => "<" ++ m.fullName ++ ": " ++ Text.quotation m.text ++ ">"
  | .list xs => "[" ++ String.intercalate ", " (quotedItems xs) ++ "]"
  | .tuple xs =>
    match quotedItems xs with
    | [x] => "(" ++ x ++ ",)"
    | shown => "(" ++ String.intercalate ", " shown ++ ")"
  | .record es => "\x7b" ++ String.intercalate ", " (quotedEntries es) ++ "\x7d"
  | .foreign k => k.quoted

/-- The elements, each shown with its type. -/
def quotedItems : List Value → List String
  | [] => []
  | x :: xs => quoted x :: quotedItems xs

/-- The entries, each as its key and its value. -/
def quotedEntries : List (String × Value) → List String
  | [] => []
  | (k, v) :: es => (Text.quotation k ++ ": " ++ quoted v) :: quotedEntries es

end

/-- The value as a text. -/
def display : Value → String
  | .text s => s
  | .member m => m.fullName
  | .foreign k => k.display
  | v => v.quoted

end Value

end HealthAlert
