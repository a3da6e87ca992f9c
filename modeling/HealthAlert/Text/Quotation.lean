import HealthAlert.Text.Printable

/-!
# Texts shown in quotes

`quotation s` shows a text unambiguously inside messages: between single quotes, or between
double quotes when the text holds a single quote and no double one. The enclosing quote and the
backslash get a backslash, line breaks and tabs their letter, and every other character that is
not printable its code in two, four or eight lowercase hexadecimal digits.
-/

namespace HealthAlert.Text

/-- The last `width` lowercase hexadecimal digits of a number. -/
def hexDigits (width n : Nat) : List Char :=
  (List.range width).reverse.map fun i => Nat.digitChar (n / Nat.pow 16 i % 16)

/-- A character as it stands between the quotes. -/
def quotedChar (quote c : Char) : List Char :=
  if c == quote || c == '\\' then ['\\', c]
  else if c == '\n' then ['\\', 'n']
  else if c == '\r' then ['\\', 'r']
  else if c == '\t' then ['\\', 't']
  else if isPrintable c then [c]
  else if c.toNat < 0x100 then '\\' :: 'x' :: hexDigits 2 c.toNat
  else if c.toNat < 0x10000 then '\\' :: 'u' :: hexDigits 4 c.toNat
  else '\\' :: 'U' :: hexDigits 8 c.toNat

/-- The quote that encloses a text. -/
def enclosingQuote (cs : List Char) : Char :=
  if cs.contains '\'' && !cs.contains '"' then '"' else '\''

/-- The text shown in quotes. -/
def quotation (s : String) : String :=
  let cs := s.toList
  let quote := enclosingQuote cs
  String.ofList (quote :: (cs.flatMap (quotedChar quote) ++ [quote]))

end HealthAlert.Text
