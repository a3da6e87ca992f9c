import HealthAlert.Text.Quotation
import HealthAlert.Value.Integers

/-!
# Writing JSON

`Json.write` gives a value's text on one line in a given style, `Json.writeIndented` over several
lines; `Json.write?` gives none where an integer is too long. A member of an enumeration is written
as its text, a tuple as an array, and a foreign value as the text that displays it. A number that is
infinite or not a number is written as a word; `Json.hasNonFinite` tells whether there is one.
-/

namespace HealthAlert.Json

/-- How values are written. -/
structure Style where
  /-- Only printable ASCII characters: everything else is escaped. -/
  asciiOnly : Bool
  itemSeparator : List Char
  keySeparator : List Char

/-- The style of log lines. -/
def spaced : Style := ⟨true, [',', ' '], [':', ' ']⟩

/-- The style of answers. -/
def compact : Style := ⟨false, [','], [':']⟩

/-- A code escaped by four hexadecimal digits. -/
def escapedCode (n : Nat) : List Char :=
  '\\' :: 'u' :: Text.hexDigits 4 n

/-- A character escaped by its code, or by two halves when it lies beyond the first plane. -/
def escapedChar (c : Char) : List Char :=
  if c.toNat < 0x10000 then escapedCode c.toNat
  else
    let n := c.toNat - 0x10000
    escapedCode (0xD800 + n / 0x400) ++ escapedCode (0xDC00 + n % 0x400)

/-- A character inside the quotes of a text. -/
def writeChar (asciiOnly : Bool) (c : Char) : List Char :=
  if c == '"' then ['\\', '"']
  else if c == '\\' then ['\\', '\\']
  else if c == '\n' then ['\\', 'n']
  else if c == '\r' then ['\\', 'r']
  else if c == '\t' then ['\\', 't']
  else if c == '\x08' then ['\\', 'b']
  else if c == '\x0c' then ['\\', 'f']
  else if c.toNat < 0x20 then escapedCode c.toNat
  else if asciiOnly && decide (0x7F ≤ c.toNat) then escapedChar c
  else [c]

/-- A text between double quotes. -/
def writeText (asciiOnly : Bool) (s : String) : List Char :=
  '"' :: (s.toList.flatMap (writeChar asciiOnly) ++ ['"'])

/-- A number with its shortest digits, or its word. -/
def writeDouble : Double → List Char
  | .nan => "NaN".toList
  | .infinite true => "-Infinity".toList
  | .infinite false => "Infinity".toList
  | x => x.text.toList

/-- A value that holds no others. -/
def writeLeaf (asciiOnly : Bool) : Value → List Char
  | .null => "null".toList
  | .bool b => (if b then "true" else "false").toList
  | .int n => (toString n).toList
  | .float x => writeDouble x
  | .text s => writeText asciiOnly s
  | .member m => writeText asciiOnly m.text
  | .foreign k => writeText asciiOnly k.display
  | .list _ => []
  | .tuple _ => []
  | .record _ => []

mutual

/-- The characters of a value on one line. -/
def writeChars (style : Style) : Value → List Char
  | .list xs => '[' :: (writeItems style xs ++ [']'])
  | .tuple xs => '[' :: (writeItems style xs ++ [']'])
  | .record es => '\x7b' :: (writeEntries style es ++ ['\x7d'])
  | v => writeLeaf style.asciiOnly v

/-- The elements with separators between them. -/
def writeItems (style : Style) : List Value → List Char
  | [] => []
  | [x] => writeChars style x
  | x :: xs => writeChars style x ++ (style.itemSeparator ++ writeItems style xs)

/-- The entries with separators between them. -/
def writeEntries (style : Style) : List (String × Value) → List Char
  | [] => []
  | [(k, v)] => writeText style.asciiOnly k ++ (style.keySeparator ++ writeChars style v)
  | (k, v) :: es =>
    writeText style.asciiOnly k ++ (style.keySeparator ++ (writeChars style v ++
      (style.itemSeparator ++ writeEntries style es)))

end

/-- The text of a value on one line. -/
def write (style : Style) (v : Value) : String :=
  String.ofList (writeChars style v)

/-- The text of a value on one line, unless an integer in it is too long. -/
def write? (style : Style) (v : Value) : Option String :=
  if v.holdsLong then none else some (write style v)

/-- A line break and the indent of a nesting depth, two spaces for each level. -/
def lineBreak (depth : Nat) : List Char :=
  '\n' :: List.replicate (2 * depth) ' '

mutual

/-- The characters of a value whose elements and entries take a line each, in ASCII. -/
def indentedChars (depth : Nat) : Value → List Char
  | .list [] => ['[', ']']
  | .tuple [] => ['[', ']']
  | .record [] => ['\x7b', '\x7d']
  | .list xs => '[' :: (indentedItems (depth + 1) xs ++ (lineBreak depth ++ [']']))
  | .tuple xs => '[' :: (indentedItems (depth + 1) xs ++ (lineBreak depth ++ [']']))
  | .record es => '\x7b' :: (indentedEntries (depth + 1) es ++ (lineBreak depth ++ ['\x7d']))
  | v => writeLeaf true v

/-- The elements, each on its line. -/
def indentedItems (depth : Nat) : List Value → List Char
  | [] => []
  | [x] => lineBreak depth ++ indentedChars depth x
  | x :: xs => lineBreak depth ++ (indentedChars depth x ++ ',' :: indentedItems depth xs)

/-- The entries, each on its line. -/
def indentedEntries (depth : Nat) : List (String × Value) → List Char
  | [] => []
  | [(k, v)] => lineBreak depth ++ (writeText true k ++ ':' :: ' ' :: indentedChars depth v)
  | (k, v) :: es =>
    lineBreak depth ++ (writeText true k ++
      ':' :: ' ' :: (indentedChars depth v ++ ',' :: indentedEntries depth es))

end

/-- The text of a value over several lines. -/
def writeIndented (v : Value) : String :=
  String.ofList (indentedChars 0 v)

mutual

/-- The value holds a number that is infinite or not a number. -/
def hasNonFinite : Value → Bool
  | .float (.finite _ _ _) => false
  | .float _ => true
  | .list xs => anyNonFinite xs
  | .tuple xs => anyNonFinite xs
  | .record es => anyEntryNonFinite es
  | _ => false

/-- One of the values holds such a number. -/
def anyNonFinite : List Value → Bool
  | [] => false
  | x :: xs => hasNonFinite x || anyNonFinite xs

/-- One of the entries holds such a number. -/
def anyEntryNonFinite : List (String × Value) → Bool
  | [] => false
  | (_, v) :: es => hasNonFinite v || anyEntryNonFinite es

end

end HealthAlert.Json
