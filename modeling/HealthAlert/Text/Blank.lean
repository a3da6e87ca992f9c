/-!
# White space

`isBlank` is the white space of Unicode together with the four ASCII separators U+001C to U+001F.
`trim` removes it from both ends of a text, and `isBlankText` holds of the texts that `trim`
leaves empty. The zero-width space U+200B and the byte order mark U+FEFF are not white space.
-/

namespace HealthAlert.Text

/-- White space. -/
def isBlank (c : Char) : Bool :=
  let n := c.toNat
  (decide (0x09 ≤ n) && decide (n ≤ 0x0D)) || (decide (0x1C ≤ n) && decide (n ≤ 0x20)) ||
    n == 0x85 || n == 0xA0 || n == 0x1680 || (decide (0x2000 ≤ n) && decide (n ≤ 0x200A)) ||
    n == 0x2028 || n == 0x2029 || n == 0x202F || n == 0x205F || n == 0x3000

/-- The characters without the white space at either end. -/
def trimBlanks (cs : List Char) : List Char :=
  ((cs.dropWhile isBlank).reverse.dropWhile isBlank).reverse

/-- The text without the white space at either end. -/
def trim (s : String) : String :=
  String.ofList (trimBlanks s.toList)

/-- The text holds nothing but white space; the empty text does. -/
def isBlankText (s : String) : Bool :=
  s.toList.all isBlank

end HealthAlert.Text
