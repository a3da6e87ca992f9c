import HealthAlert.Decimal.Reading
import HealthAlert.Text.Surrogates
import HealthAlert.Value.Integers

/-!
# Tokens of JSON text

`Json.tokens` cuts a text into its tokens, each with the offset of its first character. A text
that is not closed or holds a faulty escape, and a character that starts no token, become tokens
too: whether they are at fault depends on what is expected in their place.

Besides the numbers of the format, `NaN`, `Infinity` and `-Infinity` are numbers here.
-/

namespace HealthAlert.Json

open Text (isHighSurrogate isLowSurrogate isSurrogate)

/-- What can be wrong with a text. -/
inductive Problem where
  | expectedValue
  | expectedPropertyName
  | expectedColon
  | expectedComma
  | unterminatedText
  | controlCharacter
  | invalidEscape
  | invalidCodeEscape
  | extraData
  | byteOrderMark
  deriving DecidableEq, Repr

/-- A token. -/
inductive Token where
  | openBracket
  | closeBracket
  | openBrace
  | closeBrace
  | comma
  | colon
  | text (s : String)
  /-- A number, a truth value or null. -/
  | word (v : Value)
  /-- The start of a text that cannot be read. -/
  | faultyText (problem : Problem) (position : Nat)
  /-- An integer with more digits than are read. -/
  | longInteger (digits : Nat)
  /-- A character that starts no token. -/
  | stray
  deriving Repr

/-- A token with the offset of its first character. -/
structure Located where
  token : Token
  start : Nat
  deriving Repr

/-- White space between tokens. -/
def isSpace (c : Char) : Bool :=
  c == ' ' || c == '\t' || c == '\n' || c == '\r'

/-! ## Texts -/

/-- The code that a backslash followed by one character stands for. -/
def escapeCode? : Char → Option Nat
  | '"' => some 0x22
  | '\\' => some 0x5C
  | '/' => some 0x2F
  | 'b' => some 0x08
  | 'f' => some 0x0C
  | 'n' => some 0x0A
  | 'r' => some 0x0D
  | 't' => some 0x09
  | _ => none

/-- The value of a hexadecimal digit. -/
def hexValue? (c : Char) : Option Nat :=
  if '0' ≤ c ∧ c ≤ '9' then some (c.toNat - '0'.toNat)
  else if 'a' ≤ c ∧ c ≤ 'f' then some (c.toNat - 'a'.toNat + 10)
  else if 'A' ≤ c ∧ c ≤ 'F' then some (c.toNat - 'A'.toNat + 10)
  else none

/-- The code that four hexadecimal digits stand for. -/
def hexCode? (a b c d : Char) : Option Nat :=
  match hexValue? a, hexValue? b, hexValue? c, hexValue? d with
  | some a, some b, some c, some d => some (((a * 16 + b) * 16 + c) * 16 + d)
  | _, _, _, _ => none

/-- A code as a character. A surrogate without its other half is none: where texts may hold such
surrogates, `Json.settle` puts stand-ins in their place before the text is read, and the replacement
character here is the stand-in of one for which no other was left. -/
def charOfCode (n : Nat) : Char :=
  if isSurrogate n then Char.ofNat 0xFFFD else Char.ofNat n

/-- The characters of codes given in reverse, put before `read`. Two halves that stand together
make one character. -/
def joinCodes (read : List Char) : List Nat → List Char
  | [] => read
  | [n] => charOfCode n :: read
  | low :: high :: rest =>
    if isLowSurrogate low && isHighSurrogate high then
      joinCodes (Char.ofNat (0x10000 + (high - 0xD800) * 0x400 + (low - 0xDC00)) :: read) rest
    else joinCodes (charOfCode low :: read) (high :: rest)

/-- The result of reading a text. -/
inductive TextScan where
  /-- The text, and the offset after its closing quote. -/
  | closed (s : String) (stop : Nat)
  | faulty (problem : Problem) (position : Nat)

/-- Read a text that was opened at offset `start`, from offset `pos` on; `codes` are the codes
read so far, in reverse. -/
def scanText (start pos : Nat) (codes : List Nat) : List Char → TextScan
  | [] => .faulty .unterminatedText start
  | '"' :: _ => .closed (String.ofList (joinCodes [] codes)) (pos + 1)
  | ['\\'] => .faulty .unterminatedText start
  | '\\' :: 'u' :: a :: b :: c :: d :: e :: rest =>
    match hexCode? a b c d with
    | some n => scanText start (pos + 6) (n :: codes) (e :: rest)
    | none => .faulty .invalidCodeEscape (pos + 1)
  | '\\' :: 'u' :: _ => .faulty .invalidCodeEscape (pos + 1)
  | '\\' :: c :: rest =>
    match escapeCode? c with
    | some n => scanText start (pos + 2) (n :: codes) rest
    | none => .faulty .invalidEscape pos
  | c :: rest =>
    if c.toNat < 0x20 then .faulty .controlCharacter pos
    else scanText start (pos + 1) (c.toNat :: codes) rest

/-! ## Numbers and words -/

/-- The characters of a number in front, cut into sign, integer, fraction and exponent. -/
structure NumberText where
  negative : Bool
  whole : List Char
  fraction : List Char
  exponent : List Char

/-- The length of a number's text. -/
def NumberText.length (n : NumberText) : Nat :=
  (if n.negative then 1 else 0) + n.whole.length + n.fraction.length + n.exponent.length

/-- The fraction in front: a point and at least one digit. -/
def fractionText : List Char → List Char
  | '.' :: rest =>
    match rest.takeWhile Char.isDigit with
    | [] => []
    | ds => '.' :: ds
  | _ => []

/-- The exponent in front: its letter, a sign perhaps, and at least one digit. -/
def exponentText : List Char → List Char
  | c :: rest =>
    if c == 'e' || c == 'E' then
      let sign := match rest with
        | '+' :: _ => ['+']
        | '-' :: _ => ['-']
        | _ => []
      match (rest.drop sign.length).takeWhile Char.isDigit with
      | [] => []
      | ds => c :: (sign ++ ds)
    else []
  | [] => []

/-- The number in front. An integer part that starts with zero is that zero. -/
def numberText? (cs : List Char) : Option NumberText :=
  let (negative, rest) := match cs with
    | '-' :: r => (true, r)
    | r => (false, r)
  let whole := match rest with
    | '0' :: _ => ['0']
    | r => r.takeWhile Char.isDigit
  if whole.isEmpty then none
  else
    let rest := rest.drop whole.length
    let fraction := fractionText rest
    let exponent := exponentText (rest.drop fraction.length)
    some ⟨negative, whole, fraction, exponent⟩

/-- The token of a number: an integer unless it has a fraction or an exponent. -/
def NumberText.token (n : NumberText) : Token :=
  if n.fraction.isEmpty && n.exponent.isEmpty then
    if maxIntegerDigits < n.whole.length then .longInteger n.whole.length
    else
      let m : Int := Decimal.ofDigits n.whole
      .word (.int (if n.negative then -m else m))
  else
    let (e, _) := Double.exponentPart n.exponent
    let places := n.fraction.drop 1
    .word (.float
      (Double.ofScientific n.negative (Decimal.ofDigits (n.whole ++ places)) (e - places.length)))

/-- The words of the format and the values they stand for. -/
def words : List (String × Value) := [
  ("null", .null), ("true", .bool true), ("false", .bool false), ("NaN", .float .nan),
  ("Infinity", .float (.infinite false)), ("-Infinity", .float (.infinite true))]

/-- The word in front, with its length. -/
def word? (cs : List Char) : Option (Value × Nat) :=
  (words.find? fun w => w.1.toList.isPrefixOf cs).map fun w => (w.2, w.1.length)

/-! ## The text cut into tokens -/

/-- The token whose first character is `c`, at offset `pos`, and how many characters after `c`
belong to it. -/
def tokenAt (pos : Nat) (c : Char) (rest : List Char) : Token × Nat :=
  if c == '[' then (.openBracket, 0)
  else if c == ']' then (.closeBracket, 0)
  else if c == '\x7b' then (.openBrace, 0)
  else if c == '\x7d' then (.closeBrace, 0)
  else if c == ',' then (.comma, 0)
  else if c == ':' then (.colon, 0)
  else if c == '"' then
    match scanText pos (pos + 1) [] rest with
    | .closed s stop => (.text s, stop - pos - 1)
    | .faulty p at' => (.faultyText p at', 0)
  else
    match word? (c :: rest) with
    | some (v, n) => (.word v, n - 1)
    | none =>
      match numberText? (c :: rest) with
      | some n => (n.token, n.length - 1)
      | none => (.stray, 0)

/-- The tokens from offset `pos` on, put in reverse before those found so far. The next `skip`
characters belong to the token found last. -/
def tokensFrom (found : List Located) (pos skip : Nat) : List Char → List Located
  | [] => found.reverse
  | c :: rest =>
    if 0 < skip then tokensFrom found (pos + 1) (skip - 1) rest
    else if isSpace c then tokensFrom found (pos + 1) 0 rest
    else
      let (t, n) := tokenAt pos c rest
      tokensFrom (⟨t, pos⟩ :: found) (pos + 1) n rest

/-- The tokens of a text. -/
def tokens (cs : List Char) : List Located :=
  tokensFrom [] 0 0 cs

end HealthAlert.Json
