import HealthAlert.Text.Quotation

/-!
# Lone surrogates

An escape in JSON may spell one half of a surrogate pair without the other, and the text that is
read then holds a code point that is no character. Such a text can be handled like any other, but
has no UTF-8. `Char` leaves the surrogates out; so a private character that occurs nowhere else
stands for each of them, and `StandIns` tells which these are. `encodingFault?` is the place at
which a text with stand-ins cannot be encoded.
-/

namespace HealthAlert.Text

/-- The code point is the first half of a pair. -/
def isHighSurrogate (n : Nat) : Bool := decide (0xD800 ≤ n) && decide (n < 0xDC00)

/-- The code point is the second half of a pair. -/
def isLowSurrogate (n : Nat) : Bool := decide (0xDC00 ≤ n) && decide (n < 0xE000)

/-- The code point is no character. -/
def isSurrogate (n : Nat) : Bool := isHighSurrogate n || isLowSurrogate n

/-- The characters that stand for lone surrogates, each with the code of its surrogate. -/
abbrev StandIns := List (Char × Nat)

namespace StandIns

/-- The surrogate for which a character stands. -/
def code? (lone : StandIns) (c : Char) : Option Nat :=
  (lone.find? (·.1 == c)).map (·.2)

/-- The character that stands for a surrogate. -/
def char? (lone : StandIns) (code : Nat) : Option Char :=
  (lone.find? (·.2 == code)).map (·.1)

/-- The text holds a lone surrogate. -/
def occurIn (lone : StandIns) (s : String) : Bool :=
  s.toList.any fun c => (lone.code? c).isSome

end StandIns

/-- The first lone surrogates of a text, which stand side by side. -/
structure EncodingFault where
  /-- The code of the first of them. -/
  code : Nat
  /-- Where the first of them stands. -/
  start : Nat
  /-- How many there are. -/
  length : Nat
  deriving DecidableEq, Repr

/-- The first lone surrogates among characters, the first of which stands at offset `pos`. -/
def encodingFaultFrom (lone : StandIns) (pos : Nat) : List Char → Option EncodingFault
  | [] => none
  | c :: rest =>
    match lone.code? c with
    | none => encodingFaultFrom lone (pos + 1) rest
    | some code =>
      some ⟨code, pos, 1 + (rest.takeWhile fun d => (lone.code? d).isSome).length⟩

/-- What keeps a text from being encoded. -/
def encodingFault? (lone : StandIns) (s : String) : Option EncodingFault :=
  encodingFaultFrom lone 0 s.toList

/-- The fault with its place: the surrogate when it stands alone, else the range of offsets. -/
def EncodingFault.message (f : EncodingFault) : String :=
  if f.length = 1 then
    "'utf-8' codec can't encode character '\\u" ++ String.ofList (hexDigits 4 f.code) ++
      "' in position " ++ toString f.start ++ ": surrogates not allowed"
  else
    "'utf-8' codec can't encode characters in position " ++ toString f.start ++ "-" ++
      toString (f.start + f.length - 1) ++ ": surrogates not allowed"

end HealthAlert.Text
