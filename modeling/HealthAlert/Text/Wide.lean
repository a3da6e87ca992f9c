import HealthAlert.Text.Surrogates

/-!
# Reading UTF-16 and UTF-32

In the wide encodings a character takes one or two units of two bytes, or one unit of four. The
bytes of a unit stand in one of two orders. `Wide.decode16` and `Wide.decode32` turn bytes into code
points, and let surrogates without their other half pass; they give nothing when the bytes end
inside a unit or a unit is beyond the last code point.
-/

namespace HealthAlert.Text.Wide

/-- The order of the bytes in a unit. -/
inductive ByteOrder where
  /-- The most significant byte comes first. -/
  | big
  | little
  deriving DecidableEq, Repr

/-- The number that bytes spell, the most significant first. -/
def ofBytes (bytes : List UInt8) : Nat :=
  bytes.foldl (fun n b => n * 256 + b.toNat) 0

/-- The number that the bytes of a unit spell. -/
def ofUnit (order : ByteOrder) (bytes : List UInt8) : Nat :=
  match order with
  | .big => ofBytes bytes
  | .little => ofBytes bytes.reverse

/-- The units of two bytes, after those read so far, which are in reverse. -/
def units16From (order : ByteOrder) (read : List Nat) : List UInt8 → Option (List Nat)
  | [] => some read.reverse
  | a :: b :: rest => units16From order (ofUnit order [a, b] :: read) rest
  | _ => none

/-- The units of four bytes, after those read so far, which are in reverse. -/
def units32From (order : ByteOrder) (read : List Nat) : List UInt8 → Option (List Nat)
  | [] => some read.reverse
  | a :: b :: c :: d :: rest => units32From order (ofUnit order [a, b, c, d] :: read) rest
  | _ => none

/-- The number, if it is a code point. -/
def point? (n : Nat) : Option Nat :=
  if n < 0x110000 then some n else none

/-- The code point of two halves. -/
def joinHalves (high low : Nat) : Nat :=
  0x10000 + (high - 0xD800) * 0x400 + (low - 0xDC00)

/-- The code points of units of two bytes, after those found so far, which are in reverse. -/
def points16From (found : List Nat) : List Nat → List Nat
  | [] => found.reverse
  | [n] => (n :: found).reverse
  | n :: m :: rest =>
    if isHighSurrogate n && isLowSurrogate m then points16From (joinHalves n m :: found) rest
    else points16From (n :: found) (m :: rest)

/-- The code points that bytes spell in UTF-16. -/
def decode16 (order : ByteOrder) (bytes : List UInt8) : Option (List Nat) :=
  (units16From order [] bytes).map (points16From [])

/-- The code points that bytes spell in UTF-32. -/
def decode32 (order : ByteOrder) (bytes : List UInt8) : Option (List Nat) :=
  (units32From order [] bytes).bind fun units => units.mapM point?

end HealthAlert.Text.Wide
