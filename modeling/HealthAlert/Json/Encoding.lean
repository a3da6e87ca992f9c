import HealthAlert.Json.Surrogates
import HealthAlert.Text.Utf8
import HealthAlert.Text.Wide

/-!
# Reading JSON from bytes

JSON text may be encoded in UTF-8, UTF-16 or UTF-32. A byte order mark tells which, and is not
part of the text. Without one the zero bytes among the first four tell, since a JSON text starts
with ASCII characters. `Json.readBytes` is the value that the bytes spell in their encoding, in
which surrogates may be encoded like characters.
-/

namespace HealthAlert.Json

open Text.Wide (ByteOrder)

/-- How a text is encoded. -/
inductive Encoding where
  | utf8
  | utf16 (order : ByteOrder)
  | utf32 (order : ByteOrder)
  deriving DecidableEq, Repr

/-- The encoding that zero bytes among the first four tell. -/
def Encoding.ofZeros : List UInt8 → Encoding
  | a :: b :: c :: d :: _ =>
    if a == 0 then if b == 0 then .utf32 .big else .utf16 .big
    else if b == 0 then if c == 0 && d == 0 then .utf32 .little else .utf16 .little
    else .utf8
  | [a, b] => if a == 0 then .utf16 .big else if b == 0 then .utf16 .little else .utf8
  | _ => .utf8

/-- The encoding of bytes, and the bytes without their byte order mark. -/
def Encoding.detect : List UInt8 → Encoding × List UInt8
  | 0x00 :: 0x00 :: 0xFE :: 0xFF :: rest => (.utf32 .big, rest)
  | 0xFF :: 0xFE :: 0x00 :: 0x00 :: rest => (.utf32 .little, rest)
  | 0xFE :: 0xFF :: rest => (.utf16 .big, rest)
  | 0xFF :: 0xFE :: rest => (.utf16 .little, rest)
  | 0xEF :: 0xBB :: 0xBF :: rest => (.utf8, rest)
  | bytes => (Encoding.ofZeros bytes, bytes)

/-- The code points that bytes spell in an encoding. -/
def Encoding.decode (e : Encoding) (bytes : List UInt8) : Option (List Nat) :=
  match e with
  | .utf8 => Text.Utf8.decodePassing bytes
  | .utf16 order => Text.Wide.decode16 order bytes
  | .utf32 order => Text.Wide.decode32 order bytes

/-- What bytes spell. -/
inductive Reading where
  | value (d : Document)
  /-- The text is not JSON, for this reason at this offset. -/
  | malformed (problem : Problem) (position : Nat)
  /-- The bytes are no text, or an integer in them has too many digits. -/
  | unreadable
  deriving Repr

/-- What bytes spell in their encoding. -/
def readBytes (bytes : List UInt8) : Reading :=
  let (encoding, rest) := Encoding.detect bytes
  match encoding.decode rest with
  | none => .unreadable
  | some points =>
    match openPoints points with
    | .ok d => .value d
    | .error (.malformed problem position) => .malformed problem position
    | .error (.longInteger _) => .unreadable

end HealthAlert.Json
