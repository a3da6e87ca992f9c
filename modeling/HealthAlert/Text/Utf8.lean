/-!
# Reading UTF-8

`Utf8.decode` turns bytes into text. Where the bytes are not UTF-8 it reports the first fault:
where it starts, how many bytes it covers and of which kind it is. Overlong forms, surrogates and
code points above U+10FFFF are faults at the byte that makes them certain. `Utf8.decodePassing` lets
surrogates pass, and gives code points.
-/

namespace HealthAlert.Text.Utf8

/-- Why bytes are not UTF-8. -/
inductive FaultKind where
  /-- The byte starts no character. -/
  | invalidStart
  /-- A character was begun and goes on with a byte that cannot follow. -/
  | invalidContinuation
  /-- The bytes end inside a character. -/
  | unexpectedEnd
  deriving DecidableEq, Repr

/-- The first place where bytes are not UTF-8. -/
structure Fault where
  kind : FaultKind
  /-- Offset of the first byte that is at fault. -/
  start : Nat
  /-- How many bytes are at fault. -/
  length : Nat
  /-- The first byte that is at fault. -/
  byte : UInt8
  deriving DecidableEq, Repr

/-- A continuation byte. -/
def isContinuation (b : UInt8) : Bool :=
  decide (0x80 ≤ b) && decide (b < 0xC0)

/-- The byte may follow `a` in a character of three bytes. -/
def followsInThree (a b : UInt8) : Bool :=
  isContinuation b && (if b < 0xA0 then a != 0xE0 else a != 0xED)

/-- The byte may follow `a` in a character of four bytes. -/
def followsInFour (a b : UInt8) : Bool :=
  isContinuation b && (if b < 0x90 then a != 0xF0 else a != 0xF4)

/-- The six bits that a continuation byte carries. -/
def tailBits (b : UInt8) : Nat :=
  b.toNat % 64

/-- Decode from offset `pos` on, with the characters read so far in reverse. -/
def decodeFrom (pos : Nat) (read : List Char) : List UInt8 → Except Fault (List Char)
  | [] => .ok read.reverse
  | a :: r =>
    if a < 0x80 then decodeFrom (pos + 1) (Char.ofNat a.toNat :: read) r
    else if a < 0xC2 then .error ⟨.invalidStart, pos, 1, a⟩
    else if a < 0xE0 then
      match r with
      | [] => .error ⟨.unexpectedEnd, pos, 1, a⟩
      | b :: r =>
        if isContinuation b then
          decodeFrom (pos + 2) (Char.ofNat (a.toNat % 32 * 64 + tailBits b) :: read) r
        else .error ⟨.invalidContinuation, pos, 1, a⟩
    else if a < 0xF0 then
      match r with
      | [] => .error ⟨.unexpectedEnd, pos, 1, a⟩
      | b :: r =>
        if !followsInThree a b then .error ⟨.invalidContinuation, pos, 1, a⟩
        else
          match r with
          | [] => .error ⟨.unexpectedEnd, pos, 2, a⟩
          | c :: r =>
            if isContinuation c then
              decodeFrom (pos + 3)
                (Char.ofNat ((a.toNat % 16 * 64 + tailBits b) * 64 + tailBits c) :: read) r
            else .error ⟨.invalidContinuation, pos, 2, a⟩
    else if a < 0xF5 then
      match r with
      | [] => .error ⟨.unexpectedEnd, pos, 1, a⟩
      | b :: r =>
        if !followsInFour a b then .error ⟨.invalidContinuation, pos, 1, a⟩
        else
          match r with
          | [] => .error ⟨.unexpectedEnd, pos, 2, a⟩
          | c :: r =>
            if !isContinuation c then .error ⟨.invalidContinuation, pos, 2, a⟩
            else
              match r with
              | [] => .error ⟨.unexpectedEnd, pos, 3, a⟩
              | d :: r =>
                if isContinuation d then
                  decodeFrom (pos + 4)
                    (Char.ofNat (((a.toNat % 8 * 64 + tailBits b) * 64 + tailBits c) * 64 +
                      tailBits d) :: read) r
                else .error ⟨.invalidContinuation, pos, 3, a⟩
    else .error ⟨.invalidStart, pos, 1, a⟩

/-- The text that the bytes spell in UTF-8, or their first fault. -/
def decode (bytes : List UInt8) : Except Fault (List Char) :=
  decodeFrom 0 [] bytes

/-! ## Letting surrogates pass -/

/-- The surrogate that three bytes in front spell. -/
def surrogate? : List UInt8 → Option Nat
  | a :: b :: c :: _ =>
    if a == 0xED && decide (0xA0 ≤ b) && isContinuation b && isContinuation c then
      some ((a.toNat % 16 * 64 + tailBits b) * 64 + tailBits c)
    else none
  | _ => none

/-- The code points found so far and those of the bytes read since, both in reverse. -/
def closePoints (found : List Nat) (read : List UInt8) : Option (List Nat) :=
  (decode read.reverse).toOption.map fun cs => (cs.map Char.toNat).reverse ++ found

/-- The code points of bytes, after those found so far and the bytes read since the last surrogate,
both in reverse. The next `skip` bytes belong to that surrogate. -/
def decodePassingFrom (found : List Nat) (read : List UInt8) (skip : Nat) :
    List UInt8 → Option (List Nat)
  | [] => (closePoints found read).map List.reverse
  | b :: rest =>
    if 0 < skip then decodePassingFrom found read (skip - 1) rest
    else
      match surrogate? (b :: rest) with
      | none => decodePassingFrom found (b :: read) 0 rest
      | some n =>
        match closePoints found read with
        | none => none
        | some found => decodePassingFrom (n :: found) [] 2 rest

/-- The code points that the bytes spell in UTF-8, surrogates among them. -/
def decodePassing (bytes : List UInt8) : Option (List Nat) :=
  match decode bytes with
  | .ok cs => some (cs.map Char.toNat)
  | .error _ => decodePassingFrom [] [] 0 bytes

/-- The bytes of a text. -/
def encode (cs : List Char) : List UInt8 :=
  (String.ofList cs).toUTF8.toList

/-- Two lowercase hexadecimal digits. -/
def hexByte (b : UInt8) : String :=
  String.ofList [Nat.digitChar (b.toNat / 16), Nat.digitChar (b.toNat % 16)]

/-- What is wrong, in words. -/
def FaultKind.message : FaultKind → String
  | .invalidStart => "invalid start byte"
  | .invalidContinuation => "invalid continuation byte"
  | .unexpectedEnd => "unexpected end of data"

/-- The fault with its place: the byte when it is one, else the range of offsets. -/
def Fault.message (f : Fault) : String :=
  if f.length = 1 then
    "'utf-8' codec can't decode byte 0x" ++ hexByte f.byte ++ " in position " ++
      toString f.start ++ ": " ++ f.kind.message
  else
    "'utf-8' codec can't decode bytes in position " ++ toString f.start ++ "-" ++
      toString (f.start + f.length - 1) ++ ": " ++ f.kind.message

end HealthAlert.Text.Utf8
