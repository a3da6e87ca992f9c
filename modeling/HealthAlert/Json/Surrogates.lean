import HealthAlert.Json.Reader
import HealthAlert.Text.Surrogates

/-!
# JSON with lone surrogates

`Json.settle` prepares the code points of a JSON text for reading: every surrogate that is spelled
without its other half, by an escape or by itself, is replaced by a character that the text spells
nowhere else. Replaced escapes keep their length, so that faults are reported at the same places.
`Json.openText` reads the text, and tells which characters of the value are stand-ins.
-/

namespace HealthAlert.Json

open Text (StandIns isHighSurrogate isLowSurrogate isSurrogate)

/-- A part of a JSON text. -/
inductive Part where
  /-- A code point that stays. -/
  | kept (code : Nat)
  /-- A surrogate without its other half, spelled by an escape or by itself. -/
  | lone (code : Nat) (escaped : Bool)
  deriving DecidableEq, Repr

/-- The surrogate that a part is. -/
def Part.lone? : Part → Option Nat
  | .kept _ => none
  | .lone code _ => some code

/-- The code that an escape spells, from the code points behind its backslash. -/
def escapedCode? : List Nat → Option Nat
  | u :: a :: b :: c :: d :: _ =>
    if u = 'u'.toNat then hexCode? (Char.ofNat a) (Char.ofNat b) (Char.ofNat c) (Char.ofNat d)
    else none
  | _ => none

/-- An escape of the second half of a pair stands in front. -/
def startsLow : List Nat → Bool
  | n :: rest => n == '\\'.toNat && (escapedCode? rest).any isLowSurrogate
  | [] => false

/-- The parts of a text, after those found so far, which are in reverse. The next `skip` code points
belong to an escape, and are parts unless the escape is that of a lone surrogate. -/
def partsFrom (found : List Part) (skip : Nat) (shown : Bool) : List Nat → List Part
  | [] => found.reverse
  | n :: rest =>
    if 0 < skip then
      partsFrom (if shown then .kept n :: found else found) (skip - 1) shown rest
    else if n = '\\'.toNat then
      match escapedCode? rest with
      | none => partsFrom (.kept n :: found) 1 true rest
      | some code =>
        if isHighSurrogate code && startsLow (rest.drop 5) then
          partsFrom (.kept n :: found) 11 true rest
        else if isSurrogate code then partsFrom (.lone code true :: found) 5 false rest
        else partsFrom (.kept n :: found) 5 true rest
    else if isSurrogate n then partsFrom (.lone n false :: found) 0 true rest
    else partsFrom (.kept n :: found) 0 true rest

/-- The parts of a text. -/
def parts (points : List Nat) : List Part :=
  partsFrom [] 0 true points

/-- The surrogates that a text spells without their other halves. -/
def loneCodes (points : List Nat) : List Nat :=
  ((parts points).filterMap Part.lone?).eraseDups

/-- The codes that escapes of a text spell, after those found so far. -/
def escapedCodesFrom (found : List Nat) : List Nat → List Nat
  | [] => found
  | n :: rest =>
    if n = '\\'.toNat then escapedCodesFrom ((escapedCode? rest).toList ++ found) rest
    else escapedCodesFrom found rest

/-- The private characters that can be spelled by one escape. -/
def privateCharacters : List Char :=
  (List.range' 0xE000 0x1900).map Char.ofNat

/-- The private characters that a text does not spell. -/
def unspelled (points : List Nat) : List Char :=
  let spelled := points.filter (0xE000 ≤ ·) ++ escapedCodesFrom [] points
  privateCharacters.filter fun c => !spelled.contains c.toNat

/-- The characters that stand for the lone surrogates of a text. -/
def standIns (points : List Nat) : StandIns :=
  match loneCodes points with
  | [] => []
  | codes => (unspelled points).zip codes

/-- A part with the stand-in of its surrogate. -/
def Part.chars (lone : StandIns) : Part → List Char
  | .kept code => [Char.ofNat code]
  | .lone code escaped =>
    let c := (lone.char? code).getD (Char.ofNat 0xFFFD)
    if escaped then '\\' :: 'u' :: Text.hexDigits 4 c.toNat else [c]

/-- The text with stand-ins for its lone surrogates. -/
def settle (points : List Nat) : List Char :=
  match loneCodes points with
  | [] => points.map Char.ofNat
  | _ => (parts points).flatMap (·.chars (standIns points))

/-- The code points of characters. -/
def pointsOf (cs : List Char) : List Nat :=
  cs.map Char.toNat

/-- A value that was read, with the characters in it that stand for lone surrogates. -/
structure Document where
  value : Value
  lone : StandIns := []
  deriving Repr

/-- What code points spell. -/
def openPoints (points : List Nat) : Except ReadError Document :=
  (readText (settle points)).map fun value => { value, lone := standIns points }

/-- What a text spells, which may not start with a byte order mark. -/
def openText (cs : List Char) : Except ReadError Document :=
  (read (settle (pointsOf cs))).map fun value => { value, lone := standIns (pointsOf cs) }

end HealthAlert.Json
