import HealthAlert.Decimal.Double
import HealthAlert.Text.Blank

/-!
# Reading decimal numbers

`Double.ofScientific` is the binary number nearest to a decimal; `Double.ofText?` reads the text
of one: white space around it, a sign, digits with single underscores between them, a point, an
exponent, or the words for infinity and for a number that is not a number, in any case.
-/

namespace HealthAlert

namespace Decimal

/-- The number that a list of decimal digits spells. -/
def ofDigits (ds : List Char) : Nat :=
  ds.foldl (fun n c => 10 * n + (c.toNat - '0'.toNat)) 0

/-- The longest run of digits in front, in which an underscore may stand between two digits. -/
def digitRun : List Char → List Char × List Char
  | c :: '_' :: d :: rest =>
    if c.isDigit && d.isDigit then
      let (ds, rest) := digitRun (d :: rest)
      (c :: ds, rest)
    else if c.isDigit then ([c], '_' :: d :: rest)
    else ([], c :: '_' :: d :: rest)
  | c :: rest =>
    if c.isDigit then
      let (ds, rest) := digitRun rest
      (c :: ds, rest)
    else ([], c :: rest)
  | [] => ([], [])

end Decimal

namespace Double

open Decimal

/-- The number nearest to `± digits · 10 ^ exponent`. Magnitudes beyond every finite number, or
below half of the smallest one, are settled by the length of the number. -/
def ofScientific (negative : Bool) (digits : Nat) (exponent : Int) : Double :=
  if digits = 0 then zero negative
  else
    let size : Int := (Nat.toDigits 10 digits).length + exponent
    if 400 < size then .infinite negative
    else if size < -400 then zero negative
    else if 0 ≤ exponent then ofRatio negative (digits * Nat.pow 10 exponent.toNat) 1
    else ofRatio negative digits (Nat.pow 10 (-exponent).toNat)

/-- The exponent in front, if there is one with digits: its value and what follows. -/
def exponentPart (cs : List Char) : Int × List Char :=
  match cs with
  | c :: rest =>
    if c == 'e' || c == 'E' then
      let (negative, rest') := match rest with
        | '-' :: r => (true, r)
        | '+' :: r => (false, r)
        | r => (false, r)
      match digitRun rest' with
      | ([], _) => (0, cs)
      | (ds, rest'') => ((if negative then -(ofDigits ds : Int) else ofDigits ds), rest'')
    else (0, cs)
  | [] => (0, [])

/-- The number without sign that the characters spell. -/
def ofUnsigned? (negative : Bool) (cs : List Char) : Option Double :=
  let word := String.ofList (cs.map Char.toLower)
  if word = "inf" ∨ word = "infinity" then some (.infinite negative)
  else if word = "nan" then some .nan
  else
    let (whole, rest) := digitRun cs
    let (fraction, rest) := match rest with
      | '.' :: r => digitRun r
      | r => ([], r)
    if whole.isEmpty && fraction.isEmpty then none
    else
      match exponentPart rest with
      | (e, []) => some (ofScientific negative (ofDigits (whole ++ fraction)) (e - fraction.length))
      | _ => none

/-- The number that a text spells. -/
def ofText? (s : String) : Option Double :=
  match Text.trimBlanks s.toList with
  | '-' :: cs => ofUnsigned? true cs
  | '+' :: cs => ofUnsigned? false cs
  | cs => ofUnsigned? false cs

end Double

end HealthAlert
