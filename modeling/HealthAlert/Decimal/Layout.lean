import HealthAlert.Decimal.Shortest

/-!
# Decimal text of floating-point numbers

`Double.text` writes a number with its shortest digits: positionally while the first digit stands
between the fourth decimal place and the sixteenth place before the point, always with a point;
otherwise with an exponent of at least two digits and a sign.

`fixedText`, `scientificText` and `generalText` write a magnitude with a given number of places or
digits, rounded exactly, a half to the even neighbour.
-/

namespace HealthAlert

namespace Decimal

/-- A run of zeros. -/
def zeros (n : Nat) : List Char :=
  List.replicate n '0'

/-- An exponent: its sign, and at least two digits. -/
def exponentText (mark : Char) (e : Int) : List Char :=
  let ds := Nat.toDigits 10 e.natAbs
  mark :: (if e < 0 then '-' else '+') :: (zeros (2 - ds.length) ++ ds)

/-- Digits with the point after the first `point` of them; zeros fill the gap to the point. -/
def positional (ds : List Char) (point : Int) : List Char × List Char :=
  if point ≤ 0 then (['0'], zeros (-point).toNat ++ ds)
  else if (ds.length : Int) ≤ point then (ds ++ zeros (point - ds.length).toNat, [])
  else (ds.take point.toNat, ds.drop point.toNat)

/-- The magnitude with its shortest digits. -/
def shortestText (d : Decimal) : List Char :=
  let d := d.trimmed
  let ds := Nat.toDigits 10 d.digits
  let point := d.exponent + ds.length
  if -4 < point ∧ point ≤ 16 then
    let (whole, fraction) := positional ds point
    whole ++ '.' :: (if fraction.isEmpty then ['0'] else fraction)
  else
    let mantissa := match ds with
      | [] => []
      | [c] => [c]
      | c :: rest => c :: '.' :: rest
    mantissa ++ exponentText 'e' (point - 1)

/-- The magnitude with `places` digits after the point. -/
def fixedText (num den places : Nat) (keepPoint : Bool) : List Char :=
  let n := roundDiv (num * Nat.pow 10 places) den
  let ds := Nat.toDigits 10 n
  let ds := zeros (places + 1 - ds.length) ++ ds
  let whole := ds.take (ds.length - places)
  let fraction := ds.drop (ds.length - places)
  whole ++ (if places = 0 then (if keepPoint then ['.'] else []) else '.' :: fraction)

/-- A positive quotient rounded to `n` digits. -/
def rounded (num den n : Nat) : Decimal :=
  let k := magnitude num den - n
  let (sn, sd) := scale num den (-k)
  let c := roundDiv sn sd
  if c = Nat.pow 10 n then ⟨Nat.pow 10 (n - 1), k + 1⟩ else ⟨c, k⟩

/-- The magnitude with one digit before the point, `places` after it, and an exponent. -/
def scientificText (num den places : Nat) (keepPoint : Bool) (mark : Char) : List Char :=
  let (ds, e) : List Char × Int :=
    if num = 0 then (zeros (places + 1), 0)
    else
      let d := rounded num den (places + 1)
      (Nat.toDigits 10 d.digits, d.exponent + places)
  ds.take 1 ++ (if places = 0 then (if keepPoint then ['.'] else []) else '.' :: ds.drop 1) ++
    exponentText mark e

/-- Digits without the zeros at their end. -/
def dropTrailingZeros (ds : List Char) : List Char :=
  (ds.reverse.dropWhile (· == '0')).reverse

/-- The magnitude with `digits` significant digits, positionally while the exponent lies between
-4 and the number of digits; trailing zeros are dropped unless `keepPoint`. -/
def generalText (num den digits : Nat) (keepPoint : Bool) (mark : Char) : List Char :=
  let n := max digits 1
  let (ds, e) : List Char × Int :=
    if num = 0 then (zeros n, 0)
    else
      let d := rounded num den n
      (Nat.toDigits 10 d.digits, d.exponent + n - 1)
  if -4 ≤ e ∧ e < n then
    let (whole, fraction) := positional ds (e + 1)
    let fraction := if keepPoint then fraction else dropTrailingZeros fraction
    whole ++ (if fraction.isEmpty && !keepPoint then [] else '.' :: fraction)
  else
    let fraction := if keepPoint then ds.drop 1 else dropTrailingZeros (ds.drop 1)
    ds.take 1 ++ (if fraction.isEmpty && !keepPoint then [] else '.' :: fraction) ++
      exponentText mark e

end Decimal

namespace Double

open Decimal

/-- Text of the numbers that have no digits. -/
def infinityText (negative : Bool) : String :=
  if negative then "-inf" else "inf"

/-- The number with its shortest digits. -/
def text : Double → String
  | .nan => "nan"
  | .infinite s => infinityText s
  | .finite s m e =>
    String.ofList ((if s then ['-'] else []) ++
      (if m = 0 then ['0', '.', '0'] else shortestText (shortest m e)))

end Double

end HealthAlert
