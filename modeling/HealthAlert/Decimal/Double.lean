/-!
# Binary floating-point numbers

`Double` is the set of 64-bit binary floating-point numbers, held exactly: a finite number is
`± mantissa · 2 ^ exponent` with integers, so that every operation on it here is integer
arithmetic. `Double.ofRatio` is the one place where rounding to 53 bits happens: to the nearest
number, and from the middle to the one with an even mantissa.
-/

namespace HealthAlert

/-- A 64-bit binary floating-point number. -/
inductive Double where
  /-- The number `± mantissa · 2 ^ exponent`, where `mantissa < 2 ^ 53`, `-1074 ≤ exponent ≤ 971`
  and either `2 ^ 52 ≤ mantissa` or `exponent = -1074`. -/
  | finite (negative : Bool) (mantissa : Nat) (exponent : Int)
  | infinite (negative : Bool)
  | nan
  deriving DecidableEq, Repr, Inhabited

namespace Decimal

/-- The quotient rounded to the nearest integer, a half to the even one. -/
def roundDiv (num den : Nat) : Nat :=
  let q := num / den
  let twice := 2 * (num % den)
  if twice < den then q
  else if den < twice then q + 1
  else if q % 2 = 0 then q else q + 1

/-- Numerator and denominator of `m · 2 ^ e`. -/
def dyadic (m : Nat) (e : Int) : Nat × Nat :=
  if 0 ≤ e then (m * Nat.pow 2 e.toNat, 1) else (m, Nat.pow 2 (-e).toNat)

end Decimal

namespace Double

open Decimal

/-- Exponent of the smallest positive number. -/
def minExponent : Int := -1074

/-- Exponent of the largest finite number. -/
def maxExponent : Int := 971

/-- Zero. -/
def zero (negative : Bool) : Double :=
  .finite negative 0 minExponent

/-- The exponent at which a positive quotient has a 53-bit integer part, bounded below by that of
the smallest number. -/
def exponentFor (num den : Nat) : Int :=
  let e : Int := (num.log2 : Int) - (den.log2 : Int) - 52
  let scaled := if 0 ≤ e then num / (den * Nat.pow 2 e.toNat) else num * Nat.pow 2 (-e).toNat / den
  max minExponent (if scaled < Nat.pow 2 52 then e - 1 else e)

/-- The number nearest to `± num / den`; of two equally near ones that with an even mantissa. -/
def ofRatio (negative : Bool) (num den : Nat) : Double :=
  if num = 0 then zero negative
  else
    let e := exponentFor num den
    let m := if 0 ≤ e then roundDiv num (den * Nat.pow 2 e.toNat)
      else roundDiv (num * Nat.pow 2 (-e).toNat) den
    let (m, e) := if m = Nat.pow 2 53 then (Nat.pow 2 52, e + 1) else (m, e)
    if maxExponent < e then .infinite negative else .finite negative m e

/-- The number nearest to an integer. -/
def ofInt (n : Int) : Double :=
  ofRatio (decide (n < 0)) n.natAbs 1

/-- The sign bit; a number that is not a number counts as positive. -/
def isNegative : Double → Bool
  | .finite s _ _ => s
  | .infinite s => s
  | .nan => false

/-- Zero of either sign. -/
def isZero : Double → Bool
  | .finite _ m _ => m == 0
  | _ => false

/-- Numerator and denominator of a finite number's magnitude. -/
def ratio? : Double → Option (Nat × Nat)
  | .finite _ m e => some (dyadic m e)
  | _ => none

/-- The integer that a finite number without fractional part is. -/
def toInt? : Double → Option Int
  | .finite s m e =>
    let (num, den) := dyadic m e
    if num % den = 0 then some (if s then -(num / den : Nat) else (num / den : Nat)) else none
  | _ => none

/-- The integer part of a finite number, cut towards zero. -/
def truncate? : Double → Option Int
  | .finite s m e =>
    let (num, den) := dyadic m e
    some (if s then -(num / den : Nat) else (num / den : Nat))
  | _ => none

end Double

end HealthAlert
