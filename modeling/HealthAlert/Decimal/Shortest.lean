import HealthAlert.Decimal.Double

/-!
# Shortest decimal digits

`Decimal.shortest m e` finds the decimal with the fewest digits that reads back as the binary
number `m · 2 ^ e`, and of several the nearest to it. The reals that read back form an interval
around the number, whose ends belong to it iff `m` is even. If a decimal with `n` digits lies in
the interval, then so does one of the two neighbours of the number on that decimal grid; so the
grids with 1, 2, … 17 digits are tried in turn.
-/

namespace HealthAlert

/-- The positive decimal `digits · 10 ^ exponent`. -/
structure Decimal where
  digits : Nat
  exponent : Int
  deriving DecidableEq, Repr, Inhabited

namespace Decimal

/-- How many decimal digits a positive number has. -/
def width (n : Nat) : Nat :=
  (Nat.toDigits 10 n).length

/-- The `k` with `10 ^ (k - 1) ≤ num / den < 10 ^ k`, for a positive quotient. -/
def magnitude (num den : Nat) : Int :=
  if den ≤ num then width (num / den) else 1 - (width ((den - 1) / num) : Int)

/-- Numerator and denominator of a quotient multiplied by `10 ^ k`. -/
def scale (num den : Nat) (k : Int) : Nat × Nat :=
  if 0 ≤ k then (num * Nat.pow 10 k.toNat, den) else (num, den * Nat.pow 10 (-k).toNat)

/-- The reals that read back as one binary number: the quotients of `lower` and `upper` by
`den`, with the ends when `closed`. -/
structure Interval where
  lower : Nat
  upper : Nat
  den : Nat
  closed : Bool

/-- The interval of `m · 2 ^ e`: half a unit up, and half a unit down, or a quarter below a power
of two, where the next smaller number is half as far away. -/
def interval (m : Nat) (e : Int) : Interval :=
  let closed := m % 2 == 0
  let (down, up, centre) : Nat × Nat × Nat :=
    if m = Nat.pow 2 52 ∧ Double.minExponent < e then (1, 2, 4 * m) else (2, 2, 4 * m)
  let q := e - 2
  if 0 ≤ q then ⟨(centre - down) * Nat.pow 2 q.toNat, (centre + up) * Nat.pow 2 q.toNat, 1, closed⟩
  else ⟨centre - down, centre + up, Nat.pow 2 (-q).toNat, closed⟩

/-- The grid point `c · 10 ^ k` lies in the interval. -/
def Interval.contains (i : Interval) (c : Nat) (k : Int) : Bool :=
  let (cn, cd) := scale c 1 k
  let point := cn * i.den
  if i.closed then decide (i.lower * cd ≤ point) && decide (point ≤ i.upper * cd)
  else decide (i.lower * cd < point) && decide (point < i.upper * cd)

/-- The grid point with `n` digits that reads back as the number and is nearest to it. -/
def onGrid (num den : Nat) (i : Interval) (n : Nat) : Option Decimal :=
  let k := magnitude num den - n
  let (sn, sd) := scale num den (-k)
  let below := sn / sd
  let nearer := roundDiv sn sd
  let farther := if nearer = below then below + 1 else below
  if i.contains nearer k then some ⟨nearer, k⟩
  else if i.contains farther k then some ⟨farther, k⟩
  else none

/-- The shortest decimal that reads back as the positive number `m · 2 ^ e`. -/
def shortest (m : Nat) (e : Int) : Decimal :=
  let (num, den) := dyadic m e
  let i := interval m e
  ((List.range 17).findSome? fun n => onGrid num den i (n + 1)).getD
    (let k := magnitude num den - 17
     let (sn, sd) := scale num den (-k)
     ⟨roundDiv sn sd, k⟩)

/-- The same decimal without trailing zeros in its digits. -/
def trimmed (d : Decimal) : Decimal :=
  let zeros := ((Nat.toDigits 10 d.digits).reverse.takeWhile (· == '0')).length
  if d.digits = 0 then d else ⟨d.digits / Nat.pow 10 zeros, d.exponent + zeros⟩

end Decimal

end HealthAlert
