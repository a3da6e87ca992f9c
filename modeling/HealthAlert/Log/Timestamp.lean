import HealthAlert.Decimal.Double
import HealthAlert.Value.Basic

/-!
# Timestamps

`Timestamp.text` writes a moment, given in seconds since the start of 1970 in universal time, as
date and time with microseconds, which are left out when they are zero. The fraction of a second
is multiplied by a million as a floating-point number and rounded to the nearest integer, a half
to the even one.
-/

namespace HealthAlert.Log

/-- Why a value is no moment that can be written. -/
inductive TimestampError where
  | notANumber
  | notSeconds (typeName : String)
  | outOfRange
  | yearOutOfRange (year : Int)
  | yearTooLarge
  deriving DecidableEq, Repr

namespace TimestampError

/-- The name of the error's type. -/
def typeName : TimestampError → String
  | .notANumber => "ValueError"
  | .notSeconds _ => "TypeError"
  | .outOfRange => "OverflowError"
  | .yearOutOfRange _ => "ValueError"
  | .yearTooLarge => "OSError"

/-- The error in words. -/
def message : TimestampError → String
  | .notANumber => "Invalid value NaN (not a number)"
  | .notSeconds t => "'" ++ t ++ "' object cannot be interpreted as an integer"
  | .outOfRange => "timestamp out of range for platform time_t"
  | .yearOutOfRange y => "year " ++ toString y ++ " is out of range"
  | .yearTooLarge => "[Errno 75] Value too large for defined data type"

end TimestampError

namespace Timestamp

/-- Whole seconds and the microseconds after them. -/
structure Moment where
  seconds : Int
  micros : Nat
  deriving DecidableEq, Repr

/-- The moment `± num / den` seconds after the start of 1970. -/
def ofRatio (negative : Bool) (num den : Nat) : Moment :=
  let whole : Int := num / den
  let micros :=
    match Double.ofRatio false (num % den) den with
    | .finite _ m e =>
      let (n, d) := Decimal.dyadic m e
      match Double.ofRatio false (n * 1000000) d with
      | .finite _ m e =>
        let (n, d) := Decimal.dyadic m e
        Decimal.roundDiv n d
      | _ => 0
    | _ => 0
  let total : Int := whole * 1000000 + micros
  let total := if negative then -total else total
  ⟨total / 1000000, (total % 1000000).toNat⟩

/-- The moment that a number of seconds gives. -/
def ofSeconds (v : Value) : Except TimestampError Moment :=
  match v with
  | .int n => .ok ⟨n, 0⟩
  | .bool b => .ok ⟨if b then 1 else 0, 0⟩
  | .float .nan => .error .notANumber
  | .float (.infinite _) => .error .outOfRange
  | .float (.finite s m e) =>
    let (num, den) := Decimal.dyadic m e
    .ok (ofRatio s num den)
  | .foreign .exactDecimal => .error (.notSeconds "decimal.Decimal")
  | v => .error (.notSeconds v.typeName)

/-- Year, month and day. -/
structure Date where
  year : Int
  month : Nat
  day : Nat
  deriving DecidableEq, Repr

/-- The date that is `days` days after the first of January 1970. Years are counted from March, so
that the leap day ends them; 400 of them have 146097 days. -/
def dateOfDays (days : Int) : Date :=
  let z := days + 719468
  let era := z / 146097
  let dayOfEra := (z % 146097).toNat
  let yearOfEra :=
    (dayOfEra - dayOfEra / 1460 + dayOfEra / 36524 - dayOfEra / 146096) / 365
  let dayOfYear := dayOfEra - (365 * yearOfEra + yearOfEra / 4 - yearOfEra / 100)
  let monthFromMarch := (5 * dayOfYear + 2) / 153
  let day := dayOfYear - (153 * monthFromMarch + 2) / 5 + 1
  let month := if monthFromMarch < 10 then monthFromMarch + 3 else monthFromMarch - 9
  let year : Int := era * 400 + yearOfEra + (if month ≤ 2 then 1 else 0)
  ⟨year, month, day⟩

/-- A number in decimal with zeros in front up to a width. -/
def padded (width n : Nat) : String :=
  let ds := Nat.toDigits 10 n
  String.ofList (List.replicate (width - ds.length) '0' ++ ds)

/-- A moment as text, when its year has four digits. -/
def Moment.text (t : Moment) : Except TimestampError String :=
  if t.seconds < -(Nat.pow 2 63 : Int) ∨ (Nat.pow 2 63 : Int) ≤ t.seconds then .error .outOfRange
  else
    let date := dateOfDays (t.seconds / 86400)
    let inDay := (t.seconds % 86400).toNat
    if date.year < -(Nat.pow 2 31 : Int) + 1900 ∨ (Nat.pow 2 31 : Int) + 1900 ≤ date.year then
      .error .yearTooLarge
    else if date.year < 1 ∨ 9999 < date.year then .error (.yearOutOfRange date.year)
    else
      .ok (padded 4 date.year.toNat ++ "-" ++ padded 2 date.month ++ "-" ++ padded 2 date.day ++
        "T" ++ padded 2 (inDay / 3600) ++ ":" ++ padded 2 (inDay / 60 % 60) ++ ":" ++
        padded 2 (inDay % 60) ++
        (if t.micros = 0 then "" else "." ++ padded 6 t.micros) ++ "+00:00")

/-- The moment that a number of seconds gives, as text. -/
def text (v : Value) : Except TimestampError String :=
  match ofSeconds v with
  | .ok t => t.text
  | .error e => .error e

end Timestamp

end HealthAlert.Log
