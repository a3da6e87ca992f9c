import HealthAlert.Value.Display

/-!
# Integers that are too long

An integer of more than 4300 decimal digits is neither read from a text nor written as one, whether
it stands alone or inside of another value. `Value.display?` and `Value.quoted?` are the texts of a
value where there are any.
-/

namespace HealthAlert

/-- The most digits of an integer that is read or written. -/
def maxIntegerDigits : Nat := 4300

/-- The integer has more digits than are read or written. -/
def isLongInteger (n : Int) : Bool :=
  decide (maxIntegerDigits < (Nat.toDigits 10 n.natAbs).length)

/-- The message about an integer that is too long to be written. -/
def unwritableIntegerMessage : String :=
  "Exceeds the limit (" ++ toString maxIntegerDigits ++
    " digits) for integer string conversion; use sys.set_int_max_str_digits() to increase the limit"

namespace Value

mutual

/-- The value is or holds an integer that is too long. -/
def holdsLong : Value → Bool
  | .int n => isLongInteger n
  | .list xs => anyHoldsLong xs
  | .tuple xs => anyHoldsLong xs
  | .record es => anyEntryHoldsLong es
  | _ => false

/-- One of the values holds such an integer. -/
def anyHoldsLong : List Value → Bool
  | [] => false
  | x :: xs => holdsLong x || anyHoldsLong xs

/-- One of the entries holds such an integer. -/
def anyEntryHoldsLong : List (String × Value) → Bool
  | [] => false
  | (_, v) :: es => holdsLong v || anyEntryHoldsLong es

end

/-- The value as a text, unless an integer in it is too long. -/
def display? (v : Value) : Option String :=
  if v.holdsLong then none else some v.display

/-- The value shown with its type, unless an integer in it is too long. -/
def quoted? (v : Value) : Option String :=
  if v.holdsLong then none else some v.quoted

end Value

end HealthAlert
