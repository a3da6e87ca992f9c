/-!
# Hexadecimal digits

`isHexDigit` holds of the ten digits and of the letters `a` to `f` in either case.
-/

namespace HealthAlert.Text

/-- A hexadecimal digit of either case. -/
def isHexDigit (c : Char) : Bool :=
  c.isDigit || (decide ('a' ≤ c) && decide (c ≤ 'f')) ||
    (decide ('A' ≤ c) && decide (c ≤ 'F'))

end HealthAlert.Text
