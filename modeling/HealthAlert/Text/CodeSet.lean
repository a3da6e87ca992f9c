/-!
# Sets of characters

A class of characters given by a standard is a `CodeSet`: the ascending, disjoint intervals of
code points that make it up. `CodeSet.contains` is membership.
-/

namespace HealthAlert.Text

/-- A set of characters, as intervals of code points with both ends included. -/
structure CodeSet where
  intervals : List (Nat × Nat)

/-- The character lies in one of the intervals. -/
def CodeSet.contains (s : CodeSet) (c : Char) : Bool :=
  s.intervals.any fun r => decide (r.1 ≤ c.toNat) && decide (c.toNat ≤ r.2)

theorem CodeSet.contains_iff (s : CodeSet) (c : Char) :
    s.contains c = true ↔ ∃ r ∈ s.intervals, r.1 ≤ c.toNat ∧ c.toNat ≤ r.2 := by
  simp [CodeSet.contains, List.any_eq_true]

end HealthAlert.Text
