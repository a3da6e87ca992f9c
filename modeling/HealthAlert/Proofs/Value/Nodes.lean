import HealthAlert.Value.Basic

/-!
# The nodes of a value

`Value.nodes` lists a value with all that it holds, from left to right and each value before what
it holds.
-/

namespace HealthAlert.Value

mutual

/-- The value and all that it holds in its lists, tuples and records, in the order in which they
are met. -/
def nodes : Value → List Value
  | .list vs => .list vs :: nodesOfItems vs
  | .tuple vs => .tuple vs :: nodesOfItems vs
  | .record es => .record es :: nodesOfFields es
  | v => [v]

/-- The nodes of the elements, one after the other. -/
def nodesOfItems : List Value → List Value
  | [] => []
  | v :: vs => nodes v ++ nodesOfItems vs

/-- The nodes of the values of fields, one after the other. -/
def nodesOfFields : List (String × Value) → List Value
  | [] => []
  | (_, v) :: es => nodes v ++ nodesOfFields es

end

theorem mem_nodesOfFields {x : Value} {es : List (String × Value)} :
    x ∈ nodesOfFields es ↔ ∃ e ∈ es, x ∈ e.2.nodes := by
  induction es with
  | nil => simp [nodesOfFields]
  | cons e es ih => simp [nodesOfFields, ih]

end HealthAlert.Value
