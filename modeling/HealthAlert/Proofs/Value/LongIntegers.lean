import HealthAlert.Proofs.Value.Nodes
import HealthAlert.Value.Integers

/-!
# Values that hold an integer that is too long

`Value.HoldsLongInteger` says that one of a value's nodes is an integer with more digits than are
read or written; `holdsLong` decides it, and where it does not hold the value has its texts.

* `holdsLong_iff`: by induction on the value.
* `display?_eq_some_iff`, `display?_eq_none_iff`: which values have a text.
* `holdsLong_leastLong`: the least positive integer that is too long.
-/

namespace HealthAlert.Value

/-- An integer that the value is or holds has more digits than are read or written. -/
def HoldsLongInteger (v : Value) : Prop :=
  ∃ n, .int n ∈ v.nodes ∧ maxIntegerDigits < (Nat.toDigits 10 n.natAbs).length

theorem isLongInteger_iff {n : Int} :
    isLongInteger n = true ↔ maxIntegerDigits < (Nat.toDigits 10 n.natAbs).length := by
  rw [isLongInteger, decide_eq_true_eq]

/-- A power of ten has more digits than its exponent says. -/
theorem lt_length_toDigits_pow {k : Nat} (hk : 0 < k) :
    k < (Nat.toDigits 10 (Nat.pow 10 k)).length :=
  Nat.lt_of_not_le fun h =>
    absurd ((Nat.length_toDigits_le_iff (by decide) hk).mp h) (Nat.lt_irrefl _)

theorem isLongInteger_pow {k : Nat} (h : maxIntegerDigits ≤ k) :
    isLongInteger (Nat.pow 10 k : Nat) = true := by
  rw [isLongInteger_iff, Int.natAbs_natCast]
  exact Nat.lt_of_le_of_lt h (lt_length_toDigits_pow (Nat.lt_of_lt_of_le (by decide) h))

/-- The least positive integer that is too long. -/
def leastLong : Int := (Nat.pow 10 maxIntegerDigits : Nat)

theorem isLongInteger_leastLong : isLongInteger leastLong = true :=
  isLongInteger_pow (Nat.le_refl maxIntegerDigits)

mutual

/-- **The test finds the integers among the nodes.** -/
theorem holdsLong_iff : ∀ v : Value, v.holdsLong = true ↔ v.HoldsLongInteger
  | .null | .bool _ | .float _ | .text _ | .member _ | .foreign _ => by
    simp [holdsLong, HoldsLongInteger, nodes]
  | .int n => by simp [holdsLong, HoldsLongInteger, nodes, isLongInteger_iff]
  | .list xs | .tuple xs => by
    rw [holdsLong, anyHoldsLong_iff xs]
    simp [HoldsLongInteger, nodes]
  | .record es => by
    rw [holdsLong, anyEntryHoldsLong_iff es]
    simp [HoldsLongInteger, nodes]

theorem anyHoldsLong_iff : ∀ xs : List Value, anyHoldsLong xs = true ↔
    ∃ n, .int n ∈ nodesOfItems xs ∧ maxIntegerDigits < (Nat.toDigits 10 n.natAbs).length
  | [] => by simp [anyHoldsLong, nodesOfItems]
  | x :: xs => by
    rw [anyHoldsLong, Bool.or_eq_true, holdsLong_iff x, anyHoldsLong_iff xs]
    simp [HoldsLongInteger, nodesOfItems, or_and_right, exists_or]

theorem anyEntryHoldsLong_iff : ∀ es : List (String × Value), anyEntryHoldsLong es = true ↔
    ∃ n, .int n ∈ nodesOfFields es ∧ maxIntegerDigits < (Nat.toDigits 10 n.natAbs).length
  | [] => by simp [anyEntryHoldsLong, nodesOfFields]
  | (_, v) :: es => by
    rw [anyEntryHoldsLong, Bool.or_eq_true, holdsLong_iff v, anyEntryHoldsLong_iff es]
    simp [HoldsLongInteger, nodesOfFields, or_and_right, exists_or]

end

variable {v : Value}

theorem holdsLong_leastLong : (Value.int leastLong).holdsLong = true := by
  rw [holdsLong, isLongInteger_leastLong]

theorem holdsLong_eq_false_iff : v.holdsLong = false ↔ ¬ v.HoldsLongInteger := by
  rw [← holdsLong_iff, Bool.not_eq_true]

theorem display?_eq_some_iff {s : String} :
    v.display? = some s ↔ ¬ v.HoldsLongInteger ∧ v.display = s := by
  rw [← holdsLong_iff, display?]
  cases v.holdsLong <;> simp

theorem display?_eq_none_iff : v.display? = none ↔ v.HoldsLongInteger := by
  rw [← holdsLong_iff, display?]
  cases v.holdsLong <;> simp

/-- An integer that is too long counts as something, and so does what holds one. -/
theorem truthy_of_holdsLongInteger (h : v.HoldsLongInteger) : v.truthy = true := by
  obtain ⟨n, hn, hlong⟩ := h
  cases v with
  | int m =>
    obtain rfl : n = m := by simpa [nodes] using hn
    rw [truthy, bne_iff_ne]
    rintro rfl
    exact absurd hlong (by decide)
  | list xs => cases xs <;> simp_all [nodes, nodesOfItems, truthy]
  | tuple xs => cases xs <;> simp_all [nodes, nodesOfItems, truthy]
  | record es => cases es <;> simp_all [nodes, nodesOfFields, truthy]
  | _ => simp [nodes] at hn

end HealthAlert.Value
