import HealthAlert.Proofs.Value.Keyed
import HealthAlert.Value.Display

/-!
# Values of JSON texts

What a JSON text can denote: no key of a record is repeated, and there are no tuples, members of
enumerations or foreign values. Such a value that counts as something is shown as some text.

* `areJson_iff`, `holdJson_iff`, `isJson_put`: the parts of such a value, and one more of them.
* `display_ne_empty`: its text.
-/

namespace HealthAlert

namespace Value

mutual

/-- The value can be what a JSON text denotes: no key of a record is repeated, and there are no
tuples, members of enumerations or foreign values. -/
def IsJson : Value → Prop
  | .tuple _ => False
  | .member _ => False
  | .foreign _ => False
  | .list items => AreJson items
  | .record entries => (Keyed.keys entries).Nodup ∧ HoldJson entries
  | _ => True

/-- The elements can be what JSON texts denote. -/
def AreJson : List Value → Prop
  | [] => True
  | v :: vs => IsJson v ∧ AreJson vs

/-- The entries hold values that JSON texts can denote. -/
def HoldJson : List (String × Value) → Prop
  | [] => True
  | (_, v) :: es => IsJson v ∧ HoldJson es

end

theorem areJson_iff {vs : List Value} : AreJson vs ↔ ∀ v ∈ vs, v.IsJson := by
  induction vs with
  | nil => simp [AreJson]
  | cons v vs ih => simp [AreJson, ih]

theorem holdJson_iff {es : List (String × Value)} : HoldJson es ↔ ∀ e ∈ es, e.2.IsJson := by
  induction es with
  | nil => simp [HoldJson]
  | cons e es ih => simp [HoldJson, ih]

/-- A record stays such a value when a field is set. -/
theorem isJson_put {es : List (String × Value)} {v : Value} (hes : IsJson (.record es))
    (key : String) (hv : v.IsJson) : IsJson (.record (Keyed.put es key v)) := by
  obtain ⟨hkeys, hfields⟩ := hes
  rw [holdJson_iff] at hfields
  refine ⟨Keyed.nodup_keys_put hkeys key v, holdJson_iff.mpr fun e he => ?_⟩
  rcases Keyed.mem_put he with he | rfl
  · exact hfields e he
  · exact hv

end Value

/-! ## Texts of values -/

theorem Decimal.shortestText_ne_nil (d : Decimal) : d.shortestText ≠ [] := by
  unfold shortestText
  dsimp only
  split
  · exact List.append_ne_nil_of_right_ne_nil _ (List.cons_ne_nil _ _)
  · exact List.append_ne_nil_of_right_ne_nil _ (List.cons_ne_nil _ _)

theorem Double.text_ne_empty (x : Double) : x.text ≠ "" := by
  cases x with
  | nan => decide
  | infinite s => cases s <;> decide
  | finite s m e =>
    unfold text
    simp only [ne_eq, String.ofList_eq_empty_iff]
    refine List.append_ne_nil_of_right_ne_nil _ ?_
    split
    · exact List.cons_ne_nil _ _
    · exact Decimal.shortestText_ne_nil _

namespace Value

/-- **A value that counts as something is shown as some text.** -/
theorem display_ne_empty {v : Value} (hv : v.IsJson) (h : v.truthy = true) : v.display ≠ "" := by
  cases v with
  | null => cases h
  | bool b => cases b <;> decide
  | int n =>
    rw [display, quoted, Int.toString_eq_repr, Int.repr_eq_if]
    · split
      · exact Nat.repr_ne_empty
      · simp
    all_goals exact nofun
  | float x => exact x.text_ne_empty
  | text s => simpa [display, truthy] using h
  | list xs => simp [display, quoted]
  | record es => simp [display, quoted]
  | member _ => exact hv.elim
  | tuple _ => exact hv.elim
  | foreign _ => exact hv.elim

end Value

end HealthAlert
