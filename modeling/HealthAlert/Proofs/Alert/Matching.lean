import HealthAlert.Proofs.Alert.Dimensions
import HealthAlert.Proofs.Bicep.Ending

/-!
# Which events a condition matches

An `Event` is what it holds: values at paths. `Meets event v` reads a template value as a condition
on the event. A record of `field` and `equals` compares, where both texts are quoted; `anyOf` asks
for one of its conditions and `allOf` for all of them. A value of any other shape is met by no
event.

* `meets_clauses_iff`: the condition that a selection adds, be it none, a bare comparison or an
  `anyOf`, is met exactly by the events that hold one of the selected values.
* **`meets_buildFrom_iff`**: an alert's condition matches exactly the events of its category that
  hold a selected value in every dimension where something is selected.
-/

namespace HealthAlert.Condition

/-- An event, by the values that it holds: `event path value`. A path may hold several. -/
abbrev Event := String → String → Prop

mutual

/-- The event meets the condition that a value of the template stands for. -/
def Meets (event : Event) : Value → Prop
  | .record [("field", .text field), ("equals", .text literal)] =>
    ∃ path value, event path value ∧ Bicep.quote path = field ∧ Bicep.quote value = literal
  | .record [("anyOf", .list vs)] => MeetsAny event vs
  | .record [("allOf", .list vs)] => MeetsAll event vs
  | _ => False

/-- The event meets one of the conditions. -/
def MeetsAny (event : Event) : List Value → Prop
  | [] => False
  | v :: vs => Meets event v ∨ MeetsAny event vs

/-- The event meets every one of the conditions. -/
def MeetsAll (event : Event) : List Value → Prop
  | [] => True
  | v :: vs => Meets event v ∧ MeetsAll event vs

end

variable {event : Event}

theorem meetsAny_toValues_iff {cs : List Condition} :
    MeetsAny event (toValues cs) ↔ ∃ c ∈ cs, Meets event c.toValue := by
  induction cs with
  | nil => simp [toValues, MeetsAny]
  | cons c cs ih => simp [toValues, MeetsAny, ih]

theorem meetsAll_toValues_iff {cs : List Condition} :
    MeetsAll event (toValues cs) ↔ ∀ c ∈ cs, Meets event c.toValue := by
  induction cs with
  | nil => simp [toValues, MeetsAll]
  | cons c cs ih => simp [toValues, MeetsAll, ih]

theorem meets_anyOf_iff {cs : List Condition} :
    Meets event (anyOf cs).toValue ↔ ∃ c ∈ cs, Meets event c.toValue := by
  rw [toValue, Meets]
  exact meetsAny_toValues_iff

theorem meets_allOf_iff {cs : List Condition} :
    Meets event (allOf cs).toValue ↔ ∀ c ∈ cs, Meets event c.toValue := by
  rw [toValue, Meets]
  exact meetsAll_toValues_iff

/-- Both sides of a comparison are quoted, and no other path or value is quoted as they are. -/
theorem meets_equals_iff {field : ConditionField} {value : String} :
    Meets event (equals field value).toValue ↔ event field.path value := by
  unfold equals atPath
  rw [toValue, Meets]
  constructor
  · rintro ⟨path, held, h, hpath, hvalue⟩
    rw [Bicep.quote_inj] at hpath hvalue
    rw [← hpath, ← hvalue]
    exact h
  · intro h
    exact ⟨_, _, h, rfl, rfl⟩

/-! ## Selections -/

theorem meets_anyOf_equals_iff {field : ConditionField} {values : List String} :
    Meets event (anyOf (values.map (equals field))).toValue ↔
      ∃ value ∈ values, event field.path value := by
  rw [meets_anyOf_iff]
  constructor
  · rintro ⟨c, hc, h⟩
    obtain ⟨value, hvalue, rfl⟩ := List.mem_map.mp hc
    exact ⟨value, hvalue, meets_equals_iff.mp h⟩
  · rintro ⟨value, hvalue, h⟩
    exact ⟨_, List.mem_map_of_mem hvalue, meets_equals_iff.mpr h⟩

/-- **What a selection adds is met by the events that hold a selected value**, and by all events
when nothing is selected. -/
theorem meets_clauses_iff {field : ConditionField} {values : List String} :
    (∀ c ∈ clauses field values, Meets event c.toValue) ↔
      (values ≠ [] → ∃ value ∈ values, event field.path value) := by
  match values with
  | [] => exact iff_of_true (fun c hc => absurd hc List.not_mem_nil) (fun h => absurd rfl h)
  | [value] =>
    have hclause : clauses field [value] = [equals field value] := rfl
    rw [hclause, List.forall_mem_singleton, meets_equals_iff]
    simp
  | v :: w :: rest =>
    have hclause : clauses field (v :: w :: rest) =
        [anyOf ((v :: w :: rest).map (equals field))] := rfl
    rw [hclause, List.forall_mem_singleton, meets_anyOf_equals_iff]
    exact ⟨fun h _ => h, fun h => h (List.cons_ne_nil _ _)⟩

/-- The event holds one of the values selected at a path, if any were. -/
def HoldsSelected (event : Event) (path : String) (selection : Option (List String)) : Prop :=
  ∀ values, selection = some values → values ≠ [] → ∃ value ∈ values, event path value

theorem meets_selection_iff {field : ConditionField} {selection : Option (List String)} :
    (∀ c ∈ clauses field (selection.getD []), Meets event c.toValue) ↔
      HoldsSelected event field.path selection := by
  rw [meets_clauses_iff]
  cases selection with
  | none => exact iff_of_true (fun h => absurd rfl h) (fun _ h => absurd h (by simp))
  | some values =>
    constructor
    · intro h chosen hchosen
      obtain rfl := Option.some.inj hchosen
      exact h
    · intro h
      exact h values rfl

/-- **The condition of an alert means what was selected.** -/
theorem meets_buildFrom_iff (event : Event) (services eventTypes regions : Option (List String)) :
    Meets event (allOf (buildFrom services eventTypes regions)).toValue ↔
      event "category" "ServiceHealth" ∧
        HoldsSelected event "properties.impactedServices[*].ServiceName" services ∧
        HoldsSelected event "properties.incidentType" eventTypes ∧
        HoldsSelected event "properties.impactedServices[*].ImpactedRegions[*].RegionName"
          regions := by
  unfold buildFrom
  rw [meets_allOf_iff, build_eq, List.forall_mem_cons, List.forall_mem_append,
    List.forall_mem_append, meets_selection_iff, meets_selection_iff, meets_selection_iff,
    and_assoc]
  exact and_congr_left' meets_equals_iff

end HealthAlert.Condition
