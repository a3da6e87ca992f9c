import HealthAlert.Alert.Template

/-!
# The dimensions of a condition

Each selection of an alert adds at most one condition, and that condition compares the field of its
dimension only. `Condition.On` says which field a condition is about, by the paths that its
comparisons name.

* `build_eq`: the conditions of an alert, dimension by dimension.
* **`exists_on_build_iff`**: an alert has a condition on the field of a dimension exactly when
  something is selected there; the category is always compared.
-/

namespace HealthAlert.Condition

/-! ## The field of a condition -/

mutual

/-- The paths that the comparisons of a condition name, quoted, in order. -/
def paths : Condition → List String
  | .comparison field _ => [field]
  | .anyOf cs => pathsOf cs
  | .allOf cs => pathsOf cs

/-- The paths that the comparisons of conditions name. -/
def pathsOf : List Condition → List String
  | [] => []
  | c :: cs => paths c ++ pathsOf cs

end

/-- The condition compares the field, and no other. -/
def On (field : ConditionField) (c : Condition) : Prop :=
  c.paths ≠ [] ∧ ∀ p ∈ c.paths, p = Bicep.quote field.path

theorem quote_path_injective {field other : ConditionField}
    (h : Bicep.quote field.path = Bicep.quote other.path) : field = other := by
  cases field <;> cases other <;> first | rfl | exact absurd h (by decide)

theorem On.unique {c : Condition} {field other : ConditionField} (h : c.On field)
    (ho : c.On other) : field = other := by
  obtain ⟨p, hp⟩ := List.exists_mem_of_ne_nil _ h.1
  exact quote_path_injective ((h.2 p hp).symm.trans (ho.2 p hp))

theorem on_equals (field : ConditionField) (value : String) : (equals field value).On field :=
  ⟨List.cons_ne_nil _ _, fun _ hp => List.mem_singleton.mp hp⟩

theorem pathsOf_equals (field : ConditionField) (values : List String) :
    pathsOf (values.map (equals field)) = values.map fun _ => Bicep.quote field.path := by
  induction values with
  | nil => rfl
  | cons v values ih =>
    rw [List.map_cons, pathsOf, ih]
    rfl

/-! ## Dimensions -/

/-- The conditions that a selection in one dimension adds. -/
def clauses (field : ConditionField) (values : List String) : List Condition :=
  (ofSelection field values).toList

theorem build_eq (services eventTypes regions : List String) :
    build services eventTypes regions =
      equals .category serviceHealthCategory ::
        (clauses .serviceName services ++ clauses .incidentType eventTypes ++
          clauses .regionName regions) := by
  unfold build clauses
  cases ofSelection .serviceName services <;> cases ofSelection .incidentType eventTypes <;>
    cases ofSelection .regionName regions <;> rfl

theorem clauses_singleton (field : ConditionField) (value : String) :
    clauses field [value] = [value].map (equals field) := rfl

/-- A dimension adds one condition if something is selected there, and none otherwise. -/
theorem length_clauses (field : ConditionField) (values : List String) :
    (clauses field values).length = if values = [] then 0 else 1 := by
  match values with
  | [] => rfl
  | [_] => rfl
  | _ :: _ :: _ => rfl

theorem on_of_mem_clauses {field : ConditionField} {values : List String} {c : Condition}
    (h : c ∈ clauses field values) : c.On field := by
  match values with
  | [] => exact absurd h List.not_mem_nil
  | [v] =>
    obtain rfl := List.mem_singleton.mp h
    exact on_equals field v
  | v :: w :: rest =>
    obtain rfl := List.mem_singleton.mp h
    have hpaths := pathsOf_equals field (v :: w :: rest)
    refine ⟨?_, fun p hp => ?_⟩
    · show pathsOf ((v :: w :: rest).map (equals field)) ≠ []
      rw [hpaths]
      exact List.cons_ne_nil _ _
    · have hmem : p ∈ pathsOf ((v :: w :: rest).map (equals field)) := hp
      rw [hpaths] at hmem
      obtain ⟨-, -, rfl⟩ := List.mem_map.mp hmem
      rfl

theorem exists_on_clauses_iff {field other : ConditionField} {values : List String} :
    (∃ c ∈ clauses field values, c.On other) ↔ field = other ∧ values ≠ [] := by
  constructor
  · rintro ⟨c, hc, ho⟩
    refine ⟨(on_of_mem_clauses hc).unique ho, ?_⟩
    rintro rfl
    exact absurd hc List.not_mem_nil
  · rintro ⟨rfl, hne⟩
    have hlength := length_clauses field values
    rw [if_neg hne] at hlength
    obtain ⟨c, hc⟩ := List.exists_mem_of_length_pos (hlength.symm ▸ Nat.one_pos)
    exact ⟨c, hc, on_of_mem_clauses hc⟩

/-- What was selected in the dimension of a field; the category has one fixed value. -/
def selected (services eventTypes regions : List String) : ConditionField → List String
  | .category => [serviceHealthCategory]
  | .serviceName => services
  | .incidentType => eventTypes
  | .regionName => regions

/-- **There is a condition on a field exactly when something is selected in its dimension.** -/
theorem exists_on_build_iff {services eventTypes regions : List String} {field : ConditionField} :
    (∃ c ∈ build services eventTypes regions, c.On field) ↔
      selected services eventTypes regions field ≠ [] := by
  have hcategory : (equals .category serviceHealthCategory).On field ↔ .category = field :=
    ⟨fun h => (on_equals _ _).unique h, fun h => h ▸ on_equals _ _⟩
  rw [build_eq]
  simp only [List.mem_cons, List.mem_append, or_and_right, exists_or, exists_eq_left,
    exists_on_clauses_iff, hcategory]
  cases field <;> simp [selected]

theorem length_build (services eventTypes regions : List String) :
    (build services eventTypes regions).length =
      1 + (if services = [] then 0 else 1) + (if eventTypes = [] then 0 else 1) +
        (if regions = [] then 0 else 1) := by
  rw [build_eq]
  simp only [List.length_cons, List.length_append, length_clauses]
  omega

end HealthAlert.Condition
