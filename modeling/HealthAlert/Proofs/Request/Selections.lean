import HealthAlert.Proofs.Alert.Dimensions
import HealthAlert.Proofs.Alert.Document
import HealthAlert.Proofs.Request.Accepted

/-!
# The selections of an accepted request

A selection that a request gives is checked: it must hold a text that is not empty, and its empty
texts are dropped. A selection that a request leaves out is empty and is not checked. So the
selections of an accepted request are empty exactly where the request leaves them out, and its
template has a condition on exactly the dimensions that the request gives.

* `selection_eq_accepted`, `optional_selection`: what one field gives.
* **`conditions_of_accepted`**: the selections of an accepted request and the conditions of its
  template.
* `read_partialRequest`: a request without services is accepted, and its template has three
  conditions.
-/

namespace HealthAlert

/-- The selections of a request. -/
inductive Selection where
  | services
  | eventTypes
  | regions
  | severities
  deriving DecidableEq, Repr

namespace Selection

/-- The field that gives the selection. -/
def fieldName : Selection → Request.FieldName
  | .services => ⟨"services", "services"⟩
  | .eventTypes => ⟨"event_types", "eventTypes"⟩
  | .regions => ⟨"regions", "regions"⟩
  | .severities => ⟨"severities", "severities"⟩

/-- What is selected. -/
def of (input : AlertInput) : Selection → List String
  | .services => input.services
  | .eventTypes => input.eventTypes
  | .regions => input.regions
  | .severities => input.severities

/-- The field of an event that the selection restricts, if it is part of the condition. -/
def restricts? : Selection → Option ConditionField
  | .services => some .serviceName
  | .eventTypes => some .incidentType
  | .regions => some .regionName
  | .severities => none

/-- The payload gives the selection under one of the names of its field. -/
def GivenIn (payload : Value) (s : Selection) : Prop :=
  ∃ es, payload = .record es ∧
    (Keyed.has es s.fieldName.name = true ∨ Keyed.has es s.fieldName.formName = true)

end Selection

/-! ## One field -/

theorem Form.ne_nil_of_checkSelection {what : String} {ss : List String}
    (h : checkSelection what (.list (ss.map .text)) = none) : ss ≠ [] := by
  rintro rfl
  exact absurd h (by simp [checkSelection, Value.items?])

namespace Request

theorem FieldName.isSome_find?_iff {f : FieldName} {es : List (String × Value)} :
    (f.find? es).isSome = true ↔ Keyed.has es f.name = true ∨ Keyed.has es f.formName = true := by
  unfold FieldName.find? Keyed.has
  cases Keyed.get? es f.formName <;> cases Keyed.get? es f.name <;> simp

/-- An accepted selection holds a text, and no empty one. -/
theorem selection_eq_accepted {what : String} {v : Value} {ss : List String}
    (h : selection what v = .accepted ss) : ss ≠ [] ∧ "" ∉ ss := by
  obtain ⟨hfilter, hproblem⟩ := Checked.guarded_eq_accepted_iff.mp h
  obtain ⟨all, -, rfl⟩ := Checked.map_eq_accepted_iff.mp hfilter
  refine ⟨Form.ne_nil_of_checkSelection (Option.map_eq_none_iff.mp hproblem), fun hmem => ?_⟩
  exact absurd (List.mem_filter.mp hmem).2 (by decide)

/-- A selection is empty exactly when its field is left out. -/
theorem optional_selection {es : List (String × Value)} {f : FieldName} {what : String}
    {ss : List String} (h : optional es f [] (selection what) = .accepted ss) :
    "" ∉ ss ∧ (ss ≠ [] ↔ (f.find? es).isSome = true) := by
  rcases optional_eq_accepted_iff.mp h with ⟨hnone, rfl⟩ | ⟨key, v, hsome, hv⟩
  · refine ⟨List.not_mem_nil, iff_of_false (fun hne => hne rfl) ?_⟩
    rw [hnone]
    exact Bool.false_ne_true
  · obtain ⟨hne, hempty⟩ := selection_eq_accepted hv
    refine ⟨hempty, iff_of_true hne ?_⟩
    rw [hsome]
    rfl

theorem selection_of_fieldsRead {rule : RecordRule} {es : List (String × Value)}
    {input : AlertInput} {lone : Text.StandIns} (h : FieldsRead rule es input lone)
    (s : Selection) :
    "" ∉ s.of input ∧ (s.of input ≠ [] ↔ (s.fieldName.find? es).isSome = true) := by
  cases s with
  | services => exact optional_selection h.services
  | eventTypes => exact optional_selection h.eventTypes
  | regions => exact optional_selection h.regions
  | severities => exact optional_selection h.severities

/-- A selection of an accepted request holds no empty text, and is empty exactly when the payload
leaves it out. -/
theorem selection_of_accepted {rule : RecordRule} {payload : Value} {lone : Text.StandIns}
    {input : AlertInput} (h : readWith rule payload lone = .accepted input) (s : Selection) :
    "" ∉ s.of input ∧ (s.of input ≠ [] ↔ s.GivenIn payload) := by
  obtain ⟨es, rfl, hread, -⟩ := readWith_eq_accepted_iff.mp h
  obtain ⟨hempty, hgiven⟩ := selection_of_fieldsRead hread s
  refine ⟨hempty, hgiven.trans (FieldName.isSome_find?_iff.trans ⟨fun hk => ⟨es, rfl, hk⟩, ?_⟩)⟩
  rintro ⟨_, hes, hk⟩
  obtain rfl := Value.record.inj hes
  exact hk

end Request

/-! ## The conditions -/

namespace Template

/-- The template has these conditions: in its properties, in its text and in its count. -/
structure Carries (options : TemplateOptions) (t : Template) (cs : List Condition) : Prop where
  condition : t.properties.member? "condition" = some (Condition.allOf cs).toValue
  written : t.WritesProperties options
  count : t.conditionCount = cs.length

theorem carries_of_render {options : TemplateOptions} {input : AlertInput} {t : Template}
    (h : render options input = .ok t) : t.Carries options input.conditions := by
  obtain ⟨reference, -, rfl⟩ := render_eq_ok_iff.mp h
  exact ⟨rfl, writesProperties_withReference options input reference, rfl⟩

end Template

namespace Selection

variable {input : AlertInput} {s : Selection}

/-- An alert has a condition on what a selection restricts exactly when something is selected. -/
theorem exists_on_conditions_iff {field : ConditionField} (h : s.restricts? = some field) :
    (∃ c ∈ input.conditions, c.On field) ↔ s.of input ≠ [] := by
  unfold AlertInput.conditions
  rw [Condition.exists_on_build_iff]
  cases s with
  | services => obtain rfl := Option.some.inj h; exact Iff.rfl
  | eventTypes => obtain rfl := Option.some.inj h; exact Iff.rfl
  | regions => obtain rfl := Option.some.inj h; exact Iff.rfl
  | severities => cases h

theorem exists_on_category (input : AlertInput) : ∃ c ∈ input.conditions, c.On .category :=
  Condition.exists_on_build_iff.mpr (List.cons_ne_nil _ _)

/-- All four conditions are there exactly when something is selected in every dimension. -/
theorem length_conditions_eq_four_iff :
    input.conditions.length = 4 ↔ ∀ s : Selection, s.restricts? ≠ none → s.of input ≠ [] := by
  unfold AlertInput.conditions
  rw [Condition.length_build]
  constructor
  · intro h s hs
    by_cases hservices : input.services = [] <;> by_cases hevents : input.eventTypes = [] <;>
      by_cases hregions : input.regions = [] <;> simp [hservices, hevents, hregions] at h
    cases s with
    | services => exact hservices
    | eventTypes => exact hevents
    | regions => exact hregions
    | severities => exact absurd rfl hs
  · intro h
    have hservices : input.services ≠ [] := h .services (by decide)
    have hevents : input.eventTypes ≠ [] := h .eventTypes (by decide)
    have hregions : input.regions ≠ [] := h .regions (by decide)
    rw [if_neg hservices, if_neg hevents, if_neg hregions]

end Selection

namespace Request

/-- **The selections of an accepted request hold no empty text and are empty exactly where the
payload leaves them out, and every template of the request has a condition on the category and one
on each dimension that the payload gives.** -/
theorem conditions_of_accepted {rule : RecordRule} {payload : Value} {lone : Text.StandIns}
    {input : AlertInput} (h : readWith rule payload lone = .accepted input) :
    (∀ s : Selection, "" ∉ s.of input ∧ (s.of input ≠ [] ↔ s.GivenIn payload)) ∧
      ∀ options t, Template.render options input = .ok t →
        t.Carries options input.conditions ∧
          (∃ c ∈ input.conditions, c.On .category) ∧
          (∀ s : Selection, ∀ field, s.restricts? = some field →
            ((∃ c ∈ input.conditions, c.On field) ↔ s.GivenIn payload)) ∧
          (t.conditionCount = 4 ↔
            ∀ s : Selection, s.restricts? ≠ none → s.GivenIn payload) := by
  have hselections := selection_of_accepted h
  refine ⟨hselections, fun options t ht => ?_⟩
  have hcarries := Template.carries_of_render ht
  refine ⟨hcarries, Selection.exists_on_category input, fun s field hs => ?_, ?_⟩
  · exact (Selection.exists_on_conditions_iff hs).trans (hselections s).2
  · rw [hcarries.count, Selection.length_conditions_eq_four_iff]
    exact forall_congr' fun s => imp_congr_right fun _ => (hselections s).2

/-- A request that leaves out the services. -/
def partialRequest : Value :=
  .record [("subscription_id", .text "11111111-2222-3333-4444-555555555555"),
    ("alert_name", .text "svc-health"), ("event_types", .list [.text "Incident"]),
    ("regions", .list [.text "", .text "Global"]), ("severities", .list [.text "Sev1"]),
    ("action_group_name", .text "ag-ops"), ("action_group_resource_group", .text "rg-mon")]

/-- The alert that `partialRequest` asks for. -/
def partialInput : AlertInput where
  subscriptionId := "11111111-2222-3333-4444-555555555555"
  alertName := "svc-health"
  eventTypes := ["Incident"]
  regions := ["Global"]
  severities := ["Sev1"]
  actionGroupName := "ag-ops"
  actionGroupResourceGroup := "rg-mon"

theorem conditions_of_partialRequest :
    readWith .byModel partialRequest = .accepted partialInput ∧
      "" ∉ Selection.regions.of partialInput ∧ Selection.regions.of partialInput ≠ [] ∧
      ∀ options t, Template.render options partialInput = .ok t → t.conditionCount ≠ 4 := by
  have haccepted : readWith .byModel partialRequest = .accepted partialInput := rfl
  obtain ⟨hselections, htemplates⟩ := conditions_of_accepted haccepted
  have hregions : Selection.regions.GivenIn partialRequest := ⟨_, rfl, Or.inl (by decide)⟩
  have hservices : ¬ Selection.services.GivenIn partialRequest := fun hgiven =>
    (hselections .services).2.mpr hgiven rfl
  refine ⟨haccepted, (hselections .regions).1, (hselections .regions).2.mpr hregions, ?_⟩
  intro options t ht hcount
  exact hservices ((htemplates options t ht).2.2.2.mp hcount .services (by decide))

/-- An accepted request need not select anything, and its template may lack conditions. -/
theorem read_partialRequest :
    read partialRequest = .accepted partialInput ∧ Selection.services.of partialInput = [] ∧
      ∃ t, Template.render {} partialInput = .ok t ∧ t.conditionCount = 3 :=
  ⟨rfl, rfl, Template.withReference {} partialInput partialInput.reference, rfl, rfl⟩

end Request

end HealthAlert
