import HealthAlert.Form.Check
import HealthAlert.Proofs.Value.Documents
import HealthAlert.Request.Reader

/-!
# The entry that gives a field

The check of a form and the reader of a request both take a field from a payload, each by its own
rule. The check brings every key to snake case and takes the last of the entries whose keys come
to the field's name (`Field.formFind?`); the group's resource group has a second such name, which
counts when no key comes to the first. The reader knows the field's own name and its name in the
form, of which the form's wins (`FieldName.find?`).

* `get?_normalizeKeys`: the value that the check takes is that of `formFind?`.
* `formFind?_eq_find?_iff`: the two take the same entry exactly when `Field.ReadAlike` holds of
  the payload.
* **`value_taken`**: both for the payloads that a JSON text can give.
* `alertName_read_twice`: a payload that gives a field under both names may be read in two ways.
-/

namespace HealthAlert

namespace Request

/-! ## Fields -/

/-- The fields of a request. -/
inductive Field where
  | subscriptionId
  | alertName
  | services
  | eventTypes
  | regions
  | severities
  | actionMode
  | actionGroupName
  | actionGroupResourceGroup
  | existingActionGroupId
  | quickActionGroupName
  | quickEmail
  | quickShortName
  | tags
  deriving DecidableEq, Repr

namespace Field

/-- The two names of the field. -/
def names : Field → FieldName
  | subscriptionId => ⟨"subscription_id", "subscriptionId"⟩
  | alertName => ⟨"alert_name", "alertName"⟩
  | services => ⟨"services", "services"⟩
  | eventTypes => ⟨"event_types", "eventTypes"⟩
  | regions => ⟨"regions", "regions"⟩
  | severities => ⟨"severities", "severities"⟩
  | actionMode => ⟨"action_mode", "actionMode"⟩
  | actionGroupName => ⟨"action_group_name", "actionGroupName"⟩
  | actionGroupResourceGroup => ⟨"action_group_resource_group", "actionGroupRg"⟩
  | existingActionGroupId => ⟨"existing_action_group_id", "existingActionGroupId"⟩
  | quickActionGroupName => ⟨"quick_action_group_name", "quickActionGroupName"⟩
  | quickEmail => ⟨"quick_email", "quickEmail"⟩
  | quickShortName => ⟨"quick_short_name", "quickShortName"⟩
  | tags => ⟨"tags", "tags"⟩

/-- The names to which a key that gives the field comes in snake case; the first counts before the
second. -/
def keyNames : Field → List String
  | actionGroupResourceGroup => ["action_group_resource_group", "action_group_rg"]
  | f => [f.names.name]

theorem snakeCase_name (f : Field) : Form.snakeCase f.names.name ∈ f.keyNames := by
  cases f <;> decide +kernel

theorem snakeCase_formName (f : Field) : Form.snakeCase f.names.formName ∈ f.keyNames := by
  cases f <;> decide +kernel

end Field

/-! ## The entry that the form check takes -/

variable {es : List (String × Value)} {f : Field}

/-- The last entry whose key comes to the name. -/
def lastUnder? (es : List (String × Value)) (name : String) : Option (String × Value) :=
  es.reverse.find? fun e => Form.snakeCase e.1 == name

/-- The entry from which the check of a form takes the field. -/
def Field.formFind? (f : Field) (es : List (String × Value)) : Option (String × Value) :=
  f.keyNames.findSome? (lastUnder? es)

theorem lastUnder?_eq_none_iff {name : String} :
    lastUnder? es name = none ↔ ∀ e ∈ es, Form.snakeCase e.1 ≠ name := by
  simp [lastUnder?]

theorem mem_of_lastUnder? {name : String} {e : String × Value} (h : lastUnder? es name = some e) :
    e ∈ es :=
  List.mem_reverse.mp (List.mem_of_find?_eq_some h)

theorem mem_of_formFind? {e : String × Value} (h : f.formFind? es = some e) : e ∈ es := by
  obtain ⟨name, -, hname⟩ := List.exists_of_findSome?_eq_some h
  exact mem_of_lastUnder? hname

theorem formFind?_eq_none_iff :
    f.formFind? es = none ↔ ∀ e ∈ es, Form.snakeCase e.1 ∉ f.keyNames := by
  unfold Field.formFind?
  rw [List.findSome?_eq_none_iff]
  constructor
  · intro h e he hmem
    exact lastUnder?_eq_none_iff.mp (h _ hmem) e he rfl
  · intro h name hname
    refine lastUnder?_eq_none_iff.mpr fun e he heq => h e he (heq ▸ hname)

theorem get?_snakeCased (es : List (String × Value)) (name : String) :
    Keyed.get? (Keyed.ofPairs (es.map fun e => (Form.snakeCase e.1, e.2))) name =
      (lastUnder? es name).map Prod.snd := by
  rw [Keyed.get?_ofPairs, ← List.map_reverse, List.find?_map, Option.map_map]
  rfl

theorem formFind?_resourceGroup (es : List (String × Value)) :
    Field.actionGroupResourceGroup.formFind? es =
      (lastUnder? es "action_group_resource_group").or (lastUnder? es "action_group_rg") := by
  unfold Field.formFind? Field.keyNames
  cases h : lastUnder? es "action_group_resource_group" <;>
    cases h' : lastUnder? es "action_group_rg" <;> simp [List.findSome?, h, h']

theorem formFind?_of_ne (es : List (String × Value)) (h : f ≠ .actionGroupResourceGroup) :
    f.formFind? es = lastUnder? es f.names.name := by
  have hnames : f.keyNames = [f.names.name] := by
    cases f with
    | actionGroupResourceGroup => exact absurd rfl h
    | _ => rfl
  unfold Field.formFind?
  rw [hnames]
  cases h' : lastUnder? es f.names.name <;> simp [List.findSome?, h']

/-- **The check of a form takes a field from the last entry whose key comes to its name.** -/
theorem get?_normalizeKeys (es : List (String × Value)) (f : Field) :
    Keyed.get? (Form.normalizeKeys es) f.names.name = (f.formFind? es).map Prod.snd := by
  have hshort : f.names.name ≠ "action_group_rg" := by cases f <;> decide
  unfold Form.normalizeKeys
  simp only [get?_snakeCased, Keyed.has, Keyed.get?_filter_ne _
    (show "action_group_resource_group" ≠ "action_group_rg" by decide)]
  by_cases hf : f = .actionGroupResourceGroup
  · subst hf
    rw [formFind?_resourceGroup]
    cases hrg : lastUnder? es "action_group_rg" with
    | none => simp [get?_snakeCased, Field.names]
    | some e =>
      cases hlong : lastUnder? es "action_group_resource_group" <;>
        simp [Keyed.get?_append, Keyed.get?_filter_ne, get?_snakeCased, Field.names, hlong,
          Keyed.get?]
  · rw [formFind?_of_ne es hf]
    have hlong : "action_group_resource_group" ≠ f.names.name := by
      cases f with
      | actionGroupResourceGroup => exact absurd rfl hf
      | _ => decide
    cases lastUnder? es "action_group_rg" with
    | none => exact get?_snakeCased es _
    | some e =>
      simp only [Option.map_some]
      split
      · rw [Keyed.get?_filter_ne _ hshort, get?_snakeCased]
      · rw [Keyed.get?_append, Keyed.get?_filter_ne _ hshort, get?_snakeCased]
        simp [Keyed.get?, hlong]

/-! ## The same entry -/

/-- The check and the reader take the field from one entry: no key comes to the field, or the key
that counts for the check is the form's name, or it is the field's own name and the form's name is
not there. -/
def Field.ReadAlike (f : Field) (es : List (String × Value)) : Prop :=
  match f.formFind? es with
  | none => True
  | some (key, _) =>
    key = f.names.formName ∨ key = f.names.name ∧ Keyed.has es f.names.formName = false

theorem get?_eq_none_of_formFind? (h : f.formFind? es = none) {name : String}
    (hname : Form.snakeCase name ∈ f.keyNames) : Keyed.get? es name = none := by
  cases hv : Keyed.get? es name with
  | none => rfl
  | some v =>
    have hnot := formFind?_eq_none_iff.mp h (name, v) (Keyed.mem_of_get? hv)
    exact absurd hname hnot

/-- **The check and the reader take a field from the same entry, or both find none, exactly when
the payload is read alike.** -/
theorem formFind?_eq_find?_iff (hes : (Keyed.keys es).Nodup) :
    f.formFind? es = f.names.find? es ↔ f.ReadAlike es := by
  unfold Field.ReadAlike FieldName.find?
  cases hform : f.formFind? es with
  | none =>
    rw [get?_eq_none_of_formFind? hform f.snakeCase_formName,
      get?_eq_none_of_formFind? hform f.snakeCase_name]
    simp
  | some e =>
    obtain ⟨key, v⟩ := e
    have hv := Keyed.get?_of_mem hes (mem_of_formFind? hform)
    simp only [Keyed.has]
    constructor
    · intro h
      cases hgiven : Keyed.get? es f.names.formName with
      | some w =>
        rw [hgiven] at h
        exact Or.inl (Prod.mk.inj (Option.some.inj h)).1
      | none =>
        rw [hgiven] at h
        obtain ⟨w, -, hw⟩ := Option.map_eq_some_iff.mp h.symm
        exact Or.inr ⟨(Prod.mk.inj hw).1.symm, rfl⟩
    · rintro (rfl | ⟨rfl, hnone⟩)
      · rw [hv]
      · rw [Option.isSome_eq_false_iff, Option.isNone_iff_eq_none] at hnone
        rw [hnone, hv]
        rfl

/-- **Where a field is taken from, by the check of a form and by the reader of a request.** The
check takes the last entry whose key comes to the field. It is the reader's entry exactly when the
payload is read alike, and otherwise the two values agree only if two entries hold the same. -/
theorem value_taken (hes : Value.IsJson (.record es)) (f : Field) :
    Keyed.get? (Form.normalizeKeys es) f.names.name = (f.formFind? es).map Prod.snd ∧
      (f.formFind? es = f.names.find? es ↔ f.ReadAlike es) ∧
      (Keyed.get? (Form.normalizeKeys es) f.names.name = (f.names.find? es).map Prod.snd ↔
        f.ReadAlike es ∨
          ∃ e e', f.formFind? es = some e ∧ f.names.find? es = some e' ∧ e.2 = e'.2) := by
  have hsame := formFind?_eq_find?_iff (f := f) hes.1
  refine ⟨get?_normalizeKeys es f, hsame, ?_⟩
  rw [get?_normalizeKeys]
  constructor
  · intro h
    cases hform : f.formFind? es with
    | none =>
      rw [hform] at h
      refine Or.inl (hsame.mp ?_)
      rw [hform, Option.map_eq_none_iff.mp h.symm]
    | some e =>
      rw [hform] at h
      obtain ⟨e', he', hv⟩ := Option.map_eq_some_iff.mp h.symm
      exact Or.inr ⟨e, e', rfl, he', hv.symm⟩
  · rintro (halike | ⟨e, e', he, he', hv⟩)
    · rw [hsame.mpr halike]
    · rw [he, he', Option.map_some, Option.map_some, hv]

/-- A payload that gives the alert's name under both names, the form's name last. -/
def formNameLast : List (String × Value) :=
  [("alert_name", .text "x"), ("alertName", .text "svc-health")]

theorem value_taken_formNameLast :
    Value.IsJson (.record formNameLast) ∧
      Keyed.get? (Form.normalizeKeys formNameLast) "alert_name" = some (.text "svc-health") ∧
      Field.alertName.names.find? formNameLast = some ("alertName", .text "svc-health") := by
  have hjson : Value.IsJson (.record formNameLast) := ⟨by decide, trivial, trivial, trivial⟩
  have halike : Field.alertName.ReadAlike formNameLast := Or.inl rfl
  refine ⟨hjson, ?_, rfl⟩
  exact (value_taken hjson .alertName).2.2.mpr (Or.inl halike)

/-- A payload that gives the alert's name under both names, its own name last. -/
def ownNameLast : List (String × Value) :=
  [("subscription_id", .text "11111111-2222-3333-4444-555555555555"),
    ("alertName", .text "svc-health"), ("services", .list [.text "Storage"]),
    ("event_types", .list [.text "Incident"]), ("regions", .list [.text "Global"]),
    ("severities", .list [.text "Sev1"]), ("action_group_name", .text "ag-ops"),
    ("action_group_resource_group", .text "rg-mon"), ("alert_name", .text "x")]

/-- The check of a form and the reader of a request may take different values from a payload. -/
theorem alertName_read_twice :
    Value.IsJson (.record ownNameLast) ∧
      Keyed.get? (Form.normalizeKeys ownNameLast) "alert_name" = some (.text "x") ∧
      Field.alertName.names.find? ownNameLast = some ("alertName", .text "svc-health") :=
  ⟨⟨by decide, trivial, trivial, ⟨trivial, trivial⟩, ⟨trivial, trivial⟩, ⟨trivial, trivial⟩,
    ⟨trivial, trivial⟩, trivial, trivial, trivial, trivial⟩, rfl, rfl⟩

end Request

end HealthAlert
