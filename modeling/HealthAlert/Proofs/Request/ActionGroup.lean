import HealthAlert.Proofs.Request.Agreement
import HealthAlert.Proofs.Request.Resubmission

/-!
# The action group of an accepted request

A request in existing mode names its action group by an explicit ID, or by the name and the
resource group of which the ID is composed. The name and the resource group are trimmed before
they are judged, so neither is blank where it counts. The explicit ID is taken as it is given: it
counts unless it is empty, and so may be blank.

* `AlertInput.HasGroupId`: where the ID comes from.
* `HasGroupId.isBlankText_iff`: it is blank only where the explicit ID is white space.
* `isWhite_explicit_iff`: the explicit ID is white space when the payload gives it so.
* **`notifies_of_accepted`**: the ID in the template of an accepted request, and when it is blank.
* `notifies_whiteId`: an accepted request whose ID is blank.
-/

namespace HealthAlert

/-- The text is white space, at least one character of it. -/
def Text.IsWhite (s : String) : Prop :=
  s ≠ "" ∧ isBlankText s = true

/-! ## The ID of an action group -/

namespace Template

/-- The template notifies the action group with this ID: in its properties and in its text. -/
structure Notifies (options : TemplateOptions) (t : Template) (id : String) : Prop where
  actionGroups : t.actionGroups? =
    some (.list [.record [("actionGroupId", .text (Bicep.quote id))]])
  written : t.WritesProperties options

/-- A composed ID starts with a slash, so it is not blank. -/
theorem isBlankText_actionGroupId (subscriptionId resourceGroup name : String) :
    Text.isBlankText (actionGroupId subscriptionId resourceGroup name) = false := by
  unfold Text.isBlankText actionGroupId
  simp only [String.toList_append, List.all_append]
  rfl

theorem notifies_groupId {options : TemplateOptions} {input : AlertInput}
    (hmode : input.actionMode = .existing) :
    (withReference options input input.reference).Notifies options input.groupId := by
  have hcoherent : (withReference options input input.reference).Coherent options input :=
    coherent_of_existing hmode
  refine ⟨?_, hcoherent.written⟩
  rw [hcoherent.actionGroups, AlertInput.reference_of_existing hmode]

end Template

namespace AlertInput

variable {input : AlertInput} {id : String}

/-- The ID that the values of an alert give its action group: the explicit one unless it is empty,
or else the composed one, of parts that are not blank. -/
inductive HasGroupId (input : AlertInput) : String → Prop
  | explicit {id : String} (hid : input.existingActionGroupId = some id) (hne : id ≠ "") :
      HasGroupId input id
  | composed (hnone : input.existingActionGroupId.getD "" = "")
      (hname : Text.isBlankText input.actionGroupName = false)
      (hresource : Text.isBlankText input.actionGroupResourceGroup = false) :
      HasGroupId input (Template.actionGroupId input.subscriptionId input.actionGroupResourceGroup
        input.actionGroupName)

theorem HasGroupId.isBlankText_iff (h : input.HasGroupId id) :
    Text.isBlankText id = true ↔ ∃ e, input.existingActionGroupId = some e ∧ Text.IsWhite e := by
  cases h with
  | explicit hid hne =>
    rw [hid]
    constructor
    · intro hblank
      exact ⟨id, rfl, hne, hblank⟩
    · rintro ⟨e, he, -, hblank⟩
      rwa [Option.some.inj he]
  | composed hnone hname hresource =>
    refine iff_of_false ?_ ?_
    · rw [Template.isBlankText_actionGroupId]
      exact Bool.false_ne_true
    · rintro ⟨e, he, hne, -⟩
      rw [he] at hnone
      exact hne hnone

end AlertInput

namespace Request

open Validation (text nullableText)

/-! ## Values of the fields -/

section Fields

variable {es : List (String × Value)}

/-- A trimmed text is blank only when it is empty. -/
theorem isBlankText_trimmedText {f : FieldName} {s : String}
    (h : optional es f "" trimmedText = .accepted s) : Text.isBlankText s = true ↔ s = "" := by
  have htrimmed : Text.trim s = s := by
    rcases optional_eq_accepted_iff.mp h with ⟨-, rfl⟩ | ⟨_, v, -, hv⟩
    · rfl
    · exact Checked.accepted.inj (settles_trimmedText v s hv)
  rw [Text.isBlankText_iff_trim, htrimmed]

/-- A text is read as it is, white space and all. -/
theorem isWhite_nullableText_iff {v : Value} {o : Option String}
    (h : nullableText v = .accepted o) :
    (∃ e, o = some e ∧ Text.IsWhite e) ↔ ∃ s, v.text? = some s ∧ Text.IsWhite s := by
  unfold nullableText at h
  split at h
  · obtain rfl := Checked.accepted.inj h
    simp [Value.text?]
  · obtain ⟨s, hs, rfl⟩ := Checked.map_eq_accepted_iff.mp h
    cases hv : v.text? with
    | some t =>
      rw [text_of_text? hv] at hs
      rw [Checked.accepted.inj hs]
    | none =>
      -- Bytes are read as a text that is not blank.
      obtain rfl := text_of_text?_eq_none hv hs
      refine iff_of_false ?_ ?_
      · rintro ⟨e, he, -, hblank⟩
        rw [← Option.some.inj he] at hblank
        exact absurd hblank (by decide)
      · rintro ⟨s, hs, -⟩
        exact absurd hs (by simp)

/-- The explicit ID is white space exactly when the payload gives it so. -/
theorem isWhite_explicit_iff {f : Field} {o : Option String}
    (h : optional es f.names none nullableText = .accepted o) :
    (∃ e, o = some e ∧ Text.IsWhite e) ↔ ∃ s, (f.given es).text? = some s ∧ Text.IsWhite s := by
  rcases optional_eq_accepted_iff.mp h with ⟨hnone, rfl⟩ | ⟨key, v, hfound, hv⟩
  · rw [given_of_find?_eq_none hnone]
    simp [Value.text?]
  · rw [given_of_find? hfound]
    exact isWhite_nullableText_iff hv

end Fields

/-! ## The request -/

section Whole

variable {rule : RecordRule} {es : List (String × Value)} {input : AlertInput}
variable {lone : Text.StandIns}

/-- An accepted request in existing mode has an ID for its action group. -/
theorem hasGroupId_groupId (hread : FieldsRead rule es input lone)
    (hgroup : actionGroupProblem input = none) (hmode : input.actionMode = .existing) :
    input.HasGroupId input.groupId := by
  have hhas := hasGroup_of_actionGroupProblem hgroup
  unfold AlertInput.HasGroup at hhas
  rw [hmode] at hhas
  unfold AlertInput.groupId
  by_cases hnone : input.existingActionGroupId.getD "" = ""
  · rw [if_pos hnone]
    obtain ⟨hname, hresource⟩ := hhas.resolve_left (not_not.mpr hnone)
    refine .composed hnone ?_ ?_
    · rw [Bool.eq_false_iff]
      exact mt (isBlankText_trimmedText hread.actionGroupName).mp hname
    · rw [Bool.eq_false_iff]
      exact mt (isBlankText_trimmedText hread.actionGroupResourceGroup).mp hresource
  · rw [if_neg hnone]
    cases hid : input.existingActionGroupId with
    | none =>
      rw [hid] at hnone
      exact absurd rfl hnone
    | some id =>
      rw [hid] at hnone
      exact .explicit hid hnone

/-- **The template of an accepted request in existing mode notifies the action group with the
explicit ID, or with the composed one when that is empty. The ID is blank exactly when the payload
gives white space for it.** -/
theorem notifies_of_accepted (h : readWith rule (.record es) lone = .accepted input)
    (hmode : input.actionMode = .existing) (options : TemplateOptions) :
    ∃ t id, Template.render options input = .ok t ∧ t.Notifies options id ∧
      input.HasGroupId id ∧
      (Text.isBlankText id = true ↔
        ∃ s, (Field.existingActionGroupId.given es).text? = some s ∧ Text.IsWhite s) := by
  obtain ⟨_, heq, hread, hgroup⟩ := readWith_eq_accepted_iff.mp h
  obtain rfl := Value.record.inj heq
  have hid : input.HasGroupId input.groupId := hasGroupId_groupId hread hgroup hmode
  exact ⟨_, input.groupId, Template.render_accepted h options, Template.notifies_groupId hmode, hid,
    hid.isBlankText_iff.trans
      (isWhite_explicit_iff (f := .existingActionGroupId) hread.existingActionGroupId)⟩

/-- A request that gives the name and the resource group of its action group. -/
def namedGroup : List (String × Value) :=
  [("subscription_id", .text "11111111-2222-3333-4444-555555555555"),
    ("alert_name", .text "svc-health"), ("services", .list [.text "Storage"]),
    ("event_types", .list [.text "Incident"]), ("regions", .list [.text "Global"]),
    ("severities", .list [.text "Sev1"]), ("action_mode", .text "existing"),
    ("action_group_name", .text " ag-ops"), ("action_group_resource_group", .text "rg-mon ")]

/-- The alert that `namedGroup` asks for. -/
def namedGroupInput : AlertInput where
  subscriptionId := "11111111-2222-3333-4444-555555555555"
  alertName := "svc-health"
  services := ["Storage"]
  eventTypes := ["Incident"]
  regions := ["Global"]
  severities := ["Sev1"]
  actionGroupName := "ag-ops"
  actionGroupResourceGroup := "rg-mon"

theorem notifies_namedGroup :
    readWith .byModel (.record namedGroup) = .accepted namedGroupInput ∧
      namedGroupInput.actionMode = .existing ∧
      ∃ t, Template.render {} namedGroupInput = .ok t ∧
        t.Notifies {} ("/subscriptions/11111111-2222-3333-4444-555555555555/resourceGroups/" ++
          "rg-mon/providers/microsoft.insights/actionGroups/ag-ops") := by
  have haccepted : readWith .byModel (.record namedGroup) = .accepted namedGroupInput := rfl
  obtain ⟨t, id, hrender, hnotifies, hid, -⟩ := notifies_of_accepted haccepted rfl {}
  refine ⟨haccepted, rfl, t, hrender, ?_⟩
  cases hid with
  | explicit hid hne => exact absurd hid (by simp [namedGroupInput])
  | composed hnone hname hresource => exact hnotifies

/-- With white space for an ID the same request is accepted, and its template notifies a blank
ID. -/
theorem notifies_whiteId :
    readWith .byModel (.record (namedGroup ++ [("existing_action_group_id", .text "   ")])) =
        .accepted { namedGroupInput with existingActionGroupId := some "   " } ∧
      ∃ t, Template.render {} { namedGroupInput with existingActionGroupId := some "   " } =
          .ok t ∧
        t.Notifies {} "   " ∧ Text.isBlankText "   " = true := by
  have haccepted :
      readWith .byModel (.record (namedGroup ++ [("existing_action_group_id", .text "   ")])) =
        .accepted { namedGroupInput with existingActionGroupId := some "   " } := rfl
  exact ⟨haccepted, _, Template.render_accepted haccepted {}, Template.notifies_groupId rfl, rfl⟩

end Whole

end Request

end HealthAlert
