import HealthAlert.Proofs.Text.Encoding
import HealthAlert.Request.Reader

/-!
# What an accepted request says

A result is `Checked`: accepted, or refused with issues. The lemmas on its operations say when each
gives an accepted result, so that an accepted request splits into its fields:
**`readWith_eq_accepted_iff`** says that a payload is accepted exactly when it is a record, each
field of the input is what the field's reader accepts (`FieldsRead`), and the fields of the action
group suit the mode.
-/

namespace HealthAlert

/-! ## Accepted results -/

namespace Checked

variable {α β : Type}

theorem map_eq_accepted_iff {f : α → β} {x : Checked α} {b : β} :
    f <$> x = .accepted b ↔ ∃ a, x = .accepted a ∧ f a = b := by
  cases x <;> simp [Functor.map, Checked.map]

theorem seq_eq_accepted_iff {f : Checked (α → β)} {x : Checked α} {b : β} :
    f <*> x = .accepted b ↔ ∃ g a, f = .accepted g ∧ x = .accepted a ∧ g a = b := by
  cases f <;> cases x <;> simp [Seq.seq, Checked.apply]

theorem under_eq_accepted_iff {step : Place} {x : Checked α} {a : α} :
    under step x = .accepted a ↔ x = .accepted a := by
  cases x <;> simp [under]

theorem guarded_eq_accepted_iff {x : Checked α} {v : Value} {problem : α → Option String} {a : α} :
    guarded x v problem = .accepted a ↔ x = .accepted a ∧ problem a = none := by
  cases x with
  | refused issues => simp [guarded]
  | accepted b =>
    unfold guarded
    constructor
    · intro h
      cases hb : problem b with
      | none =>
        simp only [hb, accepted.injEq] at h
        exact ⟨by rw [h], h ▸ hb⟩
      | some message =>
        simp only [hb, refuse, reduceCtorEq] at h
    · rintro ⟨h, hp⟩
      obtain rfl := accepted.inj h
      simp only [hp]

/-- A list of checked elements is accepted when its first element and the others are. -/
theorem all_cons_eq_accepted_iff {check : Value → Checked α} {v : Value} {vs : List Value}
    {first : Nat} {as : List α} :
    all check first (v :: vs) = .accepted as ↔
      ∃ a rest, check v = .accepted a ∧ all check (first + 1) vs = .accepted rest ∧
        a :: rest = as := by
  simp only [all, seq_eq_accepted_iff, map_eq_accepted_iff, under_eq_accepted_iff]
  constructor
  · rintro ⟨_, rest, ⟨a, ha, rfl⟩, hrest, rfl⟩
    exact ⟨a, rest, ha, hrest, rfl⟩
  · rintro ⟨a, rest, ha, hrest, rfl⟩
    exact ⟨_, rest, ⟨a, ha, rfl⟩, hrest, rfl⟩

/-- Every element of an accepted list is what the check accepts. -/
theorem forall_of_all {check : Value → Checked α} {p : α → Prop}
    (h : ∀ v a, check v = .accepted a → p a) {vs : List Value} {first : Nat} {as : List α}
    (hall : all check first vs = .accepted as) : ∀ a ∈ as, p a := by
  induction vs generalizing first as with
  | nil =>
    obtain rfl := accepted.inj hall
    exact fun a ha => absurd ha List.not_mem_nil
  | cons v vs ih =>
    obtain ⟨a, rest, ha, hrest, rfl⟩ := all_cons_eq_accepted_iff.mp hall
    exact List.forall_mem_cons.mpr ⟨h v a ha, ih hrest⟩

end Checked

namespace Request

open Validation (text nullableText)

/-- An accepted list has elements, which are accepted. -/
theorem listOf_eq_accepted_iff {α : Type} {check : Value → Checked α} {v : Value} {as : List α} :
    listOf check v = .accepted as ↔
      ∃ items, elements? v = some items ∧ Checked.all check 0 items = .accepted as := by
  unfold listOf
  cases elements? v with
  | none => simp [Checked.refuse]
  | some items => simp

/-! ## Fields -/

/-- What a field is given is an entry of the record. -/
theorem FieldName.mem_of_find? {f : FieldName} {es : List (String × Value)} {key : String}
    {v : Value} (h : f.find? es = some (key, v)) : (key, v) ∈ es := by
  unfold FieldName.find? at h
  split at h
  · rename_i w hw
    obtain ⟨rfl, rfl⟩ := Prod.mk.inj (Option.some.inj h)
    exact Keyed.mem_of_get? hw
  · obtain ⟨w, hw, heq⟩ := Option.map_eq_some_iff.mp h
    obtain ⟨rfl, rfl⟩ := Prod.mk.inj heq
    exact Keyed.mem_of_get? hw

section Reading

variable {α : Type} {es : List (String × Value)} {f : FieldName} {check : Value → Checked α} {a : α}

/-- An accepted optional field has its default, or a value that its reader accepts. -/
theorem optional_eq_accepted_iff {default : α} :
    optional es f default check = .accepted a ↔
      (f.find? es = none ∧ a = default) ∨
        ∃ key v, f.find? es = some (key, v) ∧ check v = .accepted a := by
  unfold optional
  cases f.find? es with
  | none => simp [eq_comm]
  | some e =>
    obtain ⟨key, v⟩ := e
    rw [Checked.under_eq_accepted_iff]
    constructor
    · intro h
      exact Or.inr ⟨key, v, rfl, h⟩
    · rintro (⟨hnone, -⟩ | ⟨_, _, hsome, h⟩)
      · exact absurd hnone (by simp)
      · obtain ⟨rfl, rfl⟩ := Prod.mk.inj (Option.some.inj hsome)
        exact h

/-- An accepted required field is there and has a value that its reader accepts. -/
theorem required_eq_accepted_iff :
    required es f check = .accepted a ↔
      ∃ key v, f.find? es = some (key, v) ∧ check v = .accepted a := by
  unfold required
  cases f.find? es with
  | none => simp [Checked.under_eq_accepted_iff, Checked.refuse]
  | some e =>
    obtain ⟨key, v⟩ := e
    rw [Checked.under_eq_accepted_iff]
    constructor
    · intro h
      exact ⟨key, v, rfl, h⟩
    · rintro ⟨_, _, hsome, h⟩
      obtain ⟨rfl, rfl⟩ := Prod.mk.inj (Option.some.inj hsome)
      exact h

end Reading

/-- Without stand-ins every text has UTF-8. -/
theorem encodable_nil {α : Type} (check : Value → Checked α) : encodable [] check = check := by
  funext v
  unfold encodable
  split
  · rw [Text.occurIn_nil]
    rfl
  · rfl

/-- Every field of the input is what the reader of the field accepts in the record. -/
structure FieldsRead (rule : RecordRule) (es : List (String × Value)) (input : AlertInput)
    (lone : Text.StandIns := []) : Prop where
  subscriptionId : required es ⟨"subscription_id", "subscriptionId"⟩
    (checkedText Form.checkSubscriptionId) = .accepted input.subscriptionId
  alertName : required es ⟨"alert_name", "alertName"⟩
    (checkedText Form.checkAlertName) = .accepted input.alertName
  services : optional es ⟨"services", "services"⟩ [] (selection "service") =
    .accepted input.services
  eventTypes : optional es ⟨"event_types", "eventTypes"⟩ [] (selection "event type") =
    .accepted input.eventTypes
  regions : optional es ⟨"regions", "regions"⟩ [] (selection "region") = .accepted input.regions
  severities : optional es ⟨"severities", "severities"⟩ [] (selection "severity level") =
    .accepted input.severities
  actionMode : optional es ⟨"action_mode", "actionMode"⟩ .existing Request.actionMode =
    .accepted input.actionMode
  actionGroupName : optional es ⟨"action_group_name", "actionGroupName"⟩ "" trimmedText =
    .accepted input.actionGroupName
  actionGroupResourceGroup : optional es ⟨"action_group_resource_group", "actionGroupRg"⟩ ""
    trimmedText = .accepted input.actionGroupResourceGroup
  existingActionGroupId : optional es ⟨"existing_action_group_id", "existingActionGroupId"⟩ none
    nullableText = .accepted input.existingActionGroupId
  quickActionGroupName : optional es ⟨"quick_action_group_name", "quickActionGroupName"⟩ ""
    trimmedText = .accepted input.quickActionGroupName
  quickEmail : optional es ⟨"quick_email", "quickEmail"⟩ "" trimmedText =
    .accepted input.quickEmail
  quickShortName : optional es ⟨"quick_short_name", "quickShortName"⟩ "" trimmedText =
    .accepted input.quickShortName
  tags : optional es ⟨"tags", "tags"⟩ [] (fun v => listOf (tagRow rule lone) (tagRows v)) =
    .accepted input.tags

/-- **The fields of a request are accepted exactly when each is.** -/
theorem readFields_eq_accepted_iff {rule : RecordRule} {es : List (String × Value)}
    {input : AlertInput} {lone : Text.StandIns} :
    readFields rule es lone = .accepted input ↔ FieldsRead rule es input lone := by
  constructor
  · intro h
    unfold readFields at h
    simp only [Checked.seq_eq_accepted_iff, Checked.map_eq_accepted_iff] at h
    obtain ⟨_, tags, h, htags, rfl⟩ := h
    obtain ⟨_, quickShortName, h, hshort, rfl⟩ := h
    obtain ⟨_, quickEmail, h, hemail, rfl⟩ := h
    obtain ⟨_, quickName, h, hquick, rfl⟩ := h
    obtain ⟨_, id, h, hid, rfl⟩ := h
    obtain ⟨_, resourceGroup, h, hgroup, rfl⟩ := h
    obtain ⟨_, groupName, h, hname, rfl⟩ := h
    obtain ⟨_, mode, h, hmode, rfl⟩ := h
    obtain ⟨_, severities, h, hseverities, rfl⟩ := h
    obtain ⟨_, regions, h, hregions, rfl⟩ := h
    obtain ⟨_, eventTypes, h, hevents, rfl⟩ := h
    obtain ⟨_, services, h, hservices, rfl⟩ := h
    obtain ⟨_, alertName, h, halert, rfl⟩ := h
    obtain ⟨subscriptionId, hsubscription, rfl⟩ := h
    exact ⟨hsubscription, halert, hservices, hevents, hregions, hseverities, hmode, hname, hgroup,
      hid, hquick, hemail, hshort, htags⟩
  · intro h
    unfold readFields
    rw [h.subscriptionId, h.alertName, h.services, h.eventTypes, h.regions, h.severities,
      h.actionMode, h.actionGroupName, h.actionGroupResourceGroup, h.existingActionGroupId,
      h.quickActionGroupName, h.quickEmail, h.quickShortName, h.tags]
    rfl

/-- **A payload is accepted exactly when it is a record whose fields are, and the fields of the
action group suit the mode.** -/
theorem readWith_eq_accepted_iff {rule : RecordRule} {payload : Value} {lone : Text.StandIns}
    {input : AlertInput} :
    readWith rule payload lone = .accepted input ↔
      ∃ es, payload = .record es ∧ FieldsRead rule es input lone ∧
        actionGroupProblem input = none := by
  unfold readWith
  split
  · rename_i entries
    rw [Checked.guarded_eq_accepted_iff, readFields_eq_accepted_iff]
    constructor
    · intro h
      exact ⟨entries, rfl, h⟩
    · rintro ⟨es, hes, h⟩
      obtain rfl := Value.record.inj hes
      exact h
  · rename_i hnot
    constructor
    · intro h
      exact absurd h (by simp [Checked.refuse])
    · rintro ⟨es, hes, -⟩
      exact absurd hes (hnot es)

theorem explicitGroup_iff {input : AlertInput} :
    explicitGroup input = true ↔ input.existingActionGroupId.getD "" ≠ "" := by
  unfold explicitGroup
  cases input.existingActionGroupId with
  | none => simp
  | some id => simp

end Request

end HealthAlert
