import HealthAlert.Proofs.Alert.Results

/-!
# The fields that a template shows

A template is made of the fields of the alert and of those by which its mode names the action group.
`SameAlert` relates inputs that agree on them, whatever they hold elsewhere: severities, the fields
of the other mode, the parts of an ID that is given as a whole.

* `SameGroup.reference_eq`: both inputs name the same action group, or none for the same reason.
* `SameAlert.withReference_eq`: what their templates are made of, part by part.
* **`render_eq_of_sameAlert`**: inputs that agree are rendered alike, and counted and logged alike.
-/

namespace HealthAlert

namespace AlertInput

variable {a b : AlertInput}

/-- Two inputs of one mode name the action group alike. An explicit ID hides the parts of a composed
one; an ID that is empty is none. -/
inductive SameGroup (a b : AlertInput) : Prop where
  | quick (mode : a.actionMode = .quick)
      (name : a.quickActionGroupName = b.quickActionGroupName)
      (email : a.quickEmail = b.quickEmail)
      (shortName : a.quickShortName = b.quickShortName)
  | given (mode : a.actionMode = .existing)
      (id : a.existingActionGroupId = b.existingActionGroupId)
      (nonempty : a.existingActionGroupId.getD "" ≠ "")
  | composed (mode : a.actionMode = .existing)
      (left_none : a.existingActionGroupId.getD "" = "")
      (right_none : b.existingActionGroupId.getD "" = "")
      (name : a.actionGroupName = b.actionGroupName)
      (resourceGroup : a.actionGroupResourceGroup = b.actionGroupResourceGroup)

/-- Two inputs agree on everything that a template of their mode shows. -/
structure SameAlert (a b : AlertInput) : Prop where
  subscriptionId : a.subscriptionId = b.subscriptionId
  alertName : a.alertName = b.alertName
  services : a.services = b.services
  eventTypes : a.eventTypes = b.eventTypes
  regions : a.regions = b.regions
  tags : a.tags = b.tags
  actionMode : a.actionMode = b.actionMode
  group : SameGroup a b

/-! ## The action group -/

/-- In existing mode the reference is an explicit ID, or else composed. -/
theorem actionGroupReference_of_existing {input : AlertInput} (hm : input.actionMode = .existing) :
    input.actionGroupReference =
      if input.existingActionGroupId.getD "" = "" then actionGroupReference.composed input
      else .ok (Bicep.quote (input.existingActionGroupId.getD "")) := by
  unfold actionGroupReference
  rw [hm]
  cases input.existingActionGroupId <;> rfl

/-- Both inputs refer to the same action group, or both fail for the same reason. -/
theorem SameGroup.reference_eq (hg : SameGroup a b) (hm : a.actionMode = b.actionMode)
    (hs : a.subscriptionId = b.subscriptionId) :
    a.actionGroupReference = b.actionGroupReference := by
  cases hg with
  | quick mode name email _ =>
    unfold actionGroupReference
    rw [← hm, mode, name, email]
  | given mode id nonempty =>
    rw [actionGroupReference_of_existing mode, actionGroupReference_of_existing (hm ▸ mode), ← id,
      if_neg nonempty, if_neg nonempty]
  | composed mode left_none right_none name resourceGroup =>
    rw [actionGroupReference_of_existing mode, actionGroupReference_of_existing (hm ▸ mode),
      if_pos left_none, if_pos right_none]
    unfold actionGroupReference.composed
    rw [hs, name, resourceGroup]

/-- Both templates declare the same action group, or none. -/
theorem SameGroup.quickPart_eq (hg : SameGroup a b) (hm : a.actionMode = b.actionMode)
    (options : TemplateOptions) :
    Template.quickPart options a = Template.quickPart options b := by
  unfold Template.quickPart
  cases hg with
  | quick mode name email shortName => rw [← hm, mode, name, email, shortName]
  | given mode _ _ => rw [← hm, mode]
  | composed mode _ _ _ _ => rw [← hm, mode]

/-! ## The alert -/

namespace SameAlert

variable (h : SameAlert a b)
include h

theorem conditions_eq : a.conditions = b.conditions := by
  unfold conditions
  rw [h.services, h.eventTypes, h.regions]

theorem document_eq (reference : String) : a.document reference = b.document reference := by
  unfold document
  rw [h.subscriptionId, h.conditions_eq, h.services, h.eventTypes, h.regions]

theorem documentLiteral_eq (reference : String) :
    a.documentLiteral reference = b.documentLiteral reference := by
  unfold documentLiteral
  rw [h.subscriptionId, h.conditions_eq, h.services, h.eventTypes, h.regions]

theorem alertText_eq (options : TemplateOptions) (reference : String) :
    Template.alertText options a reference = Template.alertText options b reference := by
  unfold Template.alertText
  rw [h.alertName, h.tags, h.documentLiteral_eq]

theorem withReference_eq (options : TemplateOptions) (reference : String) :
    Template.withReference options a reference = Template.withReference options b reference := by
  unfold Template.withReference
  rw [h.group.quickPart_eq h.actionMode, h.alertText_eq, h.actionMode, h.document_eq,
    h.conditions_eq]

/-- The same template, or the same failure. -/
theorem render_eq (options : TemplateOptions) :
    Template.render options a = Template.render options b := by
  have htemplate : Template.withReference options a = Template.withReference options b :=
    funext (h.withReference_eq options)
  rw [Template.render_eq, Template.render_eq,
    h.group.reference_eq h.actionMode h.subscriptionId, htemplate]

theorem compose_eq (options : TemplateOptions) :
    Rendering.compose options a = Rendering.compose options b := by
  unfold Rendering.compose
  rw [toBool_properties, toBool_properties, h.group.reference_eq h.actionMode h.subscriptionId,
    h.tags, h.render_eq]

/-- The record of a rendering shows the mode and the name, which agree as well. -/
theorem run_eq (options : TemplateOptions) (c : Rendering.Circumstances) (m : Metrics) :
    Rendering.run options c m a = Rendering.run options c m b := by
  have hlog (result) : Rendering.logRows c.duration a result =
      Rendering.logRows c.duration b result := by
    cases result with
    | error fault => rfl
    | ok t =>
      unfold Rendering.logRows Rendering.logRow
      rw [h.alertName, h.actionMode]
  unfold Rendering.run
  rw [h.compose_eq, h.actionMode]
  simp only [hlog]

end SameAlert

/-- **Fields that a template does not show leave no trace.** Inputs that agree on the rest give the
same template or the same failure, and their renderings end, are counted and are logged alike. -/
theorem render_eq_of_sameAlert (h : SameAlert a b) (options : TemplateOptions) :
    Template.render options a = Template.render options b ∧
      ∀ c m, Rendering.run options c m a = Rendering.run options c m b :=
  ⟨h.render_eq options, h.run_eq options⟩

/-- An alert with an explicit ID. -/
def explicitInput : AlertInput where
  subscriptionId := "1"
  alertName := "a"
  services := ["Storage"]
  existingActionGroupId := some "/x"

/-- The same alert with fields that its template does not show. -/
def clutteredInput : AlertInput :=
  { explicitInput with
    severities := ["Sev1"]
    actionGroupName := "g"
    quickActionGroupName := "q"
    quickEmail := "e@f.g"
    quickShortName := "s" }

theorem render_eq_clutteredInput :
    explicitInput.quickEmail ≠ clutteredInput.quickEmail ∧
      Template.render {} explicitInput = Template.render {} clutteredInput ∧
      ∃ t, Template.render {} clutteredInput = .ok t := by
  have hgroup : SameGroup explicitInput clutteredInput := .given rfl rfl (by decide)
  have hsame : SameAlert explicitInput clutteredInput := ⟨rfl, rfl, rfl, rfl, rfl, rfl, rfl, hgroup⟩
  exact ⟨by decide, (render_eq_of_sameAlert hsame {}).1, _, Template.render_eq_ok_iff.mpr
    ⟨_, rfl, rfl⟩⟩

end AlertInput

end HealthAlert
