import HealthAlert.Proofs.Request.Typing

/-!
# The check of a form and the reader of a request

The check of a form and the reader of a request judge the same payloads by rules of their own.
Both ask whether the values of the fields pass (`Field.Passes`) and name an action group as the
mode needs it (`NamesGroup`). The reader asks for the kinds of the values besides, does not judge
a selection that is absent, and takes each field from an entry of its own choice.

* `valid_check_iff`: what a valid form is.
* **`exists_accepted_iff`**: what an accepted request is.
* **`accepted_iff_valid`**: where no key is unknown or doubled and every selection is given, a
  request is accepted exactly when it is well typed and the form is valid.
* **`accepted_iff_wellTyped_of_valid`**: a valid form, if judged by the values that the reader
  takes, is accepted exactly when it is well typed.
* `unknownMode_refused`: a valid form that is refused.
-/

namespace HealthAlert.Request

open Validation (nullableText)

/-! ## Values that pass -/

/-- The problem that the check of a form finds with the value of the field in every mode. -/
def Field.problem? : Field → Value → Option Form.Problem
  | .subscriptionId => Form.checkSubscriptionId
  | .alertName => Form.checkAlertName
  | .services => Form.checkSelection "service"
  | .eventTypes => Form.checkSelection "event type"
  | .regions => Form.checkSelection "region"
  | .severities => Form.checkSelection "severity level"
  | _ => fun _ => none

/-- The values name an action group as the mode needs it: a new one has a name and an address, an
existing one an ID, or a name and a resource group. -/
def NamesGroup (value : Field → Value) : Prop :=
  if (value .actionMode).text? = some ActionMode.quick.label then
    Form.checkRequired "Action Group Name" (value .quickActionGroupName) = none ∧
      Form.checkEmail (value .quickEmail) = none
  else
    (value .existingActionGroupId).truthy = true ∨
      Form.checkRequired "Action Group Name" (value .actionGroupName) = none ∧
        Form.checkRequired "Action Group Resource Group" (value .actionGroupResourceGroup) = none

/-- The check of a form looks at the field. -/
def Field.IsJudged (f : Field) : Prop :=
  f ≠ .quickShortName ∧ f ≠ .tags

theorem problem?_congr {f : Field} {v w : Value} (h : f.IsJudged → v = w) :
    f.problem? v = f.problem? w := by
  cases f with
  | quickShortName => rfl
  | tags => rfl
  | _ => rw [h ⟨by decide, by decide⟩]

theorem namesGroup_congr {value value' : Field → Value}
    (h : ∀ f : Field, f.IsJudged → value f = value' f) : NamesGroup value ↔ NamesGroup value' := by
  unfold NamesGroup
  rw [h .actionMode ⟨by decide, by decide⟩, h .quickActionGroupName ⟨by decide, by decide⟩,
    h .quickEmail ⟨by decide, by decide⟩, h .existingActionGroupId ⟨by decide, by decide⟩,
    h .actionGroupName ⟨by decide, by decide⟩,
    h .actionGroupResourceGroup ⟨by decide, by decide⟩]

section Check

variable {form : List (String × Value)}

theorem valid_checkActionGroup_iff :
    (Form.checkActionGroup form).valid = true ↔
      NamesGroup fun f => Form.valueOf form f.names.name := by
  unfold Form.checkActionGroup NamesGroup Form.asksForQuick
  by_cases hquick : (Form.valueOf form "action_mode").text? = some ActionMode.quick.label
  · simp [Field.names, hquick, Form.Verdicts.valid]
  · cases htruthy : (Form.valueOf form "existing_action_group_id").truthy <;>
      simp [Field.names, hquick, htruthy, Form.Verdicts.valid]

/-- **A form is valid exactly when its values pass and name an action group.** -/
theorem valid_check_iff :
    (Form.check form).valid = true ↔
      (∀ f : Field, f.problem? (Form.valueOf form f.names.name) = none) ∧
        NamesGroup fun f => Form.valueOf form f.names.name := by
  rw [← valid_checkActionGroup_iff]
  unfold Form.check Form.Verdicts.valid
  rw [List.all_append, Bool.and_eq_true]
  refine and_congr_left' ?_
  simp only [List.all_cons, List.all_nil, Bool.and_true, Bool.and_eq_true,
    Option.isNone_iff_eq_none]
  constructor
  · rintro ⟨hid, hname, hservices, hevents, hregions, hseverities⟩ f
    cases f with
    | subscriptionId => exact hid
    | alertName => exact hname
    | services => exact hservices
    | eventTypes => exact hevents
    | regions => exact hregions
    | severities => exact hseverities
    | _ => rfl
  · intro h
    exact ⟨h .subscriptionId, h .alertName, h .services, h .eventTypes, h .regions, h .severities⟩

end Check

/-! ## Values that a request gives -/

section Given

variable {es : List (String × Value)} {f : Field}

/-- The field is there under one of its names. -/
def Field.IsGiven (f : Field) (es : List (String × Value)) : Prop :=
  (f.names.find? es).isSome = true

/-- The value that the reader takes for the field; null when there is none. -/
def Field.given (f : Field) (es : List (String × Value)) : Value :=
  ((f.names.find? es).map Prod.snd).getD .null

theorem given_of_find? {key : String} {v : Value} (h : f.names.find? es = some (key, v)) :
    f.given es = v := by
  rw [Field.given, h]
  rfl

theorem given_of_find?_eq_none (h : f.names.find? es = none) : f.given es = .null := by
  rw [Field.given, h]
  rfl

theorem typed_iff_of_find? {key : String} {v : Value} (h : f.names.find? es = some (key, v)) :
    f.Typed es ↔ f.kind.Admits v := by
  unfold Field.Typed
  rw [h]
  constructor
  · intro htyped
    exact htyped key v rfl
  · rintro hadmits _ _ heq
    obtain ⟨-, rfl⟩ := Prod.mk.inj (Option.some.inj heq)
    exact hadmits

theorem isJson_of_find? (hes : Value.IsJson (.record es)) {n : FieldName} {key : String}
    {v : Value} (h : n.find? es = some (key, v)) : v.IsJson :=
  Value.holdJson_iff.mp hes.2 _ (FieldName.mem_of_find? h)

/-- A field passes when the reader does not judge it, being an absent selection, or the check of a
form finds no problem with its value. -/
def Field.Passes (f : Field) (es : List (String × Value)) : Prop :=
  (f.kind = .selection → f.IsGiven es) → f.problem? (f.given es) = none

/-! ## Fields that are accepted -/

variable (hes : Value.IsJson (.record es))

include hes

/-- A field without a rule is accepted when it is well typed. -/
theorem exists_plain_iff {α : Type} {default : α} {check : Value → Checked α}
    (hproblem : ∀ v, f.problem? v = none)
    (hcheck : ∀ {v : Value}, v.IsJson → ((∃ a, check v = .accepted a) ↔ f.kind.Admits v)) :
    (∃ a, optional es f.names default check = .accepted a) ↔ f.Typed es ∧ f.Passes es := by
  have hpasses : f.Passes es := fun _ => hproblem _
  rw [exists_optional_iff, and_iff_left hpasses]
  exact forall_congr' fun key => forall_congr' fun v => forall_congr' fun hfound =>
    hcheck (isJson_of_find? hes hfound)

/-- A required text with a rule is accepted when it is well typed and passes. -/
theorem exists_ruled_iff (hkind : f.kind = .text)
    (hcheck : ∀ {v w : Value}, Form.Entry.of v = Form.Entry.of w → f.problem? v = f.problem? w)
    (hnull : f.problem? .null ≠ none) :
    (∃ s, required es f.names (checkedText f.problem?) = .accepted s) ↔
      f.Typed es ∧ f.Passes es := by
  have hpasses : f.Passes es ↔ f.problem? (f.given es) = none :=
    ⟨fun h => h fun hselection => absurd (hkind.symm.trans hselection) (by decide), fun h _ => h⟩
  rw [exists_required_iff, hpasses]
  constructor
  · rintro ⟨key, v, hfound, hs⟩
    have hv := (exists_checkedText_iff (isJson_of_find? hes hfound) hcheck).mp hs
    rw [typed_iff_of_find? hfound, given_of_find? hfound, hkind]
    exact hv
  · rintro ⟨htyped, hpass⟩
    cases hfound : f.names.find? es with
    | none =>
      rw [given_of_find?_eq_none hfound] at hpass
      exact absurd hpass hnull
    | some e =>
      obtain ⟨key, v⟩ := e
      rw [typed_iff_of_find? hfound, hkind] at htyped
      rw [given_of_find? hfound] at hpass
      have hs := (exists_checkedText_iff (isJson_of_find? hes hfound) hcheck).mpr ⟨htyped, hpass⟩
      exact ⟨key, v, rfl, hs⟩

/-- A selection is accepted when it is well typed and passes. -/
theorem exists_selected_iff {what : String} (hkind : f.kind = .selection)
    (hproblem : f.problem? = Form.checkSelection what) :
    (∃ ss, optional es f.names [] (selection what) = .accepted ss) ↔
      f.Typed es ∧ f.Passes es := by
  rw [exists_optional_iff]
  unfold Field.Passes Field.IsGiven
  cases hfound : f.names.find? es with
  | none => simp [Field.Typed, hfound, hkind]
  | some e =>
    obtain ⟨key, v⟩ := e
    have hv : (∃ ss, selection what v = .accepted ss) ↔ _ :=
      exists_selection_iff (isJson_of_find? hes hfound)
    rw [typed_iff_of_find? hfound, given_of_find? hfound, hkind, hproblem]
    simp [hv]

omit hes

/-- The reader of the field accepts what the record gives. -/
def Field.Accepted (rule : RecordRule) (es : List (String × Value)) : Field → Prop
  | .subscriptionId => ∃ s, required es subscriptionId.names
      (checkedText Form.checkSubscriptionId) = .accepted s
  | .alertName => ∃ s, required es alertName.names (checkedText Form.checkAlertName) = .accepted s
  | .services => ∃ ss, optional es services.names [] (selection "service") = .accepted ss
  | .eventTypes => ∃ ss, optional es eventTypes.names [] (selection "event type") = .accepted ss
  | .regions => ∃ ss, optional es regions.names [] (selection "region") = .accepted ss
  | .severities => ∃ ss, optional es severities.names [] (selection "severity level") = .accepted ss
  | .actionMode => ∃ m, optional es actionMode.names .existing Request.actionMode = .accepted m
  | .existingActionGroupId =>
    ∃ o, optional es existingActionGroupId.names none nullableText = .accepted o
  | .tags => ∃ ts, optional es tags.names [] (fun v => listOf (tagRow rule []) (tagRows v)) =
      .accepted ts
  | f => ∃ s, optional es f.names "" trimmedText = .accepted s

theorem exists_fieldsRead_iff {rule : RecordRule} :
    (∃ input, FieldsRead rule es input) ↔ ∀ f : Field, f.Accepted rule es := by
  constructor
  · rintro ⟨input, h⟩ f
    cases f with
    | subscriptionId => exact ⟨_, h.subscriptionId⟩
    | alertName => exact ⟨_, h.alertName⟩
    | services => exact ⟨_, h.services⟩
    | eventTypes => exact ⟨_, h.eventTypes⟩
    | regions => exact ⟨_, h.regions⟩
    | severities => exact ⟨_, h.severities⟩
    | actionMode => exact ⟨_, h.actionMode⟩
    | actionGroupName => exact ⟨_, h.actionGroupName⟩
    | actionGroupResourceGroup => exact ⟨_, h.actionGroupResourceGroup⟩
    | existingActionGroupId => exact ⟨_, h.existingActionGroupId⟩
    | quickActionGroupName => exact ⟨_, h.quickActionGroupName⟩
    | quickEmail => exact ⟨_, h.quickEmail⟩
    | quickShortName => exact ⟨_, h.quickShortName⟩
    | tags => exact ⟨_, h.tags⟩
  · intro h
    obtain ⟨_, hid⟩ := h .subscriptionId
    obtain ⟨_, hname⟩ := h .alertName
    obtain ⟨_, hservices⟩ := h .services
    obtain ⟨_, hevents⟩ := h .eventTypes
    obtain ⟨_, hregions⟩ := h .regions
    obtain ⟨_, hseverities⟩ := h .severities
    obtain ⟨_, hmode⟩ := h .actionMode
    obtain ⟨_, hgroup⟩ := h .actionGroupName
    obtain ⟨_, hresource⟩ := h .actionGroupResourceGroup
    obtain ⟨_, hexisting⟩ := h .existingActionGroupId
    obtain ⟨_, hquick⟩ := h .quickActionGroupName
    obtain ⟨_, hemail⟩ := h .quickEmail
    obtain ⟨_, hshort⟩ := h .quickShortName
    obtain ⟨_, htags⟩ := h .tags
    exact ⟨⟨_, _, _, _, _, _, _, _, _, _, _, _, _, _⟩, hid, hname, hservices, hevents, hregions,
      hseverities, hmode, hgroup, hresource, hexisting, hquick, hemail, hshort, htags⟩

include hes

/-- **A field is accepted exactly when it is well typed and passes.** -/
theorem accepted_iff {rule : RecordRule} (f : Field) :
    f.Accepted rule es ↔ f.Typed es ∧ f.Passes es := by
  cases f with
  | subscriptionId => exact exists_ruled_iff hes rfl Form.checkSubscriptionId_congr (by decide)
  | alertName => exact exists_ruled_iff hes rfl Form.checkAlertName_congr (by decide)
  | services => exact exists_selected_iff hes rfl rfl
  | eventTypes => exact exists_selected_iff hes rfl rfl
  | regions => exact exists_selected_iff hes rfl rfl
  | severities => exact exists_selected_iff hes rfl rfl
  | actionMode => exact exists_plain_iff hes (fun _ => rfl) exists_actionMode_iff
  | existingActionGroupId => exact exists_plain_iff hes (fun _ => rfl) exists_nullableText_iff
  | tags => exact exists_plain_iff hes (fun _ => rfl) exists_tags_iff
  | _ => exact exists_plain_iff hes (fun _ => rfl) exists_trimmedText_iff

/-! ## The action group -/

/-- A trimmed text is the entry that the value taken for its field is. -/
theorem entry_of_trimmedText {s : String}
    (h : optional es f.names "" trimmedText = .accepted s) :
    Form.Entry.of (.text s) = Form.Entry.of (f.given es) := by
  rcases optional_eq_accepted_iff.mp h with ⟨hnone, rfl⟩ | ⟨key, v, hfound, hv⟩
  · rw [given_of_find?_eq_none hnone]
    rfl
  · obtain ⟨t, rfl, rfl⟩ := (trimmedText_eq_accepted_iff (isJson_of_find? hes hfound)).mp hv
    rw [given_of_find? hfound]
    exact Form.Entry.of_trim t

/-- The mode is the new group's when its label is given. -/
theorem text?_given_actionMode {m : ActionMode}
    (h : optional es f.names .existing actionMode = .accepted m) :
    (f.given es).text? = some ActionMode.quick.label ↔ m = .quick := by
  rcases optional_eq_accepted_iff.mp h with ⟨hnone, rfl⟩ | ⟨key, v, hfound, hv⟩
  · rw [given_of_find?_eq_none hnone]
    simp [Value.text?]
  · obtain rfl := (actionMode_eq_accepted_iff (isJson_of_find? hes hfound)).mp hv
    rw [given_of_find? hfound]
    cases m <;> decide

/-- An ID counts when it is given and is not empty. -/
theorem truthy_given_iff {o : Option String}
    (h : optional es f.names none nullableText = .accepted o) :
    (f.given es).truthy = true ↔ o.getD "" ≠ "" := by
  rcases optional_eq_accepted_iff.mp h with ⟨hnone, rfl⟩ | ⟨key, v, hfound, hv⟩
  · rw [given_of_find?_eq_none hnone]
    simp [Value.truthy]
  · rw [given_of_find? hfound]
    rcases (nullableText_eq_accepted_iff (isJson_of_find? hes hfound)).mp hv with
      ⟨rfl, rfl⟩ | ⟨t, rfl, rfl⟩
    · simp [Value.truthy]
    · simp [Value.truthy]

/-- A required text passes when the trimmed one is not empty. -/
theorem checkRequired_given_iff (label : String) {s : String}
    (h : optional es f.names "" trimmedText = .accepted s) :
    Form.checkRequired label (f.given es) = none ↔ s ≠ "" := by
  rw [← Form.checkRequired_congr (entry_of_trimmedText hes h)]
  rcases optional_eq_accepted_iff.mp h with ⟨-, rfl⟩ | ⟨key, v, hfound, hv⟩
  · simp [Form.checkRequired, Form.Entry.of, Value.text?, Text.trimBlanks]
  · obtain ⟨t, -, rfl⟩ := (trimmedText_eq_accepted_iff (isJson_of_find? hes hfound)).mp hv
    exact Form.checkRequired_trim_eq_none_iff

/-- **The fields of the action group suit the mode when the values taken for them name a group.** -/
theorem actionGroupProblem_eq_none_iff {rule : RecordRule} {input : AlertInput}
    (h : FieldsRead rule es input) :
    actionGroupProblem input = none ↔ NamesGroup (Field.given · es) := by
  have hmode := text?_given_actionMode (f := .actionMode) hes h.actionMode
  have hquick := entry_of_trimmedText (f := .quickActionGroupName) hes h.quickActionGroupName
  have hemail := entry_of_trimmedText (f := .quickEmail) hes h.quickEmail
  unfold actionGroupProblem NamesGroup
  rw [Form.checkRequired_congr hquick, Form.checkEmail_congr hemail]
  simp only [hmode]
  cases input.actionMode with
  | quick => simp
  | existing =>
    have hid := truthy_given_iff (f := .existingActionGroupId) hes h.existingActionGroupId
    have hname := checkRequired_given_iff (f := .actionGroupName) hes "Action Group Name"
      h.actionGroupName
    have hresource := checkRequired_given_iff (f := .actionGroupResourceGroup) hes
      "Action Group Resource Group" h.actionGroupResourceGroup
    have hmodes : ActionMode.existing ≠ .quick := by decide
    rw [if_neg hmodes, hid, hname, hresource, ← explicitGroup_iff]
    by_cases hexplicit : explicitGroup input = true
    · simp [hexplicit]
    · simp [hexplicit]

/-- **A request is accepted exactly when it is well typed, its fields pass, and its values name an
action group.** -/
theorem exists_accepted_iff {rule : RecordRule} :
    (∃ input, readWith rule (.record es) = .accepted input) ↔
      WellTyped es ∧ (∀ f : Field, f.Passes es) ∧ NamesGroup (Field.given · es) := by
  have hfields : (∃ input, FieldsRead rule es input) ↔
      WellTyped es ∧ ∀ f : Field, f.Passes es := by
    rw [exists_fieldsRead_iff]
    simp only [accepted_iff hes, forall_and]
    rfl
  rw [← and_assoc, ← hfields]
  constructor
  · rintro ⟨input, haccepted⟩
    obtain ⟨_, heq, hread, hgroup⟩ := readWith_eq_accepted_iff.mp haccepted
    obtain rfl := Value.record.inj heq
    exact ⟨⟨input, hread⟩, (actionGroupProblem_eq_none_iff hes hread).mp hgroup⟩
  · rintro ⟨⟨input, hread⟩, hgroup⟩
    have hproblem := (actionGroupProblem_eq_none_iff hes hread).mpr hgroup
    exact ⟨input, readWith_eq_accepted_iff.mpr ⟨es, rfl, hread, hproblem⟩⟩

end Given

/-! ## Valid forms and accepted requests -/

section Agreement

variable {rule : RecordRule} {es : List (String × Value)} {f : Field}

/-- The value that the check of a form judges for the field is the one that the reader takes. -/
def Field.JudgedAsTaken (f : Field) (es : List (String × Value)) : Prop :=
  Form.valueOf (Form.normalizeKeys es) f.names.name = f.given es

/-- A form that is judged by the values that the reader takes is valid when they pass and name an
action group. -/
theorem valid_checkSubmission_iff (htaken : ∀ f : Field, f.IsJudged → f.JudgedAsTaken es) :
    (Form.checkSubmission es).valid = true ↔
      (∀ f : Field, f.problem? (f.given es) = none) ∧ NamesGroup (Field.given · es) := by
  have hproblem : ∀ f : Field,
      f.problem? (Form.valueOf (Form.normalizeKeys es) f.names.name) = f.problem? (f.given es) :=
    fun f => problem?_congr (htaken f)
  unfold Form.checkSubmission
  rw [valid_check_iff, namesGroup_congr htaken]
  simp only [hproblem]

/-- A form with the names of the form as keys, which asks for a new action group. -/
def quickForm : List (String × Value) :=
  [("subscriptionId", .text "11111111-2222-3333-4444-555555555555"),
    ("alertName", .text " storage-health "), ("services", .list [.text "", .text "Storage"]),
    ("eventTypes", .list [.text "Incident"]), ("regions", .list [.text "West Europe"]),
    ("severities", .list [.text "Sev1"]), ("actionMode", .text "quick"),
    ("quickActionGroupName", .text "Ops Team"), ("quickEmail", .text "ops@example.com"),
    ("tags", .record [("env", .text "prod")])]

theorem isJson_quickForm : Value.IsJson (.record quickForm) := by
  refine ⟨by decide, ?_⟩
  simp [quickForm, Value.IsJson, Value.HoldJson, Value.AreJson, Keyed.keys]

/-- **A valid form, judged by the values that the reader takes, is accepted exactly when it is well
typed.** -/
theorem accepted_iff_wellTyped_of_valid (hes : Value.IsJson (.record es))
    (htaken : ∀ f : Field, f.IsJudged → f.JudgedAsTaken es)
    (hvalid : (Form.checkSubmission es).valid = true) :
    (∃ input, readWith rule (.record es) = .accepted input) ↔ WellTyped es := by
  obtain ⟨hproblem, hgroup⟩ := (valid_checkSubmission_iff htaken).mp hvalid
  rw [exists_accepted_iff hes]
  constructor
  · rintro ⟨htyped, -⟩
    exact htyped
  · intro htyped
    exact ⟨htyped, fun f _ => hproblem f, hgroup⟩

/-- A form with a key that is no field's. -/
def notedForm : List (String × Value) :=
  ("note", .int 3) :: quickForm

theorem isJson_notedForm : Value.IsJson (.record notedForm) :=
  ⟨by decide, trivial, isJson_quickForm.2⟩

theorem judgedAsTaken_notedForm (f : Field) : f.JudgedAsTaken notedForm := by
  unfold Field.JudgedAsTaken
  cases f <;> rfl

theorem accepted_notedForm :
    (Form.checkSubmission notedForm).valid = true ∧
      (∃ input, read (.record notedForm) = .accepted input) ∧ WellTyped notedForm := by
  have hvalid : (Form.checkSubmission notedForm).valid = true := rfl
  have haccepted : ∃ input, read (.record notedForm) = .accepted input := ⟨_, rfl⟩
  exact ⟨hvalid, haccepted, (accepted_iff_wellTyped_of_valid isJson_notedForm
    (fun f _ => judgedAsTaken_notedForm f) hvalid).mp haccepted⟩

/-- A form with a mode that there is not. -/
def unknownMode : List (String × Value) :=
  [("subscription_id", .text "11111111-2222-3333-4444-555555555555"),
    ("alert_name", .text "svc-health"), ("services", .list [.text "Storage"]),
    ("event_types", .list [.text "Incident"]), ("regions", .list [.text "Global"]),
    ("severities", .list [.text "Sev1"]), ("action_mode", .text "sms"),
    ("action_group_name", .text "ag-ops"), ("action_group_resource_group", .text "rg-mon")]

/-- A valid form may be refused: the check of a form takes an unknown mode for the existing one. -/
theorem unknownMode_refused :
    Value.IsJson (.record unknownMode) ∧ (Form.checkSubmission unknownMode).valid = true ∧
      ∀ rule, readWith rule (.record unknownMode) =
        .refused [⟨[.field "action_mode"], .notAMode, .text "sms"⟩] := by
  refine ⟨⟨by decide, ?_⟩, rfl, fun _ => rfl⟩
  simp [unknownMode, Value.IsJson, Value.HoldJson, Value.AreJson]

end Agreement

end HealthAlert.Request
