import HealthAlert.Proofs.Alert.Results
import HealthAlert.Proofs.Json.Bytes
import HealthAlert.Proofs.Request.Accepted
import HealthAlert.Service.Endpoint

/-!
# Every accepted request has a template

A request and a template each check the fields of the action group, in their own words. What the
request accepts is all that the template needs (`hasGroup_of_actionGroupProblem`), and nothing else
can keep an alert from its template (`render_eq`).

`Template.Coherent` says that what a template declares, what its alert refers to and what is
answered about it agree.

* `checkRequired_eq_none`, `checkEmail_eq_none`: a text that a form check lets pass is not empty.
* **`render_of_accepted`**: an accepted request has a template, and the template is coherent.
-/

namespace HealthAlert

/-! ## The fields of the action group -/

namespace Form

theorem checkRequired_eq_none {label s : String} (h : checkRequired label (.text s) = none) :
    s ≠ "" := by
  rintro rfl
  exact absurd h (by simp [checkRequired, Entry.of, Value.text?, Text.trimBlanks])

theorem checkEmail_eq_none {s : String} (h : checkEmail (.text s) = none) : s ≠ "" := by
  rintro rfl
  exact absurd h (by simp [checkEmail, Entry.of, Value.text?, Text.trimBlanks])

end Form

namespace Request

/-- **An accepted request names the action group that its mode needs.** -/
theorem hasGroup_of_actionGroupProblem {input : AlertInput} (h : actionGroupProblem input = none) :
    input.HasGroup := by
  unfold actionGroupProblem at h
  unfold AlertInput.HasGroup
  cases hm : input.actionMode with
  | quick =>
    simp only [hm, Option.map_eq_none_iff, Option.or_eq_none_iff] at h
    exact ⟨Form.checkRequired_eq_none h.1, Form.checkEmail_eq_none h.2⟩
  | existing =>
    simp only [hm] at h
    by_cases he : explicitGroup input = true
    · exact Or.inl (explicitGroup_iff.mp he)
    · rw [if_neg he] at h
      split at h
      · exact absurd h (by simp)
      · rename_i hparts
        exact Or.inr (not_or.mp hparts)

end Request

/-! ## Coherent templates -/

namespace AlertInput

variable {input : AlertInput}

theorem reference_of_quick (h : input.actionMode = .quick) :
    input.reference = Resource.quickActionGroup.symbol ++ ".id" := by
  unfold reference
  rw [h]
  rfl

theorem reference_of_existing (h : input.actionMode = .existing) :
    input.reference = Bicep.quote input.groupId := by
  unfold reference
  rw [h]

/-- A quoted literal is no symbol. -/
theorem quote_ne_symbol (s : String) :
    Bicep.quote s ≠ Resource.quickActionGroup.symbol ++ ".id" := by
  intro h
  have hchars := congrArg String.toList h
  rw [Bicep.toList_quote, Bicep.quoteChars] at hchars
  exact absurd (List.cons.inj hchars).1 (by decide)

end AlertInput

namespace Template

/-- The declaration of a resource in the template of an alert. -/
def resourceText (options : TemplateOptions) (input : AlertInput) : Resource → String
  | .quickActionGroup =>
    quickActionGroup input.quickActionGroupName input.quickEmail input.quickShortName
      options.actionGroupApiVersion
  | .alert => alertText options input input.reference

/-- The declaration of the action group, up to its short name. -/
def untilShortName (options : TemplateOptions) (input : AlertInput) : String :=
  declaration .quickActionGroup options.actionGroupApiVersion ++
    "  name: " ++ Bicep.quote input.quickActionGroupName ++ "\n" ++
    "  location: " ++ Bicep.quote location ++ "\n" ++
    "  properties: \x7b\n" ++
    "    groupShortName: "

/-- The action groups that the properties of an alert list. -/
def actionGroups? (t : Template) : Option Value :=
  (t.properties.member? "actions").bind (·.member? "actionGroups")

/-- The short name that is answered with a template. -/
def answeredShortName? (input : AlertInput) (t : Template) : Option Value :=
  (Service.Endpoint.templateValue input t).member? "short_name"

/-- What the template declares, what its alert refers to and what is answered about it agree. -/
structure Coherent (options : TemplateOptions) (input : AlertInput) (t : Template) : Prop where
  resources : t.resources =
    if input.actionMode = .quick then [.quickActionGroup, .alert] else [.alert]
  /-- The text is made of the declarations of the resources. -/
  text : t.text = String.join (t.resources.map (resourceText options input))
  written : t.WritesProperties options
  actionGroups : t.actionGroups? =
    some (.list [.record [("actionGroupId", .text input.reference)]])
  bare : input.reference = "quickAG.id" ↔ Resource.quickActionGroup ∈ t.resources
  quoted : Resource.quickActionGroup ∉ t.resources → input.reference = Bicep.quote input.groupId
  /-- In quick mode the answer gives the short name that the template declares. -/
  shortName : input.actionMode = .quick → ∃ name rest,
    answeredShortName? input t = some (.text name) ∧
      t.text = untilShortName options input ++ Bicep.quote name ++ "\n" ++ rest
  noShortName : input.actionMode ≠ .quick → answeredShortName? input t = some .null

section Coherence

variable {options : TemplateOptions} {input : AlertInput}

theorem quickActionGroup_eq (options : TemplateOptions) (input : AlertInput) :
    ∃ rest, resourceText options input .quickActionGroup =
      untilShortName options input ++
        Bicep.quote (groupShortName input.quickShortName input.quickActionGroupName) ++ "\n" ++
        rest := by
  refine ⟨"    enabled: true\n" ++ "    emailReceivers: [\n" ++ "      \x7b\n" ++
    "        name: " ++ Bicep.quote receiverName ++ "\n" ++
    "        emailAddress: " ++ Bicep.quote input.quickEmail ++ "\n" ++ "      \x7d\n" ++
    "    ]\n" ++ "  \x7d\n" ++ "\x7d\n", ?_⟩
  unfold resourceText untilShortName quickActionGroup
  simp only [String.append_assoc]

theorem answeredShortName?_eq (t : Template) :
    answeredShortName? input t =
      some (match input.shortName? with
        | some name => .text name
        | none => .null) := rfl

theorem coherent_of_quick (hm : input.actionMode = .quick) :
    Coherent options input (withReference options input input.reference) := by
  have hresources : (withReference options input input.reference).resources =
      [.quickActionGroup, .alert] := congrArg ActionMode.resources hm
  have htext : (withReference options input input.reference).text =
      resourceText options input .quickActionGroup ++ resourceText options input .alert := by
    unfold withReference quickPart resourceText
    simp only [hm]
  have hname : input.shortName? =
      some (groupShortName input.quickShortName input.quickActionGroupName) := by
    unfold AlertInput.shortName?
    rw [hm]
  refine ⟨?_, ?_, writesProperties_withReference options input input.reference, rfl, ?_, ?_, ?_, ?_⟩
  · rw [hresources, if_pos hm]
  · rw [htext, hresources]
    simp [String.join]
  · rw [hresources]
    exact iff_of_true (AlertInput.reference_of_quick hm) List.mem_cons_self
  · intro hnot
    rw [hresources] at hnot
    exact absurd List.mem_cons_self hnot
  · intro _
    obtain ⟨rest, hrest⟩ := quickActionGroup_eq options input
    refine ⟨groupShortName input.quickShortName input.quickActionGroupName,
      rest ++ resourceText options input .alert, ?_, ?_⟩
    · rw [answeredShortName?_eq, hname]
    · rw [htext, hrest, String.append_assoc]
  · intro hnot
    exact absurd hm hnot

theorem coherent_of_existing (hm : input.actionMode = .existing) :
    Coherent options input (withReference options input input.reference) := by
  have hresources : (withReference options input input.reference).resources = [.alert] :=
    congrArg ActionMode.resources hm
  have hne : input.actionMode ≠ .quick := by
    rw [hm]
    decide
  have hreference := AlertInput.reference_of_existing hm
  have hname : input.shortName? = none := by
    unfold AlertInput.shortName?
    rw [hm]
  refine ⟨?_, ?_, writesProperties_withReference options input input.reference, rfl, ?_, ?_, ?_, ?_⟩
  · rw [hresources, if_neg hne]
  · rw [hresources]
    unfold withReference quickPart
    simp [hm, String.join, resourceText]
  · rw [hresources]
    refine iff_of_false ?_ (by decide)
    rw [hreference]
    exact AlertInput.quote_ne_symbol input.groupId
  · intro _
    exact hreference
  · intro hquick
    exact absurd hquick hne
  · intro _
    rw [answeredShortName?_eq, hname]

/-- A template that refers to its action group is coherent. -/
theorem coherent_withReference :
    Coherent options input (withReference options input input.reference) := by
  cases hm : input.actionMode with
  | quick => exact coherent_of_quick hm
  | existing => exact coherent_of_existing hm

end Coherence

/-- Every row of accepted tags is a pair of texts, and texts can be written. -/
theorem isUnwritableRow_of_tagRow {rule : Request.RecordRule} {lone : Text.StandIns} {v : Value}
    {row : Value × Value} (h : Request.tagRow rule lone v = .accepted row) :
    Rendering.isUnwritableRow row = false := by
  unfold Request.tagRow at h
  split at h
  · obtain ⟨_, value, hkey, -, rfl⟩ := Checked.seq_eq_accepted_iff.mp h
    obtain ⟨key, -, rfl⟩ := Checked.map_eq_accepted_iff.mp hkey
    exact Bool.and_false _
  · exact absurd h (by simp [Checked.refuse])

section Accepted

variable {rule : Request.RecordRule} {payload : Value} {lone : Text.StandIns} {input : AlertInput}

/-- The tags of an accepted request can be written. -/
theorem hasWritableTags_of_accepted (h : Request.readWith rule payload lone = .accepted input) :
    Rendering.HasWritableTags input := by
  obtain ⟨es, -, hread, -⟩ := Request.readWith_eq_accepted_iff.mp h
  rcases Request.optional_eq_accepted_iff.mp hread.tags with ⟨-, hnone⟩ | ⟨_, v, -, hrows⟩
  · intro row hrow
    rw [hnone] at hrow
    exact absurd hrow List.not_mem_nil
  · obtain ⟨items, -, hall⟩ := Request.listOf_eq_accepted_iff.mp hrows
    exact Checked.forall_of_all (fun _ _ => isUnwritableRow_of_tagRow) hall

/-- The template of an accepted request. -/
theorem render_accepted (h : Request.readWith rule payload lone = .accepted input)
    (options : TemplateOptions) :
    render options input = .ok (withReference options input input.reference) := by
  obtain ⟨-, -, -, hproblem⟩ := Request.readWith_eq_accepted_iff.mp h
  have hreference := AlertInput.actionGroupReference_eq_ok_iff.mpr
    ⟨Request.hasGroup_of_actionGroupProblem hproblem, rfl⟩
  exact render_eq_ok_iff.mpr ⟨input.reference, hreference, rfl⟩

theorem compose_of_accepted (h : Request.readWith rule payload lone = .accepted input)
    {options : TemplateOptions} {t : Template} (ht : render options input = .ok t) :
    Rendering.compose options input = .ok t :=
  Rendering.compose_eq_ok_iff.mpr ⟨hasWritableTags_of_accepted h, ht⟩

/-- An accepted request is rendered as its template, if the text of that has UTF-8. -/
theorem run_result_of_accepted (h : Request.readWith rule payload lone = .accepted input)
    (options : TemplateOptions) (c : Rendering.Circumstances) (m : Metrics) :
    (Rendering.run options c m input).result =
      Rendering.encoded c.lone (withReference options input input.reference) :=
  Rendering.run_result_of_compose (compose_of_accepted h (render_accepted h options))

end Accepted

/-- **Every accepted request has a template, and the template is coherent**, whatever the options
are and whether or not renderings are counted. It comes out of the rendering unless a lone
surrogate of the request stands in its text; then the rendering ends by that, and by nothing
else. -/
theorem render_of_accepted {rule : Request.RecordRule} {payload : Value} {input : AlertInput}
    {c : Rendering.Circumstances} (h : Request.readWith rule payload c.lone = .accepted input)
    (options : TemplateOptions) (m : Metrics) :
    ∃ t, Template.render options input = .ok t ∧ t.Coherent options input ∧
      match Text.encodingFault? c.lone t.text with
      | none => (Rendering.run options c m input).result = .ok t
      | some f => (Rendering.run options c m input).result = .error (.unencodable f) := by
  refine ⟨_, render_accepted h options, coherent_withReference, ?_⟩
  rw [run_result_of_accepted h]
  split
  · exact Rendering.encoded_of_none ‹_›
  · exact Rendering.encoded_of_some ‹_›

/-- A request in quick mode, under names of both kinds, with a placeholder among its services. -/
def quickRequest : Value :=
  .record [("subscriptionId", .text " 11111111-2222-3333-4444-555555555555 "),
    ("alert_name", .text "it's-up"), ("services", .list [.text "", .text "Storage"]),
    ("actionMode", .text "quick"), ("quickActionGroupName", .text "The 'Ops' Team"),
    ("quick_email", .text "ops@example.com")]

/-- The alert that `quickRequest` asks for. -/
def quickInput : AlertInput where
  subscriptionId := "11111111-2222-3333-4444-555555555555"
  alertName := "it's-up"
  services := ["Storage"]
  actionMode := .quick
  quickActionGroupName := "The 'Ops' Team"
  quickEmail := "ops@example.com"

theorem render_quickRequest :
    Request.readWith .byModel quickRequest = .accepted quickInput ∧
      ∃ t, (Rendering.run {} {} {} quickInput).result = .ok t ∧ t.Coherent {} quickInput := by
  have haccepted : Request.readWith .byModel quickRequest = .accepted quickInput := rfl
  obtain ⟨t, -, hcoherent, hresult⟩ := render_of_accepted (c := {}) haccepted {} {}
  rw [Text.encodingFault?_nil] at hresult
  exact ⟨haccepted, t, hresult, hcoherent⟩

/-- A request in JSON whose alert is named with half of a surrogate pair. -/
def loneText : String :=
  "\x7b\"subscriptionId\": \"11111111-2222-3333-4444-555555555555\", " ++
    "\"alertName\": \"ab\\ud800\", \"existingActionGroupId\": \"x\"\x7d"

/-- The stand-in of its surrogate. -/
def loneStandIns : Text.StandIns := [('\uE000', 0xD800)]

/-- The text that is read in its place. -/
def settledText : String :=
  "\x7b\"subscriptionId\": \"11111111-2222-3333-4444-555555555555\", " ++
    "\"alertName\": \"ab\\ue000\", \"existingActionGroupId\": \"x\"\x7d"

/-- What it spells. -/
def loneRequest : Value :=
  .record [("subscriptionId", .text "11111111-2222-3333-4444-555555555555"),
    ("alertName", .text "ab\uE000"), ("existingActionGroupId", .text "x")]

/-- The alert that it asks for. -/
def loneInput : AlertInput where
  subscriptionId := "11111111-2222-3333-4444-555555555555"
  alertName := "ab\uE000"
  existingActionGroupId := some "x"

theorem readText_settledText : Json.readText settledText.toList = .ok loneRequest := by
  rfl

theorem openText_loneText :
    Json.openText loneText.toList = .ok ⟨loneRequest, loneStandIns⟩ := by
  have hsettle : Json.settle (Json.pointsOf loneText.toList) = settledText.toList := by
    decide +kernel
  have hlone : Json.standIns (Json.pointsOf loneText.toList) = loneStandIns := by decide +kernel
  rw [Json.openText, hsettle, hlone, Json.read_eq_ok_iff.mpr readText_settledText]
  rfl

/-- The request is accepted, and its rendering ends by neither a failure nor a template. -/
theorem render_loneRequest :
    Json.openText loneText.toList = .ok ⟨loneRequest, loneStandIns⟩ ∧
      Request.readWith .byModel loneRequest loneStandIns = .accepted loneInput ∧
      ∃ f, (Rendering.run {} { lone := loneStandIns } {} loneInput).result =
        .error (.unencodable f) := by
  have haccepted : Request.readWith .byModel loneRequest loneStandIns = .accepted loneInput := rfl
  have htext : (Rendering.compose {} loneInput) =
      .ok (withReference {} loneInput loneInput.reference) :=
    compose_of_accepted haccepted (render_accepted haccepted {})
  exact ⟨openText_loneText, haccepted,
    Rendering.exists_unencodable (c := { lone := loneStandIns }) htext
      (Rendering.occurIn_text (by decide) _)⟩

end Template

end HealthAlert
