import HealthAlert.Alert.Template

/-!
# The document of an alert

The properties of an alert and its tags are values whose shape is fixed, so that their literals
can be written down. `render_eq` says what a template is made of: everything that can go wrong is
that there is no action group to refer to.

* `complete_toValue`, `properties_eq`: a document of an alert holds no permission block, and is
  what it was assembled as.
* `ofValue?_toValue`, `ofValue?_document`: every part of it is a literal.
* **`render_eq`**: a template is a failure exactly when there is no reference to an action group,
  and otherwise its text is the declaration of the action group, where the mode asks for one,
  followed by that of the alert.
-/

namespace HealthAlert

open Bicep (Literal)

/-- The value of a record under a key. -/
def Value.member? (v : Value) (key : String) : Option Value :=
  match v with
  | .record es => Keyed.get? es key
  | _ => none

/-! ## Conditions -/

namespace Condition

mutual

/-- The literal of a condition. -/
def toLiteral : Condition → Literal
  | .comparison field value =>
    .object [("field", .scalar (.text field)), ("equals", .scalar (.text value))]
  | .anyOf cs => .object [("anyOf", .array (toLiterals cs))]
  | .allOf cs => .object [("allOf", .array (toLiterals cs))]

/-- The literals of conditions. -/
def toLiterals : List Condition → List Literal
  | [] => []
  | c :: cs => toLiteral c :: toLiterals cs

end

theorem toLiterals_eq_map (cs : List Condition) : toLiterals cs = cs.map toLiteral := by
  induction cs with
  | nil => rfl
  | cons c cs ih => rw [toLiterals, ih, List.map_cons]

mutual

/-- A condition holds no permission block. -/
theorem complete_toValue : ∀ c : Condition, Permissions.complete c.toValue = c.toValue
  | .comparison _ _ => rfl
  | .anyOf cs => congrArg (fun vs => Value.record [("anyOf", .list vs)]) (completeItems_toValues cs)
  | .allOf cs => congrArg (fun vs => Value.record [("allOf", .list vs)]) (completeItems_toValues cs)

theorem completeItems_toValues :
    ∀ cs : List Condition, Permissions.completeItems (toValues cs) = toValues cs
  | [] => rfl
  | c :: cs => by
    rw [toValues, Permissions.completeItems, complete_toValue c, completeItems_toValues cs]

end

mutual

/-- A condition is a literal. -/
theorem ofValue?_toValue : ∀ c : Condition, Literal.ofValue? c.toValue = .ok c.toLiteral
  | .comparison _ _ => rfl
  | .anyOf cs => by
    simp only [toValue, toLiteral, Literal.ofValue?, Literal.ofEntries?, ofItems?_toValues cs]
    rfl
  | .allOf cs => by
    simp only [toValue, toLiteral, Literal.ofValue?, Literal.ofEntries?, ofItems?_toValues cs]
    rfl

theorem ofItems?_toValues :
    ∀ cs : List Condition, Literal.ofItems? (toValues cs) = .ok (toLiterals cs)
  | [] => rfl
  | c :: cs => by
    rw [toValues, toLiterals, Literal.ofItems?, ofValue?_toValue c, ofItems?_toValues cs]
    rfl

end

end Condition

/-! ## Properties -/

namespace AlertInput

/-- The properties of an alert that refers to its action group by `reference`. -/
def document (input : AlertInput) (reference : String) : Value :=
  .record [
    ("enabled", .bool true),
    ("scopes", .list [.text (Bicep.quote ("/subscriptions/" ++ input.subscriptionId))]),
    ("condition", (Condition.allOf input.conditions).toValue),
    ("actions", .record [("actionGroups", .list [.record [("actionGroupId", .text reference)]])]),
    ("description", .text (Bicep.quote
      (Template.description input.services input.eventTypes input.regions)))]

/-- The literal of an alert's properties. -/
def documentLiteral (input : AlertInput) (reference : String) : Literal :=
  .object [
    ("enabled", .scalar (.bool true)),
    ("scopes",
      .array [.scalar (.text (Bicep.quote ("/subscriptions/" ++ input.subscriptionId)))]),
    ("condition", (Condition.allOf input.conditions).toLiteral),
    ("actions", .object [("actionGroups",
      .array [.object [("actionGroupId", .scalar (.text reference))]])]),
    ("description", .scalar (.text (Bicep.quote
      (Template.description input.services input.eventTypes input.regions))))]

theorem complete_document (input : AlertInput) (reference : String) :
    Permissions.complete (input.document reference) = input.document reference := by
  have hcondition := Condition.complete_toValue (.allOf input.conditions)
  unfold document
  simp only [Permissions.complete, Permissions.completeFields, Permissions.completeItems,
    hcondition]
  rfl

/-- The properties of an alert are its document, as soon as there is a reference to its action
group. -/
theorem properties_eq (input : AlertInput) :
    input.properties = input.actionGroupReference.map input.document := by
  unfold properties actionGroups
  cases input.actionGroupReference with
  | error fault => rfl
  | ok reference => exact congrArg Except.ok (complete_document input reference)

theorem ofValue?_document (input : AlertInput) (reference : String) :
    Literal.ofValue? (input.document reference) = .ok (input.documentLiteral reference) := by
  have hcondition := Condition.ofValue?_toValue (.allOf input.conditions)
  unfold document documentLiteral
  simp only [Literal.ofValue?, Literal.ofEntries?, Literal.ofItems?, hcondition]
  rfl

end AlertInput

/-! ## The reference to the action group -/

namespace AlertInput

/-- The ID of the action group that an alert in existing mode notifies: the explicit one, or the
one composed of its parts when none is given. -/
def groupId (input : AlertInput) : String :=
  if input.existingActionGroupId.getD "" = "" then
    Template.actionGroupId input.subscriptionId input.actionGroupResourceGroup input.actionGroupName
  else input.existingActionGroupId.getD ""

/-- The expression by which a template refers to the action group. -/
def reference (input : AlertInput) : String :=
  match input.actionMode with
  | .quick => "quickAG.id"
  | .existing => Bicep.quote input.groupId

/-- The fields that the mode of an alert needs to refer to its action group. -/
def HasGroup (input : AlertInput) : Prop :=
  match input.actionMode with
  | .quick => input.quickActionGroupName ≠ "" ∧ input.quickEmail ≠ ""
  | .existing => input.existingActionGroupId.getD "" ≠ "" ∨
      (input.actionGroupName ≠ "" ∧ input.actionGroupResourceGroup ≠ "")

/-- **There is a reference to the action group exactly when the fields that the mode needs are
there.** -/
theorem actionGroupReference_eq_ok_iff {input : AlertInput} {r : String} :
    input.actionGroupReference = .ok r ↔ input.HasGroup ∧ r = input.reference := by
  unfold actionGroupReference HasGroup reference groupId
  cases hm : input.actionMode with
  | quick =>
    by_cases hn : input.quickActionGroupName = "" <;> by_cases he : input.quickEmail = "" <;>
      simp [hn, he, eq_comm, Resource.symbol]
  | existing =>
    unfold actionGroupReference.composed
    cases hid : input.existingActionGroupId with
    | none =>
      by_cases hn : input.actionGroupName = "" <;>
        by_cases hr : input.actionGroupResourceGroup = "" <;> simp [hn, hr, eq_comm]
    | some id =>
      by_cases hi : id = "" <;> by_cases hn : input.actionGroupName = "" <;>
        by_cases hr : input.actionGroupResourceGroup = "" <;> simp [hi, hn, hr, eq_comm]

end AlertInput

/-! ## Tags -/

namespace Template

/-- The literal of tags. -/
def tagsLiteral (rows : List (Value × Value)) : Literal :=
  .object ((tags rows).map fun e => (e.1, .scalar (.text e.2)))

theorem ofValue?_tagsValue (rows : List (Value × Value)) :
    Literal.ofValue? (tagsValue rows) = .ok (tagsLiteral rows) := by
  have hentries : ∀ es : List (String × String),
      Literal.ofEntries? (es.map fun e => (e.1, Value.text e.2)) =
        .ok (es.map fun e => (e.1, Literal.scalar (.text e.2))) := by
    intro es
    induction es with
    | nil => rfl
    | cons e es ih =>
      rw [List.map_cons, List.map_cons, Literal.ofEntries?, ih]
      rfl
  unfold tagsValue tagsLiteral
  rw [Literal.ofValue?, hentries]
  rfl

theorem truthy_tagsValue (rows : List (Value × Value)) :
    (tagsValue rows).truthy = !(tags rows).isEmpty := by
  unfold tagsValue
  cases tags rows <;> rfl

/-- The tags in the declaration of an alert, nothing when there are none. -/
def tagsText (options : TemplateOptions) (rows : List (Value × Value)) : String :=
  if (tags rows).isEmpty then ""
  else "\n  tags: " ++ (tagsLiteral rows).text options.indent options.compactThreshold

/-! ## Templates -/

/-- The declaration of an alert that refers to its action group by `reference`. -/
def alertText (options : TemplateOptions) (input : AlertInput) (reference : String) : String :=
  declaration .alert options.alertApiVersion ++
    "  name: " ++ Bicep.quote input.alertName ++ "\n" ++
    "  location: " ++ Bicep.quote location ++ tagsText options input.tags ++ "\n" ++
    "  properties: " ++
      (input.documentLiteral reference).text options.indent options.compactThreshold ++ "\n" ++
    "\x7d\n"

theorem alertResource_eq (options : TemplateOptions) (input : AlertInput) (reference : String) :
    alertResource options input.alertName (input.document reference) (tagsValue input.tags) =
      .ok (alertText options input reference) := by
  unfold alertResource alertText tagsText Bicep.render
  rw [truthy_tagsValue, ofValue?_tagsValue, AlertInput.ofValue?_document]
  cases (tags input.tags).isEmpty <;> rfl

/-- The template of an alert that refers to its action group by `reference`. -/
def withReference (options : TemplateOptions) (input : AlertInput) (reference : String) :
    Template where
  text := quickPart options input ++ alertText options input reference
  resources := input.actionMode.resources
  properties := input.document reference
  conditionCount := input.conditions.length

/-- The text of a template ends with its properties, written out. -/
def WritesProperties (options : TemplateOptions) (t : Template) : Prop :=
  ∃ head body, Bicep.render options.indent options.compactThreshold t.properties = .ok body ∧
    t.text = head ++ "  properties: " ++ body ++ "\n" ++ "\x7d\n"

theorem writesProperties_withReference (options : TemplateOptions) (input : AlertInput)
    (reference : String) : (withReference options input reference).WritesProperties options := by
  refine ⟨quickPart options input ++ (declaration .alert options.alertApiVersion ++
    "  name: " ++ Bicep.quote input.alertName ++ "\n" ++
    "  location: " ++ Bicep.quote location ++ tagsText options input.tags ++ "\n"),
    (input.documentLiteral reference).text options.indent options.compactThreshold, ?_, ?_⟩
  · have hliteral := AlertInput.ofValue?_document input reference
    exact congrArg (Except.map (·.text options.indent options.compactThreshold)) hliteral
  · unfold withReference alertText
    simp only [String.append_assoc]

/-- **What a template is made of.** -/
theorem render_eq (options : TemplateOptions) (input : AlertInput) :
    render options input = input.actionGroupReference.map (withReference options input) := by
  unfold render
  rw [AlertInput.properties_eq]
  cases input.actionGroupReference with
  | error fault => rfl
  | ok reference =>
    simp only [Except.map]
    rw [alertResource_eq]
    rfl

theorem render_eq_ok_iff {options : TemplateOptions} {input : AlertInput} {t : Template} :
    render options input = .ok t ↔
      ∃ reference, input.actionGroupReference = .ok reference ∧
        t = withReference options input reference := by
  rw [render_eq]
  cases input.actionGroupReference with
  | error fault => simp [Except.map]
  | ok reference => simp [Except.map, eq_comm]

end Template

end HealthAlert
