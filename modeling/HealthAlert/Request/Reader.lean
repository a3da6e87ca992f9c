import HealthAlert.Alert.Input
import HealthAlert.Form.Field
import HealthAlert.Text.Surrogates
import HealthAlert.Validation.Scalar

/-!
# Alert requests

Model of `AlertTemplateRequest` with its validators and `to_input`, of `TagRow`, and of
`SelectOption`.

`Request.read` turns a payload into the input of an alert. Every field is checked and the issues
are listed in the order of the fields; when there are none, the fields of the action group are
checked against the action mode.

A field has two names: its own and the one that the form uses. The form's name wins when both are
given. A field that is absent has its default, which is not checked.
-/

namespace HealthAlert.Request

open Validation (text nullableText)

/-- A field of a request. -/
structure FieldName where
  /-- The field's own name. -/
  name : String
  /-- The name that the form uses. -/
  formName : String

/-- The key under which a record gives a field, and the value. -/
def FieldName.find? (f : FieldName) (entries : List (String × Value)) : Option (String × Value) :=
  match Keyed.get? entries f.formName with
  | some v => some (f.formName, v)
  | none => (Keyed.get? entries f.name).map fun v => (f.name, v)

variable {α : Type}

/-- The value of a field that may be absent. -/
def optional (entries : List (String × Value)) (f : FieldName) (default : α)
    (check : Value → Checked α) : Checked α :=
  match f.find? entries with
  | none => .accepted default
  | some (key, v) => Checked.under (.field key) (check v)

/-- The value of a field that must be given. -/
def required (entries : List (String × Value)) (f : FieldName) (check : Value → Checked α) :
    Checked α :=
  match f.find? entries with
  | none => Checked.under (.field f.formName) (Checked.refuse .missing (.record entries))
  | some (key, v) => Checked.under (.field key) (check v)

/-! ## Values of fields -/

/-- The value with the white space around a text removed. -/
def trimmedValue (v : Value) : Value :=
  match v.text? with
  | some s => .text (Text.trim s)
  | none => v

/-- A text without the white space around it. -/
def trimmedText (v : Value) : Checked String :=
  text (trimmedValue v)

/-- A trimmed text that a form check accepts. -/
def checkedText (check : Value → Option Form.Problem) (v : Value) : Checked String :=
  Checked.guarded (trimmedText v) v fun s => (check (.text s)).map (·.message)

/-- The check of a text whose length counts: it must have UTF-8. -/
def encodable (lone : Text.StandIns) (check : Value → Checked α) (v : Value) : Checked α :=
  match v.text? with
  | some s => if lone.occurIn s then Checked.refuse .notUnicode v else check v
  | none => check v

/-- A text of at most `limit` characters. -/
def boundedText (limit : Nat) (v : Value) : Checked String :=
  match text v with
  | .refused issues => .refused issues
  | .accepted s => if s.length ≤ limit then .accepted s else Checked.refuse (.tooLong limit) v

/-- The elements of a value that can stand for a list. -/
def elements? (v : Value) : Option (List Value) :=
  match v with
  | .foreign .emptySet => some []
  | .foreign .emptyFrozenSet => some []
  | .foreign .range => some [.int 0, .int 1, .int 2]
  | v => v.items?

/-- A list of checked elements. -/
def listOf (check : Value → Checked α) (v : Value) : Checked (List α) :=
  match elements? v with
  | some items => Checked.all check 0 items
  | none => Checked.refuse .notAList v

/-- The texts of a selection that are not empty; there must be one. -/
def selection (what : String) (v : Value) : Checked (List String) :=
  Checked.guarded ((List.filter (· != "")) <$> listOf text v) v fun ss =>
    (Form.checkSelection what (.list (ss.map .text))).map (·.message)

/-- An action mode, or the text that is its label. -/
def actionMode (v : Value) : Checked ActionMode :=
  match v.text?.bind ActionMode.ofLabel? with
  | some m => .accepted m
  | none => Checked.refuse .notAMode v

/-- The most characters of a tag's key. -/
def maxTagKey : Nat := 512

/-- The most characters of a tag's value. -/
def maxTagValue : Nat := 256

/-- How a value that is no record is refused where one is needed: with the model's name, or as
something without fields. -/
inductive RecordRule where
  | byModel
  | byFields

/-- The refusal of a value that is no record of the model. -/
def RecordRule.refusal (rule : RecordRule) (model : String) : Refusal :=
  match rule with
  | .byModel => .notARecord model
  | .byFields => .withoutFields

/-- A row of tags. -/
def tagRow (rule : RecordRule) (lone : Text.StandIns) (v : Value) : Checked (Value × Value) :=
  match v with
  | .record entries =>
    (fun key value => (Value.text key, Value.text value))
      <$> optional entries ⟨"key", "key"⟩ "" (encodable lone (boundedText maxTagKey))
      <*> optional entries ⟨"value", "value"⟩ "" (encodable lone (boundedText maxTagValue))
  | v => Checked.refuse (rule.refusal "TagRow") v

/-- Tags as rows: a record of keys and values counts as the list of its rows. -/
def tagRows (v : Value) : Value :=
  match v with
  | .record entries =>
    .list (entries.map fun e => .record [("key", .text e.1), ("value", e.2)])
  | v => v

/-! ## The request -/

/-- The fields of a request, each checked by itself. -/
def readFields (rule : RecordRule) (es : List (String × Value)) (lone : Text.StandIns := []) :
    Checked AlertInput :=
  AlertInput.mk
    <$> required es ⟨"subscription_id", "subscriptionId"⟩ (checkedText Form.checkSubscriptionId)
    <*> required es ⟨"alert_name", "alertName"⟩ (checkedText Form.checkAlertName)
    <*> optional es ⟨"services", "services"⟩ [] (selection "service")
    <*> optional es ⟨"event_types", "eventTypes"⟩ [] (selection "event type")
    <*> optional es ⟨"regions", "regions"⟩ [] (selection "region")
    <*> optional es ⟨"severities", "severities"⟩ [] (selection "severity level")
    <*> optional es ⟨"action_mode", "actionMode"⟩ .existing actionMode
    <*> optional es ⟨"action_group_name", "actionGroupName"⟩ "" trimmedText
    <*> optional es ⟨"action_group_resource_group", "actionGroupRg"⟩ "" trimmedText
    <*> optional es ⟨"existing_action_group_id", "existingActionGroupId"⟩ none nullableText
    <*> optional es ⟨"quick_action_group_name", "quickActionGroupName"⟩ "" trimmedText
    <*> optional es ⟨"quick_email", "quickEmail"⟩ "" trimmedText
    <*> optional es ⟨"quick_short_name", "quickShortName"⟩ "" trimmedText
    <*> optional es ⟨"tags", "tags"⟩ [] fun v => listOf (tagRow rule lone) (tagRows v)

/-- The explicit ID of an action group, if it is not empty. -/
def explicitGroup (input : AlertInput) : Bool :=
  match input.existingActionGroupId with
  | some id => id != ""
  | none => false

/-- The problem with the fields of the action group in the request's mode. -/
def actionGroupProblem (input : AlertInput) : Option String :=
  match input.actionMode with
  | .quick =>
    ((Form.checkRequired "Action Group Name" (.text input.quickActionGroupName)).or
      (Form.checkEmail (.text input.quickEmail))).map (·.message)
  | .existing =>
    if explicitGroup input then none
    else if input.actionGroupName = "" ∨ input.actionGroupResourceGroup = "" then
      some "Please provide both Action Group Name and Resource Group (or choose Quick action)."
    else none

/-- The input of an alert that a payload gives, in whose texts some characters stand for lone
surrogates. -/
def readWith (rule : RecordRule) (payload : Value) (lone : Text.StandIns := []) :
    Checked AlertInput :=
  match payload with
  | .record entries =>
    Checked.guarded (readFields rule entries lone) payload actionGroupProblem
  | v => Checked.refuse (rule.refusal "AlertTemplateRequest") v

/-- The input of an alert that a payload gives; a payload that is no record is refused by name. -/
def read (payload : Value) (lone : Text.StandIns := []) : Checked AlertInput :=
  readWith .byModel payload lone

/-! ## Options of a list -/

/-- A text with at least one character. -/
def filledText (v : Value) : Checked String :=
  match text v with
  | .refused issues => .refused issues
  | .accepted s => if s = "" then Checked.refuse (.tooShort 1) v else .accepted s

/-- The value and the label of an option. -/
def readOption (payload : Value) (lone : Text.StandIns := []) : Checked (String × String) :=
  match payload with
  | .record entries =>
    Prod.mk
      <$> required entries ⟨"value", "value"⟩ (encodable lone filledText)
      <*> required entries ⟨"label", "label"⟩ (encodable lone filledText)
  | v => Checked.refuse (.notARecord "SelectOption") v

end HealthAlert.Request
