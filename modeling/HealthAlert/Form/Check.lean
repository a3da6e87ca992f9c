import HealthAlert.Form.Field
import HealthAlert.Log.Row
import HealthAlert.Text.Lowercase

/-!
# Checking a whole form

Model of `validate_alert_form` and of the route function `validate_alert`.

`Form.check` judges every field of a form, so that all problems can be shown at once. Which
fields of the action group are judged depends on the action mode. `Form.checkSubmission` first
brings the keys of a submission to the names of the fields.
-/

namespace HealthAlert.Form

/-- The judged fields in order, each with its problem. -/
abbrev Verdicts := List (String × Option Problem)

/-- No field has a problem. -/
def Verdicts.valid (vs : Verdicts) : Bool :=
  vs.all fun v => v.2.isNone

/-- The fields that have a problem. -/
def Verdicts.problems (vs : Verdicts) : List (String × Problem) :=
  vs.filterMap fun v => v.2.map fun p => (v.1, p)

/-- The value of a field; an absent field is null. -/
def valueOf (form : List (String × Value)) (name : String) : Value :=
  (Keyed.get? form name).getD .null

/-- The form asks for a new action group. -/
def asksForQuick (form : List (String × Value)) : Bool :=
  (valueOf form "action_mode").text? == some ActionMode.quick.label

/-- The judged fields of the action group. -/
def checkActionGroup (form : List (String × Value)) : Verdicts :=
  if asksForQuick form then
    [("quick_action_group_name",
        checkRequired "Action Group Name" (valueOf form "quick_action_group_name")),
      ("quick_email", checkEmail (valueOf form "quick_email"))]
  else if (valueOf form "existing_action_group_id").truthy then []
  else
    [("action_group_name", checkRequired "Action Group Name" (valueOf form "action_group_name")),
      ("action_group_resource_group",
        checkRequired "Action Group Resource Group"
          (valueOf form "action_group_resource_group"))]

/-- `validate_alert_form`: the verdicts on all fields of a form. -/
def check (form : List (String × Value)) : Verdicts :=
  [("subscription_id", checkSubscriptionId (valueOf form "subscription_id")),
    ("alert_name", checkAlertName (valueOf form "alert_name")),
    ("services", checkSelection "service" (valueOf form "services")),
    ("event_types", checkSelection "event type" (valueOf form "event_types")),
    ("regions", checkSelection "region" (valueOf form "regions")),
    ("severities", checkSelection "severity level" (valueOf form "severities"))] ++
    checkActionGroup form

/-! ## Keys of a submission -/

/-- An underscore between every two neighbours of which the first is in one class and the second
in another. -/
def breakBetween (first second : Char → Bool) : List Char → List Char
  | [] => []
  | [c] => [c]
  | a :: b :: rest =>
    if first a && second b then a :: '_' :: breakBetween first second (b :: rest)
    else a :: breakBetween first second (b :: rest)

/-- An underscore before the last of several capitals that a small letter follows. -/
def breakCapitals : List Char → List Char
  | [] => []
  | [c] => [c]
  | [a, b] => [a, b]
  | a :: b :: c :: rest =>
    if a.isUpper && b.isUpper && c.isLower then a :: '_' :: breakCapitals (b :: c :: rest)
    else a :: breakCapitals (b :: c :: rest)

/-- A key in lower case with underscores between its words. -/
def snakeCase (key : String) : String :=
  let cs := breakCapitals key.toList
  let cs := breakBetween Char.isLower Char.isUpper cs
  let cs := breakBetween Char.isDigit Char.isUpper cs
  let cs := breakBetween Char.isLower Char.isDigit cs
  Text.lowercase (String.ofList (cs.map fun c => if c == '-' then '_' else c))

/-- A form with the names of its fields as keys. Of keys that come to the same name the last
gives the value. The resource group of the action group also has a short name, which counts when
the long one is absent. -/
def normalizeKeys (payload : List (String × Value)) : List (String × Value) :=
  let form := Keyed.ofPairs (payload.map fun e => (snakeCase e.1, e.2))
  match Keyed.get? form "action_group_rg" with
  | none => form
  | some v =>
    let form := form.filter fun e => e.1 != "action_group_rg"
    if Keyed.has form "action_group_resource_group" then form
    else form ++ [("action_group_resource_group", v)]

/-- `validate_alert`: the verdicts on a submission. -/
def checkSubmission (payload : List (String × Value)) : Verdicts :=
  check (normalizeKeys payload)

/-- The log row about a submission: none when it is valid. -/
def submissionLog (vs : Verdicts) : List Log.Row :=
  if vs.valid then []
  else
    let names := (vs.problems.map Prod.fst).mergeSort fun a b => decide (a ≤ b)
    [{ level := .info
       logger := "alert_bicep.api.routes.templates"
       message := "Alert form failed validation"
       fields := [("invalid_fields", .list (names.map .text))] }]

/-- The verdicts as the body of an answer. -/
def Verdicts.toValue (vs : Verdicts) : Value :=
  .record [
    ("is_valid", .bool vs.valid),
    ("fields", .record (vs.map fun v =>
      (v.1, .record [
        ("is_valid", .bool v.2.isNone),
        ("message", .text (match v.2 with
          | none => ""
          | some p => p.message))])))]

end HealthAlert.Form
