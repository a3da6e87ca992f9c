import HealthAlert.Alert.Condition
import HealthAlert.Alert.Input
import HealthAlert.Alert.Naming
import HealthAlert.Alert.Permissions
import HealthAlert.Bicep.Render

/-!
# Alert templates

Model of `action_group_id`, `build_description`, `build_tags`, `build_action_groups`,
`build_alert_properties`, `render_quick_action_group`, `render_alert_resource`, and of the text
that `render_template` joins from them.

`Template.render` turns the input of an alert into its template: in quick mode the declaration
of the action group, then that of the alert, whose properties are its scope, its condition, its
action group and a description.
-/

namespace HealthAlert

/-- The resources that a template declares. -/
inductive Resource where
  | alert
  | quickActionGroup
  deriving DecidableEq, Repr

/-- The symbolic name of a resource. -/
def Resource.symbol : Resource → String
  | .alert => "serviceHealthAlert"
  | .quickActionGroup => "quickAG"

/-- The type of a resource. -/
def Resource.type : Resource → String
  | .alert => "Microsoft.Insights/activityLogAlerts"
  | .quickActionGroup => "Microsoft.Insights/actionGroups"

/-- Why an alert has no template. -/
inductive TemplateFault where
  /-- Quick mode, without a name or an address for the action group. -/
  | quickActionIncomplete
  /-- Existing mode, with neither an ID nor a name and resource group. -/
  | actionGroupUnknown
  /-- A part of the template cannot be written. -/
  | unwritable (fault : Bicep.RenderFault)
  deriving DecidableEq, Repr

/-- The fault as a failure of the service. -/
def TemplateFault.failure : TemplateFault → Failure
  | .quickActionIncomplete =>
    ⟨.validation, "Quick action mode requires an action group name and email",
      [("action_mode", .text ActionMode.quick.label)]⟩
  | .actionGroupUnknown =>
    ⟨.render, "Existing action mode requires an action group ID or name and resource group",
      [("action_mode", .text ActionMode.existing.label)]⟩
  | .unwritable fault => fault.failure

namespace Template

/-- `action_group_id`: the resource ID of an action group. -/
def actionGroupId (subscriptionId resourceGroup name : String) : String :=
  "/subscriptions/" ++ subscriptionId ++ "/resourceGroups/" ++ resourceGroup ++
    "/providers/microsoft.insights/actionGroups/" ++ name

/-- `build_description`: the description of an alert for people. -/
def description (services eventTypes regions : List String) : String :=
  "Service Health alert for " ++ String.intercalate ", " services ++ " (" ++
    String.intercalate ", " eventTypes ++ ")" ++
    (if regions.isEmpty then "" else " in " ++ String.intercalate "," regions)

/-- The tags with one more row, unless its key is blank. -/
def addTag (tags : List (String × String)) (row : Value × Value) : List (String × String) :=
  let key := Naming.tagKeyOf row.1
  if key = "" then tags
  else Keyed.put tags key (Bicep.quote (if row.2.truthy then row.2.display else ""))

/-- `build_tags`: the tags of a template: safe keys in order of their first row, each with the
quoted value of its last row. -/
def tags (rows : List (Value × Value)) : List (String × String) :=
  rows.foldl addTag []

/-- The tags as a value. -/
def tagsValue (rows : List (Value × Value)) : Value :=
  .record ((tags rows).map fun e => (e.1, .text e.2))

end Template

/-- The expression that refers to the action group of an alert. -/
def AlertInput.actionGroupReference (input : AlertInput) : Except TemplateFault String :=
  match input.actionMode with
  | .quick =>
    if input.quickActionGroupName = "" ∨ input.quickEmail = "" then .error .quickActionIncomplete
    else .ok (Resource.quickActionGroup.symbol ++ ".id")
  | .existing =>
    match input.existingActionGroupId with
    | some id =>
      if id = "" then composed else .ok (Bicep.quote id)
    | none => composed
where
  composed : Except TemplateFault String :=
    if input.actionGroupName = "" ∨ input.actionGroupResourceGroup = "" then
      .error .actionGroupUnknown
    else
      .ok (Bicep.quote (Template.actionGroupId input.subscriptionId input.actionGroupResourceGroup
        input.actionGroupName))

/-- `build_action_groups`: the list of action groups that an alert notifies. -/
def AlertInput.actionGroups (input : AlertInput) : Except TemplateFault Value :=
  input.actionGroupReference.map fun reference =>
    .list [.record [("actionGroupId", .text reference)]]

/-- The conditions of an alert. -/
def AlertInput.conditions (input : AlertInput) : List Condition :=
  Condition.build input.services input.eventTypes input.regions

/-- `build_alert_properties`: the properties of an alert. -/
def AlertInput.properties (input : AlertInput) : Except TemplateFault Value :=
  input.actionGroups.map fun groups =>
    Permissions.complete (.record [
      ("enabled", .bool true),
      ("scopes", .list [.text (Bicep.quote ("/subscriptions/" ++ input.subscriptionId))]),
      ("condition", (Condition.allOf input.conditions).toValue),
      ("actions", .record [("actionGroups", groups)]),
      ("description", .text (Bicep.quote
        (Template.description input.services input.eventTypes input.regions)))])

namespace Template

/-- The first line of a declaration. -/
def declaration (resource : Resource) (apiVersion : String) : String :=
  "resource " ++ resource.symbol ++ " '" ++ resource.type ++ "@" ++ apiVersion ++ "' = \x7b\n"

/-- The location of every resource. -/
def location : String := "global"

/-- The name of the one receiver of a declared action group. -/
def receiverName : String := "default"

/-- The short name of a declared action group, from the one that was entered or, when that is
empty, from the group's name. -/
def groupShortName (entered name : String) : String :=
  Naming.shortName (if entered = "" then name else entered)

/-- `render_quick_action_group`: the declaration of the action group in quick mode. -/
def quickActionGroup (name email shortName apiVersion : String) : String :=
  declaration .quickActionGroup apiVersion ++
    "  name: " ++ Bicep.quote name ++ "\n" ++
    "  location: " ++ Bicep.quote location ++ "\n" ++
    "  properties: \x7b\n" ++
    "    groupShortName: " ++
      Bicep.quote (groupShortName shortName name) ++ "\n" ++
    "    enabled: true\n" ++
    "    emailReceivers: [\n" ++
    "      \x7b\n" ++
    "        name: " ++ Bicep.quote receiverName ++ "\n" ++
    "        emailAddress: " ++ Bicep.quote email ++ "\n" ++
    "      \x7d\n" ++
    "    ]\n" ++
    "  \x7d\n" ++
    "\x7d\n"

/-- The text of a literal that stands alone after a key of a declaration. -/
def soleText (options : TemplateOptions) : Bicep.Literal → String
  | .scalar s => s.soleContent
  | l => l.text options.indent options.compactThreshold

/-- `render_alert_resource`: the declaration of the alert. Tags that count as nothing are left out.
-/
def alertResource (options : TemplateOptions) (name : String) (properties tags : Value) :
    Except Bicep.RenderFault String := do
  let tagsBlock ←
    if tags.truthy then
      ("\n  tags: " ++ ·) <$> Bicep.render options.indent options.compactThreshold tags
    else pure ""
  let body ← soleText options <$> Bicep.Literal.ofValue? properties
  return declaration .alert options.alertApiVersion ++
    "  name: " ++ Bicep.quote name ++ "\n" ++
    "  location: " ++ Bicep.quote location ++ tagsBlock ++ "\n" ++
    "  properties: " ++ body ++ "\n" ++
    "\x7d\n"

end Template

/-- The short name of the action group that the alert's template declares, if it does. -/
def AlertInput.shortName? (input : AlertInput) : Option String :=
  match input.actionMode with
  | .quick => some (Template.groupShortName input.quickShortName input.quickActionGroupName)
  | .existing => none

/-- The resources that the template of a mode declares, in order. -/
def ActionMode.resources : ActionMode → List Resource
  | .quick => [.quickActionGroup, .alert]
  | .existing => [.alert]

/-- A template with what it declares. -/
structure Template where
  text : String
  resources : List Resource
  /-- The properties of the alert. -/
  properties : Value
  /-- How many conditions an event has to meet. -/
  conditionCount : Nat
  deriving Repr

namespace Template

/-- The declaration of the action group, where the mode asks for one. -/
def quickPart (options : TemplateOptions) (input : AlertInput) : String :=
  match input.actionMode with
  | .quick =>
    quickActionGroup input.quickActionGroupName input.quickEmail input.quickShortName
      options.actionGroupApiVersion
  | .existing => ""

/-- The template of an alert. -/
def render (options : TemplateOptions) (input : AlertInput) : Except TemplateFault Template :=
  match input.properties with
  | .error fault => .error fault
  | .ok props =>
    match alertResource options input.alertName props (tagsValue input.tags) with
    | .error fault => .error (.unwritable fault)
    | .ok alert =>
      .ok {
        text := quickPart options input ++ alert
        resources := input.actionMode.resources
        properties := props
        conditionCount := input.conditions.length }

end Template

end HealthAlert
