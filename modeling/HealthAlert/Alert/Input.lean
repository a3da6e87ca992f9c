import HealthAlert.Value.Basic

/-!
# The input of an alert

Model of `AlertTemplateInput` and `RenderOptions`.

`AlertInput` holds the values from which one alert is made, `TemplateOptions` how its template is
laid out and which versions of the resource types it declares.
-/

namespace HealthAlert

/-- The values of one alert. -/
structure AlertInput where
  subscriptionId : String
  alertName : String
  services : List String := []
  eventTypes : List String := []
  regions : List String := []
  /-- Selected with the alert, and not part of its condition. -/
  severities : List String := []
  actionMode : ActionMode := .existing
  actionGroupName : String := ""
  actionGroupResourceGroup : String := ""
  existingActionGroupId : Option String := none
  quickActionGroupName : String := ""
  quickEmail : String := ""
  quickShortName : String := ""
  /-- Rows of key and value as they were entered. -/
  tags : List (Value × Value) := []
  deriving Repr

/-- How a template is laid out, and the versions of its resource types. -/
structure TemplateOptions where
  indent : String := "    "
  compactThreshold : Int := 2
  alertApiVersion : String := "2023-01-01-preview"
  actionGroupApiVersion : String := "2019-06-01"
  deriving DecidableEq, Repr

end HealthAlert
