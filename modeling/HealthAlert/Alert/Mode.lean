/-!
# Action modes

Model of `ActionMode`.

How an alert notifies: through an action group that exists already, or through one that the
template declares.
-/

namespace HealthAlert

/-- How an alert notifies. -/
inductive ActionMode where
  /-- Refer to an action group that exists. -/
  | existing
  /-- Declare an action group beside the alert. -/
  | quick
  deriving DecidableEq, Repr, Inhabited

namespace ActionMode

/-- The mode as it is written in requests, logs and metrics. -/
def label : ActionMode → String
  | .existing => "existing"
  | .quick => "quick"

/-- The mode written `label`. -/
def ofLabel? (label : String) : Option ActionMode :=
  if label = "existing" then some .existing
  else if label = "quick" then some .quick
  else none

/-- The name of the mode in its enumeration. -/
def memberName : ActionMode → String
  | .existing => "EXISTING"
  | .quick => "QUICK"

@[simp] theorem ofLabel?_label (m : ActionMode) : ofLabel? m.label = some m := by
  cases m <;> decide

end ActionMode

end HealthAlert
