import HealthAlert.Alert.Mode
import HealthAlert.Metrics.Tally

/-!
# Metrics

Model of `Metrics`.

What the service counts: HTTP requests by method, route and status, requests in progress by
method, unhandled errors, and renderings by outcome and mode with the sizes of their templates.
How long things take is not part of the model; only how often a duration was taken.
-/

namespace HealthAlert

/-- How a rendering ended. -/
inductive RenderOutcome where
  | success
  | error
  deriving DecidableEq, Repr

/-- The outcome as a label. -/
def RenderOutcome.label : RenderOutcome → String
  | .success => "success"
  | .error => "error"

/-- What a handled request is counted under. -/
structure RequestLabels where
  method : String
  route : String
  status : Nat
  deriving DecidableEq, Repr

/-- What a request's duration is taken under. -/
structure RouteLabels where
  method : String
  route : String
  deriving DecidableEq, Repr

/-- What an unhandled error is counted under. -/
structure ErrorLabels where
  errorType : String
  method : String
  route : String
  deriving DecidableEq, Repr

/-- What a rendering is counted under. -/
structure RenderLabels where
  outcome : RenderOutcome
  mode : ActionMode
  deriving DecidableEq, Repr

/-- The bounds by which template sizes are counted, in bytes. -/
def sizeBounds : List Nat := [256, 512, 1024, 2048, 4096, 8192, 16384, 65536]

/-- Everything that is counted. -/
structure Metrics where
  requests : Tally RequestLabels := []
  durations : Tally RouteLabels := []
  inProgress : Tally String := []
  errors : Tally ErrorLabels := []
  renders : Tally RenderLabels := []
  renderDurations : Nat := 0
  templateSizes : Histogram := .empty sizeBounds
  deriving DecidableEq, Repr

namespace Metrics

/-- A request has come in. -/
def requestStarted (m : Metrics) (method : String) : Metrics :=
  { m with inProgress := m.inProgress.bump method }

/-- A request is no longer in progress. -/
def requestEnded (m : Metrics) (method : String) : Metrics :=
  { m with inProgress := m.inProgress.modify method (· - 1) }

/-- A request was answered. -/
def requestHandled (m : Metrics) (method route : String) (status : Nat) : Metrics :=
  { m with
    requests := m.requests.bump ⟨method, route, status⟩
    durations := m.durations.bump ⟨method, route⟩ }

/-- A request ended in an error that nothing handled. -/
def errorRaised (m : Metrics) (errorType method route : String) : Metrics :=
  { m with errors := m.errors.bump ⟨errorType, method, route⟩ }

/-- A template of a mode was rendered, with this many bytes. -/
def rendered (m : Metrics) (mode : ActionMode) (bytes : Nat) : Metrics :=
  { m with
    renders := m.renders.bump ⟨.success, mode⟩
    renderDurations := m.renderDurations + 1
    templateSizes := m.templateSizes.observe bytes }

/-- A rendering of a mode failed. -/
def renderFailed (m : Metrics) (mode : ActionMode) : Metrics :=
  { m with
    renders := m.renders.bump ⟨.error, mode⟩
    renderDurations := m.renderDurations + 1 }

end Metrics

end HealthAlert
