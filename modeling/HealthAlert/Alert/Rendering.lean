import HealthAlert.Alert.Template
import HealthAlert.Failure.Internal
import HealthAlert.Log.Row
import HealthAlert.Metrics.Basic
import HealthAlert.Text.Surrogates

/-!
# Renderings with their records

Model of `render_template` from the `try` to its return, with `_record_render_metrics`.

`Rendering.run` renders an alert and records it, as `render_template` does: a success leaves a log
row and is counted with the size of its text, a failure is only counted. While the metrics are out
of order nothing is counted, and the result is the same. The size is taken after everything that
is counted as a failure, so a text that has no UTF-8 ends the rendering without a record.
-/

namespace HealthAlert

/-- The size of a text in bytes. -/
def byteSize (s : String) : Nat :=
  s.utf8ByteSize

namespace Rendering

/-- What a rendering meets with, apart from its input. -/
structure Circumstances where
  /-- The metrics are in order. -/
  counting : Bool := true
  /-- The characters of the input that stand for lone surrogates. -/
  lone : Text.StandIns := []
  /-- How long the rendering takes, as the log shows it. -/
  duration : String := "0.0000s"
  deriving Repr

/-- Why a rendering gives no template. -/
inductive Fault where
  | template (f : TemplateFault)
  /-- A tag holds an integer that is too long to be written. -/
  | unwritableInteger
  /-- The text of the template has no UTF-8. -/
  | unencodable (f : Text.EncodingFault)
  deriving DecidableEq, Repr

/-- The fault as others see it. -/
def Fault.trouble : Fault → Trouble
  | .template f => .failure f.failure
  | .unwritableInteger => .internal .unwritableInteger
  | .unencodable f => .internal (.unencodable f)

/-- The row of tags is read as texts that cannot be written. -/
def isUnwritableRow (row : Value × Value) : Bool :=
  row.1.holdsLong || (Naming.tagKeyOf row.1 != "" && row.2.holdsLong)

/-- The template of an alert, in whose tags integers may be too long. -/
def compose (options : TemplateOptions) (input : AlertInput) : Except Fault Template :=
  if input.properties.toBool && input.tags.any isUnwritableRow then .error .unwritableInteger
  else (Template.render options input).mapError .template

/-- The template when its text has UTF-8. -/
def encoded (lone : Text.StandIns) (t : Template) : Except Fault Template :=
  match Text.encodingFault? lone t.text with
  | none => .ok t
  | some f => .error (.unencodable f)

/-- The log row about a rendered template. -/
def logRow (duration : String) (input : AlertInput) (t : Template) : Log.Row where
  level := .info
  logger := "alert_bicep.compiler.document"
  message :=
    "Rendered alert template " ++ input.alertName ++ ": " ++ toString t.conditionCount ++
      " conditions, mode=" ++ input.actionMode.label ++ ", duration=" ++ duration ++
      ", size=" ++ toString (byteSize t.text) ++ " bytes"

/-- The log rows of a rendering. -/
def logRows (duration : String) (input : AlertInput) : Except Fault Template → List Log.Row
  | .ok t => [logRow duration input t]
  | .error _ => []

/-- The metrics after a rendering. -/
def count (m : Metrics) (mode : ActionMode) : Except Fault Template → Metrics
  | .ok t => m.rendered mode (byteSize t.text)
  | .error (.unencodable _) => m
  | .error _ => m.renderFailed mode

/-- The result of a rendering, the metrics after it, and its log rows. -/
structure Record where
  result : Except Fault Template
  metrics : Metrics
  log : List Log.Row

/-- `render_template`: render an alert and record it. -/
def run (options : TemplateOptions) (c : Circumstances) (m : Metrics) (input : AlertInput) :
    Record :=
  let result := compose options input >>= encoded c.lone
  { result
    metrics := if c.counting then count m input.actionMode result else m
    log := logRows c.duration input result }

end Rendering

end HealthAlert
