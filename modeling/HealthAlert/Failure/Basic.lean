import HealthAlert.Value.Basic

/-!
# Failures

Model of `AlertBicepError`, its subclasses and `get_status_code`.

A `Failure` is what the service reports when it cannot do what was asked: its kind, a message for
people, and details for programs. Every kind has an HTTP status; failures of any other origin
count as internal errors.
-/

namespace HealthAlert

/-- Kinds of failure. -/
inductive FailureKind where
  /-- A failure of no particular kind. -/
  | general
  /-- The input of an alert is not acceptable. -/
  | validation
  /-- What was asked for does not exist. -/
  | notFound
  /-- A file of options is missing or malformed. -/
  | optionData
  /-- A value or an alert has no template text. -/
  | render
  deriving DecidableEq, Repr

/-- The name by which answers call a kind. -/
def FailureKind.name : FailureKind → String
  | .general => "AlertBicepError"
  | .validation => "ValidationError"
  | .notFound => "NotFoundError"
  | .optionData => "OptionDataError"
  | .render => "RenderError"

/-- The status of an answer that reports a failure. -/
def FailureKind.status : FailureKind → Nat
  | .general => 500
  | .validation => 400
  | .notFound => 404
  | .optionData => 500
  | .render => 422

/-- A failure with its message and its details. -/
structure Failure where
  kind : FailureKind
  message : String
  details : List (String × Value)
  deriving Repr

/-- The status of an answer that reports the failure. -/
def Failure.status (f : Failure) : Nat :=
  f.kind.status

/-- The status of an answer to a failure of no known kind. -/
def internalErrorStatus : Nat := 500

/-- `get_status_code`: the status for a failure whose kind may be unknown. -/
def statusFor (kind : Option FailureKind) : Nat :=
  (kind.map FailureKind.status).getD internalErrorStatus

end HealthAlert
