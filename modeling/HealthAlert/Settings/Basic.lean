import HealthAlert.Alert.Input
import HealthAlert.Options.Loader
import HealthAlert.Text.Blank

/-!
# Settings

Model of `Settings` with `cors_origins_list`, `render_options` and `check_prod_safety`.

`Settings` holds what an operator can set. `Settings.corsOrigins` are the origins in the list
that was given, and `Settings.productionProblem` is the first reason not to start in production:
metrics without a long enough token, or an origin on the machine itself.
-/

namespace HealthAlert

/-- Where the service runs. -/
inductive AppEnvironment where
  | localMachine
  | test
  | production
  deriving DecidableEq, Repr

namespace AppEnvironment

/-- All environments. -/
def all : List AppEnvironment := [.localMachine, .test, .production]

/-- The environment as it is written. -/
def label : AppEnvironment → String
  | .localMachine => "local"
  | .test => "test"
  | .production => "prod"

/-- The environment written `label`. -/
def ofLabel? (label : String) : Option AppEnvironment :=
  all.find? (·.label == label)

end AppEnvironment

/-- What an operator can set. -/
structure Settings where
  appEnv : AppEnvironment := .localMachine
  appName : String := "service-health-alert-bicep"
  appLogLevel : String := "INFO"
  observabilityEnabled : Bool := true
  structuredLogs : Bool := true
  /-- What a request for the metrics has to present. -/
  metricsToken : Option String := none
  /-- The origins whose pages may use the service, separated by commas. -/
  corsOriginsText : String := "http://localhost:3000,http://localhost:5173"
  maxRequestSizeMb : Int := 1
  optionsDirectory : Options.DataDirectory := .packaged
  renderIndent : String := "    "
  renderCompactThreshold : Int := 2
  alertApiVersion : String := "2023-01-01-preview"
  actionGroupApiVersion : String := "2019-06-01"
  deriving Repr

namespace Settings

/-- The items of a list that is separated by commas, trimmed; blank ones are left out. -/
def splitList (s : String) : List String :=
  ((s.toList.splitOn ',').map fun cs => String.ofList (Text.trimBlanks cs)).filter (· != "")

/-- `cors_origins_list`: the origins whose pages may use the service. -/
def corsOrigins (s : Settings) : List String :=
  splitList s.corsOriginsText

/-- How templates are laid out. -/
def templateOptions (s : Settings) : TemplateOptions where
  indent := s.renderIndent
  compactThreshold := s.renderCompactThreshold
  alertApiVersion := s.alertApiVersion
  actionGroupApiVersion := s.actionGroupApiVersion

/-! ## Production -/

/-- The fewest characters of a metrics token in production. -/
def minTokenLength : Nat := 16

/-- The names by which a machine calls itself. -/
def loopbackHosts : List (List Char) := ["localhost".toList, "127.0.0.1".toList]

/-- The characters hold a part, somewhere. -/
def holds (part : List Char) : List Char → Bool
  | [] => part.isEmpty
  | c :: cs => part.isPrefixOf (c :: cs) || holds part cs

/-- The origin is on the machine itself. -/
def isLoopback (origin : String) : Bool :=
  loopbackHosts.any fun h => holds h origin.toList

/-- The metrics token is missing or too short. -/
def tokenTooWeak (s : Settings) : Bool :=
  (s.metricsToken.getD "").length < minTokenLength

/-- `check_prod_safety`: why the service must not start with these settings in production. -/
def productionProblem (s : Settings) : Option String :=
  if s.appEnv != .production then none
  else if s.observabilityEnabled && s.tokenTooWeak then
    some ("METRICS_TOKEN must be set and at least " ++ toString minTokenLength ++
      " characters in production")
  else
    (s.corsOrigins.find? isLoopback).map fun origin =>
      "CORS origins must not contain localhost in production: " ++ origin

end Settings

end HealthAlert
