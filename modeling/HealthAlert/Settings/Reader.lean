import HealthAlert.Settings.Basic
import HealthAlert.Text.Lowercase
import HealthAlert.Validation.Scalar

/-!
# Reading settings

Model of how `Settings` is filled, with `parse_app_env`, `check_compact_threshold` and
`check_render_indent`.

Settings come from arguments and from the environment; an argument wins over a variable of the
same name. Names are compared without case. Of arguments for one setting, the one that has exactly
its name counts, and otherwise the last; of variables the last. Every setting is read leniently and
checked by itself; when all are fine, the settings together must be fit for production.
-/

namespace HealthAlert.Settings

open Validation (text nullableText integer truthValue)

variable {α : Type}

/-- The entries under their names in small letters. -/
def uncased (entries : List (String × α)) : List (String × α) :=
  entries.map fun e => (Text.lowercase e.1, e.2)

/-- The values that are given: variables, then arguments with those that have the exact name of a
setting at the end, so that they win. -/
def given (environment : List (String × String)) (arguments : List (String × Value)) :
    List (String × Value) :=
  let (exact, inexact) := arguments.partition fun e => Text.lowercase e.1 == e.1
  Keyed.ofPairs ((uncased environment).map (fun e => (e.1, .text e.2)) ++ uncased inexact ++ exact)

/-- The value of a setting, or its default when it is not given. -/
def setting (values : List (String × Value)) (name : String) (default : α)
    (check : Value → Checked α) : Checked α :=
  match Keyed.get? values name with
  | none => .accepted default
  | some v => Checked.under (.field name) (check v)

/-- An environment, written in any case. -/
def environmentSetting (v : Value) : Checked AppEnvironment :=
  match AppEnvironment.ofLabel? (Text.lowercase v.display) with
  | some e => .accepted e
  | none =>
    Checked.refuse (.rejected ("app_env must be one of " ++
      (Value.list (AppEnvironment.all.map fun e => .text e.label)).quoted ++ ", got '" ++
      v.display ++ "'")) v

/-- A threshold that is not negative. -/
def thresholdSetting (v : Value) : Checked Int :=
  Checked.guarded (integer v) v fun n =>
    if n < 0 then some ("render_compact_threshold must be >= 0, got " ++ toString n) else none

/-- An indent of spaces. -/
def indentSetting (v : Value) : Checked String :=
  Checked.guarded (text v) v fun s =>
    if s.toList.all (· == ' ') then none else some "render_indent must contain only spaces"

/-- A directory. -/
def directorySetting (v : Value) : Checked Options.DataDirectory :=
  match v.text? with
  | some s => .accepted (.inDirectory (Path.ofText s))
  | none => Checked.refuse .notAPath v

/-- The settings that are given, each checked by itself. -/
def readEach (values : List (String × Value)) : Checked Settings :=
  let defaults : Settings := {}
  Settings.mk
    <$> setting values "app_env" defaults.appEnv environmentSetting
    <*> setting values "app_name" defaults.appName text
    <*> setting values "app_log_level" defaults.appLogLevel text
    <*> setting values "observability_enabled" defaults.observabilityEnabled truthValue
    <*> setting values "observability_structured_logs" defaults.structuredLogs truthValue
    <*> setting values "metrics_token" defaults.metricsToken nullableText
    <*> setting values "cors_origins" defaults.corsOriginsText text
    <*> setting values "max_request_size_mb" defaults.maxRequestSizeMb integer
    <*> setting values "options_data_dir" defaults.optionsDirectory directorySetting
    <*> setting values "render_indent" defaults.renderIndent indentSetting
    <*> setting values "render_compact_threshold" defaults.renderCompactThreshold
      thresholdSetting
    <*> setting values "alert_api_version" defaults.alertApiVersion text
    <*> setting values "action_group_api_version" defaults.actionGroupApiVersion text

/-- The settings from an environment and arguments. -/
def read (environment : List (String × String)) (arguments : List (String × Value)) :
    Checked Settings :=
  let values := given environment arguments
  Checked.guarded (readEach values) (.record values) productionProblem

end HealthAlert.Settings
