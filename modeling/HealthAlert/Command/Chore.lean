import HealthAlert.Files.Access
import HealthAlert.Service.Route
import HealthAlert.Text.Lowercase

/-!
# Chores

Model of the programs `dev`, `test`, `lint` and `openapi` with the `run` that they share.

The commands that people who work on the service start: serving it while its files change,
testing it, checking its style, and writing the schema of its interface. All but the last start
other programs; `Chore.commands` are those, and `Chore.status` the status that results from
theirs.
-/

namespace HealthAlert.Command

/-- A chore that starts other programs. -/
inductive Chore where
  | serve
  | test
  | lint
  deriving DecidableEq, Repr

namespace Chore

/-- The directories whose style is checked. -/
def checkedDirectories : List String := ["alert_bicep", "cli", "tests"]

/-- The value of a variable of the environment, or its default when it is not set. -/
def variableOr (environment : List (String × String)) (name default : String) : String :=
  (Keyed.get? environment name).getD default

/-- The commands that a chore starts, each run by an interpreter, with further arguments. -/
def commands (interpreter : String) (environment : List (String × String))
    (arguments : List String) : Chore → List (List String)
  | .serve =>
    [[interpreter, "-m", "uvicorn", "alert_bicep.main:app", "--reload", "--reload-dir",
      "alert_bicep", "--host", variableOr environment "DEV_HOST" "127.0.0.1",
      "--port", variableOr environment "DEV_PORT" "8000",
      "--log-level", Text.lowercase (variableOr environment "APP_LOG_LEVEL" "info")] ++ arguments]
  | .test => [[interpreter, "-m", "pytest", "-q"] ++ arguments]
  | .lint =>
    [[interpreter, "-m", "ruff", "check"] ++ checkedDirectories ++ arguments,
      [interpreter, "-m", "ruff", "format", "--check"] ++ checkedDirectories]

/-- The status of a chore whose commands ended with the given ones: the first that reports a
problem. -/
def status (statuses : List Int) : Int :=
  (statuses.find? (· != 0)).getD 0

end Chore

/-! ## The schema of the interface -/

/-- The file for the schema when none is named. -/
def defaultSchemaFile : String := "docs/openapi.json"

/-- The path of the file for the schema; only the first argument counts. -/
def schemaPath (arguments : List String) : Path :=
  Path.ofText (arguments.headD defaultSchemaFile)

/-- The text with blanks after it up to a width. -/
def padded (width : Nat) (s : String) : String :=
  s ++ String.ofList (List.replicate (width - s.length) ' ')

/-- A row of the report for each method of a route. -/
def schemaRows (entry : Service.Route × String) : List String :=
  entry.1.methods.map fun method =>
    "   " ++ padded 6 method ++ " " ++ padded 45 entry.1.path ++ " " ++ entry.2 ++ "\n"

/-- What is reported when the schema was written. -/
def schemaReport (path : Path) : String :=
  "[OK] OpenAPI schema generated: " ++ path.text ++ "\n" ++
    String.join (Service.Route.described.flatMap schemaRows)

/-- Write the schema to its file, in a directory that is made for it: the report, or the error
when something is in the way. -/
def writeSchema (files : FileTree) (arguments : List String) (schema : List UInt8) :
    Except InternalError (String × FileTree) :=
  let path := schemaPath arguments
  (files.write path schema).map fun files => (schemaReport path, files)

end HealthAlert.Command
