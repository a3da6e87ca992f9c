import HealthAlert.Command.Run
import HealthAlert.Settings.Reader

/-!
# The program

The outer layer of the command line: it takes the settings from the environment, brings the files
that the program may read, runs it on them, and writes what it wrote.
-/

namespace HealthAlert.Main

open Command

/-- The variables of the environment that hold settings. -/
def settingVariables : List String := [
  "APP_ENV", "APP_NAME", "APP_LOG_LEVEL", "OBSERVABILITY_ENABLED",
  "OBSERVABILITY_STRUCTURED_LOGS", "METRICS_TOKEN", "CORS_ORIGINS", "MAX_REQUEST_SIZE_MB",
  "OPTIONS_DATA_DIR", "RENDER_INDENT", "RENDER_COMPACT_THRESHOLD", "ALERT_API_VERSION",
  "ACTION_GROUP_API_VERSION"]

/-- The values of the variables that are set. -/
def environment : IO (List (String × String)) :=
  settingVariables.filterMapM fun name => return (← IO.getEnv name).map fun value => (name, value)

/-- The paths of the files that an invocation may read or write. -/
def pathsOf (settings : Settings) (i : Invocation) : List Path :=
  match i.action with
  | .render source output _ => [Path.ofText source, Path.ofText (output.getD "")]
  | .options kind =>
    match settings.optionsDirectory, OptionKind.ofName? kind with
    | .inDirectory dir, some kind => [dir.child kind.fileName]
    | _, _ => []

/-- There is a directory at a path. -/
def isDirectory (p : Path) : IO Bool := do
  try
    discard <| IO.FS.realPath (p.text ++ "/.")
    return true
  catch _ => return false

/-- The tree with what stands at a path: a file with its content, or a directory. -/
def bringOne (t : FileTree) (p : Path) : IO FileTree := do
  if ← isDirectory p then return (t.makeDirectory p).toOption.getD t
  try
    return (t.write p (← IO.FS.readBinFile p.text).toList).toOption.getD t
  catch _ => return t

/-- The tree with what stands at a path and on the way to it. -/
def bring (t : FileTree) (p : Path) : IO FileTree :=
  p.along.foldlM bringOne t

/-- All bytes of the standard input. -/
partial def readInput (stdin : IO.FS.Stream) (read : List UInt8) : IO (List UInt8) := do
  let chunk ← stdin.read 65536
  if chunk.isEmpty then return read else readInput stdin (read ++ chunk.toList)

/-- Run an invocation among the files of the machine. -/
def runInvocation (settings : Settings) (i : Invocation) (arguments : List String) :
    IO UInt32 := do
  let paths := pathsOf settings i
  let here := Path.ofText (← IO.currentDir).toString
  let files ← paths.foldlM bring { workingDirectory := here.parts }
  let input ←
    match i.action with
    | .render "-" _ _ => readInput (← IO.getStdin) []
    | _ => pure []
  let outcome := run { settings, files, input } arguments
  (← IO.getStdout).putStr outcome.output
  (← IO.getStderr).putStr outcome.errors
  for p in paths do
    match files.lookup p, outcome.files.lookup p with
    | before, .file bytes =>
      if before ≠ .file bytes then IO.FS.writeBinFile p.text (ByteArray.mk bytes.toArray)
    | _, _ => pure ()
  match outcome.ending with
  | .ok status => return status.toUInt32
  | .error e =>
    (← IO.getStderr).putStrLn (e.typeName ++ ": " ++ e.message)
    return 1

end HealthAlert.Main

open HealthAlert in
/-- Run the program with its arguments. -/
def main (arguments : List String) : IO UInt32 := do
  match Settings.read (← Main.environment) [] with
  | .refused issues =>
    for i in issues do
      (← IO.getStderr).putStrLn (i.refusal.message)
    return 1
  | .accepted settings =>
    match Command.Invocation.ofArguments arguments with
    | .ok i => Main.runInvocation settings i arguments
    | .error r =>
      (← IO.getStdout).putStr r.output
      (← IO.getStderr).putStr r.errors
      return r.status.toUInt32
