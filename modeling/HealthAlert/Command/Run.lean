import HealthAlert.Alert.Rendering
import HealthAlert.Command.Invocation
import HealthAlert.Files.Access
import HealthAlert.Json.Surrogates
import HealthAlert.Json.Writer
import HealthAlert.Options.Cache
import HealthAlert.Request.Reader
import HealthAlert.Settings.Basic

/-!
# Running the program

Model of `main`, `cmd_render` with `_load_request` and `_format_validation_errors`, and
`cmd_options`.

`Command.run` carries out what its arguments ask for, among the files that it finds. A request
is read from a file or from the standard input. What cannot be read as JSON, or is no request,
ends the run with status 2 and a message; a failure of the service ends it with status 1. An
error that nothing handles ends it too, and what was written before stays written.
-/

namespace HealthAlert.Command

/-- Where the program runs. -/
structure Surroundings where
  settings : Settings := {}
  files : FileTree := {}
  /-- What stands on the standard input. -/
  input : List UInt8 := []
  /-- How long a rendering takes, as the log shows it. -/
  duration : String := "0.0000s"

/-- How a run ended: its status or the error that nothing handled, what it wrote to the standard
output and for errors, and the files afterwards. -/
structure Outcome where
  ending : Except InternalError Nat
  output : String := ""
  errors : String := ""
  files : FileTree

/-! ## Requests -/

/-- Why there is no request at a source. -/
inductive SourceFault where
  /-- The source cannot be read, for this reason. -/
  | unreadable (reason : String)
  | internal (e : InternalError)
  deriving Repr

/-- The source that stands for the standard input. -/
def standardInput : String := "-"

/-- The bytes at a source. -/
def sourceBytes (s : Surroundings) (source : String) : Except InternalError (List UInt8) :=
  if source = standardInput then .ok s.input else s.files.read (Path.ofText source)

/-- The payload that bytes spell. -/
def payloadOf (bytes : List UInt8) : Except SourceFault Json.Document :=
  match Text.ofFile bytes with
  | .error fault => .error (.internal (.undecodable fault))
  | .ok cs =>
    match Json.openText cs with
    | .ok d => .ok d
    | .error (.malformed problem position) => .error (.unreadable (problem.located cs position))
    | .error (.longInteger digits) => .error (.internal (.longInteger digits))

/-- The payload at a source. -/
def payloadAt (s : Surroundings) (source : String) : Except SourceFault Json.Document :=
  match sourceBytes s source with
  | .error .nullInPath => .error (.internal .nullInPath)
  | .error e => .error (.unreadable e.message)
  | .ok bytes => payloadOf bytes

/-- An issue as a line: where it is and what it is; an issue with the whole is one with the
request. -/
def issueLine (i : Issue) : String :=
  let place := String.intercalate "." (i.place.map (·.text))
  "  " ++ (if place = "" then "request" else place) ++ ": " ++ i.refusal.message

/-- All issues of a request. -/
def issuesText (issues : List Issue) : String :=
  "Invalid alert request:\n" ++ String.intercalate "\n" (issues.map issueLine) ++ "\n"

/-! ## Results -/

/-- A template with what is known about it. -/
def described (t : Template) : Value :=
  .record [("template", .text t.text),
    ("resources", .list (t.resources.map fun r => .text r.symbol)),
    ("condition_count", .int t.conditionCount)]

/-- What is written for a template. -/
def written (withDescription : Bool) (t : Template) : String :=
  if withDescription then Json.writeIndented (described t) else t.text

/-- The log row about a file that was written. -/
def writtenRow (output : String) (t : Template) : Log.Row where
  level := .info
  logger := "alert_bicep.cli"
  message := "Wrote " ++ output ++ " (" ++ toString t.resources.length ++ " resources)"

/-- The least grave level of which log rows are shown. -/
def shownLevel (verbose : Bool) : Log.Level :=
  if verbose then .info else .warning

/-- The log rows as they are shown. -/
def logText (verbose : Bool) (rows : List Log.Row) : String :=
  String.join ((rows.filter fun r => (shownLevel verbose).number ≤ r.level.number).map fun r =>
    r.level.name ++ " " ++ r.logger ++ ": " ++ r.message ++ "\n")

/-- A failure of the service as it is shown. -/
def failureText (f : Failure) : String :=
  f.kind.name ++ ": " ++ f.message ++ "\n"

/-- The status of a run that a failure of the service ended. -/
def failureStatus : Nat := 1

/-- The end of a run by a failure or an error. -/
def troubled (s : Surroundings) (t : Trouble) : Outcome :=
  match t with
  | .failure f => { ending := .ok failureStatus, errors := failureText f, files := s.files }
  | .internal e => { ending := .error e, files := s.files }

/-! ## Commands -/

/-- Write a template to a file, or to the standard output when no file is named. -/
def deliver (s : Surroundings) (verbose : Bool) (log : List Log.Row) (output : Option String)
    (withDescription : Bool) (t : Template) : Outcome :=
  let text := written withDescription t
  match output.getD "" with
  | "" =>
    { ending := .ok 0, output := text, errors := logText verbose log, files := s.files }
  | output =>
    match s.files.save (Path.ofText output) text.toUTF8.toList with
    | .error e => { ending := .error e, errors := logText verbose log, files := s.files }
    | .ok files =>
      { ending := .ok 0, errors := logText verbose (log ++ [writtenRow output t]), files }

/-- Render the request at a source. -/
def runRender (s : Surroundings) (verbose : Bool) (source : String) (output : Option String)
    (withDescription : Bool) : Outcome :=
  match payloadAt s source with
  | .error (.internal e) => { ending := .error e, files := s.files }
  | .error (.unreadable reason) =>
    { ending := .ok invalidInputStatus
      errors := "Cannot read " ++ source ++ ": " ++ reason ++ "\n"
      files := s.files }
  | .ok payload =>
    match Request.read payload.value payload.lone with
    | .refused issues =>
      { ending := .ok invalidInputStatus, errors := issuesText issues, files := s.files }
    | .accepted input =>
      let record :=
        Rendering.run s.settings.templateOptions { lone := payload.lone, duration := s.duration } {}
          input
      match record.result with
      | .error f => troubled s f.trouble
      | .ok t => deliver s verbose record.log output withDescription t

/-- List the choices of a list, a line for each. -/
def runOptions (s : Surroundings) (verbose : Bool) (kind : String) : Outcome :=
  match (Options.Cache.loadNamed {} s.files s.settings.optionsDirectory kind).1 with
  | .error t => troubled s t
  | .ok loading =>
    { ending := .ok 0
      output := String.join (loading.choices.map fun c => c.value ++ "\t" ++ c.label ++ "\n")
      errors := logText verbose loading.log
      files := s.files }

/-- Carry out an invocation. -/
def Invocation.run (s : Surroundings) (i : Invocation) : Outcome :=
  match i.action with
  | .render source output withDescription => runRender s i.verbose source output withDescription
  | .options kind => runOptions s i.verbose kind

/-- Carry out what arguments ask for. -/
def run (s : Surroundings) (arguments : List String) : Outcome :=
  match Invocation.ofArguments arguments with
  | .error r => { ending := .ok r.status, output := r.output, errors := r.errors, files := s.files }
  | .ok i => i.run s

end HealthAlert.Command
