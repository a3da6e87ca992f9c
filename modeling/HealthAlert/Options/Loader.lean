import HealthAlert.Files.Access
import HealthAlert.Json.Surrogates
import HealthAlert.Log.Row
import HealthAlert.Options.Catalog
import HealthAlert.Text.Lines
import HealthAlert.Value.Display

/-!
# Loading a list of options

Model of `_load_options_cached` without its cache.

A data file holds an array of records with a value and a label. `Options.load` reads the file of
a list: entries without value or label are left out with a warning, and the number of choices is
logged. It fails when the file is missing, cannot be read as JSON, or holds no array with entries; a
path of which nobody can tell whether there is a file is an error.
-/

namespace HealthAlert

/-- The choice, marked with the number of its texts that hold a lone surrogate. -/
def Choice.marked (lone : Text.StandIns) (c : Choice) : Choice :=
  { c with unpaired := (lone.occurIn c.value).toNat + (lone.occurIn c.label).toNat }

end HealthAlert

namespace HealthAlert.Options

/-- Where the data files are. -/
inductive DataDirectory where
  /-- The lists that come with the service. -/
  | packaged
  | inDirectory (path : Path)
  deriving DecidableEq, Repr, Inhabited

/-- The directory as text; `packaged` is that of the lists that come with the service. -/
def DataDirectory.text (packaged : String) : DataDirectory → String
  | .packaged => packaged
  | .inDirectory p => p.text

/-- The path of a list's data file as text. -/
def DataDirectory.fileText (d : DataDirectory) (packaged : String) (kind : OptionKind) : String :=
  match d with
  | .packaged => packaged ++ "/" ++ kind.fileName
  | .inDirectory p => (p.child kind.fileName).text

/-- Why a data file gives no choices. -/
inductive Fault where
  | missing
  /-- The file cannot be read as JSON, for this reason. -/
  | malformed (reason : String)
  /-- The file holds no array, or an empty one. -/
  | withoutEntries
  deriving DecidableEq, Repr

/-- The fault as a failure of the service. -/
def Fault.failure (kind : OptionKind) (f : Fault) : Failure where
  kind := .optionData
  message :=
    match f with
    | .missing => kind.fileName ++ " not found. Make sure the data file exists."
    | .malformed reason => "Failed to load " ++ kind.fileName ++ ": " ++ reason
    | .withoutEntries =>
      "No valid data in " ++ kind.fileName ++
        ". Expected array of objects with 'value' and 'label' properties."
  details := [("kind", .text kind.name)]

/-- The choices of a list, and what was logged while they were read. -/
structure Loading where
  choices : List Choice
  log : List Log.Row

/-- The choice that an entry of a data file is. -/
def choiceOf? (entry : Value) : Option Choice :=
  match entry with
  | .record fields =>
    match Keyed.get? fields "value", Keyed.get? fields "label" with
    | some value, some label =>
      if value.truthy && label.truthy then
        some { value := value.display, label := label.display }
      else none
    | _, _ => none
  | _ => none

/-- The logger of this module. -/
def logger : String := "alert_bicep.services.option_loader"

/-- The warning about an entry that is no choice. -/
def warning (kind : OptionKind) (entry : Value) : Log.Row where
  level := .warning
  logger := logger
  message := "Invalid data format in " ++ kind.fileName ++ ": " ++ entry.quoted

/-- The log row about a list that was read. -/
def report (file : String) (kind : OptionKind) (count : Nat) : Log.Row where
  level := .info
  logger := logger
  message := "Loaded " ++ toString count ++ " " ++ kind.name ++ " options from " ++ file

/-- The choices among the entries of a data file. -/
def ofEntries (file : String) (kind : OptionKind) (entries : List Value)
    (lone : Text.StandIns := []) : Loading :=
  let choices := entries.filterMap choiceOf?
  { choices := choices.map (·.marked lone)
    log := (entries.filter fun e => (choiceOf? e).isNone).map (warning kind) ++
      [report file kind choices.length] }

/-- The choices in the content of a data file. -/
def ofContent (file : String) (kind : OptionKind) (bytes : List UInt8) :
    Except Trouble Loading :=
  match Text.ofFile bytes with
  | .error fault => .error (.internal (.undecodable fault))
  | .ok cs =>
    match Json.openText cs with
    | .error (.malformed problem position) =>
      .error (.failure (Fault.failure kind (.malformed (problem.located cs position))))
    | .error (.longInteger digits) => .error (.internal (.longInteger digits))
    | .ok ⟨.list (entry :: entries), lone⟩ => .ok (ofEntries file kind (entry :: entries) lone)
    | .ok _ => .error (.failure (Fault.failure kind .withoutEntries))

/-- `_load_options_cached`: the choices of a list, read from its data file. -/
def load (files : FileTree) (dir : DataDirectory) (kind : OptionKind) : Except Trouble Loading :=
  match dir with
  | .packaged =>
    let choices := Catalog.choices kind
    .ok { choices, log := [report (dir.fileText files.packageData kind) kind choices.length] }
  | .inDirectory p =>
    let file := p.child kind.fileName
    match files.lookup file with
    | .file bytes => ofContent file.text kind bytes
    | .locked =>
      let denied := InternalError.permissionDenied file.text
      .error (.failure (Fault.failure kind (.malformed denied.message)))
    | .deadEnd d =>
      if d.hides then .error (.internal (FileTree.deadEndError file d))
      else .error (.failure (Fault.failure kind .missing))
    | _ => .error (.failure (Fault.failure kind .missing))

end HealthAlert.Options
