/-!
# Setting up the log

Model of `configure_structured_logging`.

The level of the log is given by name, in any case; a name that is none of the levels' stands for
the level of information. Two names stand for something that is no level at all.
-/

namespace HealthAlert.Log

/-- The levels by name. -/
def levelNumbers : List (String × Nat) := [
  ("NOTSET", 0), ("DEBUG", 10), ("INFO", 20), ("WARN", 30), ("WARNING", 30), ("ERROR", 40),
  ("CRITICAL", 50), ("FATAL", 50)]

/-- The name of a level in records; some levels have a second name. -/
def standardLevelName (name : String) : String :=
  if name = "WARN" then "WARNING" else if name = "FATAL" then "CRITICAL" else name

/-- The level when a name stands for none. -/
def defaultLevel : Nat := 20

/-- Why a name sets no level. -/
inductive LevelError where
  /-- The name stands for the default format of log lines. -/
  | formatText
  /-- The name stands for the table of styles of formats. -/
  | styleTable
  deriving DecidableEq, Repr

namespace LevelError

/-- The name of the error's type. -/
def typeName : LevelError → String
  | .formatText => "ValueError"
  | .styleTable => "TypeError"

/-- The error in words. -/
def message : LevelError → String
  | .formatText => "Unknown level: '%(levelname)s:%(name)s:%(message)s'"
  | .styleTable =>
    "Level not an integer or a valid string: \x7b'%': (<class 'logging.PercentStyle'>, " ++
      "'%(levelname)s:%(name)s:%(message)s'), '\x7b': (<class 'logging.StrFormatStyle'>, " ++
      "'\x7blevelname\x7d:\x7bname\x7d:\x7bmessage\x7d'), '$': " ++
      "(<class 'logging.StringTemplateStyle'>, " ++
      "'$\x7blevelname\x7d:$\x7bname\x7d:$\x7bmessage\x7d')\x7d"

end LevelError

/-- The ASCII capitals of a character that is no ASCII letter and has some: the dotless i, the
long s, the sharp s and the ligatures. -/
def capitalForms : List (Nat × String) := [
  (0xDF, "SS"), (0x131, "I"), (0x17F, "S"), (0xFB00, "FF"), (0xFB01, "FI"), (0xFB02, "FL"),
  (0xFB03, "FFI"), (0xFB04, "FFL"), (0xFB05, "ST"), (0xFB06, "ST")]

/-- The capitals of a character, as far as they are ASCII. -/
def capitals (c : Char) : List Char :=
  match capitalForms.find? (·.1 == c.toNat) with
  | some e => e.2.toList
  | none => [c.toUpper]

/-- A name in capitals. -/
def capitalized (name : String) : String :=
  String.ofList (name.toList.flatMap capitals)

/-- The level that a name sets. -/
def levelNumber (name : String) : Except LevelError Nat :=
  let name := capitalized name
  if name = "BASIC_FORMAT" then .error .formatText
  else if name = "_STYLES" then .error .styleTable
  else
    match levelNumbers.find? (·.1 == name) with
    | some e => .ok e.2
    | none => .ok defaultLevel

/-- How the log is set up: the level, and the number of handlers. -/
structure Setup where
  level : Nat
  handlers : Nat
  deriving DecidableEq, Repr

/-- The log set up with one handler that writes structured lines. -/
def setUp (level : String) : Except LevelError Setup :=
  (levelNumber level).map fun n => ⟨n, 1⟩

end HealthAlert.Log
