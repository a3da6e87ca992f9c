/-!
# Grammars of a command line

A `Grammar` says which arguments a program takes: switches, which start with a dash, and one
operand, which is a text or the name of a command. `Grammar.usage` is its shortest summary on one
line, `Grammar.help` the summary with a row for each operand and switch.
-/

namespace HealthAlert.Command

/-- What a switch does. -/
inductive SwitchRole where
  /-- Show the help and stop. -/
  | help
  | flag
  /-- Take a value, which summaries call `placeholder`. -/
  | value (placeholder : String)
  deriving DecidableEq, Repr

/-- An argument that starts with a dash, with all its spellings. -/
structure Switch where
  spelling : String
  others : List String := []
  role : SwitchRole
  purpose : String
  deriving DecidableEq, Repr

/-- The argument of a grammar that starts with no dash. -/
inductive Operand where
  | one (name purpose : String)
  /-- A command, which takes all arguments after it. -/
  | command (name : String) (commands : List (String × String))
  deriving DecidableEq, Repr

/-- The arguments that a program takes. -/
structure Grammar where
  program : String
  description : Option String := none
  switches : List Switch
  operand : Operand
  deriving Repr

/-! ## Switches -/

/-- All spellings of a switch. -/
def Switch.spellings (s : Switch) : List String :=
  s.spelling :: s.others

/-- The switch takes a value. -/
def Switch.takesValue (s : Switch) : Bool :=
  match s.role with
  | .value _ => true
  | _ => false

/-- A spelling with the placeholder of the value. -/
def Switch.withPlaceholder (s : Switch) (spelling : String) : String :=
  match s.role with
  | .value placeholder => spelling ++ " " ++ placeholder
  | _ => spelling

/-- The name of a switch in messages. -/
def Switch.name (s : Switch) : String :=
  String.intercalate "/" s.spellings

/-- The spellings of a grammar, each with its switch. -/
def Grammar.spellings (g : Grammar) : List (String × Switch) :=
  g.switches.flatMap fun s => s.spellings.map fun name => (name, s)

/-- The switch with a spelling. -/
def Grammar.switch? (g : Grammar) (spelling : String) : Option Switch :=
  (g.spellings.find? (·.1 == spelling)).map (·.2)

/-! ## Summaries -/

/-- The names of commands as a choice. -/
def choice (commands : List (String × String)) : String :=
  "\x7b" ++ String.intercalate "," (commands.map Prod.fst) ++ "\x7d"

/-- The name of an operand in messages. -/
def Operand.name : Operand → String
  | .one name _ => name
  | .command name _ => name

/-- The operand in the shortest summary. -/
def Operand.usage : Operand → String
  | .one name _ => name
  | .command _ commands => choice commands ++ " ..."

/-- The shortest summary, as a line. -/
def Grammar.usage (g : Grammar) : String :=
  "usage: " ++ String.intercalate " "
    (g.program :: (g.switches.map fun s => "[" ++ s.withPlaceholder s.spelling ++ "]") ++
      [g.operand.usage]) ++ "\n"

/-- A row of the help: how an argument is written, how far it is indented, and its purpose. -/
structure HelpRow where
  indent : Nat
  shown : String
  purpose : Option String

/-- The row of a switch. -/
def Switch.row (s : Switch) : HelpRow :=
  ⟨2, String.intercalate ", " (s.spellings.map s.withPlaceholder), some s.purpose⟩

/-- The rows of an operand. -/
def Operand.rows : Operand → List HelpRow
  | .one name purpose => [⟨2, name, some purpose⟩]
  | .command _ commands =>
    ⟨2, choice commands, none⟩ :: commands.map fun c => ⟨4, c.1, some c.2⟩

/-- Blanks. -/
def blanks (n : Nat) : String :=
  String.ofList (List.replicate n ' ')

/-- The last column at which purposes may start. -/
def maxPurposeColumn : Nat := 24

/-- The column at which the purposes of rows start. -/
def purposeColumn (rows : List HelpRow) : Nat :=
  min maxPurposeColumn ((rows.map fun r => r.shown.length + 2).foldl max 0 + 2)

/-- A row with its purpose in a column; a purpose for which there is no room takes the next
line. -/
def HelpRow.text (column : Nat) (r : HelpRow) : String :=
  let start := blanks r.indent ++ r.shown
  match r.purpose with
  | none => start ++ "\n"
  | some purpose =>
    if start.length + 2 ≤ column then
      start ++ blanks (column - start.length) ++ purpose ++ "\n"
    else start ++ "\n" ++ blanks column ++ purpose ++ "\n"

/-- The summary with a row for each argument. -/
def Grammar.help (g : Grammar) : String :=
  let operands := g.operand.rows
  let switches := g.switches.map Switch.row
  let column := purposeColumn (operands ++ switches)
  g.usage ++ "\n" ++
    (match g.description with
      | some d => d ++ "\n\n"
      | none => "") ++
    "positional arguments:\n" ++ String.join (operands.map (·.text column)) ++
    "\noptions:\n" ++ String.join (switches.map (·.text column))

end HealthAlert.Command
