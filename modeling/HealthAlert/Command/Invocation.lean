import HealthAlert.Command.Arguments

/-!
# Invocations of the program

Model of `build_parser`.

The program has two commands: `render` writes the template for a request, `options` lists what
can be chosen. `Invocation.ofArguments` reads its arguments; where they ask for help or are
faulty, it gives the report that is shown instead.
-/

namespace HealthAlert.Command

/-- What the program is asked to do. -/
inductive Action where
  /-- Render the request from a source, into a file or to the standard output, and perhaps with
  what is known about the template. -/
  | render (source : String) (output : Option String) (described : Bool)
  /-- List the choices of a list. -/
  | options (kind : String)
  deriving DecidableEq, Repr

/-- What the program is asked to do, and whether to show what it logs. -/
structure Invocation where
  verbose : Bool
  action : Action
  deriving DecidableEq, Repr

/-- What is shown when nothing is done. -/
structure Report where
  status : Nat
  output : String := ""
  errors : String := ""
  deriving DecidableEq, Repr

/-- The status of a program whose input is not acceptable. -/
def invalidInputStatus : Nat := 2

/-! ## Grammars -/

/-- The switch for help. -/
def helpSwitch : Switch where
  spelling := "-h"
  others := ["--help"]
  role := .help
  purpose := "show this help message and exit"

/-- The switch that shows what is logged. -/
def verboseSwitch : Switch where
  spelling := "--verbose"
  others := ["-v"]
  role := .flag
  purpose := "Show info logs"

/-- The switch that names the file for the template. -/
def outputSwitch : Switch where
  spelling := "--output"
  others := ["-o"]
  role := .value "OUTPUT"
  purpose := "Write the template to this file"

/-- The switch that asks for the template with what is known about it. -/
def jsonSwitch : Switch where
  spelling := "--json"
  role := .flag
  purpose := "Print template and metadata as JSON"

/-- The name of the program. -/
def programName : String := "alert-bicep"

/-- The arguments of the program. -/
def programGrammar : Grammar where
  program := programName
  description := some "Generate Service Health alert Bicep templates"
  switches := [helpSwitch, verboseSwitch]
  operand := .command "command"
    [("render", "Render a template from a request file"), ("options", "Print a selection list")]

/-- The arguments of the command that renders. -/
def renderGrammar : Grammar where
  program := programName ++ " render"
  switches := [helpSwitch, outputSwitch, jsonSwitch]
  operand := .one "request" "Request JSON file ('-' for stdin)"

/-- The arguments of the command that lists choices. -/
def optionsGrammar : Grammar where
  program := programName ++ " options"
  switches := [helpSwitch]
  operand := .one "kind" "services, eventTypes, regions or severity"

/-! ## Reading -/

/-- The report in place of what a grammar did not read. -/
def Grammar.report (g : Grammar) : Stop → Report
  | .help => { status := 0, output := g.help }
  | .fault f =>
    { status := invalidInputStatus
      errors := g.usage ++ g.program ++ ": error: " ++ f.message ++ "\n" }

/-- Read arguments by a grammar, or report why not. -/
def Grammar.read (g : Grammar) (arguments : List String) : Except Report Parsed :=
  match g.parse arguments with
  | .ok p => .ok p
  | .error stop => .error (g.report stop)

/-- The action that a command stands for, by what was read of its arguments. -/
def actionOf (command : String) (p : Parsed) : Action :=
  let operand := p.operand.headD ""
  if command = "render" then
    .render operand (p.value? outputSwitch.spelling) (p.has jsonSwitch.spelling)
  else .options operand

/-- The grammar of a command's arguments. -/
def grammarOf (command : String) : Grammar :=
  if command = "render" then renderGrammar else optionsGrammar

/-- The invocation that arguments stand for. Arguments may be left over neither by the program
nor by the command. -/
def Invocation.ofArguments (arguments : List String) : Except Report Invocation :=
  match programGrammar.read arguments with
  | .error r => .error r
  | .ok outer =>
    let command := outer.operand.headD ""
    match (grammarOf command).read outer.operand.tail with
    | .error r => .error r
    | .ok inner =>
      match outer.leftOver ++ inner.leftOver with
      | [] => .ok ⟨outer.has verboseSwitch.spelling, actionOf command inner⟩
      | extra => .error (programGrammar.report (.fault (.leftOver extra)))

end HealthAlert.Command
