import HealthAlert.Command.Grammar
import HealthAlert.Text.Digit
import HealthAlert.Text.Quotation

/-!
# Reading arguments

`Grammar.parse` reads the arguments of a program by its grammar, in two passes. `words` tells
switches from other arguments: a long switch may be shortened as long as one switch starts so,
its value may follow an equals sign, and short switches may share a dash, the last of them with
its value. `--` ends the switches. `scan` then takes the words in turn: switches with their values,
the operand, and everything that is left over. The help stops it where it stands.
-/

namespace HealthAlert.Command

/-- Why arguments are not accepted. -/
inductive UsageFault where
  /-- A shortened switch may be any of several spellings. -/
  | ambiguous (text : String) (spellings : List String)
  /-- A switch that takes no value was given one. -/
  | needlessValue (switch : Switch) (value : String)
  | missingValue (switch : Switch)
  | missingOperand (name : String)
  | unknownCommand (name : String) (given : String) (commands : List String)
  | leftOver (arguments : List String)
  deriving DecidableEq, Repr

/-- The fault in words. -/
def UsageFault.message : UsageFault → String
  | .ambiguous text spellings =>
    "ambiguous option: " ++ text ++ " could match " ++ String.intercalate ", " spellings
  | .needlessValue s value =>
    "argument " ++ s.name ++ ": ignored explicit argument " ++ Text.quotation value
  | .missingValue s => "argument " ++ s.name ++ ": expected one argument"
  | .missingOperand name => "the following arguments are required: " ++ name
  | .unknownCommand name given commands =>
    "argument " ++ name ++ ": invalid choice: " ++ Text.quotation given ++ " (choose from " ++
      String.intercalate ", " (commands.map Text.quotation) ++ ")"
  | .leftOver arguments => "unrecognized arguments: " ++ String.intercalate " " arguments

/-- Why reading arguments ends early. -/
inductive Stop where
  /-- The help is asked for. -/
  | help
  | fault (f : UsageFault)
  deriving DecidableEq, Repr

/-! ## Words -/

/-- A switch as it is given: in which spelling, and with which characters attached, if any. -/
structure Mention where
  switch : Switch
  spelling : String
  attached : Option (List Char) := none
  deriving DecidableEq, Repr

/-- An argument by its role. -/
inductive Word where
  /-- The first `--`, after which there are no switches. -/
  | separator
  | plain (text : String)
  | mention (text : String) (m : Mention)
  /-- A switch that the grammar does not have. -/
  | unknown (text : String)
  deriving DecidableEq, Repr

/-- The argument as it was given. -/
def Word.text : Word → String
  | .separator => "--"
  | .plain text => text
  | .mention text _ => text
  | .unknown text => text

/-- The characters before the first equals sign, and those after it if there is one. -/
def splitAtEquals (cs : List Char) : List Char × Option (List Char) :=
  (cs.takeWhile (· != '='), (cs.dropWhile (· != '=')).tail?)

/-- The characters without one line feed at the end. -/
def dropFinalLineFeed (cs : List Char) : List Char :=
  if cs.getLast? == some '\n' then cs.dropLast else cs

/-- The characters spell a negative number, whole or with a point; a line feed may follow. -/
def isNegativeNumber (cs : List Char) : Bool :=
  match dropFinalLineFeed cs with
  | '-' :: rest =>
    match rest.dropWhile Text.isDecimalDigit with
    | [] => !rest.isEmpty
    | '.' :: places => !places.isEmpty && places.all Text.isDecimalDigit
    | _ => false
  | _ => false

/-- The switches that an argument may mean which is none of the spellings: those that start as
the argument does up to an equals sign, or the short switch that it begins with. -/
def candidates (g : Grammar) (cs : List Char) : List Mention :=
  match cs with
  | '-' :: '-' :: _ =>
    let (start, value) := splitAtEquals cs
    (g.spellings.filter fun e => start.isPrefixOf e.1.toList).map fun e => ⟨e.2, e.1, value⟩
  | _ =>
    (g.spellings.filter fun e => e.1.toList == cs.take 2).map fun e =>
      ⟨e.2, e.1, some (cs.drop 2)⟩

/-- The role of an argument that is not `--`. -/
def word (g : Grammar) (text : String) : Except UsageFault Word :=
  let cs := text.toList
  if cs.head? != some '-' then .ok (.plain text)
  else
    match g.switch? text with
    | some s => .ok (.mention text ⟨s, text, none⟩)
    | none =>
      if cs.length = 1 then .ok (.plain text)
      else
        let (start, value) := splitAtEquals cs
        match value, g.switch? (String.ofList start) with
        | some value, some s => .ok (.mention text ⟨s, String.ofList start, some value⟩)
        | _, _ =>
          match candidates g cs with
          | [m] => .ok (.mention text m)
          | [] =>
            if isNegativeNumber cs || cs.contains ' ' then .ok (.plain text)
            else .ok (.unknown text)
          | ms => .error (.ambiguous text (ms.map (·.spelling)))

/-- The roles of all arguments. -/
def words (g : Grammar) : List String → Except UsageFault (List Word)
  | [] => .ok []
  | text :: rest =>
    if text = "--" then .ok (.separator :: rest.map .plain)
    else
      match word g text with
      | .error f => .error f
      | .ok w =>
        match words g rest with
        | .error f => .error f
        | .ok ws => .ok (w :: ws)

/-! ## Switches with attached characters -/

/-- A switch and its value, if it takes one. -/
structure Setting where
  switch : Switch
  value : Option String := none
  deriving DecidableEq, Repr

/-- What a mention stands for: settings, then perhaps a switch whose value is still to come. -/
structure Expansion where
  settings : List Setting
  awaiting : Option Switch := none
  deriving DecidableEq, Repr

/-- The expansion after one more flag in front. -/
def Expansion.after (s : Switch) (e : Expansion) : Expansion :=
  { e with settings := ⟨s, none⟩ :: e.settings }

/-- A switch with nothing attached. -/
def Expansion.bare (s : Switch) : Expansion :=
  if s.takesValue then { settings := [], awaiting := some s } else { settings := [⟨s, none⟩] }

/-- A switch with its value attached; a value that is only `--` counts for none. -/
def Expansion.valued (s : Switch) (cs : List Char) : Expansion where
  settings := [⟨s, if cs = ['-', '-'] then none else some (String.ofList cs)⟩]

/-- A short switch with characters attached: its value, or when it takes none, the short switches
that share its dash. -/
def expandShort (g : Grammar) (s : Switch) : List Char → Except UsageFault Expansion
  | [] => if s.takesValue then .ok (.valued s []) else .error (.needlessValue s "")
  | c :: cs =>
    if s.takesValue then .ok (.valued s (c :: cs))
    else
      match g.switch? (String.ofList ['-', c]), cs with
      | none, _ => .error (.needlessValue s (String.ofList (c :: cs)))
      | some next, [] => .ok ((Expansion.bare next).after s)
      | some next, cs => (expandShort g next cs).map (Expansion.after s)

/-- The spelling is a long one, with two dashes. -/
def isLong (spelling : String) : Bool :=
  spelling.startsWith "--"

/-- What a mention stands for. -/
def expand (g : Grammar) (m : Mention) : Except UsageFault Expansion :=
  match m.attached with
  | none => .ok (Expansion.bare m.switch)
  | some cs =>
    if !isLong m.spelling then expandShort g m.switch cs
    else if m.switch.takesValue then .ok (.valued m.switch cs)
    else .error (.needlessValue m.switch (String.ofList cs))

/-! ## Taking the words -/

/-- What has been read. -/
structure Parsed where
  settings : List Setting := []
  /-- The operand; a command with the arguments after it. -/
  operand : List String := []
  leftOver : List String := []
  deriving DecidableEq, Repr

/-- One more argument is left over. -/
def Parsed.leave (p : Parsed) (text : String) : Parsed :=
  { p with leftOver := p.leftOver ++ [text] }

/-- More settings were read; the help stops the reading. -/
def Parsed.set (p : Parsed) (settings : List Setting) : Except Stop Parsed :=
  if settings.any (·.switch.role == .help) then .error .help
  else .ok { p with settings := p.settings ++ settings }

/-- A switch was given. -/
def Parsed.has (p : Parsed) (spelling : String) : Bool :=
  p.settings.any (·.switch.spelling == spelling)

/-- The last value of a switch. -/
def Parsed.value? (p : Parsed) (spelling : String) : Option String :=
  (p.settings.reverse.find? (·.switch.spelling == spelling)).bind (·.value)

/-- The grammar's operand is a command. -/
def Grammar.hasCommands (g : Grammar) : Bool :=
  match g.operand with
  | .command _ _ => true
  | .one _ _ => false

/-- Take the words in turn. -/
def scan (g : Grammar) (p : Parsed) : List Word → Except Stop Parsed
  | [] => .ok p
  | .unknown text :: ws => scan g (p.leave text) ws
  | .plain text :: ws =>
    if !p.operand.isEmpty then scan g (p.leave text) ws
    else if g.hasCommands then .ok { p with operand := text :: ws.map Word.text }
    else
      match ws with
      | .separator :: ws => scan g { p with operand := [text] } ws
      | ws => scan g { p with operand := [text] } ws
  | .separator :: ws =>
    if !p.operand.isEmpty || ws.isEmpty then scan g (p.leave Word.separator.text) ws
    else if g.hasCommands then
      .ok { p with operand := Word.separator.text :: ws.map Word.text }
    else scan g p ws
  | .mention _ m :: ws =>
    match expand g m with
    | .error f => .error (.fault f)
    | .ok e =>
      match e.awaiting, ws with
      | none, ws =>
        match p.set e.settings with
        | .error stop => .error stop
        | .ok p => scan g p ws
      | some s, .plain value :: ws =>
        match p.set (e.settings ++ [⟨s, some value⟩]) with
        | .error stop => .error stop
        | .ok p => scan g p ws
      | some s, _ => .error (.fault (.missingValue s))

/-- A result whose operand is there and, if it is a command, one that the grammar has. -/
def checkOperand (g : Grammar) (p : Parsed) : Except Stop Parsed :=
  match p.operand, g.operand with
  | [], operand => .error (.fault (.missingOperand operand.name))
  | given :: _, .command name commands =>
    let names := commands.map Prod.fst
    if names.contains given then .ok p
    else .error (.fault (.unknownCommand name given names))
  | _, _ => .ok p

/-- Read the arguments of a program. -/
def Grammar.parse (g : Grammar) (arguments : List String) : Except Stop Parsed :=
  match words g arguments with
  | .error f => .error (.fault f)
  | .ok ws =>
    match scan g {} ws with
    | .error stop => .error stop
    | .ok p => checkOperand g p

end HealthAlert.Command
