import HealthAlert.Decimal.Layout
import HealthAlert.Decimal.Reading
import HealthAlert.Value.Integers

/-!
# Messages with placeholders

A message may hold placeholders: a percent sign, perhaps a key in parentheses, flags, a least
width, a precision, and a letter that says how an argument is shown. Two percent signs stand for
one. `Placeholder.pieces` cuts a message into its pieces without looking at any argument;
`Placeholder.fill` then goes through the pieces and takes an argument for each placeholder, or the
field of a record under its key.
-/

namespace HealthAlert.Log

/-- Why a message cannot be filled in. -/
inductive FillError where
  | tooManyArguments
  | tooFewArguments
  | incompleteFormat
  | incompleteKey
  | mappingRequired
  /-- A key was looked up in something that is indexed by numbers, and is called so. -/
  | notIndexedByText (container : String)
  | absentKey (key : String)
  | unsupportedLetter (letter : Char) (position : Nat)
  | widthNotAnInteger
  | widthTooBig
  | precisionTooBig
  /-- An argument that gives a width is too large. -/
  | widthOverflow
  /-- An argument that gives a precision is too large. -/
  | precisionOverflow
  | notANumber (letter : Char) (typeName : String)
  | notAnInteger (letter : Char) (typeName : String)
  | notAReal (typeName : String)
  | notACharacter
  | characterOutOfRange
  | integerOfNaN
  | integerOfInfinity
  | integerTooLarge
  /-- An integer has more digits than are written. -/
  | unwritableInteger
  deriving DecidableEq, Repr

namespace FillError

/-- The name of the error's type. -/
def typeName : FillError → String
  | .tooManyArguments => "TypeError"
  | .tooFewArguments => "TypeError"
  | .incompleteFormat => "ValueError"
  | .incompleteKey => "ValueError"
  | .mappingRequired => "TypeError"
  | .notIndexedByText _ => "TypeError"
  | .absentKey _ => "KeyError"
  | .unsupportedLetter _ _ => "ValueError"
  | .widthNotAnInteger => "TypeError"
  | .widthTooBig => "ValueError"
  | .precisionTooBig => "ValueError"
  | .widthOverflow => "OverflowError"
  | .precisionOverflow => "OverflowError"
  | .notANumber _ _ => "TypeError"
  | .notAnInteger _ _ => "TypeError"
  | .notAReal _ => "TypeError"
  | .notACharacter => "TypeError"
  | .characterOutOfRange => "OverflowError"
  | .integerOfNaN => "ValueError"
  | .integerOfInfinity => "OverflowError"
  | .integerTooLarge => "OverflowError"
  | .unwritableInteger => "ValueError"

/-- The hexadecimal digits of a number. -/
def hexText (n : Nat) : String :=
  String.ofList (Nat.toDigits 16 n)

/-- The error in words. -/
def message : FillError → String
  | .tooManyArguments => "not all arguments converted during string formatting"
  | .tooFewArguments => "not enough arguments for format string"
  | .incompleteFormat => "incomplete format"
  | .incompleteKey => "incomplete format key"
  | .mappingRequired => "format requires a mapping"
  | .notIndexedByText container => container ++ " indices must be integers or slices, not str"
  | .absentKey key => Text.quotation key
  | .unsupportedLetter c position =>
    let shown := if 31 ≤ c.toNat ∧ c.toNat < 127 then c else '?'
    "unsupported format character '" ++ String.ofList [shown] ++ "' (0x" ++ hexText c.toNat ++
      ") at index " ++ toString position
  | .widthNotAnInteger => "* wants int"
  | .widthTooBig => "width too big"
  | .precisionTooBig => "precision too big"
  | .widthOverflow => "Python int too large to convert to C ssize_t"
  | .precisionOverflow => "Python int too large to convert to C int"
  | .notANumber c t =>
    "%" ++ String.ofList [c] ++ " format: a real number is required, not " ++ t
  | .notAnInteger c t =>
    "%" ++ String.ofList [c] ++ " format: an integer is required, not " ++ t
  | .notAReal t => "must be real number, not " ++ t
  | .notACharacter => "%c requires int or char"
  | .characterOutOfRange => "%c arg not in range(0x110000)"
  | .integerOfNaN => "cannot convert float NaN to integer"
  | .integerOfInfinity => "cannot convert float infinity to integer"
  | .integerTooLarge => "int too large to convert to float"
  | .unwritableInteger => unwritableIntegerMessage

end FillError

/-! ## The pieces of a message -/

/-- The key of a placeholder. -/
inductive KeyPart where
  | absent
  | named (key : String)
  /-- The parenthesis is not closed. -/
  | unclosed
  deriving DecidableEq, Repr

/-- A width or a precision. -/
inductive Measure where
  | absent
  | given (n : Nat)
  /-- An argument gives it. -/
  | fromArgument
  deriving DecidableEq, Repr

/-- The flags of a placeholder. -/
structure Flags where
  leftAligned : Bool
  signed : Bool
  spaced : Bool
  alternative : Bool
  zeroFilled : Bool
  deriving DecidableEq, Repr

/-- A placeholder. -/
structure Placeholder where
  key : KeyPart
  flags : Flags
  width : Measure
  precision : Measure
  /-- The letter at the end; none when the message ends before it. -/
  letter : Option Char
  /-- Where in the message the letter stands. -/
  position : Nat
  deriving DecidableEq, Repr

/-- A piece of a message. -/
inductive Piece where
  | plain (c : Char)
  | placeholder (p : Placeholder)
  deriving DecidableEq, Repr

namespace Placeholder

/-- The characters up to the parenthesis that closes `depth` open ones, and what follows it. -/
def closing (depth : Nat) (before : List Char) : List Char → Option (List Char × List Char)
  | [] => none
  | c :: rest =>
    if c == ')' then
      if depth ≤ 1 then some (before.reverse, rest) else closing (depth - 1) (c :: before) rest
    else if c == '(' then closing (depth + 1) (c :: before) rest
    else closing depth (c :: before) rest

/-- The key in front, and what follows it. -/
def keyPart : List Char → KeyPart × List Char
  | '(' :: rest =>
    match closing 1 [] rest with
    | some (key, rest) => (.named (String.ofList key), rest)
    | none => (.unclosed, [])
  | rest => (.absent, rest)

/-- A character that is a flag. -/
def isFlag (c : Char) : Bool :=
  c == '-' || c == '+' || c == ' ' || c == '#' || c == '0'

/-- The flags that are among the characters. -/
def flagsOf (cs : List Char) : Flags where
  leftAligned := cs.contains '-'
  signed := cs.contains '+'
  spaced := cs.contains ' '
  alternative := cs.contains '#'
  zeroFilled := cs.contains '0'

/-- The width in front, and what follows it. -/
def widthPart : List Char → Measure × List Char
  | '*' :: rest => (.fromArgument, rest)
  | cs =>
    match cs.takeWhile Char.isDigit with
    | [] => (.absent, cs)
    | ds => (.given (Decimal.ofDigits ds), cs.dropWhile Char.isDigit)

/-- The precision in front: a point, and a number that is zero when it is left out. -/
def precisionPart : List Char → Measure × List Char
  | '.' :: '*' :: rest => (.fromArgument, rest)
  | '.' :: rest =>
    (.given (Decimal.ofDigits (rest.takeWhile Char.isDigit)), rest.dropWhile Char.isDigit)
  | cs => (.absent, cs)

/-- The characters without a length mark, which says nothing. -/
def dropLengthMark : List Char → List Char
  | c :: rest => if c == 'h' || c == 'l' || c == 'L' then rest else c :: rest
  | [] => []

/-- The placeholder whose percent sign stands at `start`, from the characters after the sign, and
how many of these belong to it. -/
def parse (start : Nat) (cs : List Char) : Placeholder × Nat :=
  let (key, afterKey) := keyPart cs
  let flags := afterKey.takeWhile isFlag
  let (width, afterWidth) := widthPart (afterKey.dropWhile isFlag)
  let (precision, afterPrecision) := precisionPart afterWidth
  let afterMark := dropLengthMark afterPrecision
  let before := cs.length - afterMark.length
  ({ key, flags := flagsOf flags, width, precision
     letter := afterMark.head?
     position := start + 1 + before }, before + 1)

/-- The pieces from position `pos` on; the next `skip` characters belong to the piece before. -/
def piecesFrom (pos skip : Nat) : List Char → List Piece
  | [] => []
  | c :: rest =>
    if 0 < skip then piecesFrom (pos + 1) (skip - 1) rest
    else if c == '%' then
      if rest.head? == some '%' then .plain '%' :: piecesFrom (pos + 1) 1 rest
      else
        let (p, n) := parse pos rest
        .placeholder p :: piecesFrom (pos + 1) n rest
    else .plain c :: piecesFrom (pos + 1) 0 rest

/-- The pieces of a message. -/
def pieces (cs : List Char) : List Piece :=
  piecesFrom 0 0 cs

/-! ## Showing an argument -/

/-- What an argument became, before it is aligned. -/
structure Shown where
  text : List Char
  /-- The text is a number, which may have a sign. -/
  numeric : Bool

/-- The name by which these messages call a value's type. -/
def typeNameOf : Value → String
  | .foreign .exactDecimal => "decimal.Decimal"
  | v => v.typeName

/-- The integer that a value is cut to. -/
def wholeNumber (letter : Char) (v : Value) : Except FillError Int :=
  match v with
  | .int n => .ok n
  | .bool b => .ok (if b then 1 else 0)
  | .foreign .exactDecimal => .ok 1
  | .float .nan => .error .integerOfNaN
  | .float (.infinite _) => .error .integerOfInfinity
  | .float x => .ok (x.truncate?.getD 0)
  | v => .error (.notANumber letter (typeNameOf v))

/-- The integer that a value is. -/
def exactInteger (letter : Char) (v : Value) : Except FillError Int :=
  match v with
  | .int n => .ok n
  | .bool b => .ok (if b then 1 else 0)
  | v => .error (.notAnInteger letter (typeNameOf v))

/-- The floating-point number that a value is. -/
def real (v : Value) : Except FillError Double :=
  match v with
  | .float x => .ok x
  | .int n =>
    match Double.ofInt n with
    | .infinite _ => .error .integerTooLarge
    | x => .ok x
  | .bool b => .ok (.ofInt (if b then 1 else 0))
  | .foreign .exactDecimal => .ok (.ofInt 1)
  | v => .error (.notAReal (typeNameOf v))

/-- An integer in a base, with its base mark when asked for, and at least as many digits as the
precision. -/
def integerText (base : Nat) (mark : List Char) (precision : Option Nat) (n : Int) : List Char :=
  let ds := Nat.toDigits base n.natAbs
  let least := precision.getD 0
  (if n < 0 then ['-'] else []) ++ mark ++ List.replicate (least - ds.length) '0' ++ ds

/-- A number with its places or digits. -/
def realText (letter : Char) (alternative : Bool) (places : Nat) (x : Double) : List Char :=
  let upper := letter.isUpper
  let word (s : String) := if upper then s.toList.map Char.toUpper else s.toList
  match x with
  | .nan => word "nan"
  | .infinite s => (if s then ['-'] else []) ++ word "inf"
  | .finite s m e =>
    let (num, den) := Decimal.dyadic m e
    let mark := if upper then 'E' else 'e'
    (if s then ['-'] else []) ++
      match letter.toLower with
      | 'f' => Decimal.fixedText num den places alternative
      | 'e' => Decimal.scientificText num den places alternative mark
      | _ => Decimal.generalText num den places alternative mark

/-- The characters, with each that is not ASCII escaped by its code. -/
def escapedToAscii (cs : List Char) : List Char :=
  cs.flatMap fun c =>
    if c.toNat < 0x80 then [c]
    else if c.toNat < 0x100 then '\\' :: 'x' :: Text.hexDigits 2 c.toNat
    else if c.toNat < 0x10000 then '\\' :: 'u' :: Text.hexDigits 4 c.toNat
    else '\\' :: 'U' :: Text.hexDigits 8 c.toNat

/-- The character that a value is, or whose code it is. -/
def character (v : Value) : Except FillError Char :=
  match v with
  | .int n =>
    if 0 ≤ n ∧ n < 0x110000 then .ok (Char.ofNat n.toNat) else .error .characterOutOfRange
  | .bool b => .ok (Char.ofNat (if b then 1 else 0))
  | v =>
    match v.text?.map String.toList with
    | some [c] => .ok c
    | _ => .error .notACharacter

/-- A text that a value may not have. -/
def textOf (text? : Option String) : Except FillError String :=
  match text? with
  | some s => .ok s
  | none => .error .unwritableInteger

/-- An integer in decimal digits, unless there are too many. -/
def decimalText (precision : Option Nat) (n : Int) : Except FillError Shown :=
  if isLongInteger n then .error .unwritableInteger
  else .ok ⟨integerText 10 [] precision n, true⟩

/-- A base mark, written only in the alternative form. -/
def baseMark (flags : Flags) (letter : Char) : List Char :=
  if flags.alternative then ['0', letter] else []

/-- An argument, shown as a letter asks for. -/
def display (p : Placeholder) (precision : Option Nat) (letter : Char) (v : Value) :
    Except FillError Shown :=
  let cut (cs : List Char) : Shown :=
    ⟨match precision with
      | some n => cs.take n
      | none => cs, false⟩
  match letter with
  | 's' => (textOf v.display?).map fun s => cut s.toList
  | 'r' => (textOf v.quoted?).map fun s => cut s.toList
  | 'a' => (textOf v.quoted?).map fun s => cut (escapedToAscii s.toList)
  | 'd' => wholeNumber letter v >>= decimalText precision
  | 'i' => wholeNumber letter v >>= decimalText precision
  | 'u' => wholeNumber letter v >>= decimalText precision
  | 'o' =>
    (exactInteger letter v).map fun n => ⟨integerText 8 (baseMark p.flags 'o') precision n, true⟩
  | 'x' =>
    (exactInteger letter v).map fun n => ⟨integerText 16 (baseMark p.flags 'x') precision n, true⟩
  | 'X' =>
    (exactInteger letter v).map fun n =>
      ⟨(integerText 16 (baseMark p.flags 'x') precision n).map Char.toUpper, true⟩
  | 'c' => (character v).map fun c => ⟨[c], false⟩
  | c =>
    if c ∈ ['e', 'E', 'f', 'F', 'g', 'G'] then
      (real v).map fun x => ⟨realText c p.flags.alternative (precision.getD 6) x, true⟩
    else .error (.unsupportedLetter c p.position)

/-- The sign and base mark in front of a number, and the rest of it. -/
def splitSign (flags : Flags) (letter : Char) (cs : List Char) :
    List Char × List Char × List Char :=
  let (sign, rest) := match cs with
    | '-' :: r => (['-'], r)
    | '+' :: r => (['+'], r)
    | r => (if flags.signed then ['+'] else if flags.spaced then [' '] else [], r)
  if flags.alternative && (letter == 'x' || letter == 'X' || letter == 'o') then
    (sign, rest.take 2, rest.drop 2)
  else (sign, [], rest)

/-- The shown argument in a field of at least `width` characters. -/
def align (flags : Flags) (letter : Char) (width : Nat) (leftAligned : Bool) (s : Shown) :
    List Char :=
  let (sign, mark, digits) :=
    if s.numeric then splitSign flags letter s.text else ([], [], s.text)
  let gap := width - (sign.length + mark.length + digits.length)
  if leftAligned then sign ++ mark ++ digits ++ List.replicate gap ' '
  else if s.numeric && flags.zeroFilled then sign ++ mark ++ List.replicate gap '0' ++ digits
  else List.replicate gap ' ' ++ sign ++ mark ++ digits

/-! ## Filling in -/

/-- The arguments of a message. -/
inductive Arguments where
  | several (vs : List Value)
  | single (v : Value)

/-- The value in which keys are looked up, if there is one. -/
def Arguments.mapping? : Arguments → Option Value
  | .several _ => none
  | .single v =>
    match v with
    | .record _ => some v
    | .list _ => some v
    | .foreign .bytes => some v
    | .foreign .byteArray => some v
    | .foreign .range => some v
    | _ => none

/-- The arguments, one after the other. -/
def Arguments.toList : Arguments → List Value
  | .several vs => vs
  | .single v => [v]

/-- The value under a key. -/
def lookUp (container : Value) (key : String) : Except FillError Value :=
  match container with
  | .record es =>
    match Keyed.get? es key with
    | some v => .ok v
    | none => .error (.absentKey key)
  | .foreign .bytes => .error (.notIndexedByText "byte")
  | v => .error (.notIndexedByText v.typeName)

/-- The next argument, and those after it. -/
def next : List Value → Except FillError (Value × List Value)
  | [] => .error .tooFewArguments
  | v :: vs => .ok (v, vs)

/-- The greatest measure that is understood, and the errors for greater ones: for one that stands
in the message, and for one that an argument gives. -/
structure MeasureLimit where
  greatest : Nat
  tooBig : FillError
  overflow : FillError

/-- The limit of widths. -/
def widthLimit : MeasureLimit := ⟨Nat.pow 2 63 - 1, .widthTooBig, .widthOverflow⟩

/-- The limit of precisions. -/
def precisionLimit : MeasureLimit := ⟨Nat.pow 2 31 - 1, .precisionTooBig, .precisionOverflow⟩

/-- A measure, with the arguments left after it. -/
def measure (limit : MeasureLimit) (m : Measure) (left : List Value) :
    Except FillError (Option Int × List Value) :=
  match m with
  | .absent => .ok (none, left)
  | .given n => if n ≤ limit.greatest then .ok (some (n : Int), left) else .error limit.tooBig
  | .fromArgument =>
    match next left with
    | .error e => .error e
    | .ok (.int n, left) =>
      if n.natAbs ≤ limit.greatest then .ok (some n, left) else .error limit.overflow
    | .ok (.bool b, left) => .ok (some (if b then 1 else 0), left)
    | .ok _ => .error .widthNotAnInteger

/-- A placeholder filled in: its text, and the arguments left after it. -/
def fillOne (arguments : Arguments) (p : Placeholder) (left : List Value) :
    Except FillError (List Char × List Value) := do
  let left ←
    match p.key with
    | .absent => pure left
    | .unclosed =>
      if arguments.mapping?.isSome then throw .incompleteKey else throw .mappingRequired
    | .named key =>
      match arguments.mapping? with
      | none => throw .mappingRequired
      | some container => do
        let v ← lookUp container key
        pure [v]
  let (width, left) ← measure widthLimit p.width left
  let (precision, left) ← measure precisionLimit p.precision left
  match p.letter with
  | none => throw .incompleteFormat
  | some letter => do
    let (v, left) ← next left
    let shown ← display p (precision.map Int.toNat) letter v
    let w := width.getD 0
    pure (align p.flags letter w.natAbs (p.flags.leftAligned || decide (w < 0)) shown, left)

/-- The pieces filled in from the left. -/
def fillFrom (arguments : Arguments) (left : List Value) :
    List Piece → Except FillError (List Char)
  | [] =>
    if left.isEmpty || arguments.mapping?.isSome then .ok [] else .error .tooManyArguments
  | .plain c :: rest => (fillFrom arguments left rest).map (c :: ·)
  | .placeholder p :: rest =>
    match fillOne arguments p left with
    | .error e => .error e
    | .ok (cs, left) => (fillFrom arguments left rest).map (cs ++ ·)

/-- A message filled in with its arguments. -/
def fill (arguments : Arguments) (message : String) : Except FillError String :=
  (fillFrom arguments arguments.toList (pieces message.toList)).map String.ofList

end Placeholder

end HealthAlert.Log
