import HealthAlert.Json.Token

/-!
# Reading JSON

`Json.readText` turns a text into a value, and `Json.read` does so unless the text starts with a
byte order mark. Reading runs a machine over the tokens of the text: a stack of the arrays and
objects that are open, and what may come next. The first token that may not come is the fault,
with the position in the text at which it is reported. A repeated key keeps its first place and
takes its last value.
-/

namespace HealthAlert.Json

/-- Why a text is not read. -/
inductive ReadError where
  /-- The text is not JSON, for this reason at this offset. -/
  | malformed (problem : Problem) (position : Nat)
  /-- An integer has too many digits. -/
  | longInteger (digits : Nat)
  deriving DecidableEq, Repr

/-- An array or object that is open while one of its values is read. -/
inductive Frame where
  /-- An array, with its elements so far in reverse. -/
  | array (items : List Value)
  /-- An object, with its entries so far and the key of the value that is read. -/
  | object (entries : List (String × Value)) (key : String)

/-- What may come next. -/
inductive State where
  /-- A value. -/
  | value (stack : List Frame)
  /-- The first element of an array, or its end. -/
  | firstItem (stack : List Frame)
  /-- The first key of an object, or its end. -/
  | firstKey (stack : List Frame)
  /-- The next key of an object. -/
  | key (entries : List (String × Value)) (stack : List Frame)
  /-- The colon after a key. -/
  | colon (entries : List (String × Value)) (key : String) (stack : List Frame)
  /-- A comma, or the end of an array. -/
  | afterItem (items : List Value) (stack : List Frame)
  /-- A comma, or the end of an object. -/
  | afterEntry (entries : List (String × Value)) (stack : List Frame)
  /-- Nothing: the value is complete. -/
  | complete (v : Value)

/-- The state after a value was read inside the given frames. -/
def deliver (v : Value) : List Frame → State
  | [] => .complete v
  | .array items :: stack => .afterItem (v :: items) stack
  | .object entries key :: stack => .afterEntry (Keyed.put entries key v) stack

/-- The state after a token that starts a value. -/
def startValue (stack : List Frame) (t : Located) : Except ReadError State :=
  match t.token with
  | .openBracket => .ok (.firstItem stack)
  | .openBrace => .ok (.firstKey stack)
  | .text s => .ok (deliver (.text s) stack)
  | .word v => .ok (deliver v stack)
  | .faultyText p position => .error (.malformed p position)
  | .longInteger digits => .error (.longInteger digits)
  | _ => .error (.malformed .expectedValue t.start)

/-- The state after a token that must be a key. -/
def startEntry (entries : List (String × Value)) (stack : List Frame) (t : Located) :
    Except ReadError State :=
  match t.token with
  | .text s => .ok (.colon entries s stack)
  | .faultyText p position => .error (.malformed p position)
  | _ => .error (.malformed .expectedPropertyName t.start)

/-- The state after one more token. -/
def step (s : State) (t : Located) : Except ReadError State :=
  match s with
  | .value stack => startValue stack t
  | .firstItem stack =>
    match t.token with
    | .closeBracket => .ok (deliver (.list []) stack)
    | _ => startValue (.array [] :: stack) t
  | .firstKey stack =>
    match t.token with
    | .closeBrace => .ok (deliver (.record []) stack)
    | _ => startEntry [] stack t
  | .key entries stack => startEntry entries stack t
  | .colon entries key stack =>
    match t.token with
    | .colon => .ok (.value (.object entries key :: stack))
    | _ => .error (.malformed .expectedColon t.start)
  | .afterItem items stack =>
    match t.token with
    | .comma => .ok (.value (.array items :: stack))
    | .closeBracket => .ok (deliver (.list items.reverse) stack)
    | _ => .error (.malformed .expectedComma t.start)
  | .afterEntry entries stack =>
    match t.token with
    | .comma => .ok (.key entries stack)
    | .closeBrace => .ok (deliver (.record entries) stack)
    | _ => .error (.malformed .expectedComma t.start)
  | .complete _ => .error (.malformed .extraData t.start)

/-- The state after all tokens. -/
def run (s : State) : List Located → Except ReadError State
  | [] => .ok s
  | t :: ts =>
    match step s t with
    | .ok s => run s ts
    | .error e => .error e

/-- The value at the end of a text of the given length. -/
def finish (length : Nat) : State → Except ReadError Value
  | .complete v => .ok v
  | .value _ => .error (.malformed .expectedValue length)
  | .firstItem _ => .error (.malformed .expectedValue length)
  | .firstKey _ => .error (.malformed .expectedPropertyName length)
  | .key _ _ => .error (.malformed .expectedPropertyName length)
  | .colon _ _ _ => .error (.malformed .expectedColon length)
  | .afterItem _ _ => .error (.malformed .expectedComma length)
  | .afterEntry _ _ => .error (.malformed .expectedComma length)

/-- The value that a text spells. -/
def readText (cs : List Char) : Except ReadError Value :=
  match run (.value []) (tokens cs) with
  | .ok s => finish cs.length s
  | .error e => .error e

/-- The value that a text spells, which may not start with a byte order mark. -/
def read (cs : List Char) : Except ReadError Value :=
  if cs.head? == some (Char.ofNat 0xFEFF) then .error (.malformed .byteOrderMark 0)
  else readText cs

/-! ## Messages -/

/-- What is wrong, in words. -/
def Problem.message : Problem → String
  | .expectedValue => "Expecting value"
  | .expectedPropertyName => "Expecting property name enclosed in double quotes"
  | .expectedColon => "Expecting ':' delimiter"
  | .expectedComma => "Expecting ',' delimiter"
  | .unterminatedText => "Unterminated string starting at"
  | .controlCharacter => "Invalid control character at"
  | .invalidEscape => "Invalid \\escape"
  | .invalidCodeEscape => "Invalid \\uXXXX escape"
  | .extraData => "Extra data"
  | .byteOrderMark => "Unexpected UTF-8 BOM (decode using utf-8-sig)"

/-- A problem with its line, column and offset in the text. -/
def Problem.located (p : Problem) (cs : List Char) (position : Nat) : String :=
  let before := cs.take position
  let line := before.count '\n' + 1
  let column := (before.reverse.takeWhile (· != '\n')).length + 1
  p.message ++ ": line " ++ toString line ++ " column " ++ toString column ++ " (char " ++
    toString position ++ ")"

/-- The message for an integer that has too many digits. -/
def longIntegerMessage (digits : Nat) : String :=
  "Exceeds the limit (" ++ toString maxIntegerDigits ++
    " digits) for integer string conversion: value has " ++ toString digits ++
    " digits; use sys.set_int_max_str_digits() to increase the limit"

end HealthAlert.Json
