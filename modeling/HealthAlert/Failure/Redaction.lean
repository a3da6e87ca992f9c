import HealthAlert.Failure.Basic
import HealthAlert.Text.Word

/-!
# Redaction

Model of `_redact`, `_sanitize_error_details` and `_error_body`.

In production, the details of a failure must not show how the server is built. `Redaction.redact`
replaces every text that leaks by a placeholder, in records at any depth and in the records
inside lists; everything else stays. A text leaks when it holds the path of a `.py` or `.json`
file, or the header of a traceback, in any case.
-/

namespace HealthAlert.Redaction

/-- What stands in the place of a text that leaks. -/
def placeholder : String := "[REDACTED]"

/-- The character is the small letter `p`, its capital, or another form of it: the long s and the
Kelvin sign are forms of `s` and `k`. -/
def isFormOf (p c : Char) : Bool :=
  c.toLower == p || (p == 's' && c.toNat == 0x17F) || (p == 'k' && c.toNat == 0x212A)

/-- The text starts with a word given in small letters, in any case. -/
def startsWith : List Char → List Char → Bool
  | [], _ => true
  | _ :: _, [] => false
  | p :: ps, c :: cs => isFormOf p c && startsWith ps cs

/-- A character that a path holds between its slash and its extension. -/
def isPathChar (c : Char) : Bool :=
  Text.isWord c || c == '/' || c == '-'

/-- The extensions of files that belong to the server. -/
def extensions : List (List Char) := [['p', 'y'], ['j', 's', 'o', 'n']]

/-- What follows a slash ends a path to a file of the server. -/
def endsPath (cs : List Char) : Bool :=
  !(cs.takeWhile isPathChar).isEmpty &&
    match cs.dropWhile isPathChar with
    | '.' :: rest => extensions.any fun e => startsWith e rest
    | _ => false

/-- The text starts with the path of a file of the server. -/
def startsPath : List Char → Bool
  | c :: rest => (c == '/' || c == '\\') && endsPath rest
  | [] => false

/-- The header of a traceback. -/
def tracebackHeader : List Char := "traceback (most recent call last)".toList

/-- The text leaks from its first character on. -/
def leaksHere (cs : List Char) : Bool :=
  startsPath cs || startsWith tracebackHeader cs

/-- The text leaks somewhere. -/
def leaksChars : List Char → Bool
  | [] => leaksHere []
  | c :: cs => leaksHere (c :: cs) || leaksChars cs

/-- The text leaks somewhere. -/
def leaks (s : String) : Bool :=
  leaksChars s.toList

/-- The text, or the placeholder if it leaks. -/
def redactText (s : String) : String :=
  if leaks s then placeholder else s

mutual

/-- `_redact`: the value with every text that leaks replaced. A list is left as it is, except for
the records that are its elements. -/
def redact : Value → Value
  | .text s => .text (redactText s)
  | .record es => .record (redactFields es)
  | .list xs => .list (redactRecords xs)
  | v => v

/-- The fields of a record, redacted. -/
def redactFields : List (String × Value) → List (String × Value)
  | [] => []
  | (k, v) :: es => (k, redact v) :: redactFields es

/-- The elements of a list, of which the records are redacted. -/
def redactRecords : List Value → List Value
  | [] => []
  | .record es :: xs => .record (redactFields es) :: redactRecords xs
  | x :: xs => x :: redactRecords xs

end

/-- `_sanitize_error_details`: the details that an answer shows: in production redacted, elsewhere
all of them. -/
def sanitize (production : Bool) (details : Value) : Value :=
  if production then redact details else details

/-- `_error_body`: the body of an answer that reports a failure; details that count as nothing are
empty. -/
def errorBody (error : String) (message details : Value) : Value :=
  .record [("error", .text error), ("message", message),
    ("details", if details.truthy then details else .record [])]

end HealthAlert.Redaction
