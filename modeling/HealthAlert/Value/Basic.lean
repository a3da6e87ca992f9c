import HealthAlert.Alert.Mode
import HealthAlert.Decimal.Double
import HealthAlert.Keyed

/-!
# Values

`Value` is what a request body, a settings argument, an error's details or a log record may hold:
scalars, lists, records with text keys, and a few kinds of value that no document of the service
contains but that its functions must refuse by name.
-/

namespace HealthAlert

/-- Values outside every document: those that some function treats in a way of its own, each kind
with its one representative, and any other object. -/
inductive Foreign where
  | emptySet
  | emptyFrozenSet
  | bytes
  | byteArray
  | complex
  | range
  | exactDecimal
  /-- An object of some other type that counts as something: its text, and how it is shown inside of
  other values. -/
  | object (typeName text shown : String)
  deriving DecidableEq, Repr

/-- A member of an enumeration of texts. It is the text, and has a name in its enumeration. -/
structure TextMember where
  enumeration : String
  name : String
  text : String
  deriving DecidableEq, Repr

/-- The name of the member behind that of its enumeration. -/
def TextMember.fullName (m : TextMember) : String :=
  m.enumeration ++ "." ++ m.name

/-- The mode as a member of its enumeration. -/
def ActionMode.member (m : ActionMode) : TextMember :=
  ⟨"ActionMode", m.memberName, m.label⟩

/-- A value whose type is known only at run time. -/
inductive Value where
  | null
  | bool (b : Bool)
  | int (n : Int)
  | float (x : Double)
  | text (s : String)
  /-- A member of an enumeration of texts; it counts as a text too. -/
  | member (m : TextMember)
  | list (items : List Value)
  | tuple (items : List Value)
  | record (entries : List (String × Value))
  | foreign (kind : Foreign)
  deriving Repr, Inhabited

/-- The name of a foreign value's type. -/
def Foreign.typeName : Foreign → String
  | .emptySet => "set"
  | .emptyFrozenSet => "frozenset"
  | .bytes => "bytes"
  | .byteArray => "bytearray"
  | .complex => "complex"
  | .range => "range"
  | .exactDecimal => "Decimal"
  | .object typeName _ _ => typeName

namespace Value

/-- An action mode. -/
abbrev mode (m : ActionMode) : Value := .member m.member

/-- The name by which error messages call a value's type. -/
def typeName : Value → String
  | .null => "NoneType"
  | .bool _ => "bool"
  | .int _ => "int"
  | .float _ => "float"
  | .text _ => "str"
  | .member m => m.enumeration
  | .list _ => "list"
  | .tuple _ => "tuple"
  | .record _ => "dict"
  | .foreign k => k.typeName

/-- The characters of a text, also of one that is a member of an enumeration. -/
def text? : Value → Option String
  | .text s => some s
  | .member m => some m.text
  | _ => none

/-- The elements of a list or tuple. -/
def items? : Value → Option (List Value)
  | .list xs => some xs
  | .tuple xs => some xs
  | _ => none

/-- The value counts as something: not null, false, zero or empty. -/
def truthy : Value → Bool
  | .null => false
  | .bool b => b
  | .int n => n != 0
  | .float x => !x.isZero
  | .text s => !s.isEmpty
  | .member m => !m.text.isEmpty
  | .list xs => !xs.isEmpty
  | .tuple xs => !xs.isEmpty
  | .record es => !es.isEmpty
  | .foreign .emptySet => false
  | .foreign .emptyFrozenSet => false
  | .foreign _ => true

/-- A record from pairs, where a repeated key keeps its first place and takes its last value. -/
def ofPairs (pairs : List (String × Value)) : Value :=
  .record (Keyed.ofPairs pairs)

end Value

end HealthAlert
