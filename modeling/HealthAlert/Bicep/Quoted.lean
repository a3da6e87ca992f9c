import HealthAlert.Value.Integers

/-!
# Quoted literals and keys

Model of `quote` and `quote_key`.

`Bicep.quote` writes a text as a single-quoted literal, with a backslash before every single
quote inside it. `Bicep.quoteKey` writes the key of an object: bare when it is an identifier, and
quoted otherwise.
-/

namespace HealthAlert.Bicep

/-- The characters with a backslash before every single quote. -/
def escapeQuotes (cs : List Char) : List Char :=
  cs.flatMap fun c => if c = '\'' then ['\\', '\''] else [c]

/-- The characters between single quotes, the quotes inside them escaped. -/
def quoteChars (cs : List Char) : List Char :=
  '\'' :: (escapeQuotes cs ++ ['\''])

/-- `quote`: a text as a single-quoted literal. -/
def quote (s : String) : String :=
  String.ofList (quoteChars s.toList)

/-- Any value that has a text as a single-quoted literal of it. -/
def quoteValue? (v : Value) : Option String :=
  v.display?.map quote

/-- An ASCII letter or an underscore. -/
def isIdentifierStart (c : Char) : Bool :=
  c.isAlpha || c == '_'

/-- An ASCII letter, a digit or an underscore. -/
def isIdentifierRest (c : Char) : Bool :=
  c.isAlphanum || c == '_'

/-- The characters form an identifier. -/
def isIdentifier : List Char → Bool
  | [] => false
  | c :: rest => isIdentifierStart c && rest.all isIdentifierRest

/-- The key may stand bare: an identifier, or an identifier and one line break after it. -/
def isBareKey (cs : List Char) : Bool :=
  isIdentifier cs || (cs.getLast? == some '\n' && isIdentifier cs.dropLast)

/-- The characters of an object's key. -/
def keyChars (cs : List Char) : List Char :=
  if isBareKey cs then cs else quoteChars cs

/-- `quote_key`: the key of an object, bare or quoted. -/
def quoteKey (key : String) : String :=
  String.ofList (keyChars key.toList)

theorem toList_quote (s : String) : (quote s).toList = quoteChars s.toList := by
  simp [quote]

theorem toList_quoteKey (key : String) : (quoteKey key).toList = keyChars key.toList := by
  simp [quoteKey]

end HealthAlert.Bicep
