import HealthAlert.Decimal.Reading
import HealthAlert.Validation.Issue

/-!
# Lenient readings of scalars

A value is taken for a text, an integer or a truth value also when it is given in another form
that has only one meaning: digits for an integer, a number without fractional part, `yes` or `off`
for a truth value.
-/

namespace HealthAlert.Validation

/-- The text that spells a scalar: a text, a mode's label, or bytes. -/
def spelling? (v : Value) : Option String :=
  match v with
  | .foreign .bytes => some "x"
  | v => v.text?

/-- A text, or something that spells one. -/
def text (v : Value) : Checked String :=
  match v, spelling? v with
  | _, some s => .accepted s
  | .foreign .byteArray, none => .accepted "x"
  | v, none => Checked.refuse .notText v

/-- A text, or null for none. -/
def nullableText (v : Value) : Checked (Option String) :=
  match v with
  | .null => .accepted none
  | v => some <$> text v

/-! ## Integers -/

/-- The most characters of a numeral, its minus sign included. -/
def maxNumeral : Nat := 4300

/-- White space around a numeral: that of texts without the ASCII separators. -/
def isNumeralBlank (c : Char) : Bool :=
  Text.isBlank c && !(decide (0x1C ≤ c.toNat) && decide (c.toNat ≤ 0x1F))

/-- The characters without the white space around a numeral. -/
def trimNumeral (cs : List Char) : List Char :=
  ((cs.dropWhile isNumeralBlank).reverse.dropWhile isNumeralBlank).reverse

/-- The numeral starts as one without zeros in front does: with a minus sign or a digit. -/
def startsNumeral (c : Char) : Bool :=
  c == '-' || c.isDigit

/-- The numeral without zeros in front, among which underscores may stand; a minus sign may follow
them. Of one that is all zeros the last character is kept. -/
def dropLeadingZeros : List Char → Option (List Char)
  | '0' :: rest =>
    match rest.dropWhile fun c => c == '0' || c == '_' with
    | [] => some [('0' :: rest).getLast?.getD '0']
    | '.' :: fraction =>
      let before := rest.takeWhile fun c => c == '0' || c == '_'
      some (('0' :: before).getLast?.getD '0' :: '.' :: fraction)
    | c :: more => if startsNumeral c then some (c :: more) else none
  | c :: rest => if startsNumeral c then some (c :: rest) else none
  | [] => none

/-- The numeral without a fraction of zeros, of which there is at least one. -/
def dropZeroFraction (cs : List Char) : List Char :=
  match cs.dropWhile (· != '.') with
  | '.' :: '0' :: fraction =>
    if fraction.all (· == '0') then cs.takeWhile (· != '.') else cs
  | _ => cs

/-- Two underscores stand side by side. -/
def hasDoubleUnderscore : List Char → Bool
  | '_' :: '_' :: _ => true
  | _ :: rest => hasDoubleUnderscore rest
  | [] => false

/-- The numeral without underscores, if they are single and none stands at an end. -/
def dropUnderscores (cs : List Char) : List Char :=
  if cs.head? == some '_' || cs.getLast? == some '_' || hasDoubleUnderscore cs then cs
  else cs.filter (· != '_')

/-- The plain numeral for a lenient one: white space around it, a plus sign and zeros in front, a
fraction of zeros and single underscores are left out. -/
def plainNumeral? (cs : List Char) : Option (List Char) :=
  let unsigned :=
    match trimNumeral cs with
    | '+' :: '-' :: _ => none
    | '+' :: rest => some rest
    | rest => some rest
  (unsigned.bind dropLeadingZeros).map fun cs => dropUnderscores (dropZeroFraction cs)

/-- The integer that a plain numeral spells: digits without a zero in front of others, perhaps
after a minus sign. -/
def readNumeral (cs : List Char) : Except Refusal Int :=
  let (negative, digits) :=
    match cs with
    | '-' :: rest => (true, rest)
    | rest => (false, rest)
  match digits.span Char.isDigit with
  | (['0'], []) => .ok 0
  | ('0' :: _, _) => .error .unreadableInteger
  | (ds, rest) =>
    if maxNumeral < ds.length + (if negative then 1 else 0) then .error .oversizedInteger
    else if ds.isEmpty || !rest.isEmpty then .error .unreadableInteger
    else .ok (if negative then -(Decimal.ofDigits ds : Int) else Decimal.ofDigits ds)

/-- The integer that a text spells. -/
def readInteger (s : String) : Except Refusal Int :=
  match plainNumeral? s.toList with
  | some cs => readNumeral cs
  | none => .error .unreadableInteger

/-- The number fits into a word of 64 bits with a sign. -/
def fitsWord (n : Int) : Bool :=
  decide (-(Nat.pow 2 63 : Int) ≤ n) && decide (n < (Nat.pow 2 63 : Int))

/-- The integer that a number stands for: it has no fractional part and its absolute value is less
than 2 ^ 63. -/
def wholeNumber (x : Double) : Except Refusal Int :=
  match x.ratio?, x.toInt? with
  | none, _ => .error .notFinite
  | some _, none => .error .fractionalInteger
  | some _, some n => if n.natAbs < Nat.pow 2 63 then .ok n else .error .oversizedInteger

/-- An integer, or something that stands for one. -/
def integer (v : Value) : Checked Int :=
  let orRefused (r : Except Refusal Int) : Checked Int :=
    match r with
    | .ok n => .accepted n
    | .error refusal => Checked.refuse refusal v
  match v with
  | .int n => .accepted n
  | .bool b => .accepted (if b then 1 else 0)
  | .foreign .exactDecimal => .accepted 1
  | .float x => orRefused (wholeNumber x)
  | v =>
    match spelling? v with
    | some s => orRefused (readInteger s)
    | none => Checked.refuse .notAnInteger v

/-! ## Truth values -/

/-- The words for false. -/
def falseWords : List String := ["0", "f", "n", "no", "off", "false"]

/-- The words for true. -/
def trueWords : List String := ["1", "t", "y", "on", "yes", "true"]

/-- The truth value that an integer is taken for. -/
def truthOfInt? (n : Int) : Option Bool :=
  if n = 0 then some false else if n = 1 then some true else none

/-- The truth value that a word stands for, in any case. -/
def truthOfWord? (s : String) : Option Bool :=
  let word := String.ofList (s.toList.map Char.toLower)
  if word ∈ falseWords then some false else if word ∈ trueWords then some true else none

/-- A truth value, or something that stands for one. -/
def truthValue (v : Value) : Checked Bool :=
  let orUnreadable (b : Option Bool) : Checked Bool :=
    match b with
    | some b => .accepted b
    | none => Checked.refuse .unreadableTruthValue v
  match v with
  | .bool b => .accepted b
  | .int n =>
    if fitsWord n then orUnreadable (truthOfInt? n) else Checked.refuse .notATruthValue v
  | .foreign .exactDecimal => .accepted true
  | .float x =>
    match wholeNumber x with
    | .ok n => orUnreadable (truthOfInt? n)
    | .error _ => Checked.refuse .notATruthValue v
  | v =>
    match spelling? v with
    | some s => orUnreadable (truthOfWord? s)
    | none => Checked.refuse .notATruthValue v

end HealthAlert.Validation
