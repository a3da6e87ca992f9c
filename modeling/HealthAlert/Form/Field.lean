import HealthAlert.Text.Blank
import HealthAlert.Text.Hexadecimal
import HealthAlert.Value.Basic

/-!
# Form fields

Model of `validate_subscription_id`, `validate_alert_name`, `validate_selection`,
`validate_required` and `validate_email`.

Each check of a form field takes the raw value and gives the first problem with it, or none. A
value that is absent is null. Texts are judged without the white space around them.
-/

namespace HealthAlert.Form

/-- What is wrong with a form field. -/
inductive Problem where
  | notText (label : String)
  | required (label : String)
  | subscriptionMissing
  | subscriptionWithoutHyphens
  | subscriptionMalformed
  | nameMissing
  | nameTooShort (length : Nat)
  | nameTooLong (length : Nat)
  /-- The name holds these characters that it may not hold, in order and repeated. -/
  | nameCharacters (found : List Char)
  | notASelection (what : String)
  | nothingSelected (what : String)
  | malformedEmail (address : String)
  deriving DecidableEq, Repr

/-- The fewest characters of an alert name. -/
def minNameLength : Nat := 3

/-- The most characters of an alert name. -/
def maxNameLength : Nat := 260

/-- The problem in words for the person who fills in the form. -/
def Problem.message : Problem → String
  | .notText label => label ++ " must be a text value."
  | .required label => label ++ " is required."
  | .subscriptionMissing =>
    "Subscription ID is required. Enter your Azure subscription ID to scope the alert."
  | .subscriptionWithoutHyphens =>
    "Subscription ID appears to be missing hyphens. " ++
      "Expected format: 00000000-0000-0000-0000-000000000000"
  | .subscriptionMalformed =>
    "Invalid Subscription ID format. Expected: " ++
      "00000000-0000-0000-0000-000000000000 (36 characters with hyphens)"
  | .nameMissing => "Alert Name is required. Provide a descriptive name for this alert."
  | .nameTooShort n =>
    "Alert Name is too short (" ++ toString n ++ " chars). Minimum " ++ toString minNameLength ++
      " characters required."
  | .nameTooLong n =>
    "Alert Name is too long (" ++ toString n ++ " chars). Maximum " ++ toString maxNameLength ++
      " characters allowed."
  | .nameCharacters found =>
    "Alert Name contains invalid characters: " ++
      String.intercalate ", " (found.map fun c => String.ofList [c]) ++
      ". Use letters, numbers, spaces, and hyphens only."
  | .notASelection what => "Expected a list of " ++ what ++ " selections."
  | .nothingSelected what =>
    "Please select at least one " ++ what ++ ". Use Ctrl/Cmd+Click to select multiple."
  | .malformedEmail address => "'" ++ address ++ "' is not a valid email address."

/-- A text without the white space around it, as characters. -/
inductive Entry where
  /-- Null, or a text of white space only. -/
  | blank
  | filled (trimmed : List Char)
  /-- A value that is no text. -/
  | other

/-- The entry that a raw value is. -/
def Entry.of (v : Value) : Entry :=
  match v with
  | .null => .blank
  | _ =>
    match v.text? with
    | none => .other
    | some s =>
      match Text.trimBlanks s.toList with
      | [] => .blank
      | c :: cs => .filled (c :: cs)

/-! ## Subscription IDs -/

/-- Groups of hexadecimal digits of the given sizes, joined by hyphens. -/
def isGrouped : List Nat → List Char → Bool
  | [], cs => cs.isEmpty
  | [n], cs => cs.length == n && cs.all Text.isHexDigit
  | n :: ns, cs =>
    (cs.take n).length == n && (cs.take n).all Text.isHexDigit &&
      match cs.drop n with
      | '-' :: rest => isGrouped ns rest
      | _ => false

/-- The sizes of the groups of a subscription ID. -/
def subscriptionGroups : List Nat := [8, 4, 4, 4, 12]

/-- `validate_subscription_id`: the problem with a subscription ID. -/
def checkSubscriptionId (v : Value) : Option Problem :=
  match Entry.of v with
  | .other => some (.notText "Subscription ID")
  | .blank => some .subscriptionMissing
  | .filled cs =>
    if !cs.contains '-' then some .subscriptionWithoutHyphens
    else if isGrouped subscriptionGroups cs then none
    else some .subscriptionMalformed

/-! ## Alert names -/

/-- The characters that an alert name may not hold. -/
def forbiddenInName : List Char := ['<', '>', '%', '&', '\\', '?', '/']

/-- `validate_alert_name`: the problem with an alert name. -/
def checkAlertName (v : Value) : Option Problem :=
  match Entry.of v with
  | .other => some (.notText "Alert Name")
  | .blank => some .nameMissing
  | .filled cs =>
    if cs.length < minNameLength then some (.nameTooShort cs.length)
    else if maxNameLength < cs.length then some (.nameTooLong cs.length)
    else
      match cs.filter forbiddenInName.contains with
      | [] => none
      | found => some (.nameCharacters found)

/-! ## Selections -/

/-- The value is a text with at least one character. -/
def isSelected (v : Value) : Bool :=
  match v.text? with
  | some s => s != ""
  | none => false

/-- `validate_selection`: the problem with a selection of something: a list must hold a selected
text. -/
def checkSelection (what : String) (v : Value) : Option Problem :=
  match v with
  | .null => some (.nothingSelected what)
  | _ =>
    match v.items? with
    | none => some (.notASelection what)
    | some items => if items.any isSelected then none else some (.nothingSelected what)

/-! ## Required texts and addresses -/

/-- `validate_required`: the problem with a text that must not be blank. -/
def checkRequired (label : String) (v : Value) : Option Problem :=
  match Entry.of v with
  | .other => some (.notText label)
  | .blank => some (.required label)
  | .filled _ => none

/-- No white space and no at sign. -/
def isAddressChar (c : Char) : Bool :=
  c != '@' && !Text.isBlank c

/-- One at sign with something before it, and after it a dot that is neither first nor last; no
white space. -/
def isAddress (cs : List Char) : Bool :=
  let name := cs.takeWhile isAddressChar
  match cs.dropWhile isAddressChar with
  | '@' :: domain =>
    !name.isEmpty && domain.all isAddressChar && (domain.drop 1).dropLast.contains '.'
  | _ => false

/-- `validate_email`: the problem with an email address. -/
def checkEmail (v : Value) : Option Problem :=
  match Entry.of v with
  | .other => some (.notText "Email")
  | .blank => some (.required "Email")
  | .filled cs => if isAddress cs then none else some (.malformedEmail (String.ofList cs))

end HealthAlert.Form
