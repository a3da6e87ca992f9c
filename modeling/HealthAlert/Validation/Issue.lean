import HealthAlert.Value.Basic

/-!
# Issues of validation

An `Issue` says what is wrong with one part of structured input: where it is, why it is refused,
and the refused value. `Checked` is a result that collects the issues of all parts.
-/

namespace HealthAlert

/-- One step to a part of structured input. -/
inductive Place where
  | field (name : String)
  | index (i : Nat)
  deriving DecidableEq, Repr

/-- The step as text. -/
def Place.text : Place → String
  | .field name => name
  | .index i => toString i

/-- Why a value is refused. -/
inductive Refusal where
  | missing
  | notText
  | notAList
  /-- A record is needed, of this model. -/
  | notARecord (model : String)
  /-- A record is needed, or something that has fields. -/
  | withoutFields
  /-- A record is needed, with any fields. -/
  | notAMapping
  | notAMode
  | tooLong (limit : Nat)
  | tooShort (limit : Nat)
  /-- The text has no UTF-8, and its length is asked for. -/
  | notUnicode
  /-- A rule of the domain refuses the value, with this message. -/
  | rejected (message : String)
  | notAnInteger
  | unreadableInteger
  | oversizedInteger
  | fractionalInteger
  | notFinite
  | notATruthValue
  | unreadableTruthValue
  | notAPath
  /-- The text is not JSON, for this reason. -/
  | malformedText (reason : String)
  deriving DecidableEq, Repr

namespace Refusal

/-- The name of the kind of refusal. -/
def type : Refusal → String
  | .missing => "missing"
  | .notText => "string_type"
  | .notAList => "list_type"
  | .notARecord _ => "model_type"
  | .withoutFields => "model_attributes_type"
  | .notAMapping => "dict_type"
  | .notAMode => "enum"
  | .tooLong _ => "string_too_long"
  | .tooShort _ => "string_too_short"
  | .notUnicode => "string_unicode"
  | .rejected _ => "value_error"
  | .notAnInteger => "int_type"
  | .unreadableInteger => "int_parsing"
  | .oversizedInteger => "int_parsing_size"
  | .fractionalInteger => "int_from_float"
  | .notFinite => "finite_number"
  | .notATruthValue => "bool_type"
  | .unreadableTruthValue => "bool_parsing"
  | .notAPath => "path_type"
  | .malformedText _ => "json_invalid"

/-- A number of characters in words. -/
def characters (n : Nat) : String :=
  toString n ++ (if n = 1 then " character" else " characters")

/-- The refusal in words. -/
def message : Refusal → String
  | .missing => "Field required"
  | .notText => "Input should be a valid string"
  | .notAList => "Input should be a valid list"
  | .notARecord model => "Input should be a valid dictionary or instance of " ++ model
  | .withoutFields => "Input should be a valid dictionary or object to extract fields from"
  | .notAMapping => "Input should be a valid dictionary"
  | .notAMode => "Input should be 'existing' or 'quick'"
  | .tooLong n => "String should have at most " ++ characters n
  | .tooShort n => "String should have at least " ++ characters n
  | .notUnicode =>
    "Input should be a valid string, unable to parse raw data as a unicode string"
  | .rejected m => "Value error, " ++ m
  | .notAnInteger => "Input should be a valid integer"
  | .unreadableInteger =>
    "Input should be a valid integer, unable to parse string as an integer"
  | .oversizedInteger =>
    "Unable to parse input string as an integer, exceeded maximum size"
  | .fractionalInteger =>
    "Input should be a valid integer, got a number with a fractional part"
  | .notFinite => "Input should be a finite number"
  | .notATruthValue => "Input should be a valid boolean"
  | .unreadableTruthValue => "Input should be a valid boolean, unable to interpret input"
  | .notAPath => "Input is not a valid path for <class 'pathlib.Path'>"
  | .malformedText _ => "JSON decode error"

/-- What else an answer says about the refusal. -/
def context : Refusal → List (String × Value)
  | .notAMode => [("expected", .text "'existing' or 'quick'")]
  | .tooLong n => [("max_length", .int n)]
  | .tooShort n => [("min_length", .int n)]
  | .rejected _ => [("error", .record [])]
  | .malformedText reason => [("error", .text reason)]
  | _ => []

end Refusal

/-- A refused part of structured input. -/
structure Issue where
  place : List Place
  refusal : Refusal
  value : Value
  deriving Repr

/-- The issue, seen from one level further out. -/
def Issue.under (step : Place) (i : Issue) : Issue :=
  { i with place := step :: i.place }

/-- A result, or all the issues that stand in its way. -/
inductive Checked (α : Type) where
  | accepted (a : α)
  | refused (issues : List Issue)
  deriving Repr

namespace Checked

variable {α β : Type}

/-- The function applied to an accepted result. -/
def map (f : α → β) : Checked α → Checked β
  | .accepted a => .accepted (f a)
  | .refused issues => .refused issues

/-- The function applied to the argument; the issues of both, those of the function first. -/
def apply : Checked (α → β) → Checked α → Checked β
  | .accepted f, .accepted a => .accepted (f a)
  | .accepted _, .refused issues => .refused issues
  | .refused issues, .accepted _ => .refused issues
  | .refused issues, .refused more => .refused (issues ++ more)

instance : Applicative Checked where
  pure := .accepted
  map := map
  seq f x := apply f (x ())

/-- One issue with the value as a whole. -/
def refuse (r : Refusal) (v : Value) : Checked α :=
  .refused [⟨[], r, v⟩]

/-- A result of a part, its issues placed under the step that leads to the part. -/
def under (step : Place) : Checked α → Checked α
  | .accepted a => .accepted a
  | .refused issues => .refused (issues.map (·.under step))

/-- The results for the elements of a list, or the issues of all of them, placed by index. -/
def all (check : Value → Checked α) (first : Nat) : List Value → Checked (List α)
  | [] => .accepted []
  | v :: vs => List.cons <$> under (.index first) (check v) <*> all check (first + 1) vs

/-- The result when no rule of the domain has a problem with it; `v` is what it was made from. -/
def guarded (x : Checked α) (v : Value) (problem : α → Option String) : Checked α :=
  match x with
  | .refused issues => .refused issues
  | .accepted a =>
    match problem a with
    | none => .accepted a
    | some message => refuse (.rejected message) v

/-- The result as a success or the list of issues. -/
def toExcept : Checked α → Except (List Issue) α
  | .accepted a => .ok a
  | .refused issues => .error issues

end Checked

end HealthAlert
