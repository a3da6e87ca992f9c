import HealthAlert.Text.Blank
import HealthAlert.Text.Skeleton
import HealthAlert.Value.Integers

/-!
# Short names and tag keys

Model of `make_short_name` and `sanitize_tag_key`.

`shortName` derives the short name of an action group from any name: one to twelve lowercase
letters and digits that start with a letter. `tagKey` makes a key safe for the template: ASCII
letters, digits and `_ . -`, not starting with a digit; a blank key becomes the empty text. Both
are made from the text of any value, if it has one.
-/

namespace HealthAlert.Naming

/-- The short name of what has no usable name, and what is put before one that starts with a
digit. -/
def fallback : List Char := ['a', 'g']

/-- The most characters that a short name has. -/
def maxShortName : Nat := 12

/-- The characters of a short name from those of a name. -/
def shortNameChars (cs : List Char) : List Char :=
  match (cs.flatMap Text.skeleton).filter Text.isLowerAlnum with
  | [] => fallback
  | c :: rest => ((if c.isDigit then fallback else []) ++ c :: rest).take maxShortName

/-- The short name for a name. -/
def shortName (name : String) : String :=
  String.ofList (shortNameChars name.toList)

/-- `make_short_name`: the short name for any value that has a text; one that counts as nothing has
no usable name. -/
def shortNameOf? (v : Value) : Option String :=
  if v.truthy then v.display?.map shortName else some (String.ofList fallback)

/-- A character that a tag key may hold. -/
def isTagKeyChar (c : Char) : Bool :=
  c.isAlphanum || c == '_' || c == '.' || c == '-'

/-- The characters of a tag key from those that were entered. -/
def tagKeyChars (cs : List Char) : List Char :=
  match (Text.trimBlanks cs).map fun c => if isTagKeyChar c then c else '-' with
  | [] => []
  | c :: rest => if c.isDigit then 't' :: '-' :: c :: rest else c :: rest

/-- The tag key for the text that was entered. -/
def tagKey (key : String) : String :=
  String.ofList (tagKeyChars key.toList)

/-- The tag key for any value; one that counts as nothing gives the empty key. -/
def tagKeyOf (v : Value) : String :=
  if v.truthy then tagKey v.display else ""

/-- `sanitize_tag_key`: the tag key for any value that has a text. -/
def tagKeyOf? (v : Value) : Option String :=
  if v.truthy then v.display?.map tagKey else some ""

end HealthAlert.Naming
