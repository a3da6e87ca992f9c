import HealthAlert.Bicep.Quoted

/-!
# Literals

Model of the layouts of `_render_list` and `_render_mapping`.

`Literal` is what a template can hold: scalars, arrays and objects. `Literal.write` is the only
place where they become text.

* An empty array or object is `[]` or `{}`.
* An array of scalars that has at most `threshold` elements, and an object with one entry that is
  a scalar, stand on one line.
* Everything else takes a line for each element or entry, at the indent of the caller, whose
  closing bracket stands at the same indent; what is nested is indented two spaces further.
-/

namespace HealthAlert.Bicep

/-- A value that is written in one piece. -/
inductive Scalar where
  | bool (b : Bool)
  | int (n : Int)
  | float (x : Double)
  | text (s : String)
  | member (m : TextMember)
  deriving DecidableEq, Repr

namespace Scalar

/-- The scalar in its canonical form: a number without fractional part has no point, and a text
stands as it is. -/
def content : Scalar → String
  | .bool b => if b then "true" else "false"
  | .int n => toString n
  | .float x => match x.toInt? with
    | some n => toString n
    | none => x.text
  | .text s => s
  | .member m => m.text

/-- The scalar as the only entry of an object: there a member of an enumeration is written by its
name. -/
def soleContent : Scalar → String
  | .member m => m.fullName
  | s => s.content

end Scalar

/-- A literal of the template language. -/
inductive Literal where
  | scalar (s : Scalar)
  | array (items : List Literal)
  | object (entries : List (String × Literal))
  deriving Repr, Inhabited

namespace Literal

/-- The scalar that a literal is. -/
def scalar? : Literal → Option Scalar
  | .scalar s => some s
  | _ => none

/-- How much further nested lines are indented. -/
def indentStep : List Char := [' ', ' ']

/-- The elements when the array stands on one line: at most `threshold` of them, all scalars. -/
def inlineItems? (threshold : Int) (items : List Literal) : Option (List Scalar) :=
  if (items.length : Int) ≤ threshold then items.mapM scalar? else none

mutual

/-- The characters of a literal whose lines start at `indent`. -/
def write (threshold : Int) (indent : List Char) : Literal → List Char
  | .scalar s => s.content.toList
  | .array [] => ['[', ']']
  | .array (item :: items) =>
    match inlineItems? threshold (item :: items) with
    | some scalars =>
      '[' :: (scalars.flatMap (fun s => ' ' :: s.content.toList) ++ [' ', ']'])
    | none => '[' :: (writeItems threshold indent (item :: items) ++ '\n' :: (indent ++ [']']))
  | .object [] => ['\x7b', '\x7d']
  | .object [(key, .scalar s)] =>
    '\x7b' :: ' ' :: (keyChars key.toList ++ ':' :: ' ' :: (s.soleContent.toList ++ [' ', '\x7d']))
  | .object (entry :: entries) =>
    '\x7b' :: (writeEntries threshold indent (entry :: entries) ++ '\n' :: (indent ++ ['\x7d']))

/-- A line for each element. -/
def writeItems (threshold : Int) (indent : List Char) : List Literal → List Char
  | [] => []
  | item :: items =>
    '\n' :: (indent ++ write threshold (indent ++ indentStep) item) ++
      writeItems threshold indent items

/-- A line for each entry. -/
def writeEntries (threshold : Int) (indent : List Char) : List (String × Literal) → List Char
  | [] => []
  | (key, item) :: entries =>
    '\n' :: (indent ++ (keyChars key.toList ++
      ':' :: ' ' :: write threshold (indent ++ indentStep) item)) ++
      writeEntries threshold indent entries

end

/-- The text of a literal. -/
def text (indent : String) (threshold : Int) (l : Literal) : String :=
  String.ofList (l.write threshold indent.toList)

end Literal

end HealthAlert.Bicep
