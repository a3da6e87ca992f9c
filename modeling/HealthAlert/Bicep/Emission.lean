import HealthAlert.Bicep.Render
import HealthAlert.Value.Integers

/-!
# Writing values

Model of `render`, `render_scalar`, `_render_list` and `_render_mapping` as they run.

`Bicep.emit` writes a value part by part from left to right. It chooses the layout of a list or a
record by looking at the values in it, and stops at the first value that cannot be written: one
that the template language cannot hold, or an integer that is too long.
-/

namespace HealthAlert.Bicep

/-- What stops the writing of a value. -/
inductive Stop where
  | refused (fault : RenderFault)
  /-- An integer is too long to be written. -/
  | longInteger
  deriving DecidableEq, Repr

/-- A scalar when it can be written, which an integer that is too long cannot. -/
def Scalar.writable : Scalar → Except Stop Scalar
  | .int n => if isLongInteger n then .error .longInteger else .ok (.int n)
  | s => .ok s

/-! ## Layouts -/

/-- Parts between brackets, with a gap before each part and before the closing bracket. -/
def enclosed (opening closing : Char) (gap : List Char) (parts : List (List Char)) : List Char :=
  opening :: (parts.flatMap (gap ++ ·) ++ (gap ++ [closing]))

/-- The gap before each part: none when there are no parts, a space on one line, and otherwise a
new line. -/
def Literal.gapOf (indent : List Char) (isEmpty onOneLine : Bool) : List Char :=
  if isEmpty then [] else if onOneLine then [' '] else '\n' :: indent

/-- The scalars of a list that stands on one line: at most `threshold` of them, and nothing else. -/
def inlineScalars? (threshold : Int) (vs : List Value) : Option (List Scalar) :=
  if (vs.length : Int) ≤ threshold then vs.mapM Scalar.ofValue? else none

/-- The key and the scalar of a record that stands on one line. -/
def soleScalar? : List (String × Value) → Option (String × Scalar)
  | [(key, v)] => (Scalar.ofValue? v).map (key, ·)
  | _ => none

/-! ## Writing -/

open Literal

mutual

/-- The characters of a value whose lines start at `indent`. -/
def emitChars (threshold : Int) (indent : List Char) : Value → Except Stop (List Char)
  | .list vs => (emitItems threshold (indent ++ indentStep) vs).map
      (enclosed '[' ']' (gapOf indent vs.isEmpty (inlineScalars? threshold vs).isSome))
  | .tuple vs => (emitItems threshold (indent ++ indentStep) vs).map
      (enclosed '[' ']' (gapOf indent vs.isEmpty (inlineScalars? threshold vs).isSome))
  | .record es =>
    match soleScalar? es with
    | some (key, s) => s.writable.map fun s => enclosed '\x7b' '\x7d' [' ']
        [keyChars key.toList ++ ':' :: ' ' :: s.soleContent.toList]
    | none => (emitFields threshold (indent ++ indentStep) es).map
        (enclosed '\x7b' '\x7d' (gapOf indent es.isEmpty false))
  | v =>
    match Scalar.ofValue? v with
    | some s => s.writable.map (·.content.toList)
    | none => .error (.refused (.notALiteral v.typeName))

/-- The characters of each value. -/
def emitItems (threshold : Int) (indent : List Char) :
    List Value → Except Stop (List (List Char))
  | [] => .ok []
  | v :: vs => (emitChars threshold indent v).bind fun part =>
      (emitItems threshold indent vs).map (part :: ·)

/-- The characters of each field. -/
def emitFields (threshold : Int) (indent : List Char) :
    List (String × Value) → Except Stop (List (List Char))
  | [] => .ok []
  | (key, v) :: es => (emitChars threshold indent v).bind fun part =>
      (emitFields threshold indent es).map ((keyChars key.toList ++ ':' :: ' ' :: part) :: ·)

end

/-- `render`: the text that is written for a value. -/
def emit (indent : String) (threshold : Int) (v : Value) : Except Stop String :=
  (emitChars threshold indent.toList v).map String.ofList

/-- `render_scalar`: the text that is written for a scalar. -/
def emitScalar (v : Value) : Except Stop String :=
  match Scalar.ofValue? v with
  | some s => s.writable.map Scalar.content
  | none => .error (.refused (.notAScalar v.typeName))

end HealthAlert.Bicep
