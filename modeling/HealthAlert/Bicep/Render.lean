import HealthAlert.Bicep.Literal
import HealthAlert.Failure.Basic

/-!
# Values as literals

Model of `render`, `render_scalar` and `is_scalar` on values that have a text.

`Literal.ofValue?` reads a value as a literal. It refuses what the template language cannot hold,
naming the first such value in depth-first order from left to right; whether it succeeds does not
depend on any layout. `Bicep.render` is the text of a value.
-/

namespace HealthAlert.Bicep

/-- Why a value has no text. -/
inductive RenderFault where
  /-- A value of this type stands where a literal is needed. -/
  | notALiteral (typeName : String)
  /-- A value of this type stands where a scalar is needed. -/
  | notAScalar (typeName : String)
  deriving DecidableEq, Repr

/-- The fault as a failure of the service. -/
def RenderFault.failure : RenderFault → Failure
  | .notALiteral t => ⟨.render, "Cannot render value of type " ++ t, [("type", .text t)]⟩
  | .notAScalar t => ⟨.render, "Unsupported scalar type: " ++ t, [("type", .text t)]⟩

/-- The scalar that a value is. -/
def Scalar.ofValue? : Value → Option Scalar
  | .bool b => some (.bool b)
  | .int n => some (.int n)
  | .float x => some (.float x)
  | .text s => some (.text s)
  | .member m => some (.member m)
  | _ => none

/-- `is_scalar`: the value is written in one piece. -/
def isScalar (v : Value) : Bool :=
  (Scalar.ofValue? v).isSome

/-- The canonical text of a scalar value, whatever the length of an integer. -/
def renderScalar (v : Value) : Except RenderFault String :=
  match Scalar.ofValue? v with
  | some s => .ok s.content
  | none => .error (.notAScalar v.typeName)

namespace Literal

mutual

/-- The literal that a value is. -/
def ofValue? : Value → Except RenderFault Literal
  | .bool b => .ok (.scalar (.bool b))
  | .int n => .ok (.scalar (.int n))
  | .float x => .ok (.scalar (.float x))
  | .text s => .ok (.scalar (.text s))
  | .member m => .ok (.scalar (.member m))
  | .list items => (ofItems? items).map .array
  | .tuple items => (ofItems? items).map .array
  | .record entries => (ofEntries? entries).map .object
  | .null => .error (.notALiteral "NoneType")
  | .foreign k => .error (.notALiteral k.typeName)

/-- The literals that values are. -/
def ofItems? : List Value → Except RenderFault (List Literal)
  | [] => .ok []
  | v :: vs =>
    match ofValue? v with
    | .error e => .error e
    | .ok l => (ofItems? vs).map (l :: ·)

/-- The entries of an object. -/
def ofEntries? : List (String × Value) → Except RenderFault (List (String × Literal))
  | [] => .ok []
  | (key, v) :: vs =>
    match ofValue? v with
    | .error e => .error e
    | .ok l => (ofEntries? vs).map ((key, l) :: ·)

end

end Literal

/-- Indent of the lines of a value when the caller gives none. -/
def defaultIndent : String := "    "

/-- How many scalars an array may have on one line when the caller sets no threshold. -/
def defaultThreshold : Int := 2

/-- The text of a value whose lines start at `indent`. -/
def render (indent : String) (threshold : Int) (v : Value) : Except RenderFault String :=
  (Literal.ofValue? v).map (·.text indent threshold)

end HealthAlert.Bicep
