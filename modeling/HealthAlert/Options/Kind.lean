import HealthAlert.Failure.Basic

/-!
# Lists of options

Model of `OptionKind` and `resolve_option_kind`.

The form offers four lists to choose from. Each has its name, under which it is asked for and
which names its data file.
-/

namespace HealthAlert

/-- A list of options. -/
inductive OptionKind where
  | services
  | eventTypes
  | regions
  | severity
  deriving DecidableEq, Repr

namespace OptionKind

/-- The lists in the order in which they are offered. -/
def all : List OptionKind := [.services, .eventTypes, .regions, .severity]

/-- The name of a list. -/
def name : OptionKind → String
  | .services => "services"
  | .eventTypes => "eventTypes"
  | .regions => "regions"
  | .severity => "severity"

/-- The name of a list's data file. -/
def fileName (k : OptionKind) : String :=
  k.name ++ ".json"

/-- The list with a name. -/
def ofName? (name : String) : Option OptionKind :=
  all.find? (·.name == name)

theorem ofName?_name (k : OptionKind) : ofName? k.name = some k := by
  cases k <;> decide

theorem ofName?_eq_some_iff {name : String} {k : OptionKind} :
    ofName? name = some k ↔ name = k.name := by
  constructor
  · intro h
    have hname := List.find?_some h
    exact (beq_iff_eq.mp hname).symm
  · rintro rfl
    exact ofName?_name k

/-- The failure when no list has the name. -/
def unknown (name : String) : Failure where
  kind := .notFound
  message := "Unknown option list '" ++ name ++ "'"
  details := [("kind", .text name), ("available", .list (all.map fun k => .text k.name))]

/-- `resolve_option_kind`: the list with a name, or the failure that there is none. -/
def resolve (name : String) : Except Failure OptionKind :=
  match ofName? name with
  | some k => .ok k
  | none => .error (unknown name)

theorem resolve_eq_ok_iff {name : String} {k : OptionKind} :
    resolve name = .ok k ↔ name = k.name := by
  rw [← ofName?_eq_some_iff]
  unfold resolve
  cases ofName? name <;> simp

theorem resolve_eq_error_iff {name : String} {f : Failure} :
    resolve name = .error f ↔ (∀ k : OptionKind, name ≠ k.name) ∧ f = unknown name := by
  simp only [ne_eq, ← ofName?_eq_some_iff]
  unfold resolve
  cases ofName? name <;> simp [eq_comm]

end OptionKind

/-- One entry of a list: what is chosen, and how it is shown. -/
structure Choice where
  value : String
  label : String
  /-- How many of its two texts hold a lone surrogate. -/
  unpaired : Nat := 0
  deriving DecidableEq, Repr

/-- How many texts of these choices hold a lone surrogate. -/
def Choice.allUnpaired : List Choice → Nat
  | [] => 0
  | c :: cs => c.unpaired + allUnpaired cs

end HealthAlert
