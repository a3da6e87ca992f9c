import HealthAlert.Bicep.Quoted

/-!
# Alert conditions

Model of `FieldEquals`, `AnyOf` and `AllOf` with `field_equals`, of `build_conditions` and its
`_dimension_clause`, and of `to_dsl`.

A condition compares a field of an event with a value, or joins conditions by `anyOf` or
`allOf`. `Condition.build` makes the condition of an alert from its selections: the category is
always compared; a dimension without selection adds nothing, one with a single selection a bare
comparison, and one with several an `anyOf` over them.

A `Draft` is a tree that may hold something that is no condition; `Draft.condition?` finds the
first such node.
-/

namespace HealthAlert

/-- The fields of an event that a condition may compare. -/
inductive ConditionField where
  | category
  | serviceName
  | incidentType
  | regionName
  deriving DecidableEq, Repr

/-- Where an event holds the field. -/
def ConditionField.path : ConditionField → String
  | .category => "category"
  | .serviceName => "properties.impactedServices[*].ServiceName"
  | .incidentType => "properties.incidentType"
  | .regionName => "properties.impactedServices[*].ImpactedRegions[*].RegionName"

/-- The category of every event that these alerts are about. -/
def serviceHealthCategory : String := "ServiceHealth"

/-- A condition. The texts of a comparison are quoted literals. -/
inductive Condition where
  | comparison (field equals : String)
  | anyOf (conditions : List Condition)
  | allOf (conditions : List Condition)
  deriving Repr, Inhabited

namespace Condition

/-- The comparison of the field at a path with a value, both given unquoted. -/
def atPath (path value : String) : Condition :=
  .comparison (Bicep.quote path) (Bicep.quote value)

/-- `field_equals`: the comparison of a field with a value. -/
def equals (field : ConditionField) (value : String) : Condition :=
  atPath field.path value

/-- What a selection in one dimension asks for, if anything was selected. -/
def ofSelection (field : ConditionField) : List String → Option Condition
  | [] => none
  | [value] => some (equals field value)
  | values => some (.anyOf (values.map (equals field)))

/-- `build_conditions`: the conditions that an alert's event has to meet, the category first. -/
def build (services eventTypes regions : List String) : List Condition :=
  equals .category serviceHealthCategory ::
    [ofSelection .serviceName services, ofSelection .incidentType eventTypes,
      ofSelection .regionName regions].filterMap id

/-- The conditions for selections of which any may be missing; a missing one asks for nothing. -/
def buildFrom (services eventTypes regions : Option (List String)) : List Condition :=
  build (services.getD []) (eventTypes.getD []) (regions.getD [])

mutual

/-- `to_dsl`: the condition as a value of the template. -/
def toValue : Condition → Value
  | .comparison field value => .record [("field", .text field), ("equals", .text value)]
  | .anyOf cs => .record [("anyOf", .list (toValues cs))]
  | .allOf cs => .record [("allOf", .list (toValues cs))]

/-- The conditions as values of the template. -/
def toValues : List Condition → List Value
  | [] => []
  | c :: cs => toValue c :: toValues cs

end

/-- A tree that may hold something that is no condition. -/
inductive Draft where
  | comparison (field equals : String)
  | anyOf (conditions : List Draft)
  | allOf (conditions : List Draft)
  | other (v : Value)
  deriving Repr, Inhabited

/-- A value of this type stands where a condition is needed. -/
structure UnknownNode where
  typeName : String
  deriving DecidableEq, Repr

/-- The message about an unknown node. -/
def UnknownNode.message (n : UnknownNode) : String :=
  "Unknown condition node: " ++ n.typeName

mutual

/-- The condition that a tree is, or its first node in depth-first order that is none. -/
def Draft.condition? : Draft → Except UnknownNode Condition
  | .comparison field value => .ok (.comparison field value)
  | .anyOf ds => (Draft.conditions? ds).map .anyOf
  | .allOf ds => (Draft.conditions? ds).map .allOf
  | .other v => .error ⟨v.typeName⟩

/-- The conditions that trees are. -/
def Draft.conditions? : List Draft → Except UnknownNode (List Condition)
  | [] => .ok []
  | d :: ds =>
    match Draft.condition? d with
    | .error e => .error e
    | .ok c => (Draft.conditions? ds).map (c :: ·)

end

end Condition

end HealthAlert
