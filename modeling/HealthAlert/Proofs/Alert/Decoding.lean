import HealthAlert.Alert.Condition
import HealthAlert.Proofs.Bicep.Refusing

/-!
# Conditions read back from their values

The three kinds of condition have values of different shapes, so that a condition can be read back
from its value (`decode?`), and the comparisons stand in the value in the order in which they stand
in the condition (`leaves`).

A tree that holds something else than conditions has no value. It is refused for the first such
node, where the nodes are listed each before its children and these from left to right
(`Draft.nodes`).

* `decode?_eq_some_iff`: a value is read as a condition exactly when it is the condition's value.
* `condition?_eq_ok_iff`, `condition?_eq_error_iff`: both ways in which reading a tree ends.
* `toValue?_eq`: a tree may be turned into a value in one pass, without making the condition first.
* **`toValue_lossless`**: all of it together.
-/

namespace HealthAlert.Condition

open Bicep (exists_of_map_eq_ok map_eq_error_iff mapError_eq_error_iff)

/-! ## Reading a value -/

mutual

/-- The condition whose value this is. A value of any other shape is none. -/
def decode? : Value → Option Condition
  | .record [("field", .text field), ("equals", .text value)] => some (.comparison field value)
  | .record [("anyOf", .list vs)] => (decodeAll? vs).map .anyOf
  | .record [("allOf", .list vs)] => (decodeAll? vs).map .allOf
  | _ => none

/-- The conditions whose values these are. -/
def decodeAll? : List Value → Option (List Condition)
  | [] => some []
  | v :: vs => (decode? v).bind fun c => (decodeAll? vs).map (c :: ·)

end

mutual

theorem decode?_toValue : ∀ c : Condition, decode? c.toValue = some c
  | .comparison _ _ => rfl
  | .anyOf cs => by rw [toValue, decode?, decodeAll?_toValues cs, Option.map_some]
  | .allOf cs => by rw [toValue, decode?, decodeAll?_toValues cs, Option.map_some]

theorem decodeAll?_toValues : ∀ cs : List Condition, decodeAll? (toValues cs) = some cs
  | [] => rfl
  | c :: cs => by
    rw [toValues, decodeAll?, decode?_toValue c, decodeAll?_toValues cs]
    rfl

end

mutual

theorem eq_toValue_of_decode? (v : Value) (c : Condition) (h : decode? v = some c) :
    v = c.toValue := by
  unfold decode? at h
  split at h
  · obtain rfl := Option.some.inj h
    rfl
  · obtain ⟨cs, hcs, rfl⟩ := Option.map_eq_some_iff.mp h
    rw [toValue, eq_toValues_of_decodeAll? _ cs hcs]
  · obtain ⟨cs, hcs, rfl⟩ := Option.map_eq_some_iff.mp h
    rw [toValue, eq_toValues_of_decodeAll? _ cs hcs]
  · exact absurd h (by simp)

theorem eq_toValues_of_decodeAll? (vs : List Value) (cs : List Condition)
    (h : decodeAll? vs = some cs) : vs = toValues cs := by
  match vs with
  | [] =>
    obtain rfl := Option.some.inj h
    rfl
  | v :: vs =>
    obtain ⟨c, hc, hmap⟩ := Option.bind_eq_some_iff.mp h
    obtain ⟨rest, hrest, rfl⟩ := Option.map_eq_some_iff.mp hmap
    rw [toValues, eq_toValue_of_decode? v c hc, eq_toValues_of_decodeAll? vs rest hrest]

end

/-- **A value is read as a condition exactly when it is the condition's value.** -/
theorem decode?_eq_some_iff {v : Value} {c : Condition} :
    decode? v = some c ↔ v = c.toValue :=
  ⟨eq_toValue_of_decode? v c, fun h => h ▸ decode?_toValue c⟩

/-! ## Comparisons in order -/

mutual

/-- The comparisons of a condition from left to right, each as its two texts. -/
def leaves : Condition → List (String × String)
  | .comparison field value => [(field, value)]
  | .anyOf cs => leavesOf cs
  | .allOf cs => leavesOf cs

/-- The comparisons of conditions, one condition after the other. -/
def leavesOf : List Condition → List (String × String)
  | [] => []
  | c :: cs => leaves c ++ leavesOf cs

end

/-- The two texts of a comparison's value. -/
def leaf? : Value → Option (String × String)
  | .record [("field", .text field), ("equals", .text value)] => some (field, value)
  | _ => none

/-- A record of a single list adds no comparison to those in the list. -/
theorem filterMap_nodes_of_list (key : String) (vs : List Value) :
    (Value.record [(key, .list vs)]).nodes.filterMap leaf? =
      (Value.nodesOfItems vs).filterMap leaf? := by
  have hrecord : leaf? (.record [(key, .list vs)]) = none := by simp [leaf?]
  have hlist : leaf? (.list vs) = none := rfl
  simp [Value.nodes, Value.nodesOfFields, hrecord, hlist]

mutual

/-- **The value of a condition holds its comparisons in their order.** -/
theorem filterMap_nodes_toValue : ∀ c : Condition, c.toValue.nodes.filterMap leaf? = c.leaves
  | .comparison _ _ => rfl
  | .anyOf cs => (filterMap_nodes_of_list _ _).trans (filterMap_nodes_toValues cs)
  | .allOf cs => (filterMap_nodes_of_list _ _).trans (filterMap_nodes_toValues cs)

theorem filterMap_nodes_toValues :
    ∀ cs : List Condition, (Value.nodesOfItems (toValues cs)).filterMap leaf? = leavesOf cs
  | [] => rfl
  | c :: cs => by
    rw [toValues, Value.nodesOfItems, List.filterMap_append, filterMap_nodes_toValue c,
      filterMap_nodes_toValues cs, leavesOf]

end

/-! ## Trees -/

mutual

/-- The condition as a tree. -/
def draft : Condition → Draft
  | .comparison field value => .comparison field value
  | .anyOf cs => .anyOf (drafts cs)
  | .allOf cs => .allOf (drafts cs)

/-- The conditions as trees. -/
def drafts : List Condition → List Draft
  | [] => []
  | c :: cs => draft c :: drafts cs

end

namespace Draft

mutual

/-- All nodes of a tree, each before its children and these from left to right. -/
def nodes : Draft → List Draft
  | .anyOf ds => .anyOf ds :: nodesOf ds
  | .allOf ds => .allOf ds :: nodesOf ds
  | d => [d]

/-- The nodes of trees, one tree after the other. -/
def nodesOf : List Draft → List Draft
  | [] => []
  | d :: ds => nodes d ++ nodesOf ds

end

/-- What stands in the place of a condition, where the node is none. -/
def unknown? : Draft → Option Value
  | .other v => some v
  | _ => none

/-- The first thing in a tree that stands in the place of a condition. -/
def firstUnknown? (ds : List Draft) : Option Value :=
  ds.findSome? unknown?

mutual

/-- The value of a tree, made in one pass, or the first node that is no condition. -/
def toValue? : Draft → Except UnknownNode Value
  | .comparison field value => .ok (.record [("field", .text field), ("equals", .text value)])
  | .anyOf ds => (toValues? ds).map fun vs => .record [("anyOf", .list vs)]
  | .allOf ds => (toValues? ds).map fun vs => .record [("allOf", .list vs)]
  | .other v => .error ⟨v.typeName⟩

/-- The values of trees. -/
def toValues? : List Draft → Except UnknownNode (List Value)
  | [] => .ok []
  | d :: ds =>
    match toValue? d with
    | .error e => .error e
    | .ok v => (toValues? ds).map (v :: ·)

end

/-! ### Trees of conditions -/

/-- Where trees are read, the first is read and the others are. -/
theorem exists_of_conditions?_cons {d : Draft} {ds : List Draft} {cs : List Condition}
    (h : conditions? (d :: ds) = .ok cs) :
    ∃ c rest, condition? d = .ok c ∧ conditions? ds = .ok rest ∧ c :: rest = cs := by
  rw [conditions?] at h
  cases hd : condition? d with
  | error e =>
    rw [hd] at h
    exact nomatch h
  | ok c =>
    rw [hd] at h
    obtain ⟨rest, hrest, rfl⟩ := exists_of_map_eq_ok h
    exact ⟨c, rest, rfl, hrest, rfl⟩

mutual

theorem condition?_draft : ∀ c : Condition, condition? c.draft = .ok c
  | .comparison _ _ => rfl
  | .anyOf cs => by
    rw [Condition.draft, condition?, conditions?_drafts cs]
    rfl
  | .allOf cs => by
    rw [Condition.draft, condition?, conditions?_drafts cs]
    rfl

theorem conditions?_drafts : ∀ cs : List Condition, conditions? (drafts cs) = .ok cs
  | [] => rfl
  | c :: cs => by
    rw [drafts, conditions?, condition?_draft c, conditions?_drafts cs]
    rfl

end

mutual

theorem eq_draft_of_condition? :
    ∀ (d : Draft) (c : Condition), condition? d = .ok c → d = c.draft
  | .comparison _ _, c, h => by
    obtain rfl := Except.ok.inj h
    rfl
  | .anyOf ds, c, h => by
    obtain ⟨cs, hcs, rfl⟩ := exists_of_map_eq_ok h
    rw [Condition.draft, eq_drafts_of_conditions? ds cs hcs]
  | .allOf ds, c, h => by
    obtain ⟨cs, hcs, rfl⟩ := exists_of_map_eq_ok h
    rw [Condition.draft, eq_drafts_of_conditions? ds cs hcs]
  | .other _, c, h => nomatch h

theorem eq_drafts_of_conditions? :
    ∀ (ds : List Draft) (cs : List Condition), conditions? ds = .ok cs → ds = drafts cs
  | [], cs, h => by
    obtain rfl := Except.ok.inj h
    rfl
  | d :: ds, cs, h => by
    obtain ⟨c, rest, hc, hrest, rfl⟩ := exists_of_conditions?_cons h
    rw [drafts, eq_draft_of_condition? d c hc, eq_drafts_of_conditions? ds rest hrest]

end

/-- **A tree is read as a condition exactly when it is the condition's tree.** -/
theorem condition?_eq_ok_iff {d : Draft} {c : Condition} : condition? d = .ok c ↔ d = c.draft :=
  ⟨eq_draft_of_condition? d c, fun h => h ▸ condition?_draft c⟩

/-! ### Other trees -/

/-- Trees are refused for the first one, or else for the others. -/
theorem conditions?_cons_eq_error_iff {d : Draft} {ds : List Draft} {e : UnknownNode} :
    conditions? (d :: ds) = .error e ↔
      condition? d = .error e ∨ (∀ g, condition? d ≠ .error g) ∧ conditions? ds = .error e := by
  rw [conditions?]
  cases condition? d with
  | error g => simp
  | ok c => simp [map_eq_error_iff]

/-- The error names the type of the first node that is no condition. -/
def NamesFirst (ds : List Draft) (e : UnknownNode) : Prop :=
  ∃ v, firstUnknown? ds = some v ∧ e = ⟨v.typeName⟩

theorem namesFirst_append {ds ds' : List Draft} {e : UnknownNode} :
    NamesFirst (ds ++ ds') e ↔
      NamesFirst ds e ∨ (∀ g, ¬ NamesFirst ds g) ∧ NamesFirst ds' e := by
  unfold NamesFirst firstUnknown?
  rw [List.findSome?_append]
  cases ds.findSome? unknown? <;> simp

theorem namesFirst_cons_of_known {d : Draft} (h : d.unknown? = none) {ds : List Draft}
    {e : UnknownNode} : NamesFirst (d :: ds) e ↔ NamesFirst ds e := by
  unfold NamesFirst firstUnknown?
  rw [List.findSome?_cons, h]

mutual

/-- **Reading a tree refuses its first node that is no condition.** -/
theorem condition?_eq_error_iff :
    ∀ (d : Draft) (e : UnknownNode), condition? d = .error e ↔ NamesFirst d.nodes e
  | .comparison _ _, e => by simp [condition?, nodes, NamesFirst, firstUnknown?, unknown?]
  | .other v, e => by simp [condition?, nodes, NamesFirst, firstUnknown?, unknown?, eq_comm]
  | .anyOf ds, e => by
    rw [condition?, map_eq_error_iff, nodes, namesFirst_cons_of_known rfl]
    exact conditions?_eq_error_iff ds e
  | .allOf ds, e => by
    rw [condition?, map_eq_error_iff, nodes, namesFirst_cons_of_known rfl]
    exact conditions?_eq_error_iff ds e

theorem conditions?_eq_error_iff :
    ∀ (ds : List Draft) (e : UnknownNode), conditions? ds = .error e ↔ NamesFirst (nodesOf ds) e
  | [], e => by simp [conditions?, nodesOf, NamesFirst, firstUnknown?]
  | d :: ds, e => by
    rw [conditions?_cons_eq_error_iff, nodesOf, namesFirst_append, conditions?_eq_error_iff ds e]
    simp only [ne_eq, condition?_eq_error_iff d]

end

/-- A tree is that of a condition exactly when all its nodes are conditions. -/
theorem exists_eq_draft_iff (d : Draft) :
    (∃ c : Condition, d = c.draft) ↔ firstUnknown? d.nodes = none := by
  simp only [← condition?_eq_ok_iff]
  cases hd : condition? d with
  | ok c =>
    refine iff_of_true ⟨c, rfl⟩ (Option.eq_none_iff_forall_ne_some.mpr fun v hv => ?_)
    have herror := (condition?_eq_error_iff d ⟨v.typeName⟩).mpr ⟨v, hv, rfl⟩
    exact absurd (hd.symm.trans herror) (by simp)
  | error e =>
    obtain ⟨v, hv, -⟩ := (condition?_eq_error_iff d e).mp hd
    refine iff_of_false (by simp) ?_
    rw [hv]
    simp

/-! ### One pass -/

mutual

/-- **Making a value in one pass is reading the condition first and taking its value.** -/
theorem toValue?_eq : ∀ d : Draft, d.toValue? = (condition? d).map Condition.toValue
  | .comparison _ _ => rfl
  | .other _ => rfl
  | .anyOf ds => by
    rw [toValue?, condition?, toValues?_eq ds]
    cases conditions? ds <;> rfl
  | .allOf ds => by
    rw [toValue?, condition?, toValues?_eq ds]
    cases conditions? ds <;> rfl

theorem toValues?_eq : ∀ ds : List Draft, toValues? ds = (conditions? ds).map Condition.toValues
  | [] => rfl
  | d :: ds => by
    rw [toValues?, conditions?, toValue?_eq d, toValues?_eq ds]
    cases condition? d with
    | error e => rfl
    | ok c => cases conditions? ds <;> rfl

end

end Draft

/-- **Nothing of a condition is lost in its value, and no other tree has a value.** A condition is
read back from its value, which holds the comparisons in their order. A tree is that of a condition
unless a node of it is none; then its value is refused, in one pass or in two, with the name of the
type of the first such node. -/
theorem toValue_lossless :
    (∀ c : Condition, c.draft.condition? = .ok c ∧
      (∀ v, decode? v = some c ↔ v = c.toValue) ∧
      c.toValue.nodes.filterMap leaf? = c.leaves) ∧
    ∀ d : Draft, d.toValue? = d.condition?.map toValue ∧
      ((∃ c : Condition, d = c.draft) ↔ Draft.firstUnknown? d.nodes = none) ∧
      ∀ m, d.toValue?.mapError UnknownNode.message = .error m ↔
        ∃ v, Draft.firstUnknown? d.nodes = some v ∧
          m = "Unknown condition node: " ++ v.typeName := by
  refine ⟨fun c => ⟨Draft.condition?_draft c, fun _ => decode?_eq_some_iff,
    filterMap_nodes_toValue c⟩,
    fun d => ⟨d.toValue?_eq, d.exists_eq_draft_iff, fun m => ?_⟩⟩
  rw [mapError_eq_error_iff, d.toValue?_eq]
  simp only [map_eq_error_iff, Draft.condition?_eq_error_iff, Draft.NamesFirst]
  constructor
  · rintro ⟨_, ⟨v, hv, rfl⟩, rfl⟩
    exact ⟨v, hv, rfl⟩
  · rintro ⟨v, hv, rfl⟩
    exact ⟨_, ⟨v, hv, rfl⟩, rfl⟩

/-- Of two unknown nodes the one that stands first is named, though the second is the shallower. -/
example :
    (Draft.allOf [.comparison "a" "b", .anyOf [.other (.list [])], .other .null]).toValue? =
      .error ⟨"list"⟩ := rfl

end HealthAlert.Condition
