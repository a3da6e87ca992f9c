import HealthAlert.Value.Basic

/-!
# Places in a value

A value is looked into through the elements of its lists and the fields of its records; a tuple is
seen as a whole. A `Place` is the way from a value to one inside it, `Value.at?` what stands there,
and `Value.delete` removes the fields at some places.

* `inductionOn`: induction on lists and records.
* `at?_append`, `at?_of_element_of_field`: what stands at a place is found step by step.
* `deleteItems_map`, `deleteFields_map`: when deletion undoes a change.
-/

namespace HealthAlert

namespace Value

/-- The value is seen as a whole: it is neither a list nor a record. -/
def isAtom : Value → Bool
  | .list _ => false
  | .record _ => false
  | _ => true

mutual

/-- A property of all values, from what it is for values that are seen as a whole, for lists of
values that have it, and for records of such values. -/
@[elab_as_elim]
theorem inductionOn {motive : Value → Prop} (atom : ∀ v, v.isAtom = true → motive v)
    (list : ∀ vs, (∀ v ∈ vs, motive v) → motive (.list vs))
    (record : ∀ es, (∀ e ∈ es, motive e.2) → motive (.record es)) : ∀ v, motive v
  | .list vs => list vs (forall_mem_items atom list record vs)
  | .record es => record es (forall_mem_fields atom list record es)
  | .null => atom _ rfl
  | .bool _ => atom _ rfl
  | .int _ => atom _ rfl
  | .float _ => atom _ rfl
  | .text _ => atom _ rfl
  | .member _ => atom _ rfl
  | .tuple _ => atom _ rfl
  | .foreign _ => atom _ rfl

theorem forall_mem_items {motive : Value → Prop} (atom : ∀ v, v.isAtom = true → motive v)
    (list : ∀ vs, (∀ v ∈ vs, motive v) → motive (.list vs))
    (record : ∀ es, (∀ e ∈ es, motive e.2) → motive (.record es)) :
    ∀ vs : List Value, ∀ v ∈ vs, motive v
  | [] => List.forall_mem_nil _
  | v :: vs => List.forall_mem_cons.mpr
      ⟨inductionOn atom list record v, forall_mem_items atom list record vs⟩

theorem forall_mem_fields {motive : Value → Prop} (atom : ∀ v, v.isAtom = true → motive v)
    (list : ∀ vs, (∀ v ∈ vs, motive v) → motive (.list vs))
    (record : ∀ es, (∀ e ∈ es, motive e.2) → motive (.record es)) :
    ∀ es : List (String × Value), ∀ e ∈ es, motive e.2
  | [] => List.forall_mem_nil _
  | (_, v) :: es => List.forall_mem_cons.mpr
      ⟨inductionOn atom list record v, forall_mem_fields atom list record es⟩

end

/-! ## Places -/

/-- A step from a value to one that it holds. -/
inductive Step where
  | element (i : Nat)
  | field (key : String)
  deriving DecidableEq, Repr

/-- The steps from a value to one inside it. -/
abbrev Place := List Step

/-- What a step leads to. -/
def child? : Value → Step → Option Value
  | .list vs, .element i => vs[i]?
  | .record es, .field key => Keyed.get? es key
  | _, _ => none

/-- What stands at a place. -/
def at? (v : Value) : Place → Option Value
  | [] => some v
  | s :: p => (v.child? s).bind (·.at? p)

theorem at?_append (v : Value) (p q : Place) : v.at? (p ++ q) = (v.at? p).bind (·.at? q) := by
  induction p generalizing v with
  | nil => rfl
  | cons s p ih =>
    rw [List.cons_append, at?, at?]
    cases v.child? s with
    | none => rfl
    | some x => exact ih x

/-- An element of a list in a field is reached through the record and the list. -/
theorem at?_of_element_of_field {v x : Value} {p : Place} {key : String} {i : Nat}
    (h : v.at? (p ++ [.field key, .element i]) = some x) :
    ∃ es vs, v.at? p = some (.record es) ∧ Keyed.get? es key = some (.list vs) ∧
      vs[i]? = some x := by
  rw [at?_append, Option.bind_eq_some_iff] at h
  obtain ⟨outer, houter, h⟩ := h
  rw [at?, Option.bind_eq_some_iff] at h
  obtain ⟨inner, hinner, h⟩ := h
  rw [at?, Option.bind_eq_some_iff] at h
  obtain ⟨y, hy, h⟩ := h
  cases h
  cases outer with
  | record es =>
    cases inner with
    | list vs => exact ⟨es, vs, houter, hinner, hy⟩
    | _ => exact nomatch hy
  | _ => exact nomatch hinner

/-! ## Documents -/

mutual

/-- No record that is reached repeats a key. -/
def DistinctKeys : Value → Prop
  | .list vs => AllDistinctKeys vs
  | .record es => (Keyed.keys es).Nodup ∧ HoldDistinctKeys es
  | _ => True

/-- No record in an element repeats a key. -/
def AllDistinctKeys : List Value → Prop
  | [] => True
  | v :: vs => DistinctKeys v ∧ AllDistinctKeys vs

/-- No record in the value of a field repeats a key. -/
def HoldDistinctKeys : List (String × Value) → Prop
  | [] => True
  | (_, v) :: es => DistinctKeys v ∧ HoldDistinctKeys es

end

theorem allDistinctKeys_iff {vs : List Value} :
    AllDistinctKeys vs ↔ ∀ v ∈ vs, v.DistinctKeys := by
  induction vs with
  | nil => simp [AllDistinctKeys]
  | cons v vs ih => simp [AllDistinctKeys, ih]

theorem holdDistinctKeys_iff {es : List (String × Value)} :
    HoldDistinctKeys es ↔ ∀ e ∈ es, e.2.DistinctKeys := by
  induction es with
  | nil => simp [HoldDistinctKeys]
  | cons e es ih => simp [HoldDistinctKeys, ih]

/-! ## Deletion -/

mutual

/-- The value without the fields at the places that are to go. -/
def delete (gone : Place → Bool) : Value → Value
  | .list vs => .list (deleteItems gone 0 vs)
  | .record es => .record (deleteFields gone es)
  | v => v

/-- The elements from the `i`-th on, without the fields that are to go. -/
def deleteItems (gone : Place → Bool) (i : Nat) : List Value → List Value
  | [] => []
  | v :: vs => delete (fun p => gone (.element i :: p)) v :: deleteItems gone (i + 1) vs

/-- The fields that are not to go. -/
def deleteFields (gone : Place → Bool) : List (String × Value) → List (String × Value)
  | [] => []
  | (key, v) :: es =>
    if gone [.field key] then deleteFields gone es
    else (key, delete (fun p => gone (.field key :: p)) v) :: deleteFields gone es

end

variable {gone : Place → Bool}

theorem delete_of_isAtom {v : Value} (h : v.isAtom = true) : v.delete gone = v := by
  cases v with
  | list vs => exact nomatch h
  | record es => exact nomatch h
  | _ => rfl

/-- Deletion undoes a change of elements when it undoes it in each. -/
theorem deleteItems_map {vs : List Value} {f : Value → Value} {i : Nat}
    (h : ∀ j v, vs[j]? = some v → (f v).delete (fun p => gone (.element (i + j) :: p)) = v) :
    deleteItems gone i (vs.map f) = vs := by
  induction vs generalizing i with
  | nil => rfl
  | cons v vs ih =>
    have hrest : ∀ j w, vs[j]? = some w →
        (f w).delete (fun p => gone (.element (i + 1 + j) :: p)) = w := by
      intro j w hw
      rw [Nat.add_right_comm]
      exact h (j + 1) w hw
    have hfirst : (f v).delete (fun p => gone (.element i :: p)) = v := h 0 v rfl
    rw [List.map_cons, deleteItems, hfirst, ih hrest]

/-- Deletion undoes a change of fields when it keeps each and undoes it there. -/
theorem deleteFields_map {es : List (String × Value)} {f : String → Value → Value}
    (hkeep : ∀ e ∈ es, gone [.field e.1] = false)
    (h : ∀ e ∈ es, (f e.1 e.2).delete (fun p => gone (.field e.1 :: p)) = e.2) :
    deleteFields gone (es.map fun e => (e.1, f e.1 e.2)) = es := by
  induction es with
  | nil => rfl
  | cons e es ih =>
    rw [List.forall_mem_cons] at hkeep h
    rw [List.map_cons, deleteFields, hkeep.1, if_neg (by decide), h.1, ih hkeep.2 h.2]

theorem deleteFields_append (es fs : List (String × Value)) :
    deleteFields gone (es ++ fs) = deleteFields gone es ++ deleteFields gone fs := by
  induction es with
  | nil => rfl
  | cons e es ih =>
    rw [List.cons_append, deleteFields, deleteFields, ih]
    split <;> rfl

/-- Fields that are all to go leave nothing. -/
theorem deleteFields_eq_nil {es : List (String × Value)}
    (h : ∀ e ∈ es, gone [.field e.1] = true) : deleteFields gone es = [] := by
  induction es with
  | nil => rfl
  | cons e es ih =>
    rw [List.forall_mem_cons] at h
    rw [deleteFields, if_pos h.1, ih h.2]

end Value

end HealthAlert
