import HealthAlert.Proofs.Permissions.Completeness

/-!
# What the pass adds

`Supplements v w` says that the document `w` is `v` with missing lists of actions added and nothing
else, place by place: what stands in `v` stays, records keep their fields first and in order, lists
their length, and every new place is that of an empty list in a permission entry. Deleting what
stands at new places gives `v` back.

* `delete_normalForm`: the deletion, by induction on the value.
* **`supplements_complete`**: the pass supplements every document.
-/

namespace HealthAlert.Permissions

open Value (Place)

/-- `w` is the document `v` with the lists of actions added that its permission entries lack, and
nothing else. -/
structure Supplements (v w : Value) : Prop where
  /-- Everything stays where it stands, in the normal form of its role. -/
  kept : ∀ {p x}, v.at? p = some x → w.at? p = some (normalForm (roleAt p) x)
  /-- The fields of a record stay first and in their order; behind them come the missing lists of
  actions, where the record is a permission entry. -/
  record : ∀ {p es}, v.at? p = some (.record es) →
    w.at? p = some (.record ((es.map fun e => (e.1, normalForm (roleAt (p ++ [.field e.1])) e.2)) ++
      supplement (roleAt p) es))
  /-- A list keeps its length. -/
  list : ∀ {p vs}, v.at? p = some (.list vs) →
    ∃ ws, w.at? p = some (.list ws) ∧ ws.length = vs.length
  /-- Everything but a list or a record is unchanged. -/
  atom : ∀ {p x}, v.at? p = some x → x.isAtom = true → w.at? p = some x
  /-- What stands at a new place is an empty list under an action key that a record of a permission
  block lacked. -/
  added : ∀ {p y}, v.at? p = none → w.at? p = some y →
    y = .list [] ∧ ∃ q i es key, p = q ++ [.field blockKey, .element i, .field key] ∧
      v.at? (q ++ [.field blockKey, .element i]) = some (.record es) ∧ key ∈ actionKeys ∧
      Keyed.has es key = false
  /-- Without what stands at new places the result is the document. -/
  restored : w.delete (fun p => (v.at? p).isNone) = v

/-- At the place of an added field the record has nothing. -/
theorem at?_of_mem_supplement {r : Role} {es : List (String × Value)} {e : String × Value}
    (h : e ∈ supplement r es) : (Value.record es).at? [.field e.1] = none := by
  obtain ⟨-, -, hhas, -⟩ := mem_supplement_iff.mp h
  rw [Keyed.has, Option.isSome_eq_false_iff, Option.isNone_iff_eq_none] at hhas
  rw [Value.at?, Value.child?, hhas, Option.bind_none]

/-- **Deleting what stands at new places gives the value back.** -/
theorem delete_normalForm {v : Value} {r : Role} {gone : Place → Bool} (hv : v.DistinctKeys)
    (hgone : ∀ p, gone p = (v.at? p).isNone) : (normalForm r v).delete gone = v := by
  induction v using Value.inductionOn generalizing r gone with
  | atom v hatom => rw [normalForm_of_isAtom r hatom, Value.delete_of_isAtom hatom]
  | list vs ih =>
    rw [normalForm_list r vs 0, Value.delete, Value.deleteItems_map fun i v hi => ?_]
    have hmem := List.mem_of_getElem? hi
    refine ih v hmem (Value.allDistinctKeys_iff.mp hv v hmem) fun p => ?_
    rw [hgone, Nat.zero_add, Value.at?, Value.child?, hi, Option.bind_some]
  | record es ih =>
    have hkept : ∀ e ∈ es, ∀ p, gone (.field e.1 :: p) = (e.2.at? p).isNone := by
      intro e hmem p
      rw [hgone, Value.at?, Value.child?, Keyed.get?_of_mem hv.1 hmem, Option.bind_some]
    have hadded : ∀ e ∈ supplement r es, gone [.field e.1] = true := by
      intro e hmem
      rw [hgone, at?_of_mem_supplement hmem, Option.isNone_none]
    rw [normalForm_record, Value.delete, Value.deleteFields_append,
      Value.deleteFields_eq_nil hadded, List.append_nil,
      Value.deleteFields_map (fun e hmem => hkept e hmem []) fun e hmem => ?_]
    exact ih e hmem (Value.holdDistinctKeys_iff.mp hv.2 e hmem) (hkept e hmem)

/-- **The pass adds the missing lists of actions and nothing else.** -/
theorem supplements_complete {v : Value} (hv : v.DistinctKeys) : Supplements v (complete v) where
  kept hp := at?_complete hp
  record hp := by
    rw [at?_complete hp, normalForm_record]
    simp only [normalField, roleAt_concat]
  list {p vs} hp := by
    refine ⟨_, (at?_complete hp).trans (congrArg some (normalForm_list _ vs 0)), ?_⟩
    rw [List.length_map]
  atom hp hatom := by rw [at?_complete hp, normalForm_of_isAtom _ hatom]
  added {p y} hnone hp := by
    rcases at?_of_complete hp with ⟨x, hx, -⟩ | ⟨q, s, x, rfl, hx, hadds⟩
    · cases hnone.symm.trans hx
    · obtain ⟨hrole, hempty, es, key, rfl, rfl, hkey, hhas⟩ := hadds
      obtain ⟨q', i, rfl⟩ := roleAt_eq_entry_iff.mp hrole
      exact ⟨hempty, q', i, es, key, by simp, hx, hkey, hhas⟩
  restored := delete_normalForm (r := .plain) hv fun _ => rfl

theorem supplements_nestedBlocks :
    nestedBlocks.DistinctKeys ∧ Supplements nestedBlocks (complete nestedBlocks) :=
  ⟨distinctKeys_nestedBlocks, supplements_complete distinctKeys_nestedBlocks⟩

/-- An entry keeps what it has and where it has it; an element that is no record is no entry. -/
example :
    complete (.record [("permissions", .list [
      .record [("notActions", .list [.text "read"])], .text "read", .tuple [.record []]])]) =
    .record [("permissions", .list [
      .record [
        ("notActions", .list [.text "read"]),
        ("actions", .list []), ("dataActions", .list []), ("notDataActions", .list [])],
      .text "read", .tuple [.record []]])] := rfl

end HealthAlert.Permissions
