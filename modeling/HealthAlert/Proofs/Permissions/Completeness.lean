import HealthAlert.Proofs.Permissions.Roles

/-!
# Complete documents

A document is complete when every record in the list under a `permissions` key, wherever in the
document it stands, has all lists of actions: the records at the places of entries, by
`isComplete_iff`.

* `isComplete_complete`: the pass gives complete documents.
* `normalForm_eq_self`: what is complete stays as it is, by induction on the value.
* `distinctKeys_complete`: the pass repeats no key.
* **`isComplete_complete_and_eq_self_iff`**: the pass leaves exactly the complete documents as they
  are, among them its own results.
-/

namespace HealthAlert.Permissions

open Value (Place)

/-- Every record in the list under a `permissions` key of the document has all lists of actions. -/
def IsComplete (d : Value) : Prop :=
  ∀ p es entries, d.at? p = some (.record es) → Keyed.get? es blockKey = some (.list entries) →
    ∀ fs, .record fs ∈ entries → ∀ key ∈ actionKeys, Keyed.has fs key = true

/-- Below a place of the role, every record that is an entry has all lists of actions. -/
def CompleteBelow (r : Role) (v : Value) : Prop :=
  ∀ p fs, p.foldl Role.next r = .entry → v.at? p = some (.record fs) →
    ∀ key ∈ actionKeys, Keyed.has fs key = true

theorem isComplete_iff {d : Value} : IsComplete d ↔ CompleteBelow .plain d := by
  constructor
  · intro h p fs hrole hp
    obtain ⟨q, i, rfl⟩ := roleAt_eq_entry_iff.mp hrole
    obtain ⟨es, entries, hq, hblock, hentry⟩ := Value.at?_of_element_of_field hp
    exact h q es entries hq hblock fs (List.mem_of_getElem? hentry)
  · intro h p es entries hp hblock fs hfs
    obtain ⟨i, hi⟩ := List.mem_iff_getElem?.mp hfs
    have helement : d.at? (p ++ [.field blockKey, .element i]) = some (.record fs) := by
      rw [Value.at?_append, hp, Option.bind_some, Value.at?, Value.child?, hblock, Option.bind_some,
        Value.at?, Value.child?, hi, Option.bind_some, Value.at?]
    exact h _ fs (roleAt_eq_entry_iff.mpr ⟨p, i, rfl⟩) helement

/-! ## Results of the pass -/

/-- A record in the normal form of an entry has all lists of actions. -/
theorem has_of_normalForm_entry {x : Value} {fs : List (String × Value)}
    (h : .record fs = normalForm .entry x) {key : String} (hkey : key ∈ actionKeys) :
    Keyed.has fs key = true := by
  cases x with
  | record es =>
    have hhas := has_append_missing (es.map fun e => (e.1, normalField .entry e.1 e.2)) hkey
    rw [missing_map] at hhas
    rw [normalForm_record] at h
    cases h
    exact hhas
  | _ => exact nomatch h

theorem isComplete_complete (v : Value) : IsComplete (complete v) := by
  rw [isComplete_iff]
  intro p fs hrole hp key hkey
  rcases at?_of_complete hp with ⟨x, -, hform⟩ | ⟨q, s, x, -, -, hadds⟩
  · rw [show roleAt p = .entry from hrole] at hform
    exact has_of_normalForm_entry hform hkey
  · exact nomatch hadds.2.1

/-! ## Documents that stay as they are -/

theorem supplement_eq_nil {r : Role} {es : List (String × Value)}
    (h : r = .entry → ∀ key ∈ actionKeys, Keyed.has es key = true) : supplement r es = [] := by
  refine List.eq_nil_iff_forall_not_mem.mpr fun e he => ?_
  obtain ⟨hrole, hkey, hhas, -⟩ := mem_supplement_iff.mp he
  rw [h hrole e.1 hkey] at hhas
  exact nomatch hhas

/-- What is complete below its place stays as it is. -/
theorem normalForm_eq_self {v : Value} {r : Role} (hv : v.DistinctKeys) (h : CompleteBelow r v) :
    normalForm r v = v := by
  induction v using Value.inductionOn generalizing r with
  | atom v hatom => exact normalForm_of_isAtom r hatom
  | list vs ih =>
    have hvs : ∀ v ∈ vs, normalForm (r.next (.element 0)) v = v := by
      intro v hmem
      obtain ⟨i, hi⟩ := List.mem_iff_getElem?.mp hmem
      refine ih v hmem (Value.allDistinctKeys_iff.mp hv v hmem) fun p fs hrole hp => ?_
      refine h (.element i :: p) fs ?_ ?_
      · cases r <;> exact hrole
      · rw [Value.at?, Value.child?, hi, Option.bind_some, hp]
    rw [normalForm_list r vs 0, List.map_congr_left hvs, List.map_id']
  | record es ih =>
    have hes : ∀ e ∈ es, (e.1, normalField r e.1 e.2) = e := by
      intro e hmem
      refine Prod.ext rfl (ih e hmem (Value.holdDistinctKeys_iff.mp hv.2 e hmem) ?_)
      intro p fs hrole hp
      refine h (.field e.1 :: p) fs hrole ?_
      rw [Value.at?, Value.child?, Keyed.get?_of_mem hv.1 hmem, Option.bind_some, hp]
    have hsupplement : supplement r es = [] := supplement_eq_nil fun hr => h [] es hr rfl
    rw [normalForm_record, hsupplement, List.append_nil, List.map_congr_left hes, List.map_id']

theorem complete_eq_self_iff {v : Value} (hv : v.DistinctKeys) :
    complete v = v ↔ IsComplete v := by
  constructor
  · intro h
    rw [← h]
    exact isComplete_complete v
  · intro h
    exact normalForm_eq_self (r := .plain) hv (isComplete_iff.mp h)

/-! ## Keys after the pass -/

theorem nodup_keys_supplement (r : Role) (es : List (String × Value)) :
    (Keyed.keys (supplement r es)).Nodup := by
  cases r with
  | plain => exact List.nodup_nil
  | block => exact List.nodup_nil
  | entry =>
    rw [supplement, keys_missing]
    exact List.Nodup.filter _ (by decide)

/-- No added key is a key of the record. -/
theorem disjoint_keys_supplement (r : Role) (es : List (String × Value)) :
    (Keyed.keys es).Disjoint (Keyed.keys (supplement r es)) := by
  intro key hes hadded
  obtain ⟨e, he, rfl⟩ := List.mem_map.mp hadded
  obtain ⟨-, -, hhas, -⟩ := mem_supplement_iff.mp he
  rw [(Keyed.has_iff_mem_keys es e.1).mpr hes] at hhas
  exact nomatch hhas

theorem distinctKeys_normalForm {v : Value} {r : Role} (hv : v.DistinctKeys) :
    (normalForm r v).DistinctKeys := by
  induction v using Value.inductionOn generalizing r with
  | atom v hatom => rwa [normalForm_of_isAtom r hatom]
  | list vs ih =>
    rw [normalForm_list r vs 0, Value.DistinctKeys, Value.allDistinctKeys_iff]
    refine List.forall_mem_map.mpr fun v hmem => ?_
    exact ih v hmem (Value.allDistinctKeys_iff.mp hv v hmem)
  | record es ih =>
    rw [normalForm_record, Value.DistinctKeys, Keyed.keys, List.map_append, ← Keyed.keys,
      Keyed.keys_map, ← Keyed.keys, Value.holdDistinctKeys_iff, List.forall_mem_append]
    refine ⟨hv.1.append (nodup_keys_supplement r es) (disjoint_keys_supplement r es), ?_, ?_⟩
    · refine List.forall_mem_map.mpr fun e hmem => ?_
      exact ih e hmem (Value.holdDistinctKeys_iff.mp hv.2 e hmem)
    · intro e he
      obtain ⟨-, -, -, hempty⟩ := mem_supplement_iff.mp he
      rw [hempty]
      trivial

/-- The pass repeats no key. -/
theorem distinctKeys_complete {v : Value} (hv : v.DistinctKeys) : (complete v).DistinctKeys :=
  distinctKeys_normalForm (r := .plain) hv

/-- **The result of the pass is complete**, and the pass leaves exactly the complete documents as
they are, among them its own results. -/
theorem isComplete_complete_and_eq_self_iff {v : Value} (hv : v.DistinctKeys) :
    IsComplete (complete v) ∧ (complete v = v ↔ IsComplete v) ∧
      complete (complete v) = complete v :=
  ⟨isComplete_complete v, complete_eq_self_iff hv,
    (complete_eq_self_iff (distinctKeys_complete hv)).mpr (isComplete_complete v)⟩

/-- A block with an incomplete entry, a block inside that entry, and two elements that are no
entries. -/
def nestedBlocks : Value :=
  .record [
    ("permissions", .list [
      .record [
        ("notActions", .list [.text "read"]),
        ("inner", .list [.record [("permissions", .list [.record []])]])],
      .text "read",
      .tuple [.record []]]),
    ("actions", .int 3)]

theorem distinctKeys_nestedBlocks : nestedBlocks.DistinctKeys := by
  simp [nestedBlocks, Value.DistinctKeys, Value.AllDistinctKeys, Value.HoldDistinctKeys, Keyed.keys]

theorem isComplete_complete_nestedBlocks :
    nestedBlocks.DistinctKeys ∧ IsComplete (complete nestedBlocks) ∧
      (complete nestedBlocks = nestedBlocks ↔ IsComplete nestedBlocks) ∧
      complete (complete nestedBlocks) = complete nestedBlocks :=
  ⟨distinctKeys_nestedBlocks, isComplete_complete_and_eq_self_iff distinctKeys_nestedBlocks⟩

end HealthAlert.Permissions
