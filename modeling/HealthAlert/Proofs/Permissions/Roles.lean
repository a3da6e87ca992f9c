import HealthAlert.Alert.Permissions
import HealthAlert.Proofs.Value.Places
import Mathlib.Data.List.Nodup

/-!
# Places of permission blocks

What `Permissions.complete` makes of a value depends on the `Role` of its place: the list under a
record's `permissions` key is a block, a record in a block is an entry and gets the lists of actions
that it lacks, and everything else is plain. `normalForm` is the pass at a place of each role.

* `normalForm_list`, `normalForm_record`, `normalForm_of_isAtom`: one equation for each kind of
  value, from which all else follows.
* **`complete_record_of_extended`**: a block may be extended before its entries are walked.
* **`at?_complete`**, **`at?_of_complete`**: what the pass leaves at a place, and where it puts what
  it adds, by induction along the place.
-/

namespace HealthAlert.Permissions

open Value (Step Place)

/-! ## Roles -/

/-- What a value is for the pass. -/
inductive Role where
  | plain
  | block
  | entry
  deriving DecidableEq, Repr

/-- The role of a value that a step leads to. -/
def Role.next : Role → Step → Role
  | _, .field key => if key = blockKey then .block else .plain
  | .block, .element _ => .entry
  | _, .element _ => .plain

/-- The role of a place in a document. -/
def roleAt (p : Place) : Role :=
  p.foldl Role.next .plain

theorem roleAt_concat (p : Place) (s : Step) : roleAt (p ++ [s]) = (roleAt p).next s := by
  rw [roleAt, List.foldl_append]
  rfl

theorem roleAt_eq_block_iff {p : Place} :
    roleAt p = .block ↔ ∃ q, p = q ++ [.field blockKey] := by
  constructor
  · intro h
    rcases List.eq_nil_or_concat p with rfl | ⟨q, s, rfl⟩
    · exact nomatch h
    · rw [List.concat_eq_append, roleAt_concat] at h
      cases s with
      | element i => cases hq : roleAt q <;> rw [hq] at h <;> exact nomatch h
      | field key =>
        rw [Role.next] at h
        split at h
        · rename_i hkey
          exact ⟨q, by rw [hkey, List.concat_eq_append]⟩
        · exact nomatch h
  · rintro ⟨q, rfl⟩
    rw [roleAt_concat, Role.next, if_pos rfl]

/-- An entry stands in the list under a `permissions` key. -/
theorem roleAt_eq_entry_iff {p : Place} :
    roleAt p = .entry ↔ ∃ q i, p = q ++ [.field blockKey, .element i] := by
  constructor
  · intro h
    rcases List.eq_nil_or_concat p with rfl | ⟨q, s, rfl⟩
    · exact nomatch h
    · rw [List.concat_eq_append, roleAt_concat] at h
      cases s with
      | element i =>
        cases hq : roleAt q with
        | block =>
          obtain ⟨q', rfl⟩ := roleAt_eq_block_iff.mp hq
          exact ⟨q', i, by simp⟩
        | plain => rw [hq] at h; exact nomatch h
        | entry => rw [hq] at h; exact nomatch h
      | field key =>
        rw [Role.next] at h
        split at h <;> exact nomatch h
  · rintro ⟨q, i, rfl⟩
    have hblock : roleAt (q ++ [.field blockKey]) = .block := roleAt_eq_block_iff.mpr ⟨q, rfl⟩
    rw [← List.singleton_append, ← List.append_assoc, roleAt_concat, hblock]
    rfl

/-! ## The pass at a place -/

/-- What the pass makes of a value at a place of a role. -/
def normalForm : Role → Value → Value
  | .plain, v => complete v
  | .block, v => completeBlock (complete v)
  | .entry, v => completeEntry (complete v)

/-- The lists of actions that a record lacks, empty and in the order of `actionKeys`. -/
def missing (es : List (String × Value)) : List (String × Value) :=
  (actionKeys.filter fun key => !Keyed.has es key).map fun key => (key, .list [])

/-- What the pass adds to a record at a place of a role. -/
def supplement : Role → List (String × Value) → List (String × Value)
  | .plain, _ => []
  | .block, _ => []
  | .entry, es => missing es

/-- What is missing depends on the keys alone. -/
theorem missing_map (f : String → Value → Value) (es : List (String × Value)) :
    missing (es.map fun e => (e.1, f e.1 e.2)) = missing es := by
  simp only [missing, Keyed.has, Keyed.get?_map, Option.isSome_map]

theorem foldl_addMissing {keys : List String} (hkeys : keys.Nodup) (es : List (String × Value)) :
    keys.foldl addMissing es =
      es ++ (keys.filter fun key => !Keyed.has es key).map fun key => (key, .list []) := by
  induction keys generalizing es with
  | nil => rw [List.foldl_nil, List.filter_nil, List.map_nil, List.append_nil]
  | cons key keys ih =>
    rw [List.nodup_cons] at hkeys
    rw [List.foldl_cons, ih hkeys.2, addMissing, List.filter_cons]
    cases hkey : Keyed.has es key with
    | true => simp
    | false =>
      -- The keys that follow are other keys, so the new entry is none of theirs.
      have hhas : ∀ k ∈ keys,
          (!Keyed.has (es ++ [(key, .list [])]) k) = !Keyed.has es k := by
        intro k hk
        have hne : key ≠ k := fun h => hkeys.1 (h ▸ hk)
        rw [Keyed.has, Keyed.get?_append, Keyed.has]
        simp [Keyed.get?, hne]
      rw [if_neg (by decide), List.filter_congr hhas, if_pos (by decide)]
      simp

theorem completeEntry_record (es : List (String × Value)) :
    completeEntry (.record es) = .record (es ++ missing es) := by
  rw [completeEntry, foldl_addMissing (by decide)]
  rfl

/-- What is added are empty lists under action keys that an entry lacks. -/
theorem mem_supplement_iff {r : Role} {es : List (String × Value)} {e : String × Value} :
    e ∈ supplement r es ↔
      r = .entry ∧ e.1 ∈ actionKeys ∧ Keyed.has es e.1 = false ∧ e.2 = .list [] := by
  obtain ⟨key, v⟩ := e
  cases r with
  | plain => simp [supplement]
  | block => simp [supplement]
  | entry =>
    simp only [supplement, missing, List.mem_map, List.mem_filter, Bool.not_eq_true', Prod.mk.injEq,
      true_and]
    constructor
    · rintro ⟨k, ⟨hk, hhas⟩, rfl, rfl⟩
      exact ⟨hk, hhas, rfl⟩
    · rintro ⟨hk, hhas, rfl⟩
      exact ⟨key, ⟨hk, hhas⟩, rfl, rfl⟩

theorem keys_missing (es : List (String × Value)) :
    Keyed.keys (missing es) = actionKeys.filter fun key => !Keyed.has es key := by
  rw [Keyed.keys, missing, List.map_map]
  exact List.map_id _

/-- A record with its missing lists has every list of actions. -/
theorem has_append_missing (es : List (String × Value)) {key : String} (hkey : key ∈ actionKeys) :
    Keyed.has (es ++ missing es) key = true := by
  rw [Keyed.has_iff_mem_keys, Keyed.keys, List.map_append, ← Keyed.keys, ← Keyed.keys, keys_missing,
    List.mem_append, List.mem_filter, ← Keyed.has_iff_mem_keys]
  cases Keyed.has es key with
  | true => exact .inl rfl
  | false => exact .inr ⟨hkey, rfl⟩

theorem completeItems_eq_map (vs : List Value) : completeItems vs = vs.map complete := by
  induction vs with
  | nil => rfl
  | cons v vs ih => rw [completeItems, ih, List.map_cons]

/-- The value of a field in the normal form of its role. -/
def normalField (r : Role) (key : String) (v : Value) : Value :=
  normalForm (r.next (.field key)) v

/-- The role of a field is the same in every record. -/
theorem completeFields_eq_map (r : Role) (es : List (String × Value)) :
    completeFields es = es.map fun e => (e.1, normalField r e.1 e.2) := by
  induction es with
  | nil => rfl
  | cons e es ih =>
    obtain ⟨key, v⟩ := e
    rw [completeFields, ih, List.map_cons, normalField, Role.next]
    split <;> rfl

theorem complete_record (r : Role) (es : List (String × Value)) :
    complete (.record es) = .record (es.map fun e => (e.1, normalField r e.1 e.2)) := by
  rw [complete, completeFields_eq_map r]

theorem normalForm_list (r : Role) (vs : List Value) (i : Nat) :
    normalForm r (.list vs) = .list (vs.map (normalForm (r.next (.element i)))) := by
  cases r with
  | plain => rw [normalForm, complete, completeItems_eq_map]; rfl
  | block =>
    rw [normalForm, complete, completeBlock, completeItems_eq_map, List.map_map]
    rfl
  | entry => rw [normalForm, complete, completeItems_eq_map]; rfl

theorem normalForm_record (r : Role) (es : List (String × Value)) :
    normalForm r (.record es) =
      .record ((es.map fun e => (e.1, normalField r e.1 e.2)) ++ supplement r es) := by
  cases r with
  | plain => rw [normalForm, complete_record .plain, supplement, List.append_nil]
  | block =>
    rw [normalForm, complete_record .block, supplement, List.append_nil]
    rfl
  | entry =>
    rw [normalForm, complete_record .entry, completeEntry_record, supplement, missing_map]

/-- Everything but a list or a record stays as it is. -/
theorem normalForm_of_isAtom (r : Role) {v : Value} (h : v.isAtom = true) : normalForm r v = v := by
  cases v with
  | list vs => exact nomatch h
  | record es => exact nomatch h
  | _ => cases r <;> rfl

theorem normalForm_empty (r : Role) : normalForm r (.list []) = .list [] :=
  normalForm_list r [] 0

/-! ## Extending before walking

A pass may as well extend the block of a record first and walk all its values then, those included
that it has just added: they are empty lists, so they hold no block. -/

theorem complete_completeEntry (v : Value) :
    complete (completeEntry v) = completeEntry (complete v) := by
  cases v with
  | record es =>
    have hmissing : ((missing es).map fun e => (e.1, normalField .plain e.1 e.2)) = missing es := by
      refine (List.map_congr_left fun e he => ?_).trans (List.map_id _)
      obtain ⟨-, -, -, hempty⟩ := mem_supplement_iff.mp (show e ∈ supplement .entry es from he)
      rw [hempty, normalField, normalForm_empty, ← hempty]
      rfl
    rw [completeEntry_record, complete_record .plain, complete_record .plain, completeEntry_record,
      missing_map, List.map_append, hmissing]
  | list vs => rfl
  | _ => rfl

theorem complete_completeBlock (v : Value) :
    complete (completeBlock v) = completeBlock (complete v) := by
  cases v with
  | list vs =>
    rw [completeBlock, complete, complete, completeBlock, completeItems_eq_map,
      completeItems_eq_map, List.map_map, List.map_map]
    exact congrArg Value.list (List.map_congr_left fun v _ => complete_completeEntry v)
  | _ => rfl

/-- **Extending the block of a record and then walking its values is the pass.** -/
theorem complete_record_of_extended (es : List (String × Value)) :
    complete (.record es) = .record (es.map fun e =>
      (e.1, complete (if e.1 = blockKey then completeBlock e.2 else e.2))) := by
  rw [complete_record .plain]
  refine congrArg Value.record (List.map_congr_left fun e _ => ?_)
  rw [normalField, Role.next]
  split
  · rw [complete_completeBlock, normalForm]
  · rw [normalForm]

/-! ## A step of the pass -/

/-- What a step leads to is in the normal form of its role. -/
theorem child?_normalForm (r : Role) {v x : Value} {s : Step} (h : v.child? s = some x) :
    (normalForm r v).child? s = some (normalForm (r.next s) x) := by
  match v, s with
  | .list vs, .element i =>
    rw [Value.child?] at h
    rw [normalForm_list r vs i, Value.child?, List.getElem?_map, h]
    rfl
  | .record es, .field key =>
    rw [Value.child?] at h
    rw [normalForm_record, Value.child?, Keyed.get?_append, Keyed.get?_map, h]
    rfl

/-- The step leads to an empty list that the pass adds to an entry. -/
def Adds (r : Role) (v : Value) (s : Step) (y : Value) : Prop :=
  r = .entry ∧ y = .list [] ∧
    ∃ es key, v = .record es ∧ s = .field key ∧ key ∈ actionKeys ∧ Keyed.has es key = false

/-- A step in the result is a step in the value, or it leads to what was added. -/
theorem child?_of_normalForm {r : Role} {v y : Value} {s : Step}
    (h : (normalForm r v).child? s = some y) :
    (∃ x, v.child? s = some x ∧ y = normalForm (r.next s) x) ∨ Adds r v s y := by
  cases v with
  | list vs =>
    cases s with
    | element i =>
      rw [normalForm_list r vs i, Value.child?, List.getElem?_map, Option.map_eq_some_iff] at h
      obtain ⟨x, hx, rfl⟩ := h
      exact .inl ⟨x, hx, rfl⟩
    | field key =>
      rw [normalForm_list r vs 0] at h
      exact nomatch h
  | record es =>
    rw [normalForm_record] at h
    cases s with
    | element i => exact nomatch h
    | field key =>
      rw [Value.child?, Keyed.get?_append, Keyed.get?_map, Option.or_eq_some_iff,
        Option.map_eq_some_iff] at h
      rcases h with ⟨x, hx, rfl⟩ | ⟨-, hadded⟩
      · exact .inl ⟨x, hx, rfl⟩
      · obtain ⟨hrole, hkey, hes, hempty⟩ := mem_supplement_iff.mp (Keyed.mem_of_get? hadded)
        exact .inr ⟨hrole, hempty, es, key, rfl, rfl, hkey, hes⟩
  | _ => cases r <;> cases s <;> exact nomatch h

/-! ## A place of the pass -/

/-- **What stands at a place stays there**, in the normal form of its role. -/
theorem at?_normalForm {p : Place} (r : Role) {v x : Value} (h : v.at? p = some x) :
    (normalForm r v).at? p = some (normalForm (p.foldl Role.next r) x) := by
  induction p generalizing r v with
  | nil =>
    cases h
    rfl
  | cons s p ih =>
    rw [Value.at?, Option.bind_eq_some_iff] at h
    obtain ⟨c, hc, hx⟩ := h
    rw [Value.at?, child?_normalForm r hc, Option.bind_some, ih (r.next s) hx]
    rfl

/-- **Every place of the result is one of the value, or that of a list that was added.** -/
theorem at?_of_normalForm {p : Place} {r : Role} {v y : Value}
    (h : (normalForm r v).at? p = some y) :
    (∃ x, v.at? p = some x ∧ y = normalForm (p.foldl Role.next r) x) ∨
      ∃ q s x, p = q ++ [s] ∧ v.at? q = some x ∧ Adds (q.foldl Role.next r) x s y := by
  induction p generalizing r v with
  | nil =>
    cases h
    exact .inl ⟨v, rfl, rfl⟩
  | cons s p ih =>
    rw [Value.at?, Option.bind_eq_some_iff] at h
    obtain ⟨c, hc, hy⟩ := h
    rcases child?_of_normalForm hc with ⟨x, hx, rfl⟩ | hadds
    · rcases ih hy with ⟨z, hz, rfl⟩ | ⟨q, t, z, rfl, hz, hadds⟩
      · exact .inl ⟨z, by rw [Value.at?, hx, Option.bind_some, hz], rfl⟩
      · exact .inr ⟨s :: q, t, z, rfl, by rw [Value.at?, hx, Option.bind_some, hz], hadds⟩
    · -- Nothing stands inside the empty list, so the place ends with it.
      obtain rfl := hadds.2.1
      cases p with
      | nil =>
        cases hy
        exact .inr ⟨[], s, v, rfl, rfl, hadds⟩
      | cons t p => cases t <;> cases hy

theorem at?_complete {p : Place} {v x : Value} (h : v.at? p = some x) :
    (complete v).at? p = some (normalForm (roleAt p) x) :=
  at?_normalForm .plain h

theorem at?_of_complete {p : Place} {v y : Value} (h : (complete v).at? p = some y) :
    (∃ x, v.at? p = some x ∧ y = normalForm (roleAt p) x) ∨
      ∃ q s x, p = q ++ [s] ∧ v.at? q = some x ∧ Adds (roleAt q) x s y :=
  at?_of_normalForm (r := .plain) h

end HealthAlert.Permissions
