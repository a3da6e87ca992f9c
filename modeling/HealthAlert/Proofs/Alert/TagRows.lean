import HealthAlert.Proofs.Alert.Naming
import Mathlib.Data.List.Induction

/-!
# From rows to tags

The tags of a template as a function of the rows that were entered: each key stands where its
first row stands and has the value of its last row, and keys are the same when they become the
same safe key.

* `keys_ofPairs`, `nodup_keys_ofPairs`: putting pairs in turn gives each key once, in the order of
  first occurrence.
* `update_put`, `ofPairs_append`: what a second list of pairs adds, it adds as a whole.
* **`tags_of_rows`**: keys, values, blank rows and further rows.
-/

namespace HealthAlert

/-! ## Entries put in turn -/

namespace Keyed

variable {α : Type}

/-- The entries with those of another list put in turn. -/
def update (m n : Keyed α) : Keyed α :=
  n.foldl (fun m e => put m e.1 e.2) m

theorem put_put_self (m : Keyed α) (key : String) (old value : α) :
    put (put m key old) key value = put m key value := by
  induction m with
  | nil => simp [put]
  | cons e m ih =>
    obtain ⟨k, v⟩ := e
    by_cases hk : k = key <;> simp [put, hk, ih]

/-- A key that has an entry is put without regard to the other entries. -/
theorem put_put_of_mem {m : Keyed α} {key other : String} (h : key ∈ keys m) (hne : other ≠ key)
    (value entry : α) : put (put m other entry) key value = put (put m key value) other entry := by
  induction m with
  | nil => exact absurd h List.not_mem_nil
  | cons e m ih =>
    obtain ⟨k, v⟩ := e
    by_cases hk : k = key
    · subst hk
      simp [put, Ne.symm hne]
    · have hrest : key ∈ keys m := (List.mem_cons.mp h).resolve_left (Ne.symm hk)
      by_cases ho : k = other
      · subst ho
        simp [put, hne]
      · simp [put, hk, ho, ih hrest]

theorem mem_keys_put {m : Keyed α} {key other : String} {value : α} (h : key ∈ keys m) :
    key ∈ keys (put m other value) := by
  rw [keys_put]
  split
  · exact h
  · exact List.mem_append_left _ h

/-- Entries under other keys do not reach the value of a key. -/
theorem put_update {n : Keyed α} {key : String} (hn : key ∉ keys n) (value : α) :
    ∀ {m : Keyed α}, key ∈ keys m → put (update m n) key value = update (put m key value) n := by
  induction n with
  | nil => intro m _; rfl
  | cons e n ih =>
    intro m hm
    have hne : e.1 ≠ key := fun he => hn (he ▸ List.mem_cons_self)
    have hrest : key ∉ keys n := fun hmem => hn (List.mem_cons_of_mem _ hmem)
    show put (update (put m e.1 e.2) n) key value = update (put (put m key value) e.1 e.2) n
    rw [ih hrest (mem_keys_put hm), put_put_of_mem hm hne]

/-- One more entry of the second list is put last. -/
theorem update_put {n : Keyed α} (hn : (keys n).Nodup) (key : String) (value : α) :
    ∀ m : Keyed α, update m (put n key value) = put (update m n) key value := by
  induction n with
  | nil => intro m; rfl
  | cons e n ih =>
    intro m
    obtain ⟨k, v⟩ := e
    rw [keys, List.map_cons, List.nodup_cons] at hn
    by_cases hk : k = key
    · subst hk
      have hmem : k ∈ keys (put m k v) := by
        rw [keys_put]
        split
        · assumption
        · exact List.mem_append_right _ List.mem_cons_self
      simp only [put, if_pos]
      show update (put m k value) n = put (update (put m k v) n) k value
      rw [put_update hn.1 value hmem, put_put_self]
    · simp only [put, if_neg hk]
      exact ih hn.2 (put m k v)

theorem ofPairs_concat (pairs : List (String × α)) (e : String × α) :
    ofPairs (pairs ++ [e]) = put (ofPairs pairs) e.1 e.2 := by
  rw [ofPairs, ofPairs, List.foldl_append]
  rfl

/-- Every key once, in the order of first occurrence. -/
theorem keys_ofPairs (pairs : List (String × α)) :
    keys (ofPairs pairs) = (pairs.map Prod.fst).eraseDups := by
  induction pairs using List.reverseRecOn with
  | nil => rfl
  | append_singleton pairs e ih =>
    rw [ofPairs_concat, keys_put, ih, List.map_append, List.eraseDups_append]
    by_cases h : e.1 ∈ pairs.map Prod.fst
    · simp [h, List.removeAll]
    · have hlast : [e.1].eraseDups = [e.1] := rfl
      simp [h, List.removeAll, hlast]

theorem nodup_keys_ofPairs (pairs : List (String × α)) : (keys (ofPairs pairs)).Nodup := by
  induction pairs using List.reverseRecOn with
  | nil => exact List.nodup_nil
  | append_singleton pairs e ih =>
    rw [ofPairs_concat]
    exact nodup_keys_put ih e.1 e.2

/-- Putting pairs is putting the entries that result from them. -/
theorem update_ofPairs (m : Keyed α) (pairs : List (String × α)) :
    update m (ofPairs pairs) = update m pairs := by
  induction pairs using List.reverseRecOn with
  | nil => rfl
  | append_singleton pairs e ih =>
    rw [ofPairs_concat, update_put (nodup_keys_ofPairs pairs), ih, update, update,
      List.foldl_append]
    rfl

theorem ofPairs_append (pairs more : List (String × α)) :
    ofPairs (pairs ++ more) = update (ofPairs pairs) (ofPairs more) := by
  rw [update_ofPairs, ofPairs, List.foldl_append]
  rfl

end Keyed

/-! ## Rows -/

namespace Template

/-- The entry of a row: its safe key and its quoted value. -/
def tagEntry (row : Value × Value) : String × String :=
  (Naming.tagKeyOf row.1, Bicep.quote (valueText row.2))

/-- The tags are the entries of all rows with a key, put in turn. -/
theorem tags_eq_ofPairs (rows : List (Value × Value)) :
    tags rows = Keyed.ofPairs ((rows.filter fun row => !Naming.isBlankKey row.1).map tagEntry) := by
  have hstep : addTag = fun m row =>
      if !Naming.isBlankKey row.1 then Keyed.put m (tagEntry row).1 (tagEntry row).2 else m := by
    funext m row
    unfold addTag
    simp only [Naming.tagKeyOf_eq_empty_iff]
    cases Naming.isBlankKey row.1 <;> rfl
  rw [tags, Keyed.ofPairs, List.foldl_map, List.foldl_filter, hstep]

theorem keys_tags_eq (rows : List (Value × Value)) :
    Keyed.keys (tags rows) =
      ((rows.map fun row => Naming.tagKeyOf row.1).filter (· != "")).eraseDups := by
  have hentries : ((rows.filter fun row => !Naming.isBlankKey row.1).map tagEntry).map Prod.fst =
      (rows.map fun row => Naming.tagKeyOf row.1).filter (· != "") := by
    simp only [Naming.isBlankKey_eq, List.map_map, List.filter_map]
    rfl
  rw [tags_eq_ofPairs, Keyed.keys_ofPairs, hentries]

theorem tags_append (rows more : List (Value × Value)) :
    tags (rows ++ more) = Keyed.update (tags rows) (tags more) := by
  simp only [tags_eq_ofPairs, List.filter_append, List.map_append, Keyed.ofPairs_append]

theorem tags_filter (rows : List (Value × Value)) :
    tags (rows.filter fun row => !Naming.isBlankKey row.1) = tags rows := by
  simp only [tags_eq_ofPairs, List.filter_filter, Bool.and_self]

theorem get?_tags (rows : List (Value × Value)) (key : String) :
    Keyed.get? (tags rows) key =
      if key = "" then none
      else (rows.reverse.find? fun row => Naming.tagKeyOf row.1 == key).map fun row =>
        Bicep.quote (valueText row.2) := by
  -- A row that becomes `key` is blank only when `key` is empty.
  have hfound : (fun row : Value × Value =>
        decide ((!Naming.isBlankKey row.1) = true ∧ ((tagEntry row).1 == key) = true)) =
      fun row => decide (key ≠ "" ∧ Naming.tagKeyOf row.1 = key) := by
    funext row
    simp only [Naming.isBlankKey_eq, tagEntry, beq_iff_eq, Bool.not_eq_true', beq_eq_false_iff_ne]
    refine decide_eq_decide.mpr (and_congr_left fun h => ?_)
    rw [h]
  rw [tags_eq_ofPairs, Keyed.get?_ofPairs, ← List.map_reverse, ← List.filter_reverse,
    List.find?_map, List.find?_filter, Option.map_map]
  simp only [Function.comp_def, hfound]
  by_cases hkey : key = ""
  · simp [hkey]
  · simp only [ne_eq, hkey, not_false_eq_true, true_and, if_false, tagEntry]
    rfl

/-- **The tags of a template, from its rows.** Their keys are the safe keys that are not empty,
each once and in the order of first occurrence. Each key has the quoted value of the last row
whose key becomes it (`valueText_text`: of a text, the text as it is). Rows with a blank key count
nowhere, and further rows update the tags as a whole. -/
theorem tags_of_rows (rows : List (Value × Value)) :
    Keyed.keys (tags rows) =
        ((rows.map fun row => Naming.tagKeyOf row.1).filter (· != "")).eraseDups ∧
      (∀ key, Keyed.get? (tags rows) key =
        if key = "" then none
        else (rows.reverse.find? fun row => Naming.tagKeyOf row.1 == key).map fun row =>
          Bicep.quote (valueText row.2)) ∧
      tags (rows.filter fun row => !Naming.isBlankKey row.1) = tags rows ∧
      ∀ more, tags (rows ++ more) = Keyed.update (tags rows) (tags more) :=
  ⟨keys_tags_eq rows, get?_tags rows, tags_filter rows, tags_append rows⟩

example :
    tags [(.text " 1a", .text "old"), (.text "b", .text "y"), (.text "  ", .text "-"),
      (.text "1a", .text "new")] = [("t-1a", "'new'"), ("b", "'y'")] := by decide

end Template

end HealthAlert
