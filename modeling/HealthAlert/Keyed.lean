/-!
# Entries under text keys

`Keyed α` is a list of entries in the order in which their keys first came. `Keyed.get?` looks a
key up, `Keyed.put` replaces the value of a key where it stands or adds it at the end, and
`Keyed.ofPairs` puts a list of pairs one after the other, so that a repeated key keeps its first
place and takes its last value.
-/

namespace HealthAlert

/-- Entries in the order of their keys' first insertion. -/
abbrev Keyed (α : Type) := List (String × α)

namespace Keyed

variable {α : Type}

/-- The keys, in order. -/
def keys (m : Keyed α) : List String :=
  m.map Prod.fst

/-- The value of the first entry under a key. -/
def get? (m : Keyed α) (key : String) : Option α :=
  match m with
  | [] => none
  | (k, v) :: rest => if k = key then some v else get? rest key

/-- The entries with `key` holding `value`. -/
def put (m : Keyed α) (key : String) (value : α) : Keyed α :=
  match m with
  | [] => [(key, value)]
  | (k, v) :: rest => if k = key then (k, value) :: rest else (k, v) :: put rest key value

/-- The entries that result from putting the pairs in turn. -/
def ofPairs (pairs : List (String × α)) : Keyed α :=
  pairs.foldl (fun m e => put m e.1 e.2) []

/-- A key has an entry. -/
def has (m : Keyed α) (key : String) : Bool :=
  (get? m key).isSome

@[simp] theorem get?_put_self (m : Keyed α) (key : String) (value : α) :
    get? (put m key value) key = some value := by
  induction m with
  | nil => simp [put, get?]
  | cons e rest ih =>
    obtain ⟨k, v⟩ := e
    by_cases h : k = key <;> simp [put, get?, h, ih]

theorem get?_put_of_ne (m : Keyed α) {key other : String} (value : α) (h : key ≠ other) :
    get? (put m key value) other = get? m other := by
  induction m with
  | nil => simp [put, get?, h]
  | cons e rest ih =>
    obtain ⟨k, v⟩ := e
    by_cases hk : k = key
    · subst hk; simp [put, get?, h]
    · by_cases ho : k = other
      · subst ho; simp [put, get?, Ne.symm h]
      · simp [put, get?, hk, ho, ih]

/-- Putting keeps the keys and their order, and adds an absent key at the end. -/
theorem keys_put (m : Keyed α) (key : String) (value : α) :
    keys (put m key value) = if key ∈ keys m then keys m else keys m ++ [key] := by
  induction m with
  | nil => simp [put, keys]
  | cons e rest ih =>
    obtain ⟨k, v⟩ := e
    simp only [keys] at ih
    by_cases h : k = key
    · simp [put, keys, h]
    · by_cases hr : key ∈ rest.map Prod.fst
      · simp [put, keys, h, ih, hr]
      · simp [put, keys, h, ih, hr, Ne.symm h]

theorem get?_append (m n : Keyed α) (key : String) :
    get? (m ++ n) key = (get? m key).or (get? n key) := by
  induction m with
  | nil => rfl
  | cons e rest ih =>
    obtain ⟨k, v⟩ := e
    by_cases h : k = key <;> simp [get?, h, ih]

theorem get?_filter_ne (m : Keyed α) {removed key : String} (h : key ≠ removed) :
    get? (m.filter fun e => e.1 != removed) key = get? m key := by
  induction m with
  | nil => rfl
  | cons e rest ih =>
    obtain ⟨k, v⟩ := e
    by_cases hk : k = removed
    · subst hk
      simp [get?, Ne.symm h, ih]
    · simp [get?, hk, ih]

theorem mem_of_get? {m : Keyed α} {key : String} {value : α} (h : get? m key = some value) :
    (key, value) ∈ m := by
  induction m with
  | nil => exact absurd h (by simp [get?])
  | cons e rest ih =>
    obtain ⟨k, v⟩ := e
    by_cases hk : k = key
    · subst hk
      obtain rfl : v = value := by simpa [get?] using h
      exact List.mem_cons_self
    · exact List.mem_cons_of_mem _ (ih (by simpa [get?, hk] using h))

/-- Where keys are not repeated, every entry is found. -/
theorem get?_of_mem {m : Keyed α} (hm : (keys m).Nodup) {key : String} {value : α}
    (h : (key, value) ∈ m) : get? m key = some value := by
  induction m with
  | nil => exact absurd h List.not_mem_nil
  | cons e rest ih =>
    obtain ⟨k, v⟩ := e
    rw [keys, List.map_cons, List.nodup_cons] at hm
    rcases List.mem_cons.mp h with heq | hrest
    · cases heq
      simp [get?]
    · have hk : k ≠ key := fun hk => hm.1 (List.mem_map.mpr ⟨_, hrest, hk.symm⟩)
      simp [get?, hk, ih hm.2 hrest]

theorem has_iff_mem_keys (m : Keyed α) (key : String) : has m key = true ↔ key ∈ keys m := by
  induction m with
  | nil => simp [has, get?, keys]
  | cons e rest ih =>
    obtain ⟨k, v⟩ := e
    simp only [has, keys] at ih
    by_cases h : k = key
    · simp [has, get?, keys, h]
    · simp [has, get?, keys, h, Ne.symm h, ih]

/-- Changing the values keeps the keys. -/
theorem keys_map {β : Type} (m : Keyed α) (f : String → α → β) :
    keys (m.map fun e => (e.1, f e.1 e.2)) = keys m := by
  rw [keys, keys, List.map_map]
  rfl

theorem get?_map {β : Type} (m : Keyed α) (f : String → α → β) (key : String) :
    get? (m.map fun e => (e.1, f e.1 e.2)) key = (get? m key).map (f key) := by
  induction m with
  | nil => rfl
  | cons e rest ih =>
    obtain ⟨k, v⟩ := e
    by_cases h : k = key
    · subst h
      simp [get?]
    · simp [get?, h, ih]

/-- Of pairs with the same key the last gives the value. -/
theorem get?_ofPairs (pairs : List (String × α)) (key : String) :
    get? (ofPairs pairs) key = (pairs.reverse.find? (·.1 == key)).map Prod.snd := by
  rw [ofPairs, ← List.foldr_reverse]
  induction pairs.reverse with
  | nil => rfl
  | cons e rest ih =>
    rw [List.foldr_cons]
    by_cases h : e.1 = key
    · subst h
      simp
    · rw [get?_put_of_ne _ _ h, ih]
      simp [h]

end Keyed

end HealthAlert
