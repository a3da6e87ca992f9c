/-!
# Tallies

A `Tally` counts events by key, the keys in the order in which they first came. A `Histogram`
counts observed sizes by bounds.
-/

namespace HealthAlert

/-- Counts by key, in order of first appearance. -/
abbrev Tally (κ : Type) := List (κ × Nat)

namespace Tally

variable {κ : Type} [DecidableEq κ]

/-- The count of a key; zero for a key that has none. -/
def count (t : Tally κ) (key : κ) : Nat :=
  match t with
  | [] => 0
  | (k, n) :: rest => if k = key then n else count rest key

/-- The tally with the count of a key changed, a new key counting from zero. -/
def modify (t : Tally κ) (key : κ) (f : Nat → Nat) : Tally κ :=
  match t with
  | [] => [(key, f 0)]
  | (k, n) :: rest => if k = key then (k, f n) :: rest else (k, n) :: modify rest key f

/-- One more event under a key. -/
def bump (t : Tally κ) (key : κ) : Tally κ :=
  modify t key (· + 1)

/-- All events. -/
def total (t : Tally κ) : Nat :=
  t.foldr (fun e n => e.2 + n) 0

@[simp] theorem count_modify_self (t : Tally κ) (key : κ) (f : Nat → Nat) :
    count (modify t key f) key = f (count t key) := by
  induction t with
  | nil => simp [modify, count]
  | cons e rest ih =>
    obtain ⟨k, n⟩ := e
    by_cases h : k = key <;> simp [modify, count, h, ih]

theorem count_modify_of_ne (t : Tally κ) {key other : κ} (f : Nat → Nat) (h : key ≠ other) :
    count (modify t key f) other = count t other := by
  induction t with
  | nil => simp [modify, count, h]
  | cons e rest ih =>
    obtain ⟨k, n⟩ := e
    by_cases hk : k = key
    · subst hk; simp [modify, count, h]
    · by_cases ho : k = other
      · subst ho; simp [modify, count, Ne.symm h]
      · simp [modify, count, hk, ho, ih]

theorem total_bump (t : Tally κ) (key : κ) : total (bump t key) = total t + 1 := by
  induction t with
  | nil => simp [bump, modify, total]
  | cons e rest ih =>
    obtain ⟨k, n⟩ := e
    simp only [bump, total] at ih
    by_cases h : k = key
    · simp [bump, modify, total, h]; omega
    · simp [bump, modify, total, h, ih]; omega

theorem count_bump (t : Tally κ) (key other : κ) :
    count (bump t key) other = count t other + if key = other then 1 else 0 := by
  by_cases h : key = other
  · subst h
    rw [bump, count_modify_self, if_pos rfl]
  · rw [bump, count_modify_of_ne _ _ h, if_neg h, Nat.add_zero]

theorem mem_modify {t : Tally κ} {key : κ} {f : Nat → Nat} {e : κ × Nat}
    (h : e ∈ modify t key f) : e.1 = key ∨ ∃ e' ∈ t, e'.1 = e.1 := by
  induction t with
  | nil => exact Or.inl (by rw [List.mem_singleton.mp h])
  | cons first rest ih =>
    obtain ⟨k, n⟩ := first
    by_cases hk : k = key
    · rw [modify, if_pos hk] at h
      rcases List.mem_cons.mp h with rfl | hrest
      · exact Or.inl hk
      · exact Or.inr ⟨e, List.mem_cons_of_mem _ hrest, rfl⟩
    · rw [modify, if_neg hk] at h
      rcases List.mem_cons.mp h with rfl | hrest
      · exact Or.inr ⟨_, List.mem_cons_self, rfl⟩
      · exact (ih hrest).imp_right fun ⟨e', he', hkey⟩ => ⟨e', List.mem_cons_of_mem _ he', hkey⟩

/-- A key of a tally with one more event had its count before, or is that of the event. -/
theorem mem_bump {t : Tally κ} {key : κ} {e : κ × Nat} (h : e ∈ bump t key) :
    e.1 = key ∨ ∃ e' ∈ t, e'.1 = e.1 :=
  mem_modify h

end Tally

/-- Observed sizes: for each bound how many lie within it, how many there are, and their sum. -/
structure Histogram where
  within : List (Nat × Nat)
  observed : Nat := 0
  sum : Nat := 0
  deriving DecidableEq, Repr

namespace Histogram

/-- A histogram that has observed nothing. -/
def empty (bounds : List Nat) : Histogram :=
  { within := bounds.map fun b => (b, 0) }

/-- The histogram with one more size. -/
def observe (h : Histogram) (size : Nat) : Histogram :=
  { within := h.within.map fun e => (e.1, if size ≤ e.1 then e.2 + 1 else e.2)
    observed := h.observed + 1
    sum := h.sum + size }

end Histogram

end HealthAlert
