import HealthAlert.Keyed

/-!
# Entries after a value is put

What `Keyed.put` leaves: the entries it had and the new one (`mem_put`), each key once
(`nodup_keys_put`), and a new key at the end (`put_of_not_mem`).
-/

namespace HealthAlert

namespace Keyed

variable {α : Type}

theorem mem_put {m : Keyed α} {key : String} {value : α} {e : String × α}
    (h : e ∈ put m key value) : e ∈ m ∨ e = (key, value) := by
  induction m with
  | nil => exact Or.inr (List.mem_singleton.mp h)
  | cons d rest ih =>
    obtain ⟨k, v⟩ := d
    unfold put at h
    split at h
    · rename_i hk
      rcases List.mem_cons.mp h with rfl | h
      · exact Or.inr (by rw [hk])
      · exact Or.inl (List.mem_cons_of_mem _ h)
    · rcases List.mem_cons.mp h with rfl | h
      · exact Or.inl List.mem_cons_self
      · exact (ih h).imp_left (List.mem_cons_of_mem _)

theorem nodup_keys_put {m : Keyed α} (hm : (keys m).Nodup) (key : String) (value : α) :
    (keys (put m key value)).Nodup := by
  rw [keys_put]
  split
  · exact hm
  · rename_i hkey
    refine List.nodup_append.mpr ⟨hm, by simp, fun a ha b hb hab => hkey ?_⟩
    rwa [← List.mem_singleton.mp hb, ← hab]

/-- A new key goes to the end. -/
theorem put_of_not_mem {m : Keyed α} {key : String} (h : key ∉ keys m) (value : α) :
    put m key value = m ++ [(key, value)] := by
  induction m with
  | nil => rfl
  | cons e rest ih =>
    obtain ⟨k, v⟩ := e
    rw [keys, List.map_cons, List.mem_cons, not_or] at h
    rw [put, if_neg (Ne.symm h.1), ih h.2]
    rfl

end Keyed

end HealthAlert
