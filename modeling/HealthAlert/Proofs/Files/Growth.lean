import HealthAlert.Files.Access
import Mathlib.Data.List.Find

/-!
# What changes to files leave alone

Directories are made and never removed. So a path that leads somewhere keeps leading there
(`Grows.locate`), and what is written or removed at one location leaves the file at every other
location as it is (`Spares`): it cannot become a directory either, since all that is above a
location to which a path leads is a directory already (`hasDirectory_of_above`).

* `grows_put`, `grows_putDirectory`, `grows_remove`: no change to the files takes a directory away.
* **`write_spares`**, **`makeAlong_spares`**, **`spares_remove`**: the files that a change leaves
  alone.
* **`read_save`**: what was saved is read back.
-/

namespace HealthAlert

/-- What is found under a key is found without the entries under another key. -/
theorem find?_filter_fst_ne {κ α : Type} [BEq κ] [LawfulBEq κ] {entries : List (κ × α)}
    {key other : κ} (h : other ≠ key) :
    (entries.filter (·.1 != key)).find? (·.1 == other) = entries.find? (·.1 == other) := by
  rw [List.find?_filter]
  refine List.find?_congr fun e _ => ?_
  by_cases he : e.1 = other
  · simp [he, h]
  · simp [he]

namespace FileTree

variable {t t' t'' : FileTree} {here there : Location} {p : Path} {bytes : List UInt8}

/-! ## Directories -/

theorem hasDirectory_iff : t.hasDirectory here = true ↔
    here <+: t.workingDirectory ∨ (∃ d ∈ t.directories, here <+: d) ∨
      ∃ f ∈ t.files, here <+: f.1 ∧ here.length < f.1.length := by
  unfold hasDirectory
  simp only [Bool.or_eq_true, List.any_eq_true, Bool.and_eq_true, decide_eq_true_eq,
    List.isPrefixOf_iff_prefix, or_assoc]

/-- What is above a directory is one too. -/
theorem hasDirectory_of_prefix (h : t.hasDirectory there = true) (hp : here <+: there) :
    t.hasDirectory here = true := by
  rw [hasDirectory_iff] at h ⊢
  rcases h with h | ⟨d, hd, h⟩ | ⟨f, hf, h, hlt⟩
  · exact Or.inl (hp.trans h)
  · exact Or.inr (Or.inl ⟨d, hd, hp.trans h⟩)
  · exact Or.inr (Or.inr ⟨f, hf, hp.trans h, Nat.lt_of_le_of_lt hp.length_le hlt⟩)

theorem hasDirectory_dropLast (h : t.hasDirectory here = true) :
    t.hasDirectory here.dropLast = true :=
  hasDirectory_of_prefix h (List.dropLast_prefix here)

theorem nodeAt_eq_directory_iff : t.nodeAt here = .directory ↔ t.hasDirectory here = true := by
  unfold nodeAt
  by_cases h : t.hasDirectory here = true
  · simp [h]
  · cases t.file? here with
    | none => simp [h]
    | some bytes => cases t.barred.contains here <;> simp [h]

theorem nodeAt_eq_file_iff : t.nodeAt here = .file bytes ↔
    t.hasDirectory here = false ∧ t.file? here = some bytes ∧ t.barred.contains here = false := by
  unfold nodeAt
  by_cases h : t.hasDirectory here = true
  · simp [h]
  · cases t.file? here with
    | none => simp [h]
    | some content => cases t.barred.contains here <;> simp [h]

/-! ## Trees that grow -/

/-- The tree `t'` has the directories of `t`, the same working directory, the same directory of the
service's own lists, and bars nothing else. -/
structure Grows (t t' : FileTree) : Prop where
  workingDirectory : t'.workingDirectory = t.workingDirectory
  barred : t'.barred = t.barred
  packageData : t'.packageData = t.packageData
  directories : ∀ at', t.hasDirectory at' = true → t'.hasDirectory at' = true

theorem Grows.refl (t : FileTree) : t.Grows t :=
  ⟨rfl, rfl, rfl, fun _ h => h⟩

theorem Grows.trans (h : t.Grows t') (h' : t'.Grows t'') : t.Grows t'' :=
  ⟨h'.workingDirectory.trans h.workingDirectory, h'.barred.trans h.barred,
    h'.packageData.trans h.packageData, fun at' hd => h'.directories at' (h.directories at' hd)⟩

theorem Grows.follow (h : t.Grows t') {parts : List String}
    (hf : t.follow here parts = .ok there) : t'.follow here parts = .ok there := by
  induction parts generalizing here with
  | nil => exact hf
  | cons part rest ih =>
    unfold FileTree.follow at hf ⊢
    split at hf
    · rename_i hnode
      rw [nodeAt_eq_directory_iff.mpr (h.directories here (nodeAt_eq_directory_iff.mp hnode)),
        h.barred]
      dsimp only
      split at hf
      · exact absurd hf (by simp)
      · rw [if_neg ‹_›]
        split at hf
        · rw [if_pos ‹_›]
          exact ih hf
        · rw [if_neg ‹_›]
          split at hf
          · exact absurd hf (by simp)
          · rw [if_neg ‹_›]
            exact ih hf
    · exact absurd hf (by simp)
    · exact absurd hf (by simp)
    · exact absurd hf (by simp)

/-- **A path that leads somewhere keeps leading there.** -/
theorem Grows.locate (h : t.Grows t') (hl : t.locate p = .ok there) :
    t'.locate p = .ok there := by
  have hstart : t'.startOf p = t.startOf p := by
    unfold startOf
    rw [h.workingDirectory]
  unfold FileTree.locate at hl ⊢
  split at hl
  · exact absurd hl (by simp)
  · rw [if_neg ‹_›]
    split at hl
    · exact absurd hl (by simp)
    · rw [if_neg ‹_›, hstart]
      exact h.follow hl

theorem grows_put (t : FileTree) (at' : Location) (bytes : List UInt8) :
    t.Grows (t.put at' bytes) := by
  refine ⟨rfl, rfl, rfl, fun above h => ?_⟩
  rw [hasDirectory_iff] at h ⊢
  rcases h with h | h | ⟨f, hf, h⟩
  · exact Or.inl h
  · exact Or.inr (Or.inl h)
  · refine Or.inr (Or.inr ?_)
    by_cases hat : f.1 = at'
    · exact ⟨(at', bytes), List.mem_cons_self, hat ▸ h⟩
    · exact ⟨f, List.mem_cons_of_mem _ (List.mem_filter.mpr ⟨hf, by simpa using hat⟩), h⟩

theorem grows_putDirectory (t : FileTree) (at' : Location) : t.Grows (t.putDirectory at') := by
  refine ⟨rfl, rfl, rfl, fun above h => ?_⟩
  rw [hasDirectory_iff] at h ⊢
  exact h.imp_right (Or.imp_left fun ⟨d, hd, hp⟩ => ⟨d, List.mem_cons_of_mem _ hd, hp⟩)

theorem grows_remove (t : FileTree) (p : Path) : t.Grows (t.remove p) := by
  unfold remove
  split
  · rename_i at' _
    refine ⟨rfl, rfl, rfl, fun above h => ?_⟩
    rw [hasDirectory_iff] at h ⊢
    rcases h with h | ⟨d, hd, h⟩ | ⟨f, hf, h, hlt⟩
    · exact Or.inl h
    · exact Or.inr (Or.inl ⟨d, List.mem_cons_of_mem _ hd, h⟩)
    · by_cases hat : f.1 = at'
      · -- The directory of the removed file stays, with all above it.
        refine Or.inr (Or.inl ⟨at'.dropLast, List.mem_cons_self, ?_⟩)
        rw [← hat]
        exact List.prefix_of_prefix_length_le h (List.dropLast_prefix f.1)
          (by rw [List.length_dropLast]; omega)
      · exact Or.inr (Or.inr ⟨f, List.mem_filter.mpr ⟨hf, by simpa using hat⟩, h, hlt⟩)
  · exact Grows.refl t

theorem grows_save (h : t.save p bytes = .ok t') : t.Grows t' := by
  unfold save at h
  split at h
  · exact absurd h (by simp)
  · split at h
    · exact absurd h (by simp)
    · rw [← Except.ok.inj h]
      exact grows_put t _ bytes

/-! ## Where paths lead -/

theorem follow_above {parts : List String} (h : t.hasDirectory here.dropLast = true)
    (hf : t.follow here parts = .ok there) : t.hasDirectory there.dropLast = true := by
  induction parts generalizing here with
  | nil => rwa [← Except.ok.inj hf]
  | cons part rest ih =>
    unfold FileTree.follow at hf
    split at hf
    · rename_i hnode
      have hhere := nodeAt_eq_directory_iff.mp hnode
      split at hf
      · exact absurd hf (by simp)
      · split at hf
        · exact ih (hasDirectory_dropLast (hasDirectory_dropLast hhere)) hf
        · split at hf
          · exact absurd hf (by simp)
          · exact ih (by rwa [List.dropLast_concat]) hf
    · exact absurd hf (by simp)
    · exact absurd hf (by simp)
    · exact absurd hf (by simp)

/-- A path that leads to a location leads into a directory. -/
theorem locate_above (h : t.locate p = .ok there) : t.hasDirectory there.dropLast = true := by
  unfold FileTree.locate at h
  split at h
  · exact absurd h (by simp)
  · split at h
    · exact absurd h (by simp)
    · refine follow_above (hasDirectory_dropLast ?_) h
      rw [hasDirectory_iff]
      unfold startOf
      split
      · exact Or.inl List.prefix_rfl
      · exact Or.inl List.nil_prefix

/-- All that is above a location to which a path leads is a directory. -/
theorem hasDirectory_of_above (h : t.locate p = .ok there) (hp : here <+: there)
    (hne : here ≠ there) : t.hasDirectory here = true := by
  refine hasDirectory_of_prefix (locate_above h)
    (List.prefix_of_prefix_length_le hp (List.dropLast_prefix there) ?_)
  have hlt : here.length < there.length := by
    rcases Nat.lt_or_ge here.length there.length with hlt | hge
    · exact hlt
    · exact absurd (hp.eq_of_length_le hge) hne
  rw [List.length_dropLast]
  omega

/-! ## Files that a change leaves alone -/

/-- A file at the location stays as it is. -/
def Spares (at' : Location) (t t' : FileTree) : Prop :=
  ∀ bytes, t.nodeAt at' = .file bytes → t'.nodeAt at' = .file bytes

theorem Spares.refl (at' : Location) (t : FileTree) : Spares at' t t :=
  fun _ h => h

theorem Spares.trans (h : Spares here t t') (h' : Spares here t' t'') : Spares here t t'' :=
  fun bytes hb => h' bytes (h bytes hb)

/-- A file stays where no directory is made, the list of files holds the same content and nothing
else is barred. -/
theorem Spares.of_same (hbarred : t'.barred = t.barred)
    (hd : t'.hasDirectory here = true → t.hasDirectory here = true)
    (hf : t'.file? here = t.file? here) : Spares here t t' := by
  intro bytes hb
  rw [nodeAt_eq_file_iff] at hb ⊢
  refine ⟨?_, hf.trans hb.2.1, by rw [hbarred]; exact hb.2.2⟩
  rw [← Bool.not_eq_true] at hb ⊢
  exact fun h => hb.1 (hd h)

theorem spares_put (h : t.locate p = .ok there) (hne : here ≠ there) :
    Spares here t (t.put there bytes) := by
  refine Spares.of_same rfl ?_ ?_
  · intro hd
    rcases hasDirectory_iff.mp hd with hd | hd | ⟨f, hf, hd⟩
    · exact hasDirectory_iff.mpr (Or.inl hd)
    · exact hasDirectory_iff.mpr (Or.inr (Or.inl hd))
    · rcases List.mem_cons.mp hf with rfl | hf
      · exact hasDirectory_of_above h hd.1 hne
      · exact hasDirectory_iff.mpr (Or.inr (Or.inr ⟨f, (List.mem_filter.mp hf).1, hd⟩))
  · unfold file? put
    rw [List.find?_cons_of_neg (by simpa using Ne.symm hne), find?_filter_fst_ne hne]

theorem spares_putDirectory (h : t.locate p = .ok there) (hm : t.nodeAt there = .missing) :
    Spares here t (t.putDirectory there) := by
  by_cases hne : here = there
  · intro content hc
    rw [hne] at hc
    exact absurd (hc.symm.trans hm) (by simp)
  · refine Spares.of_same rfl (fun hd => ?_) rfl
    rcases hasDirectory_iff.mp hd with hd | ⟨d, hd, hp⟩ | hd
    · exact hasDirectory_iff.mpr (Or.inl hd)
    · rcases List.mem_cons.mp hd with rfl | hd
      · exact hasDirectory_of_above h hp hne
      · exact hasDirectory_iff.mpr (Or.inr (Or.inl ⟨d, hd, hp⟩))
    · exact hasDirectory_iff.mpr (Or.inr (Or.inr hd))

/-- What is removed is the file to which the path leads, and no other. -/
theorem spares_remove (h : t.locate p ≠ .ok here) : Spares here t (t.remove p) := by
  unfold remove
  split
  · rename_i there hl
    have hne : here ≠ there := by
      rintro rfl
      exact h hl
    refine Spares.of_same rfl ?_ ?_
    · intro hd
      rcases hasDirectory_iff.mp hd with hd | ⟨d, hd, hp⟩ | ⟨f, hf, hd⟩
      · exact hasDirectory_iff.mpr (Or.inl hd)
      · rcases List.mem_cons.mp hd with rfl | hd
        · exact hasDirectory_of_prefix (locate_above hl) hp
        · exact hasDirectory_iff.mpr (Or.inr (Or.inl ⟨d, hd, hp⟩))
      · exact hasDirectory_iff.mpr (Or.inr (Or.inr ⟨f, (List.mem_filter.mp hf).1, hd⟩))
    · unfold file?
      rw [find?_filter_fst_ne hne]
  · exact Spares.refl here t

/-! ## Reading what was saved -/

theorem nodeAt_put (hd : t.hasDirectory there = false) (hb : t.barred.contains there = false) :
    (t.put there bytes).nodeAt there = .file bytes := by
  rw [nodeAt_eq_file_iff]
  refine ⟨?_, ?_, hb⟩
  · rw [← Bool.not_eq_true] at hd ⊢
    intro h
    rcases hasDirectory_iff.mp h with h | h | ⟨f, hf, hp, hlt⟩
    · exact hd (hasDirectory_iff.mpr (Or.inl h))
    · exact hd (hasDirectory_iff.mpr (Or.inr (Or.inl h)))
    · rcases List.mem_cons.mp hf with rfl | hf
      · exact absurd hlt (Nat.lt_irrefl _)
      · exact hd (hasDirectory_iff.mpr (Or.inr (Or.inr ⟨f, (List.mem_filter.mp hf).1, hp, hlt⟩)))
  · unfold file? put
    rw [List.find?_cons_of_pos (by simp), Option.map_some]

/-- **What was saved at a path is read there**, where it may be read. -/
theorem read_save (h : t.save p bytes = .ok t') (hl : t.locate p = .ok there)
    (hb : t.barred.contains there = false) : t'.read p = .ok bytes := by
  have hgrows := grows_save h
  unfold save at h
  rw [hl] at h
  dsimp only at h
  split at h
  · exact absurd h (by simp)
  · rename_i hd
    obtain rfl := Except.ok.inj h
    unfold read lookup
    rw [hgrows.locate hl]
    dsimp only
    rw [nodeAt_put (by simpa using hd) hb]

/-! ## Making directories and writing -/

theorem nodeAt_ne_deadEnd (d : DeadEnd) : t.nodeAt here ≠ .deadEnd d := by
  unfold nodeAt
  split
  · exact fun h => nomatch h
  · cases t.file? here with
    | none => exact fun h => nomatch h
    | some bytes => cases t.barred.contains here <;> exact fun h => nomatch h

theorem makeOne_spares (here : Location) (h : t.makeOne p = .ok t') :
    t.Grows t' ∧ Spares here t t' := by
  unfold makeOne at h
  split at h
  · exact absurd h (by simp)
  · rename_i there hl
    cases hn : t.nodeAt there with
    | directory =>
      rw [hn] at h
      rw [← Except.ok.inj h]
      exact ⟨Grows.refl t, Spares.refl here t⟩
    | file bytes =>
      rw [hn] at h
      exact absurd h (by simp)
    | locked =>
      rw [hn] at h
      exact absurd h (by simp)
    | missing =>
      rw [hn] at h
      rw [← Except.ok.inj h]
      exact ⟨grows_putDirectory t there, spares_putDirectory hl hn⟩
    | deadEnd d => exact absurd hn (nodeAt_ne_deadEnd d)

theorem makeAlong_spares (here : Location) {start : Path.Start} {parts : List String}
    (h : t.makeAlong start parts = .ok t') : t.Grows t' ∧ Spares here t t' := by
  induction parts generalizing t' with
  | nil => exact makeOne_spares here h
  | cons last before ih =>
    unfold makeAlong at h
    dsimp only at h
    split at h
    · cases ht : t.makeAlong start before with
      | error e =>
        rw [ht] at h
        exact absurd h (by simp)
      | ok t₁ =>
        rw [ht] at h
        have hbefore := ih ht
        have hlast := makeOne_spares here h
        exact ⟨hbefore.1.trans hlast.1, hbefore.2.trans hlast.2⟩
    · exact makeOne_spares here h

theorem save_spares (h : t.save p bytes = .ok t') (hne : t.locate p ≠ .ok here) :
    Spares here t t' := by
  unfold save at h
  split at h
  · exact absurd h (by simp)
  · rename_i there hl
    split at h
    · exact absurd h (by simp)
    · rw [← Except.ok.inj h]
      exact spares_put hl (by rintro rfl; exact hne hl)

/-- **What is written is the file to which the path leads afterwards, and no other.** -/
theorem write_spares (here : Location) (h : t.write p bytes = .ok t') :
    t.Grows t' ∧ (t'.locate p ≠ .ok here → Spares here t t') := by
  unfold write at h
  split at h
  · exact absurd h (by simp)
  · rename_i t₁ ht
    have hmade := makeAlong_spares here ht
    have hsaved := grows_save h
    refine ⟨hmade.1.trans hsaved, fun hne => hmade.2.trans (save_spares h fun hl => ?_)⟩
    exact hne (hsaved.locate hl)

end FileTree

end HealthAlert
