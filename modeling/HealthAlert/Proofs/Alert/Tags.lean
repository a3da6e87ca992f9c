import HealthAlert.Alert.Template
import HealthAlert.Proofs.Value.Keyed

/-!
# Tags and names of a template

`tagTexts` are the tags of a template with the texts of their values as they were entered:
`tags_eq` says that the template holds exactly these, quoted. The keys of tags and the short names
of action groups are made of few characters (`isTagKeyChar_of_mem_tagKeyOf`,
`isLowerAlnum_of_mem_shortName`), so neither ever holds a quote or a backslash.
-/

namespace HealthAlert

/-! ## Entries under keys -/

namespace Keyed

variable {α β : Type}

theorem mem_foldl_put {pairs m : List (String × α)} {e : String × α}
    (h : e ∈ pairs.foldl (fun m e => put m e.1 e.2) m) : e ∈ m ∨ e ∈ pairs := by
  induction pairs generalizing m with
  | nil => exact Or.inl h
  | cons d pairs ih =>
    rcases ih h with h | h
    · exact (mem_put h).imp_right fun hd => by rw [hd]; exact List.mem_cons_self
    · exact Or.inr (List.mem_cons_of_mem _ h)

/-- Every entry is one of the pairs that were put. -/
theorem mem_ofPairs {pairs : List (String × α)} {e : String × α} (h : e ∈ ofPairs pairs) :
    e ∈ pairs :=
  (mem_foldl_put h).resolve_left List.not_mem_nil

/-- Putting a changed value is putting the value and changing all values. -/
theorem put_map (f : α → β) (m : Keyed α) (key : String) (value : α) :
    put (m.map fun e => (e.1, f e.2)) key (f value) =
      (put m key value).map fun e => (e.1, f e.2) := by
  induction m with
  | nil => rfl
  | cons d rest ih =>
    obtain ⟨k, v⟩ := d
    simp only [List.map_cons, put]
    split
    · rfl
    · rw [ih, List.map_cons]

end Keyed

/-! ## Characters of names -/

namespace Naming

theorem isTagKeyChar_of_mem_tagKeyChars {cs : List Char} {c : Char} (h : c ∈ tagKeyChars cs) :
    isTagKeyChar c = true := by
  have hkept : ∀ c ∈ (Text.trimBlanks cs).map fun c => if isTagKeyChar c then c else '-',
      isTagKeyChar c = true := by
    intro c hc
    obtain ⟨d, -, rfl⟩ := List.mem_map.mp hc
    split
    · assumption
    · decide
  unfold tagKeyChars at h
  split at h
  · exact absurd h List.not_mem_nil
  · rename_i d rest hd
    rw [hd] at hkept
    split at h
    · rcases List.mem_cons.mp h with rfl | h
      · decide
      · rcases List.mem_cons.mp h with rfl | h
        · decide
        · exact hkept c h
    · exact hkept c h

/-- A tag key holds ASCII letters, digits, underscores, dots and hyphens only. -/
theorem isTagKeyChar_of_mem_tagKeyOf {v : Value} {c : Char} (h : c ∈ (tagKeyOf v).toList) :
    isTagKeyChar c = true := by
  unfold tagKeyOf tagKey at h
  split at h
  · rw [String.toList_ofList] at h
    exact isTagKeyChar_of_mem_tagKeyChars h
  · exact absurd h (by simp)

/-- A short name holds lowercase ASCII letters and digits only. -/
theorem isLowerAlnum_of_mem_shortName {name : String} {c : Char}
    (h : c ∈ (shortName name).toList) : Text.isLowerAlnum c = true := by
  have hfallback : ∀ c ∈ fallback, Text.isLowerAlnum c = true :=
    List.all_eq_true.mp (show fallback.all Text.isLowerAlnum = true by decide)
  unfold shortName shortNameChars at h
  rw [String.toList_ofList] at h
  split at h
  · exact hfallback c h
  · rename_i d rest hd
    have hkept : ∀ c ∈ d :: rest, Text.isLowerAlnum c = true := fun c hc => by
      rw [← hd] at hc
      exact (List.mem_filter.mp hc).2
    rcases List.mem_append.mp (List.mem_of_mem_take h) with hc | hc
    · split at hc
      · exact hfallback c hc
      · exact absurd hc List.not_mem_nil
    · exact hkept c hc

end Naming

/-! ## Tags -/

namespace Template

/-- The text of a tag's value; a value that counts as nothing has none. -/
def valueText (v : Value) : String :=
  if v.truthy then v.display else ""

@[simp] theorem valueText_text (s : String) : valueText (.text s) = s := by
  unfold valueText Value.truthy Value.display
  by_cases h : s = "" <;> simp [h]

/-- The rows whose key is not blank, each as its safe key and the text of its value. -/
def tagPairs (rows : List (Value × Value)) : List (String × String) :=
  rows.filterMap fun row =>
    if Naming.tagKeyOf row.1 = "" then none
    else some (Naming.tagKeyOf row.1, valueText row.2)

/-- The tags as they were entered: safe keys in order of their first row, each with the text of the
value in its last row. -/
def tagTexts (rows : List (Value × Value)) : Keyed String :=
  Keyed.ofPairs (tagPairs rows)

/-- The entries with their values quoted. -/
def quoteValues (m : Keyed String) : Keyed String :=
  m.map fun e => (e.1, Bicep.quote e.2)

/-- Adding rows to quoted tags is putting their pairs and quoting all values. -/
theorem foldl_addTag (rows : List (Value × Value)) : ∀ m : Keyed String,
    rows.foldl addTag (quoteValues m) =
      quoteValues ((tagPairs rows).foldl (fun m e => Keyed.put m e.1 e.2) m) := by
  induction rows with
  | nil => intro m; rfl
  | cons row rows ih =>
    intro m
    unfold tagPairs
    rw [List.foldl_cons, List.filterMap_cons]
    by_cases hkey : Naming.tagKeyOf row.1 = ""
    · simp only [addTag, if_pos hkey]
      exact ih m
    · have hput : addTag (quoteValues m) row =
          quoteValues (Keyed.put m (Naming.tagKeyOf row.1) (valueText row.2)) :=
        (if_neg hkey).trans (Keyed.put_map Bicep.quote m _ _)
      simp only [if_neg hkey, List.foldl_cons]
      rw [hput]
      exact ih _

/-- **The tags of a template are those that were entered, with their values quoted.** -/
theorem tags_eq (rows : List (Value × Value)) : tags rows = quoteValues (tagTexts rows) :=
  foldl_addTag rows []

/-- Every tag comes from a row that was entered. -/
theorem exists_row_of_mem_tagTexts {rows : List (Value × Value)} {e : String × String}
    (h : e ∈ tagTexts rows) :
    ∃ row ∈ rows, e = (Naming.tagKeyOf row.1, valueText row.2) := by
  obtain ⟨row, hrow, he⟩ := List.mem_filterMap.mp (Keyed.mem_ofPairs h)
  split at he
  · exact absurd he (by simp)
  · exact ⟨row, hrow, (Option.some.inj he).symm⟩

end Template

end HealthAlert
