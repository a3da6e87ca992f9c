import HealthAlert.Proofs.Form.Trimming

/-!
# Which texts are alert names

The check of an alert name judges its length first and then its characters, both without the white
space around the name. A name of the right length is refused for the characters that it may not
hold, and the refusal shows each of them as often as the name holds it.

* `checkAlertName_of_within`: what becomes of a name of the right length.
* `checkAlertName_pad`: white space around a name makes no difference to the verdict.
* **`checkAlertName_judges`**: which names pass, what the refusal of the others shows, and that
  white space around them counts for nothing.
-/

namespace HealthAlert.Form

/-! ## Names -/

/-- A character that a name may not hold. -/
def IsForbidden (c : Char) : Prop :=
  c ∈ ['<', '>', '%', '&', '\\', '?', '/']

instance : DecidablePred IsForbidden := fun c =>
  inferInstanceAs (Decidable (c ∈ ['<', '>', '%', '&', '\\', '?', '/']))

/-- A name of 3 to 260 characters, none of them forbidden. -/
structure IsAlertName (cs : List Char) : Prop where
  length : 3 ≤ cs.length ∧ cs.length ≤ 260
  chars : ∀ c ∈ cs, ¬ IsForbidden c

/-- The forbidden characters of a name, in order and repeated. -/
def offenders (cs : List Char) : List Char :=
  cs.filter fun c => decide (IsForbidden c)

/-- How a refusal shows characters. -/
def charactersMessage (found : List Char) : String :=
  "Alert Name contains invalid characters: " ++
    String.intercalate ", " (found.map fun c => String.ofList [c]) ++
    ". Use letters, numbers, spaces, and hyphens only."

theorem offenders_eq_nil_iff {cs : List Char} :
    offenders cs = [] ↔ ∀ c ∈ cs, ¬ IsForbidden c := by
  simp [offenders]

theorem filter_forbiddenInName (cs : List Char) :
    cs.filter forbiddenInName.contains = offenders cs := by
  refine List.filter_congr fun c _ => ?_
  rw [List.contains_eq_mem]
  rfl

/-! ## The check -/

section Verdict

variable {v w : Value} {s : String} {cs : List Char}

/-- A name of the right length has no problem but its forbidden characters. -/
theorem checkAlertName_of_within (hentry : Entry.of v = .filled cs)
    (hlength : 3 ≤ cs.length ∧ cs.length ≤ 260) :
    checkAlertName v =
      if offenders cs = [] then none else some (.nameCharacters (offenders cs)) := by
  have hshort : ¬ cs.length < minNameLength := Nat.not_lt.mpr hlength.1
  have hlong : ¬ maxNameLength < cs.length := Nat.not_lt.mpr hlength.2
  unfold checkAlertName
  simp only [hentry, if_neg hshort, if_neg hlong, filter_forbiddenInName]
  cases offenders cs with
  | nil => rfl
  | cons c rest => rfl

/-- A name of another length has a problem. -/
theorem checkAlertName_of_not_within (hentry : Entry.of v = .filled cs)
    (hlength : ¬ (3 ≤ cs.length ∧ cs.length ≤ 260)) : checkAlertName v ≠ none := by
  unfold checkAlertName
  simp only [hentry]
  by_cases hshort : cs.length < minNameLength
  · simp [hshort]
  · have hlong : maxNameLength < cs.length := by
      rw [Nat.not_lt] at hshort
      exact Nat.not_le.mp fun hle => hlength ⟨hshort, hle⟩
    simp [hshort, hlong]

theorem entry_of_within (hs : v.text? = some s) (h : 3 ≤ (Text.trimBlanks s.toList).length) :
    Entry.of v = .filled (Text.trimBlanks s.toList) :=
  Entry.of_eq_filled_iff.mpr ⟨s, hs, rfl, List.ne_nil_of_length_pos (by omega)⟩

theorem checkAlertName_eq_none_iff :
    checkAlertName v = none ↔ ∃ s, v.text? = some s ∧ IsAlertName (Text.trimBlanks s.toList) := by
  constructor
  · intro h
    cases hentry : Entry.of v with
    | blank => exact absurd h (by simp [checkAlertName, hentry])
    | other => exact absurd h (by simp [checkAlertName, hentry])
    | filled cs =>
      have hlength : 3 ≤ cs.length ∧ cs.length ≤ 260 := by
        by_contra hoff
        exact checkAlertName_of_not_within hentry hoff h
      rw [checkAlertName_of_within hentry hlength] at h
      have hnone : offenders cs = [] := by
        by_contra hfound
        rw [if_neg hfound] at h
        exact nomatch h
      obtain ⟨s, hs, rfl, -⟩ := Entry.of_eq_filled_iff.mp hentry
      exact ⟨s, hs, hlength, offenders_eq_nil_iff.mp hnone⟩
  · rintro ⟨s, hs, hname⟩
    rw [checkAlertName_of_within (entry_of_within hs hname.length.1) hname.length,
      if_pos (offenders_eq_nil_iff.mpr hname.chars)]

/-- White space around a name makes no difference to the verdict. -/
theorem checkAlertName_pad {before after : String}
    (hbefore : ∀ c ∈ before.toList, Text.isBlank c = true)
    (hafter : ∀ c ∈ after.toList, Text.isBlank c = true) (hv : v.text? = some s)
    (hw : w.text? = some (before ++ s ++ after)) : checkAlertName w = checkAlertName v := by
  refine checkAlertName_congr ?_
  rw [Entry.of_text? hv, Entry.of_text? hw]
  simp only [Entry.of, Value.text?, String.toList_append, Text.trimBlanks_pad hbefore hafter]

end Verdict

/-- **Exactly the alert names pass, with or without white space around them.** The refusal of a name
of the right length shows all its forbidden characters, in order and repeated; and white space at
the ends, more or less of it, leaves the verdict as it is. -/
theorem checkAlertName_judges :
    (∀ v : Value, checkAlertName v = none ↔
      ∃ s, v.text? = some s ∧ IsAlertName (Text.trimBlanks s.toList)) ∧
    (∀ (v : Value) (s : String) (p : Problem), v.text? = some s →
      3 ≤ (Text.trimBlanks s.toList).length → (Text.trimBlanks s.toList).length ≤ 260 →
      checkAlertName v = some p → offenders (Text.trimBlanks s.toList) ≠ [] ∧
        p.message = charactersMessage (offenders (Text.trimBlanks s.toList))) ∧
    ∀ (v w : Value) (before s after : String), (∀ c ∈ before.toList, Text.isBlank c = true) →
      (∀ c ∈ after.toList, Text.isBlank c = true) → v.text? = some s →
      w.text? = some (before ++ s ++ after) → checkAlertName w = checkAlertName v := by
  refine ⟨fun v => checkAlertName_eq_none_iff, fun v s p hs hmin hmax hp => ?_,
    fun v w before s after hbefore hafter => checkAlertName_pad hbefore hafter⟩
  rw [checkAlertName_of_within (entry_of_within hs hmin) ⟨hmin, hmax⟩] at hp
  by_cases hnone : offenders (Text.trimBlanks s.toList) = []
  · rw [if_pos hnone] at hp
    exact nomatch hp
  · rw [if_neg hnone] at hp
    obtain rfl := Option.some.inj hp
    exact ⟨hnone, rfl⟩

theorem checkAlertName_judges_spacedName :
    checkAlertName (.text "\u3000a/b<?/ c\n") ≠ none ∧
      ∃ p, checkAlertName (.text "a/b<?/ c") = some p ∧ p.message =
        "Alert Name contains invalid characters: /, <, ?, /. " ++
          "Use letters, numbers, spaces, and hyphens only." := by
  obtain ⟨-, hshows, hpads⟩ := checkAlertName_judges
  have hp : checkAlertName (.text "a/b<?/ c") = some (.nameCharacters ['/', '<', '?', '/']) := by
    decide
  have hpadded := hpads (.text "a/b<?/ c") (.text "\u3000a/b<?/ c\n") "\u3000" "a/b<?/ c" "\n"
    (by simp [Text.isBlank]) (by simp [Text.isBlank]) rfl rfl
  obtain ⟨-, hmessage⟩ := hshows _ _ _ rfl (by decide) (by decide) hp
  refine ⟨?_, _, hp, hmessage⟩
  rw [hpadded, hp]
  exact nofun

end HealthAlert.Form
