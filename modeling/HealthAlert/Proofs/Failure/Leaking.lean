import HealthAlert.Failure.Redaction
import Mathlib.Data.List.Forall2
import Mathlib.Data.List.TakeWhile

/-!
# What counts as a leak

`Leaky s` says in general terms what the search in `Redaction.leaks` looks for: somewhere the text
holds the path of a file of the server, which is a slash, a name, a dot and an extension, or the
header of a traceback.

* `startsWith_iff`, `startsPath_iff`: what the text starts with.
* **`leaks_iff`**: the search finds a leak exactly when there is one.
-/

namespace HealthAlert.Redaction

/-! ## Patterns -/

/-- The characters are those of a word given in small letters, each in some form. -/
def Spells (word cs : List Char) : Prop :=
  List.Forall₂ (fun p c => isFormOf p c = true) word cs

/-- The characters are the path of a file of the server. -/
def IsServerPath (cs : List Char) : Prop :=
  ∃ slash name extension, cs = slash :: (name ++ '.' :: extension) ∧
    (slash = '/' ∨ slash = '\\') ∧ name ≠ [] ∧ (∀ c ∈ name, isPathChar c = true) ∧
    ∃ e ∈ extensions, Spells e extension

/-- The characters must not be shown: a path of the server, or the header of a traceback. -/
def IsLeak (cs : List Char) : Prop :=
  IsServerPath cs ∨ Spells tracebackHeader cs

/-- The text holds characters that must not be shown. -/
def Leaky (s : String) : Prop :=
  ∃ before leak after, s.toList = before ++ leak ++ after ∧ IsLeak leak

/-! ## The search -/

theorem startsWith_iff {word cs : List Char} :
    startsWith word cs = true ↔ ∃ part after, cs = part ++ after ∧ Spells word part := by
  induction word generalizing cs with
  | nil => exact iff_of_true rfl ⟨[], cs, rfl, .nil⟩
  | cons p ps ih =>
    cases cs with
    | nil =>
      refine iff_of_false (by simp [startsWith]) ?_
      rintro ⟨part, after, hcs, hspells⟩
      obtain ⟨rfl, -⟩ := List.append_eq_nil_iff.mp hcs.symm
      cases hspells
    | cons c cs =>
      rw [startsWith, Bool.and_eq_true, ih]
      constructor
      · rintro ⟨hc, part, after, rfl, hspells⟩
        exact ⟨c :: part, after, rfl, .cons hc hspells⟩
      · rintro ⟨part, after, hcs, hspells⟩
        cases hspells with
        | cons hc hspells =>
          obtain ⟨rfl, rfl⟩ := List.cons.inj hcs
          exact ⟨hc, _, after, rfl, hspells⟩

theorem not_isPathChar_dot : isPathChar '.' = false := by
  decide

/-- The name goes as far as it can: a dot is no part of it. -/
theorem endsPath_iff {cs : List Char} :
    endsPath cs = true ↔ ∃ name extension after, cs = name ++ '.' :: (extension ++ after) ∧
      name ≠ [] ∧ (∀ c ∈ name, isPathChar c = true) ∧ ∃ e ∈ extensions, Spells e extension := by
  unfold endsPath
  constructor
  · intro h
    rw [Bool.and_eq_true] at h
    obtain ⟨hne, hrest⟩ := h
    split at hrest
    · rename_i rest hdrop
      obtain ⟨e, he, hstarts⟩ := List.any_eq_true.mp hrest
      obtain ⟨extension, after, rfl, hspells⟩ := startsWith_iff.mp hstarts
      refine ⟨cs.takeWhile isPathChar, extension, after, ?_, by simpa using hne,
        fun c hc => List.mem_takeWhile_imp hc, e, he, hspells⟩
      rw [← hdrop, List.takeWhile_append_dropWhile]
    · exact absurd hrest (by simp)
  · rintro ⟨name, extension, after, rfl, hne, hname, e, he, hspells⟩
    rw [List.takeWhile_append_of_pos hname, List.dropWhile_append_of_pos hname,
      List.takeWhile_cons_of_neg (by simp [not_isPathChar_dot]),
      List.dropWhile_cons_of_neg (by simp [not_isPathChar_dot]), List.append_nil]
    have hany : extensions.any (fun e => startsWith e (extension ++ after)) = true :=
      List.any_eq_true.mpr ⟨e, he, startsWith_iff.mpr ⟨extension, after, rfl, hspells⟩⟩
    simp [hne, hany]

theorem startsPath_iff {cs : List Char} :
    startsPath cs = true ↔ ∃ path after, cs = path ++ after ∧ IsServerPath path := by
  cases cs with
  | nil =>
    refine iff_of_false (by simp [startsPath]) ?_
    rintro ⟨path, after, hcs, slash, name, extension, rfl, -⟩
    exact absurd hcs (by simp)
  | cons c rest =>
    rw [startsPath, Bool.and_eq_true, endsPath_iff]
    constructor
    · rintro ⟨hslash, name, extension, after, rfl, hne, hname, hextension⟩
      refine ⟨c :: (name ++ '.' :: extension), after, by simp, c, name, extension, rfl, ?_, hne,
        hname, hextension⟩
      simpa using hslash
    · rintro ⟨path, after, hcs, slash, name, extension, rfl, hslash, hne, hname, hextension⟩
      obtain ⟨rfl, rfl⟩ := List.cons.inj hcs
      exact ⟨by simpa using hslash, name, extension, after, by simp, hne, hname, hextension⟩

theorem leaksHere_iff {cs : List Char} :
    leaksHere cs = true ↔ ∃ leak after, cs = leak ++ after ∧ IsLeak leak := by
  unfold leaksHere IsLeak
  rw [Bool.or_eq_true, startsPath_iff, startsWith_iff, ← exists_or]
  refine exists_congr fun leak => ?_
  rw [← exists_or]
  exact exists_congr fun after => and_or_left.symm

theorem leaksChars_iff {cs : List Char} :
    leaksChars cs = true ↔ ∃ before leak after, cs = before ++ leak ++ after ∧ IsLeak leak := by
  induction cs with
  | nil =>
    rw [leaksChars, leaksHere_iff]
    constructor
    · rintro ⟨leak, after, hcs, hleak⟩
      exact ⟨[], leak, after, hcs, hleak⟩
    · rintro ⟨before, leak, after, hcs, hleak⟩
      obtain ⟨hfront, rfl⟩ := List.append_eq_nil_iff.mp hcs.symm
      obtain ⟨rfl, rfl⟩ := List.append_eq_nil_iff.mp hfront
      exact ⟨[], [], rfl, hleak⟩
  | cons c cs ih =>
    rw [leaksChars, Bool.or_eq_true, leaksHere_iff, ih]
    constructor
    · rintro (⟨leak, after, hcs, hleak⟩ | ⟨before, leak, after, rfl, hleak⟩)
      · exact ⟨[], leak, after, hcs, hleak⟩
      · exact ⟨c :: before, leak, after, rfl, hleak⟩
    · rintro ⟨before, leak, after, hcs, hleak⟩
      cases before with
      | nil => exact Or.inl ⟨leak, after, hcs, hleak⟩
      | cons b before =>
        obtain ⟨rfl, rfl⟩ := List.cons.inj hcs
        exact Or.inr ⟨before, leak, after, rfl, hleak⟩

/-- **The search finds a leak exactly when there is one.** -/
theorem leaks_iff {s : String} : leaks s = true ↔ Leaky s :=
  leaksChars_iff

/-- What stands in the place of a leak is none. -/
theorem not_leaky_placeholder : ¬ Leaky placeholder := by
  rw [← leaks_iff]
  decide

end HealthAlert.Redaction
