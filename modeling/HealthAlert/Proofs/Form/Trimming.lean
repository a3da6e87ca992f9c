import HealthAlert.Form.Field
import Mathlib.Data.List.TakeWhile

/-!
# White space around the texts of a form

A check of a form judges a text without the white space around it, so it makes no difference
whether that was removed before. All checks of texts see a value only through its `Entry`.

* `trimBlanks_trimBlanks`: removing the white space twice removes no more than once.
* `trimBlanks_pad`: more white space at the ends is removed as well.
* `isBlankText_iff_trim`: nothing is left of the blank texts, and only of them.
* **`Entry.of_trim`**: a trimmed text is the entry that the text is.
* `Entry.of_eq_filled_iff`: when there is a text to judge, and which.
* `checkSelection_filter`: dropping the empty texts of a selection does not change its verdict.
-/

namespace HealthAlert

/-! ## Trimmed texts -/

namespace Text

/-- What is left by dropping from the front does not start with what was dropped. -/
theorem not_of_head?_dropWhile {p : Char → Bool} {cs : List Char} {c : Char}
    (h : (cs.dropWhile p).head? = some c) : p c = false := by
  have hnot := List.head?_dropWhile_not p cs
  rw [h] at hnot
  simpa using hnot

theorem dropWhile_eq_self {p : Char → Bool} {cs : List Char}
    (h : ∀ c, cs.head? = some c → p c = false) : cs.dropWhile p = cs := by
  cases cs with
  | nil => rfl
  | cons c cs => exact List.dropWhile_cons_of_neg (by simp [h c rfl])

/-- Trimmed characters are the front of those that do not start with white space. -/
theorem trimBlanks_append (cs : List Char) :
    ∃ blanks, trimBlanks cs ++ blanks = cs.dropWhile isBlank := by
  refine ⟨((cs.dropWhile isBlank).reverse.takeWhile isBlank).reverse, ?_⟩
  unfold trimBlanks
  rw [← List.reverse_append, List.takeWhile_append_dropWhile, List.reverse_reverse]

theorem trimBlanks_trimBlanks (cs : List Char) : trimBlanks (trimBlanks cs) = trimBlanks cs := by
  have hfront : (trimBlanks cs).dropWhile isBlank = trimBlanks cs := by
    obtain ⟨blanks, hblanks⟩ := trimBlanks_append cs
    refine dropWhile_eq_self fun c hc => ?_
    have hhead : (cs.dropWhile isBlank).head? = some c := by
      rw [← hblanks, List.head?_append, hc]
      rfl
    exact not_of_head?_dropWhile hhead
  have hback : (trimBlanks cs).reverse.dropWhile isBlank = (trimBlanks cs).reverse := by
    refine dropWhile_eq_self fun c hc => ?_
    unfold trimBlanks at hc
    rw [List.reverse_reverse] at hc
    exact not_of_head?_dropWhile hc
  show (((trimBlanks cs).dropWhile isBlank).reverse.dropWhile isBlank).reverse = trimBlanks cs
  rw [hfront, hback, List.reverse_reverse]

/-- Where no white space stands, none is removed. -/
theorem trimBlanks_eq_self {cs : List Char} (h : ∀ c ∈ cs, isBlank c = false) :
    trimBlanks cs = cs := by
  have hfront : cs.dropWhile isBlank = cs :=
    dropWhile_eq_self fun c hc => h c (List.mem_of_head? hc)
  have hback : cs.reverse.dropWhile isBlank = cs.reverse :=
    dropWhile_eq_self fun c hc => h c (List.mem_reverse.mp (List.mem_of_head? hc))
  unfold trimBlanks
  rw [hfront, hback, List.reverse_reverse]

theorem trimBlanks_eq_nil_iff {cs : List Char} :
    trimBlanks cs = [] ↔ ∀ c ∈ cs, isBlank c = true := by
  unfold trimBlanks
  rw [List.reverse_eq_nil_iff, List.dropWhile_eq_nil_iff]
  constructor
  · intro h c hc
    rw [← List.takeWhile_append_dropWhile (p := isBlank) (l := cs), List.mem_append] at hc
    rcases hc with hfront | hrest
    · exact List.mem_takeWhile_imp hfront
    · exact h c (List.mem_reverse.mpr hrest)
  · intro h c hc
    exact h c (List.dropWhile_suffix isBlank |>.subset (List.mem_reverse.mp hc))

/-- White space at the ends makes no difference. -/
theorem trimBlanks_pad {before after : List Char} (hbefore : ∀ c ∈ before, isBlank c = true)
    (hafter : ∀ c ∈ after, isBlank c = true) (cs : List Char) :
    trimBlanks (before ++ cs ++ after) = trimBlanks cs := by
  have hback : ∀ c ∈ after.reverse, isBlank c = true :=
    fun c hc => hafter c (List.mem_reverse.mp hc)
  unfold trimBlanks
  rw [List.append_assoc, List.dropWhile_append_of_pos hbefore, List.dropWhile_append]
  split
  · rename_i hcs
    rw [List.dropWhile_eq_nil_iff.mpr hafter, List.isEmpty_iff.mp hcs]
  · rw [List.reverse_append, List.dropWhile_append_of_pos hback]

/-- A text holds nothing but white space exactly when nothing is left of it. -/
theorem isBlankText_iff_trim {s : String} : isBlankText s = true ↔ trim s = "" := by
  unfold isBlankText trim
  rw [List.all_eq_true, ← trimBlanks_eq_nil_iff, ← String.toList_inj, String.toList_ofList]
  rfl

end Text

namespace Form

/-! ## Checks of texts -/

/-- **A trimmed text is the entry that the text is.** -/
theorem Entry.of_trim (s : String) : Entry.of (.text (Text.trim s)) = Entry.of (.text s) := by
  have hchars : Text.trimBlanks (Text.trim s).toList = Text.trimBlanks s.toList := by
    rw [Text.trim, String.toList_ofList, Text.trimBlanks_trimBlanks]
  simp only [Entry.of, Value.text?, hchars]

theorem Entry.of_text? {v : Value} {s : String} (h : v.text? = some s) :
    Entry.of v = Entry.of (.text s) := by
  cases v with
  | text t =>
    obtain rfl := Option.some.inj h
    rfl
  | member m =>
    obtain rfl := Option.some.inj h
    rfl
  | _ => exact absurd h (by simp [Value.text?])

/-- An entry is filled by what is left of a text, if anything is. -/
theorem Entry.of_eq_filled_iff {v : Value} {cs : List Char} :
    Entry.of v = .filled cs ↔
      ∃ s, v.text? = some s ∧ Text.trimBlanks s.toList = cs ∧ cs ≠ [] := by
  cases htext : v.text? with
  | none => cases v <;> simp [Entry.of, htext]
  | some s =>
    rw [Entry.of_text? htext]
    simp only [Entry.of, Value.text?, Option.some.injEq, exists_eq_left']
    cases Text.trimBlanks s.toList with
    | nil => simp +contextual [eq_comm]
    | cons c rest => simp +contextual [eq_comm]

section Checks

variable {v w : Value} (h : Entry.of v = Entry.of w)

include h

theorem checkSubscriptionId_congr : checkSubscriptionId v = checkSubscriptionId w := by
  unfold checkSubscriptionId
  rw [h]

theorem checkAlertName_congr : checkAlertName v = checkAlertName w := by
  unfold checkAlertName
  rw [h]

theorem checkRequired_congr (label : String) : checkRequired label v = checkRequired label w := by
  unfold checkRequired
  rw [h]

theorem checkEmail_congr : checkEmail v = checkEmail w := by
  unfold checkEmail
  rw [h]

end Checks

/-- A trimmed text passes for a required one unless it is empty. -/
theorem checkRequired_trim_eq_none_iff {label s : String} :
    checkRequired label (.text (Text.trim s)) = none ↔ Text.trim s ≠ "" := by
  rw [checkRequired_congr (Entry.of_trim s)]
  unfold checkRequired Text.trim
  simp only [Entry.of, Value.text?]
  cases Text.trimBlanks s.toList with
  | nil => simp
  | cons c cs => simp [← String.toList_inj]

/-! ## Selections -/

/-- A selection passes when one of its texts is not empty. -/
theorem checkSelection_texts {what : String} {ss : List String} :
    checkSelection what (.list (ss.map .text)) = none ↔ ∃ s ∈ ss, s ≠ "" := by
  have hany : (ss.map Value.text).any isSelected = ss.any (· != "") := by
    rw [List.any_map]
    rfl
  simp only [checkSelection, Value.items?, hany]
  split
  · rename_i h
    simpa using h
  · rename_i h
    simpa using h

/-- Dropping the empty texts of a selection does not change its verdict. -/
theorem checkSelection_filter {what : String} {ss : List String} :
    checkSelection what (.list ((ss.filter (· != "")).map .text)) = none ↔
      checkSelection what (.list (ss.map .text)) = none := by
  simp [checkSelection_texts]

end Form

end HealthAlert
