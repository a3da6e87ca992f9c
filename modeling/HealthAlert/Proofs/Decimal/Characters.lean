import HealthAlert.Decimal.Layout

/-!
# Characters of numbers

The text of a binary number holds digits, letters, points and signs, and nothing else.

* `isNumeralChar_of_mem_shortestText`: the characters of a decimal.
* **`Double.isNumeralChar_of_mem_text`**: the characters by which a binary number is written.
-/

namespace HealthAlert

namespace Decimal

/-- The characters of numbers and of the words that stand for them. -/
def isNumeralChar (c : Char) : Bool :=
  c.isAlphanum || ['.', '+', '-'].contains c

variable {c : Char}

theorem isNumeralChar_of_isDigit (h : c.isDigit = true) : isNumeralChar c = true := by
  simp only [isNumeralChar, Char.isAlphanum, h, Bool.or_true, Bool.true_or]

theorem isNumeralChar_of_mem_toDigits {n : Nat} (h : c ∈ Nat.toDigits 10 n) :
    isNumeralChar c = true :=
  isNumeralChar_of_isDigit (Nat.isDigit_of_mem_toDigits (by decide) (by decide) h)

theorem isNumeralChar_of_mem_zeros {n : Nat} (h : c ∈ zeros n) : isNumeralChar c = true := by
  obtain rfl := List.eq_of_mem_replicate h
  rfl

theorem isNumeralChar_of_mem_exponentText {e : Int} (h : c ∈ exponentText 'e' e) :
    isNumeralChar c = true := by
  unfold exponentText at h
  rcases List.mem_cons.mp h with rfl | h
  · rfl
  · rcases List.mem_cons.mp h with rfl | h
    · split <;> rfl
    · rcases List.mem_append.mp h with h | h
      · exact isNumeralChar_of_mem_zeros h
      · exact isNumeralChar_of_mem_toDigits h

/-- On both sides of the point stand the digits and zeros. -/
theorem isNumeralChar_of_mem_positional {ds : List Char} (hds : ∀ c ∈ ds, isNumeralChar c = true)
    {point : Int} (h : c ∈ (positional ds point).1 ++ (positional ds point).2) :
    isNumeralChar c = true := by
  unfold positional at h
  split at h
  · simp only [List.mem_append, List.mem_singleton] at h
    rcases h with rfl | h | h
    · rfl
    · exact isNumeralChar_of_mem_zeros h
    · exact hds c h
  · split at h
    · simp only [List.mem_append, List.not_mem_nil, or_false] at h
      exact h.elim (hds c) isNumeralChar_of_mem_zeros
    · rw [List.take_append_drop] at h
      exact hds c h

theorem isNumeralChar_of_mem_shortestText {d : Decimal} (h : c ∈ d.shortestText) :
    isNumeralChar c = true := by
  have hdigits (n : Nat) : ∀ c ∈ Nat.toDigits 10 n, isNumeralChar c = true :=
    fun _ hc => isNumeralChar_of_mem_toDigits hc
  unfold shortestText at h
  simp only at h
  split at h
  · rcases List.mem_append.mp h with h | h
    · exact isNumeralChar_of_mem_positional (hdigits _) (List.mem_append_left _ h)
    · rcases List.mem_cons.mp h with rfl | h
      · rfl
      · split at h
        · obtain rfl := List.mem_singleton.mp h
          rfl
        · exact isNumeralChar_of_mem_positional (hdigits _) (List.mem_append_right _ h)
  · rcases List.mem_append.mp h with h | h
    · have hmantissa := hdigits d.trimmed.digits
      split at h
      · exact absurd h List.not_mem_nil
      · rename_i heq
        exact hmantissa c (heq ▸ h)
      · rename_i heq
        rw [heq] at hmantissa
        rcases List.mem_cons.mp h with rfl | h
        · exact hmantissa _ List.mem_cons_self
        · rcases List.mem_cons.mp h with rfl | h
          · rfl
          · exact hmantissa c (List.mem_cons_of_mem _ h)
    · exact isNumeralChar_of_mem_exponentText h

end Decimal

/-- A binary number is written in digits, letters, points and signs. -/
theorem Double.isNumeralChar_of_mem_text {x : Double} {c : Char} (h : c ∈ x.text.toList) :
    Decimal.isNumeralChar c = true := by
  have hword (s : String) (hs : s.toList.all Decimal.isNumeralChar = true) (hc : c ∈ s.toList) :
      Decimal.isNumeralChar c = true := List.all_eq_true.mp hs c hc
  cases x with
  | nan => exact hword "nan" (by decide) h
  | infinite s =>
    refine hword _ ?_ h
    cases s <;> decide
  | finite s m e =>
    rw [text, String.toList_ofList] at h
    rcases List.mem_append.mp h with h | h
    · split at h
      · obtain rfl := List.mem_singleton.mp h
        rfl
      · exact absurd h List.not_mem_nil
    · split at h
      · exact List.all_eq_true.mp (by decide : ['0', '.', '0'].all Decimal.isNumeralChar = true) c h
      · exact Decimal.isNumeralChar_of_mem_shortestText h

end HealthAlert
