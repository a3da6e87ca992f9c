import HealthAlert.Decimal.Layout
import HealthAlert.Decimal.Reading

/-!
# Digits as numbers

What lists of decimal digits spell (`Decimal.ofDigits`): one list after another, with zeros in
front or at the end, and the digits of a number.

* `IsDigits`: one digit or more, and nothing else.
* `ofDigits_toDigits`: the digits of a number spell it.
* `ofDigits_zeros_append`, `ofDigits_append_zeros`: zeros in front, and zeros at the end.
* `digitRun_digits`: a run of digits is read to its end.
* `toList_toString_int`, `eq_of_toList_toString_int`: the text of an integer tells it.
-/

namespace HealthAlert.Decimal

/-- One digit or more. -/
structure IsDigits (ds : List Char) : Prop where
  ne_nil : ds ≠ []
  digits : ∀ c ∈ ds, c.isDigit = true

variable {ds es : List Char}

theorem isDigits_toDigits (n : Nat) : IsDigits (Nat.toDigits 10 n) :=
  ⟨Nat.toDigits_ne_nil, fun _ h => Nat.isDigit_of_mem_toDigits (by decide) (by decide) h⟩

theorem isDigit_of_mem_zeros {n : Nat} {c : Char} (h : c ∈ zeros n) : c.isDigit = true := by
  obtain rfl := List.eq_of_mem_replicate h
  rfl

theorem IsDigits.append (h : IsDigits ds) (hes : ∀ c ∈ es, c.isDigit = true) :
    IsDigits (ds ++ es) :=
  ⟨by simp [h.ne_nil], List.forall_mem_append.mpr ⟨h.digits, hes⟩⟩

theorem IsDigits.after (h : IsDigits ds) (hes : ∀ c ∈ es, c.isDigit = true) : IsDigits (es ++ ds) :=
  ⟨by simp [h.ne_nil], List.forall_mem_append.mpr ⟨hes, h.digits⟩⟩

theorem ofDigits_eq (ds : List Char) : ofDigits ds = Nat.ofDigitChars 10 ds 0 :=
  Nat.ofDigitChars_eq_foldl.symm

theorem ofDigits_toDigits (n : Nat) : ofDigits (Nat.toDigits 10 n) = n := by
  rw [ofDigits_eq, Nat.ofDigitChars_ten_toDigits]

theorem eq_of_toDigits_eq {m n : Nat} (h : Nat.toDigits 10 m = Nat.toDigits 10 n) : m = n :=
  calc
    m = ofDigits (Nat.toDigits 10 m) := (ofDigits_toDigits m).symm
    _ = ofDigits (Nat.toDigits 10 n) := by rw [h]
    _ = n := ofDigits_toDigits n

/-- Zeros in front do not count. -/
theorem ofDigits_zeros_append (n : Nat) (ds : List Char) :
    ofDigits (zeros n ++ ds) = ofDigits ds := by
  rw [ofDigits_eq, ofDigits_eq, Nat.ofDigitChars_append, zeros, Nat.ofDigitChars_replicate_zero,
    Nat.mul_zero]

/-- Every zero at the end makes ten times as much. -/
theorem ofDigits_append_zeros (ds : List Char) (n : Nat) :
    ofDigits (ds ++ zeros n) = ofDigits ds * Nat.pow 10 n := by
  rw [ofDigits_eq, ofDigits_eq, Nat.ofDigitChars_append, zeros, Nat.ofDigitChars_replicate_zero,
    Nat.mul_comm]
  rfl

/-- Digits are read to their end as one run. -/
theorem digitRun_digits (h : ∀ c ∈ ds, c.isDigit = true) : digitRun ds = (ds, []) := by
  induction ds with
  | nil => rfl
  | cons c ds ih =>
    rw [List.forall_mem_cons] at h
    have hrest := ih h.2
    cases ds with
    | nil => simp [digitRun, h.1]
    | cons d ds =>
      have hd : d ≠ '_' := by
        rintro rfl
        exact absurd (h.2 '_' List.mem_cons_self) (by decide)
      rw [digitRun, if_pos h.1, hrest]
      exact fun _ _ he => absurd (List.cons.inj he).1 hd

/-! ## Integers -/

theorem toList_toString_int (n : Int) :
    (toString n).toList = (if n < 0 then ['-'] else []) ++ Nat.toDigits 10 n.natAbs := by
  rw [Int.toString_eq_repr, Int.repr_eq_if]
  by_cases h : 0 ≤ n
  · have hn : n.toNat = n.natAbs := by omega
    rw [if_pos h, if_neg (by omega), Nat.toList_repr, hn, List.nil_append]
  · have hn : (-n).toNat = n.natAbs := by omega
    rw [if_neg h, if_pos (by omega), String.toList_append, Nat.toList_repr, hn]
    rfl

theorem isDigit_or_minus_of_mem_toString {n : Int} {c : Char} (h : c ∈ (toString n).toList) :
    c.isDigit = true ∨ c = '-' := by
  rw [toList_toString_int, List.mem_append] at h
  rcases h with h | h
  · split at h
    · exact Or.inr (List.mem_singleton.mp h)
    · exact absurd h List.not_mem_nil
  · exact Or.inl ((isDigits_toDigits _).digits c h)

theorem eq_of_toList_toString_int {m n : Int} (h : (toString m).toList = (toString n).toList) :
    m = n := by
  have hminus (k : Nat) : '-' ∉ Nat.toDigits 10 k := fun hk =>
    absurd ((isDigits_toDigits k).digits '-' hk) (by decide)
  rw [toList_toString_int, toList_toString_int] at h
  by_cases hm : m < 0 <;> by_cases hn : n < 0
  · rw [if_pos hm, if_pos hn] at h
    have := eq_of_toDigits_eq (List.append_cancel_left h)
    omega
  · rw [if_pos hm, if_neg hn, List.nil_append] at h
    exact absurd (h ▸ List.mem_append_left _ (List.mem_singleton_self '-')) (hminus _)
  · rw [if_neg hm, if_pos hn, List.nil_append] at h
    exact absurd (h ▸ List.mem_append_left _ (List.mem_singleton_self '-')) (hminus _)
  · rw [if_neg hm, if_neg hn] at h
    have := eq_of_toDigits_eq (List.append_cancel_left h)
    omega

end HealthAlert.Decimal
