import HealthAlert.Proofs.Json.Cutting

/-!
# Integers that are too long

A text may be JSON and still not be read, because an integer in it has more digits than are read.
`outline` looks at such a text with a zero in place of every integer that is too long, so it tells
what the text is, however many digits its integers have.

* `lt_of_mem_cut`: an integer that is too long has more digits than are read.
* `step_shortened`, `run_shortened`: the machine goes the same way up to the first of them.
* **`readText_eq_ok_iff_outline`**: a text is read exactly when it is JSON without such integers.
* **`readText_of_longInteger`**: otherwise the first of them is the fault.
-/

namespace HealthAlert.Json

/-- The token with a zero in place of an integer that is too long. -/
def Token.shortened : Token → Token
  | .longInteger _ => .word (.int 0)
  | t => t

/-- The located token with a zero in place of an integer that is too long. -/
def Located.shortened (t : Located) : Located :=
  { t with token := t.token.shortened }

/-- The value that a text spells when its integers may have any number of digits, but for zeros in
place of those that are too long. -/
def outline (cs : List Char) : Except ReadError Value :=
  match run (.value []) ((tokens cs).map Located.shortened) with
  | .ok s => finish cs.length s
  | .error e => .error e

/-- An integer in the text has more digits than are read. -/
def HasLongInteger (cs : List Char) : Prop := ∃ n, .longInteger n ∈ cut 0 0 cs

variable {cs : List Char} {s s' : State} {t : Located} {ts : List Located} {v : Value} {n : Nat}

/-! ## Tokens -/

theorem lt_of_token {number : NumberText} (h : number.token = .longInteger n) :
    maxIntegerDigits < n := by
  unfold NumberText.token at h
  split at h
  · split at h
    · obtain rfl := Token.longInteger.inj h
      assumption
    · cases h
  · cases h

theorem lt_of_tokenAt {pos : Nat} {c : Char} {rest : List Char}
    (h : (tokenAt pos c rest).1 = .longInteger n) : maxIntegerDigits < n := by
  have hword : (wordToken (c :: rest)).1 = .longInteger n :=
    (wordToken_of_tokenAt (by rw [h]; trivial)).trans h
  unfold wordToken at hword
  split at hword
  · cases hword
  · split at hword
    · exact lt_of_token hword
    · cases hword

/-- An integer that is too long has more digits than are read. -/
theorem lt_of_mem_cut {pos skip : Nat} (h : .longInteger n ∈ cut pos skip cs) :
    maxIntegerDigits < n := by
  obtain ⟨pos, c, rest, -, ht⟩ := exists_tokenAt_of_mem_cut h
  exact lt_of_tokenAt ht

theorem shortened_eq_self (h : ∀ n, t.token ≠ .longInteger n) : t.shortened = t := by
  obtain ⟨token, start⟩ := t
  cases token with
  | longInteger n => exact absurd rfl (h n)
  | _ => rfl

/-! ## The machine -/

theorem startValue_of_longInteger {stack : List Frame} (h : t.token = .longInteger n) :
    startValue stack t = .error (.longInteger n) := by
  unfold startValue
  rw [h]

/-- A step takes a zero only where it fails over an integer that is too long. -/
theorem step_of_longInteger (ht : t.token = .longInteger n) (h : step s t.shortened = .ok s') :
    step s t = .error (.longInteger n) := by
  have hzero : t.shortened.token = .word (.int 0) := by simp only [Located.shortened, ht]; rfl
  cases s with
  | value stack => exact startValue_of_longInteger ht
  | firstItem stack =>
    unfold step
    simp only [ht]
    exact startValue_of_longInteger ht
  | _ => simp [step, startEntry, hzero] at h

/-- **A step.** With zeros the machine goes on as it does without, or the token is at fault. -/
theorem step_shortened (h : step s t.shortened = .ok s') :
    ((∀ n, t.token ≠ .longInteger n) ∧ step s t = .ok s') ∨
      ∃ n, t.token = .longInteger n ∧ step s t = .error (.longInteger n) := by
  by_cases hlong : ∃ n, t.token = .longInteger n
  · obtain ⟨n, ht⟩ := hlong
    exact Or.inr ⟨n, ht, step_of_longInteger ht h⟩
  · rw [not_exists] at hlong
    exact Or.inl ⟨hlong, shortened_eq_self hlong ▸ h⟩

/-- **A run.** With zeros the machine ends as it does without, or the first integer that is too long
is at fault. -/
theorem run_shortened (h : run s (ts.map Located.shortened) = .ok s') :
    ((∀ t ∈ ts, ∀ n, t.token ≠ .longInteger n) ∧ run s ts = .ok s') ∨
      ∃ t ∈ ts, ∃ n, t.token = .longInteger n ∧ run s ts = .error (.longInteger n) := by
  induction ts generalizing s with
  | nil => exact Or.inl ⟨by simp, h⟩
  | cons t ts ih =>
    rw [List.map_cons, run] at h
    cases hstep : step s t.shortened with
    | error e =>
      rw [hstep] at h
      cases h
    | ok next =>
      rw [hstep] at h
      rcases step_shortened hstep with ⟨hshort, hnext⟩ | ⟨n, ht, hfault⟩
      · rw [run, hnext]
        rcases ih h with ⟨hall, hrun⟩ | ⟨t', hmem, n, ht', hrun⟩
        · exact Or.inl ⟨List.forall_mem_cons.mpr ⟨hshort, hall⟩, hrun⟩
        · exact Or.inr ⟨t', List.mem_cons_of_mem t hmem, n, ht', hrun⟩
      · exact Or.inr ⟨t, List.mem_cons_self, n, ht, by rw [run, hfault]⟩

/-! ## Texts -/

theorem outline_eq_ok_iff :
    outline cs = .ok v ↔
      run (.value []) ((tokens cs).map Located.shortened) = .ok (.complete v) := by
  unfold outline
  cases run (.value []) ((tokens cs).map Located.shortened) with
  | ok s => simp [finish_eq_ok_iff]
  | error e => simp

/-- Whether a text is JSON but for its long integers is told by its tokens. -/
theorem outline_of_cut {us : List Token} (hcut : cut 0 0 cs = us)
    (h : run (.value []) (us.map fun t => ⟨t.shortened, 0⟩) = .ok (.complete v)) :
    outline cs = .ok v := by
  refine outline_eq_ok_iff.mpr (run_of_tokens h ?_).1
  rw [← hcut, cut, List.map_map, List.map_map, List.map_map]
  rfl

theorem hasLongInteger_iff :
    HasLongInteger cs ↔ ∃ t ∈ tokens cs, ∃ n, t.token = .longInteger n := by
  constructor
  · rintro ⟨n, hn⟩
    obtain ⟨t, ht, htoken⟩ := List.mem_map.mp hn
    exact ⟨t, ht, n, htoken⟩
  · rintro ⟨t, ht, n, htoken⟩
    exact ⟨n, List.mem_map.mpr ⟨t, ht, htoken⟩⟩

/-- **A text is read exactly when it is JSON and no integer in it is too long.** -/
theorem readText_eq_ok_iff_outline :
    readText cs = .ok v ↔ outline cs = .ok v ∧ ¬ HasLongInteger cs := by
  rw [outline_eq_ok_iff, hasLongInteger_iff, readText_eq_ok_iff]
  constructor
  · intro h
    have hshort : ∀ t ∈ tokens cs, ∀ n, t.token ≠ .longInteger n := by
      intro t ht n hlong
      have hsound := (run_of_tokens h rfl).2 t ht
      rw [hlong] at hsound
      exact hsound
    have hsame : (tokens cs).map Located.shortened = tokens cs :=
      (List.map_congr_left fun t ht => shortened_eq_self (hshort t ht)).trans (List.map_id _)
    exact ⟨hsame.symm ▸ h, fun ⟨t, ht, n, hlong⟩ => hshort t ht n hlong⟩
  · rintro ⟨h, hshort⟩
    rcases run_shortened h with ⟨-, hrun⟩ | ⟨t, ht, n, hlong, -⟩
    · exact hrun
    · exact absurd ⟨t, ht, n, hlong⟩ hshort

/-- **JSON with an integer that is too long is not read**, and the fault is such an integer. -/
theorem readText_of_longInteger (h : outline cs = .ok v) (hlong : HasLongInteger cs) :
    ∃ n, maxIntegerDigits < n ∧ readText cs = .error (.longInteger n) := by
  rcases run_shortened (outline_eq_ok_iff.mp h) with ⟨hshort, -⟩ | ⟨t, ht, n, hn, hrun⟩
  · obtain ⟨t, ht, n, hn⟩ := hasLongInteger_iff.mp hlong
    exact absurd hn (hshort t ht n)
  · refine ⟨n, lt_of_mem_cut (List.mem_map.mpr ⟨t, ht, hn⟩), ?_⟩
    unfold readText
    rw [hrun]

end HealthAlert.Json
