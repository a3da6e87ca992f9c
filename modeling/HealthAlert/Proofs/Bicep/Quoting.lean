import HealthAlert.Proofs.Bicep.Scan

/-!
# What a quoted text reads back as

`quote` escapes the quotes of a text and leaves its backslashes alone. So a backslash of the text
takes the character that follows it in the literal, be that the backslash of an escape or the
closing quote.

* `reads_quoteChars`: without a backslash the literal is complete and reads back as the text.
* `tokens_quote_iff`: with one it never reads back as the text, and it is still one complete
  literal exactly when an even number of backslashes stands before every quote of the text and
  before its end (`Steady`).
-/

namespace HealthAlert.Bicep

/-! ## Escaped characters -/

theorem escapeQuotes_quote (cs : List Char) :
    escapeQuotes ('\'' :: cs) = '\\' :: '\'' :: escapeQuotes cs := rfl

theorem escapeQuotes_cons {c : Char} (h : c ≠ '\'') (cs : List Char) :
    escapeQuotes (c :: cs) = c :: escapeQuotes cs := by
  unfold escapeQuotes
  rw [List.flatMap_cons, if_neg h]
  rfl

theorem escapeQuotes_of_notMem {cs : List Char} (h : '\'' ∉ cs) : escapeQuotes cs = cs := by
  induction cs with
  | nil => rfl
  | cons c cs ih =>
    rw [List.mem_cons, not_or] at h
    rw [escapeQuotes_cons (Ne.symm h.1), ih h.2]

/-- A text without single quotes is quoted as it stands. -/
theorem quote_of_notMem {s : String} (h : '\'' ∉ s.toList) : quote s = "'" ++ s ++ "'" := by
  rw [← String.toList_inj, toList_quote, quoteChars, escapeQuotes_of_notMem h,
    String.toList_append, String.toList_append]
  rfl

/-- Without a backslash the escaped characters add themselves to the content of a literal. -/
theorem run_escapeQuotes {cs : List Char} (h : '\\' ∉ cs) (read : List Char) :
    (Scan.inside read).run (escapeQuotes cs) = ([], .inside (read ++ cs)) := by
  induction cs generalizing read with
  | nil => rw [List.append_nil]; rfl
  | cons c cs ih =>
    rw [List.mem_cons, not_or] at h
    have step : (Scan.inside (read ++ [c])).run (escapeQuotes cs) =
        ([], .inside (read ++ c :: cs)) := by
      rw [ih h.2, List.append_assoc]
      rfl
    by_cases hq : c = '\''
    · subst hq
      rw [escapeQuotes_quote, Scan.run_inside_backslash, Scan.run_taking]
      exact step
    · rw [escapeQuotes_cons hq, Scan.run_inside_plain (Ne.symm h.1) hq]
      exact step

/-- **A quoted text without a backslash is one literal with the text as its content.** -/
theorem reads_quoteChars {cs : List Char} (h : '\\' ∉ cs) :
    Reads (quoteChars cs) [.literal cs] := by
  unfold Reads quoteChars
  rw [Scan.run_outside_quote, Scan.run_append, run_escapeQuotes h]
  rfl

/-! ## Backslashes in the text -/

/-- A quote ends the literal, and what follows it in a quoted text is more than nothing. -/
theorem run_quote_ne (read cs content : List Char) :
    (Scan.inside read).run ('\'' :: (escapeQuotes cs ++ ['\''])) ≠
      ([.literal content], .outside) := by
  intro h
  rw [Scan.run_inside_quote] at h
  have hrest : Scan.outside.run (escapeQuotes cs ++ ['\'']) = ([], .outside) := by
    simp only [Prod.mk.injEq, List.cons.injEq] at h
    exact Prod.ext h.1.2 h.2
  exact absurd (Scan.eq_nil_of_run_outside hrest) (by simp)

/-- Every backslash of the text that takes a character is lost, so a complete literal never holds
more than the text, and less when the text has a backslash. `taking` stands for the scan after a
backslash of the text. -/
theorem length_content_le (cs : List Char) : ∀ read content : List Char,
    ((Scan.inside read).run (escapeQuotes cs ++ ['\'']) = ([.literal content], .outside) →
      content.length ≤ read.length + cs.length ∧
        ('\\' ∈ cs → content.length < read.length + cs.length)) ∧
    ((Scan.taking read).run (escapeQuotes cs ++ ['\'']) = ([.literal content], .outside) →
      content.length ≤ read.length + cs.length) := by
  induction cs with
  | nil =>
    intro read content
    refine ⟨fun h => ?_, fun h => ?_⟩
    · obtain rfl : read = content := by simpa [escapeQuotes, Scan.run, Scan.step] using h
      simp
    · simp [escapeQuotes, Scan.run, Scan.step] at h
  | cons c cs ih =>
    intro read content
    obtain ⟨ihInside, -⟩ := ih (read ++ [c]) content
    obtain ⟨-, ihTaking⟩ := ih read content
    rw [List.length_append, List.length_singleton] at ihInside
    simp only [List.length_cons, List.mem_cons]
    by_cases hq : c = '\''
    · subst hq
      rw [escapeQuotes_quote]
      refine ⟨fun h => ?_, fun h => ?_⟩
      · obtain ⟨hle, hlt⟩ := ihInside h
        refine ⟨by omega, fun hm => ?_⟩
        have := hlt (hm.resolve_left (by decide))
        omega
      -- The backslash of the escape is taken, and the quote ends the literal before its end.
      · have hend : (Scan.inside (read ++ ['\\'])).run ('\'' :: (escapeQuotes cs ++ ['\''])) =
            ([.literal content], .outside) := h
        exact absurd hend (run_quote_ne _ cs _)
    · rw [escapeQuotes_cons hq]
      refine ⟨fun h => ?_, fun h => ?_⟩
      · by_cases hb : c = '\\'
        · subst hb
          have := ihTaking h
          exact ⟨by omega, fun _ => by omega⟩
        · rw [List.cons_append, Scan.run_inside_plain hb hq] at h
          obtain ⟨hle, hlt⟩ := ihInside h
          refine ⟨by omega, fun hm => ?_⟩
          have := hlt (hm.resolve_left (Ne.symm hb))
          omega
      · obtain ⟨hle, -⟩ := ihInside h
        omega

/-- **A quoted text reads back as itself iff it has no backslash.** -/
theorem reads_quoteChars_iff {cs : List Char} :
    Reads (quoteChars cs) [.literal cs] ↔ '\\' ∉ cs := by
  refine ⟨fun h hb => ?_, reads_quoteChars⟩
  have := ((length_content_le cs [] cs).1 h).2 hb
  simp at this

/-! ## Complete literals -/

/-- How many backslashes stand at the end. -/
def trailingBackslashes (cs : List Char) : Nat :=
  (cs.reverse.takeWhile (· = '\\')).length

/-- When `cs` stands after `before`, an even number of backslashes stands before each of its
quotes and before its end. -/
def SteadyAfter (before cs : List Char) : Prop :=
  ∀ u v, cs = u ++ v → (v = [] ∨ v.head? = some '\'') →
    trailingBackslashes (before ++ u) % 2 = 0

/-- An even number of backslashes stands before each quote and before the end. -/
def Steady (cs : List Char) : Prop :=
  SteadyAfter [] cs

theorem trailingBackslashes_backslash (cs : List Char) :
    trailingBackslashes (cs ++ ['\\']) = trailingBackslashes cs + 1 := by
  simp [trailingBackslashes]

theorem trailingBackslashes_other {c : Char} (h : c ≠ '\\') (cs : List Char) :
    trailingBackslashes (cs ++ [c]) = 0 := by
  simp [trailingBackslashes, h]

theorem steadyAfter_nil {before : List Char} :
    SteadyAfter before [] ↔ trailingBackslashes before % 2 = 0 := by
  constructor
  · intro h
    simpa using h [] [] rfl (Or.inl rfl)
  · intro h u v huv _
    obtain ⟨rfl, rfl⟩ := List.append_eq_nil_iff.mp huv.symm
    simpa using h

theorem steadyAfter_cons {before : List Char} {c : Char} {cs : List Char} :
    SteadyAfter before (c :: cs) ↔
      (c = '\'' → trailingBackslashes before % 2 = 0) ∧ SteadyAfter (before ++ [c]) cs := by
  constructor
  · intro h
    refine ⟨fun hc => ?_, fun u v huv hv => ?_⟩
    · simpa using h [] (c :: cs) rfl (Or.inr (by rw [hc]; rfl))
    · have := h (c :: u) v (by rw [huv]; rfl) hv
      simpa using this
  · rintro ⟨h0, h⟩ u v huv hv
    cases u with
    | nil =>
      obtain rfl : c :: cs = v := huv
      have hc : c = '\'' := by simpa using hv
      simpa using h0 hc
    | cons d u =>
      obtain ⟨rfl, rfl⟩ := List.cons.inj huv
      simpa using h u v rfl hv

/-- Where a scan inside a literal stands after so many backslashes. -/
def Scan.afterBackslashes (n : Nat) (read : List Char) : Scan :=
  if n % 2 = 0 then inside read else taking read

theorem Scan.afterBackslashes_even {n : Nat} (h : n % 2 = 0) (read : List Char) :
    Scan.afterBackslashes n read = .inside read := if_pos h

theorem Scan.afterBackslashes_odd {n : Nat} (h : n % 2 = 1) (read : List Char) :
    Scan.afterBackslashes n read = .taking read := if_neg (by omega)

/-- The rest of a quoted text completes the literal exactly when it is steady after what stands
before it. -/
theorem closes_iff_steadyAfter (cs : List Char) : ∀ before read : List Char,
    (∃ content, (Scan.afterBackslashes (trailingBackslashes before) read).run
      (escapeQuotes cs ++ ['\'']) = ([.literal content], .outside)) ↔ SteadyAfter before cs := by
  induction cs with
  | nil =>
    intro before read
    rw [steadyAfter_nil]
    unfold Scan.afterBackslashes
    split <;> simp [escapeQuotes, Scan.run, Scan.step, *]
  | cons c cs ih =>
    intro before read
    rw [steadyAfter_cons]
    have hparity := Nat.mod_two_eq_zero_or_one (trailingBackslashes before)
    by_cases hb : c = '\\'
    · subst hb
      have hnext := trailingBackslashes_backslash before
      rw [escapeQuotes_cons (by decide)]
      rcases hparity with he | ho
      · have := ih (before ++ ['\\']) read
        rw [Scan.afterBackslashes_odd (by omega)] at this
        rw [Scan.afterBackslashes_even he]
        exact this.trans (by simp)
      · have := ih (before ++ ['\\']) (read ++ ['\\'])
        rw [Scan.afterBackslashes_even (by omega)] at this
        rw [Scan.afterBackslashes_odd ho]
        exact this.trans (by simp)
    · have hnext := trailingBackslashes_other hb before
      have hrest := ih (before ++ [c]) (read ++ [c])
      rw [Scan.afterBackslashes_even (by omega)] at hrest
      by_cases hq : c = '\''
      · subst hq
        rw [escapeQuotes_quote]
        rcases hparity with he | ho
        · rw [Scan.afterBackslashes_even he]
          exact hrest.trans (by simp [he])
        -- The literal ends at this quote, and what follows is not part of it.
        · rw [Scan.afterBackslashes_odd ho]
          refine iff_of_false ?_ (fun h => by have := h.1 rfl; omega)
          rintro ⟨content, h⟩
          have hend : (Scan.inside (read ++ ['\\'])).run ('\'' :: (escapeQuotes cs ++ ['\''])) =
              ([.literal content], .outside) := h
          exact absurd hend (run_quote_ne _ cs _)
      · rw [escapeQuotes_cons hq]
        rcases hparity with he | ho
        · rw [Scan.afterBackslashes_even he, List.cons_append, Scan.run_inside_plain hb hq]
          exact hrest.trans (by simp [hq])
        · rw [Scan.afterBackslashes_odd ho]
          exact hrest.trans (by simp [hq])

theorem quoteChars_closes_iff {cs : List Char} :
    (∃ content, Reads (quoteChars cs) [.literal content]) ↔ Steady cs :=
  closes_iff_steadyAfter cs [] []

/-- **What a quoted text reads back as.** It reads back as the text iff the text has no backslash,
and it is one complete literal iff the text is steady. -/
theorem tokens_quote_iff (s : String) :
    (tokens? (quote s) = some [.literal s.toList] ↔ '\\' ∉ s.toList) ∧
      ((∃ content, tokens? (quote s) = some [.literal content]) ↔ Steady s.toList) := by
  simp only [tokens?_eq_some_iff, toList_quote]
  exact ⟨reads_quoteChars_iff, quoteChars_closes_iff⟩

/-- A text that ends in a backslash leaves its literal open. -/
theorem tokens_quote_backslash :
    tokens? (quote "a\\") = none ∧ tokens? (quote "a\\") ≠ some [.literal "a\\".toList] := by
  decide

end HealthAlert.Bicep
