import HealthAlert.Proofs.Bicep.Lines
import HealthAlert.Proofs.Text.Ascii

/-!
# Which keys stand bare

A key stands bare when it fits the pattern of names up to its end, and a line break that closes a
text stands behind its end. So a name with a line break behind it stands bare as well, and an object
whose only key it is takes two lines.

* `isIdentifier_iff`: the names, character by character.
* `isBareKey_iff`: the pattern of names with its end (`FitsNames`).
* **`quoteKey_bare_iff`**: which keys stand bare, that all others are quoted, and how many lines the
  only key of an object takes.
* `quoteKey_brokenName`: a key that is no name and stands bare.
-/

namespace HealthAlert.Bicep

open Literal

/-! ## Names -/

/-- An ASCII letter or an underscore. -/
def OpensName (c : Char) : Prop :=
  ('A' ≤ c ∧ c ≤ 'Z') ∨ ('a' ≤ c ∧ c ≤ 'z') ∨ c = '_'

/-- An ASCII letter or an underscore, and behind it only ASCII letters, digits and underscores. -/
def IsName (s : String) : Prop :=
  ∃ c rest, s.toList = c :: rest ∧ OpensName c ∧ ∀ d ∈ rest, OpensName d ∨ ('0' ≤ d ∧ d ≤ '9')

/-- A name and one line break behind it. -/
def IsBrokenName (s : String) : Prop :=
  ∃ name, IsName name ∧ s = name ++ "\n"

/-- The pattern of names is found in front, and behind it the end: nothing is left of the text, or
only the line break that closes it. -/
def FitsNames (cs : List Char) : Prop :=
  ∃ name rest, cs = name ++ rest ∧ IsName (String.ofList name) ∧ (rest = [] ∨ rest = ['\n'])

variable {cs : List Char} {c : Char} {key : String}

theorem isIdentifierStart_iff : isIdentifierStart c = true ↔ OpensName c := by
  show (c.isUpper || c.isLower || c == '_') = true ↔ _
  rw [Bool.or_eq_true, Bool.or_eq_true, beq_iff_eq, OpensName, or_assoc]
  exact or_congr Ascii.isUpper_iff (or_congr Ascii.isLower_iff Iff.rfl)

theorem isIdentifierRest_iff :
    isIdentifierRest c = true ↔ OpensName c ∨ ('0' ≤ c ∧ c ≤ '9') := by
  have hrest : isIdentifierRest c = (isIdentifierStart c || c.isDigit) := by
    show (c.isAlpha || c.isDigit || c == '_') = (c.isAlpha || c == '_' || c.isDigit)
    rw [Bool.or_right_comm]
  rw [hrest, Bool.or_eq_true, isIdentifierStart_iff]
  exact or_congr Iff.rfl Ascii.isDigit_iff

theorem isIdentifier_iff : isIdentifier cs = true ↔ IsName (String.ofList cs) := by
  unfold IsName
  rw [String.toList_ofList]
  cases cs with
  | nil => simp [isIdentifier]
  | cons c rest =>
    simp [isIdentifier, List.all_eq_true, isIdentifierStart_iff, isIdentifierRest_iff]

/-- **A key may stand bare when it fits the pattern of names.** -/
theorem isBareKey_iff : isBareKey cs = true ↔ FitsNames cs := by
  unfold isBareKey
  rw [Bool.or_eq_true, Bool.and_eq_true, beq_iff_eq, isIdentifier_iff, isIdentifier_iff]
  constructor
  · rintro (hname | ⟨hlast, hname⟩)
    · exact ⟨cs, [], (List.append_nil cs).symm, hname, Or.inl rfl⟩
    · exact ⟨cs.dropLast, ['\n'], (List.dropLast_append_getLast? _ hlast).symm, hname, Or.inr rfl⟩
  · rintro ⟨name, rest, rfl, hname, rfl | rfl⟩
    · rw [List.append_nil]
      exact Or.inl hname
    · rw [List.getLast?_concat, List.dropLast_concat]
      exact Or.inr ⟨rfl, hname⟩

theorem fitsNames_iff : FitsNames key.toList ↔ IsName key ∨ IsBrokenName key := by
  constructor
  · rintro ⟨name, rest, hkey, hname, rfl | rfl⟩
    · rw [List.append_nil] at hkey
      rw [← hkey, String.ofList_toList] at hname
      exact Or.inl hname
    · refine Or.inr ⟨String.ofList name, hname, String.toList_inj.mp ?_⟩
      rw [hkey, String.toList_append, String.toList_ofList]
      rfl
  · rintro (hname | ⟨name, hname, rfl⟩)
    · exact ⟨key.toList, [], (List.append_nil _).symm, by rwa [String.ofList_toList], Or.inl rfl⟩
    · exact ⟨name.toList, ['\n'], String.toList_append, by rwa [String.ofList_toList], Or.inr rfl⟩

/-! ## Line breaks of keys -/

theorem newlines_append (s t : String) : newlines (s ++ t) = newlines s + newlines t := by
  rw [newlines, String.toList_append, List.count_append]
  rfl

theorem newlines_of_isName (h : IsName key) : newlines key = 0 := by
  obtain ⟨c, rest, hkey, hfirst, hrest⟩ := h
  have hplain {d : Char} (hd : OpensName d ∨ ('0' ≤ d ∧ d ≤ '9')) : d ≠ '\n' := by
    rintro rfl
    revert hd
    unfold OpensName
    decide
  refine List.count_eq_zero.mpr fun hmem => ?_
  rw [hkey] at hmem
  rcases List.mem_cons.mp hmem with hc | hmem
  · exact hplain (Or.inl hfirst) hc.symm
  · exact hplain (hrest _ hmem) rfl

theorem newlines_of_isBrokenName (h : IsBrokenName key) : newlines key = 1 := by
  obtain ⟨name, hname, rfl⟩ := h
  rw [newlines_append, newlines_of_isName hname]
  rfl

theorem count_escapeQuotes (cs : List Char) : (escapeQuotes cs).count '\n' = cs.count '\n' := by
  induction cs with
  | nil => rfl
  | cons c cs ih =>
    by_cases hc : c = '\''
    · rw [hc, escapeQuotes_quote, List.count_cons_of_ne (by decide),
        List.count_cons_of_ne (by decide), List.count_cons_of_ne (by decide), ih]
    · rw [escapeQuotes_cons hc, List.count_cons, List.count_cons, ih]

/-- A key has the same line breaks bare and quoted. -/
theorem newlines_quoteKey (key : String) : newlines (quoteKey key) = newlines key := by
  rw [newlines, newlines, toList_quoteKey]
  unfold keyChars quoteChars
  split
  · rfl
  · rw [List.count_cons_of_ne (by decide), List.count_append, count_escapeQuotes]
    rfl

/-! ## Keys -/

theorem quoteKey_of_fits (h : FitsNames key.toList) : quoteKey key = key := by
  rw [quoteKey, keyChars, if_pos (isBareKey_iff.mpr h), String.ofList_toList]

theorem quoteKey_of_not_fits (h : ¬ FitsNames key.toList) : quoteKey key = quote key := by
  rw [quoteKey, keyChars, if_neg (fun hb => h (isBareKey_iff.mp hb)), quote]

/-- No text is its own quotation. -/
theorem quote_ne_self (s : String) : quote s ≠ s := by
  intro h
  have hlength : (quoteChars s.toList).length = s.toList.length := by rw [← toList_quote, h]
  have hle : s.toList.length ≤ (escapeQuotes s.toList).length := by
    induction s.toList with
    | nil => exact Nat.le_refl _
    | cons c cs ih =>
      by_cases hc : c = '\''
      · rw [hc, escapeQuotes_quote, List.length_cons, List.length_cons, List.length_cons]
        omega
      · rw [escapeQuotes_cons hc, List.length_cons, List.length_cons]
        omega
  rw [quoteChars, List.length_cons, List.length_append, List.length_singleton] at hlength
  omega

/-- The text of a record whose only entry is a scalar. -/
theorem render_sole {v : Value} {s : Scalar} (h : Scalar.ofValue? v = some s) (indent : String)
    (threshold : Int) (key : String) :
    render indent threshold (.record [(key, v)]) =
      .ok ("\x7b " ++ quoteKey key ++ ": " ++ s.soleContent ++ " \x7d") := by
  rw [render_eq_writeValue, writeValue_sole h]
  refine congrArg Except.ok (String.toList_inj.mp ?_)
  simp [enclosed, toList_quoteKey]

/-- **Which keys stand bare**: the names, and the names with a line break behind them. Every other
key is quoted. The text of an object whose only value is an unbroken scalar has the line breaks of
its key, so a bare key takes one line if it is a name, and else two. -/
theorem quoteKey_bare_iff (key : String) :
    (quoteKey key = key ↔ IsName key ∨ IsBrokenName key) ∧
    (quoteKey key ≠ key → quoteKey key = quote key) ∧
    ∀ (indent : String) (threshold : Int) (v : Value), isScalar v = true → Unbroken v →
      ∃ w s, render indent threshold (.record [(key, v)]) = .ok s ∧
        s = "\x7b " ++ quoteKey key ++ ": " ++ w ++ " \x7d" ∧ newlines w = 0 ∧
        newlines s = newlines key ∧
        (IsName key → newlines s = 0) ∧ (IsBrokenName key → newlines s = 1) := by
  refine ⟨?_, fun hne => quoteKey_of_not_fits fun h => hne (quoteKey_of_fits h), ?_⟩
  · rw [← fitsNames_iff]
    refine ⟨fun h => ?_, quoteKey_of_fits⟩
    by_contra hfits
    exact quote_ne_self key ((quoteKey_of_not_fits hfits).symm.trans h)
  · intro indent threshold v hscalar hv
    obtain ⟨s, hs⟩ := Option.isSome_iff_exists.mp hscalar
    have hunbroken : s.Unbroken := by
      have hliteral : ofValue? v = .ok (.scalar s) := by cases v <;> cases hs <;> rfl
      exact unbroken_of_ofValue? hv hliteral
    have hcontent : newlines s.soleContent = 0 := List.count_eq_zero.mpr hunbroken.soleContent
    have hlines : newlines ("\x7b " ++ quoteKey key ++ ": " ++ s.soleContent ++ " \x7d") =
        newlines key := by
      rw [newlines_append, newlines_append, newlines_append, newlines_append, hcontent,
        newlines_quoteKey]
      show 0 + newlines key + 0 + 0 + 0 = newlines key
      omega
    exact ⟨_, _, render_sole hs indent threshold key, rfl, hcontent, hlines,
      fun h => hlines.trans (newlines_of_isName h),
      fun h => hlines.trans (newlines_of_isBrokenName h)⟩

/-- A key with a hyphen. -/
theorem quoteKey_bare_iff_hyphen :
    isScalar (.bool true) = true ∧ Unbroken (.bool true) ∧
    ∃ w s, render "  " 2 (.record [("cost-center", .bool true)]) = .ok s ∧
      s = "\x7b " ++ quoteKey "cost-center" ++ ": " ++ w ++ " \x7d" ∧ newlines w = 0 ∧
      newlines s = newlines "cost-center" ∧
      (IsName "cost-center" → newlines s = 0) ∧ (IsBrokenName "cost-center" → newlines s = 1) :=
  ⟨rfl, trivial, (quoteKey_bare_iff "cost-center").2.2 "  " 2 (.bool true) rfl trivial⟩

/-- A key that is no name, stands bare, and takes two lines. -/
theorem quoteKey_brokenName :
    quoteKey "env\n" = "env\n" ∧ ¬ IsName "env\n" ∧ quoteKey "env\n" ≠ quote "env\n" ∧
    render "  " 2 (.record [("env\n", .bool true)]) = .ok "\x7b env\n: true \x7d" := by
  refine ⟨by decide, ?_, by decide, rfl⟩
  intro hname
  exact absurd (newlines_of_isName hname) (by decide)

end HealthAlert.Bicep
