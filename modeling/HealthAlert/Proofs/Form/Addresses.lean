import HealthAlert.Proofs.Form.Trimming

/-!
# Which texts are email addresses

The check of an address asks for three runs of address characters, joined by an at sign and a dot.
A run may hold further dots, so there may be several ways to cut a text into three; whether there
is one can be said without cutting (`IsEmailAddress`).

* `isAddress_iff_joinsRuns`: the check looks at the first at sign and at the dots behind it, and
  finds the runs if there are any.
* `isEmailAddress_iff_joinsRuns`: a text is three such runs exactly when it is an email address.
* **`checkEmail_eq_none_iff`**: exactly the email addresses pass, with or without white space
  around them.
-/

namespace HealthAlert.Form

/-! ## Runs -/

/-- Some characters, all of them neither white space nor at signs. -/
def IsRun (cs : List Char) : Prop :=
  cs ≠ [] ∧ ∀ c ∈ cs, isAddressChar c = true

/-- A run, an at sign, a run, a dot, and a run. -/
def JoinsRuns (cs : List Char) : Prop :=
  ∃ name host top, IsRun name ∧ IsRun host ∧ IsRun top ∧ cs = name ++ '@' :: (host ++ '.' :: top)

/-- A text holds a dot that is neither its first character nor its last. -/
theorem innerDot_iff {domain : List Char} :
    (domain.drop 1).dropLast.contains '.' = true ↔
      ∃ host top, domain = host ++ '.' :: top ∧ host ≠ [] ∧ top ≠ [] := by
  cases domain with
  | nil => simp
  | cons c rest =>
    rw [List.drop_succ_cons, List.drop_zero, List.contains_iff_mem]
    constructor
    · intro h
      obtain ⟨before, behind, hsplit⟩ := List.append_of_mem h
      have hne : rest ≠ [] := by
        rintro rfl
        exact absurd h List.not_mem_nil
      refine ⟨c :: before, behind ++ [rest.getLast hne], ?_, by simp, by simp⟩
      calc c :: rest = c :: (rest.dropLast ++ [rest.getLast hne]) := by
            rw [List.dropLast_concat_getLast]
        _ = c :: before ++ '.' :: (behind ++ [rest.getLast hne]) := by
            rw [hsplit, List.append_assoc]
            rfl
    · rintro ⟨host, top, heq, hhost, htop⟩
      obtain ⟨d, before, rfl⟩ := List.exists_cons_of_ne_nil hhost
      obtain ⟨rfl, rfl⟩ : c = d ∧ rest = before ++ '.' :: top := by simpa using heq
      rw [List.dropLast_append_of_ne_nil (by simp), List.dropLast_cons_of_ne_nil htop]
      exact List.mem_append_right _ List.mem_cons_self

theorem isAddress_append {name : List Char} (hname : ∀ c ∈ name, isAddressChar c = true)
    (domain : List Char) :
    isAddress (name ++ '@' :: domain) =
      (!name.isEmpty && domain.all isAddressChar && (domain.drop 1).dropLast.contains '.') := by
  have hat : isAddressChar '@' = false := by decide
  unfold isAddress
  rw [List.takeWhile_append_of_pos hname, List.dropWhile_append_of_pos hname,
    List.takeWhile_cons_of_neg (by simp [hat]), List.dropWhile_cons_of_neg (by simp [hat]),
    List.append_nil]
  rfl

/-- **The check of an address finds three runs** if the text can be cut into them. -/
theorem isAddress_iff_joinsRuns {cs : List Char} : isAddress cs = true ↔ JoinsRuns cs := by
  constructor
  · intro h
    have hname : ∀ c ∈ cs.takeWhile isAddressChar, isAddressChar c = true :=
      fun c hc => List.mem_takeWhile_imp hc
    obtain ⟨domain, hrest⟩ : ∃ domain, cs.dropWhile isAddressChar = '@' :: domain := by
      unfold isAddress at h
      split at h
      · exact ⟨_, ‹_›⟩
      · exact absurd h (by simp)
    have hcs : cs = cs.takeWhile isAddressChar ++ '@' :: domain := by
      rw [← hrest, List.takeWhile_append_dropWhile]
    rw [hcs, isAddress_append hname] at h
    simp only [Bool.and_eq_true, Bool.not_eq_true', List.isEmpty_eq_false_iff, List.all_eq_true,
      innerDot_iff] at h
    obtain ⟨⟨hne, hall⟩, host, top, rfl, hhost, htop⟩ := h
    simp only [List.forall_mem_append, List.forall_mem_cons] at hall
    exact ⟨_, host, top, ⟨hne, hname⟩, ⟨hhost, hall.1⟩, ⟨htop, hall.2.2⟩, hcs⟩
  · rintro ⟨name, host, top, ⟨hne, hname⟩, ⟨hhost, hhostAll⟩, ⟨htop, htopAll⟩, rfl⟩
    have hdot : isAddressChar '.' = true := by decide
    rw [isAddress_append hname]
    simp only [Bool.and_eq_true, Bool.not_eq_true', List.isEmpty_eq_false_iff, List.all_eq_true,
      innerDot_iff, List.forall_mem_append, List.forall_mem_cons]
    exact ⟨⟨hne, hhostAll, hdot, htopAll⟩, host, top, rfl, hhost, htop⟩

/-! ## Addresses -/

/-- No white space, one at sign with something before it, and behind it a dot that is neither the
first character there nor the last. -/
structure IsEmailAddress (w : List Char) : Prop where
  solid : ∀ c ∈ w, Text.isBlank c = false
  oneAt : w.count '@' = 1
  parts : ∃ name domain, w = name ++ '@' :: domain ∧ name ≠ [] ∧
    ∃ host top, domain = host ++ '.' :: top ∧ host ≠ [] ∧ top ≠ []

theorem isAddressChar_iff {c : Char} :
    isAddressChar c = true ↔ c ≠ '@' ∧ Text.isBlank c = false := by
  simp [isAddressChar]

/-- A part of a text without white space and with its at sign elsewhere is a run. -/
theorem isRun_of_solid {cs : List Char} (hne : cs ≠ []) (hsolid : ∀ c ∈ cs, Text.isBlank c = false)
    (hat : cs.count '@' = 0) : IsRun cs :=
  ⟨hne, fun c hc => isAddressChar_iff.mpr
    ⟨fun he => List.count_eq_zero.mp hat (he ▸ hc), hsolid c hc⟩⟩

theorem IsRun.solid {cs : List Char} (h : IsRun cs) : ∀ c ∈ cs, Text.isBlank c = false :=
  fun c hc => (isAddressChar_iff.mp (h.2 c hc)).2

theorem IsRun.count_at {cs : List Char} (h : IsRun cs) : cs.count '@' = 0 :=
  List.count_eq_zero.mpr fun hmem => (isAddressChar_iff.mp (h.2 _ hmem)).1 rfl

/-- **An email address is three runs, and three runs are an email address.** -/
theorem isEmailAddress_iff_joinsRuns {w : List Char} : IsEmailAddress w ↔ JoinsRuns w := by
  constructor
  · rintro ⟨hsolid, hone, name, domain, rfl, hname, host, top, rfl, hhost, htop⟩
    simp only [List.forall_mem_append, List.forall_mem_cons] at hsolid
    -- The one at sign is the one between the parts.
    have hcount : name.count '@' = 0 ∧ host.count '@' = 0 ∧ top.count '@' = 0 := by
      have hdot : ('.' == '@') = false := by decide
      simp only [List.count_append, List.count_cons, beq_self_eq_true, if_true, hdot] at hone
      omega
    exact ⟨name, host, top, isRun_of_solid hname hsolid.1 hcount.1,
      isRun_of_solid hhost hsolid.2.2.1 hcount.2.1, isRun_of_solid htop hsolid.2.2.2.2 hcount.2.2,
      rfl⟩
  · rintro ⟨name, host, top, hname, hhost, htop, rfl⟩
    refine ⟨?_, ?_, name, _, rfl, hname.1, host, top, rfl, hhost.1, htop.1⟩
    · simp only [List.forall_mem_append, List.forall_mem_cons]
      exact ⟨hname.solid, by decide, hhost.solid, by decide, htop.solid⟩
    · simp [List.count_append, hname.count_at, hhost.count_at, htop.count_at]

/-! ## The check -/

/-- **Exactly the email addresses pass.** A value has no problem as an email address when it is a
text that is one without the white space around it. -/
theorem checkEmail_eq_none_iff (v : Value) :
    checkEmail v = none ↔ ∃ s, v.text? = some s ∧ IsEmailAddress (Text.trimBlanks s.toList) := by
  have hne {w : List Char} (h : IsEmailAddress w) : w ≠ [] := by
    obtain ⟨name, domain, rfl, -⟩ := h.parts
    simp
  have hfilled : checkEmail v = none ↔ ∃ cs, Entry.of v = .filled cs ∧ isAddress cs = true := by
    unfold checkEmail
    cases Entry.of v <;> simp
  simp only [hfilled, isAddress_iff_joinsRuns, ← isEmailAddress_iff_joinsRuns,
    Entry.of_eq_filled_iff]
  constructor
  · rintro ⟨cs, ⟨s, hs, rfl, -⟩, haddress⟩
    exact ⟨s, hs, haddress⟩
  · rintro ⟨s, hs, haddress⟩
    exact ⟨_, ⟨s, hs, rfl, hne haddress⟩, haddress⟩

example : checkEmail (.text " on.call@.mail.example.org\n") = none ∧
    checkEmail (.text "on.call@.org") ≠ none := by decide

end HealthAlert.Form
