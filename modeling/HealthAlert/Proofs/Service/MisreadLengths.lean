import HealthAlert.Proofs.Service.Oversize

/-!
# Declared lengths that are misread

A declared length is looked at only if it is made of digits, and digits need not spell a number: a
header can carry superscript digits, which stand at no place in one, and it can carry more digits
than are read. On such a header the limit on the size of requests fails. It fails on no other,
whatever the header and the body hold.

* `isDigit_iff_of_lt`: the digits that a header can carry.
* `misread_iff`: the headers that are not legible.
* `check_of_not_legible`: on these the limit fails.
* **`limit_fails_iff`**: when the limit fails, and what it does otherwise.
* `superscript_length_fails`: a length that is misread.
-/

namespace HealthAlert

/-! ## Digits in headers -/

/-- The digits among the characters of headers that stand at no place in a number. -/
def Text.superscripts : List Char := ['¹', '²', '³']

/-- The digits that a header can carry. -/
theorem Text.isDigit_iff_of_lt {c : Char} (h : c.toNat < 256) :
    Text.isDigit c = true ↔ c.isDigit = true ∨ c ∈ superscripts := by
  have hall : ∀ n < 256, Text.isDigit (Char.ofNat n) = true ↔
      (Char.ofNat n).isDigit = true ∨ Char.ofNat n ∈ superscripts := by
    decide +kernel
  have hc := hall c.toNat h
  rwa [Char.ofNat_toNat] at hc

namespace Http.SizeLimit

variable {r : Request}

/-- The header for the declared length holds only characters that a header can carry. -/
def Carried (r : Request) : Prop :=
  ∀ s, r.header? "content-length" = some s → ∀ c ∈ s.toList, c.toNat < 256

/-- The header for the declared length holds nothing but digits and superscripts, and a superscript
among them or more digits than are read. -/
def Misread (r : Request) : Prop :=
  ∃ s, r.header? "content-length" = some s ∧ s ≠ "" ∧
    (∀ c ∈ s.toList, c.isDigit = true ∨ c ∈ Text.superscripts) ∧
    ((∃ c ∈ s.toList, c ∈ Text.superscripts) ∨ maxDigits < s.length)

theorem isDigits_iff_of_carried {s : String} (h : ∀ c ∈ s.toList, c.toNat < 256) :
    Text.isDigits s = true ↔
      s ≠ "" ∧ ∀ c ∈ s.toList, c.isDigit = true ∨ c ∈ Text.superscripts := by
  unfold Text.isDigits
  rw [Bool.and_eq_true, Bool.not_eq_true', List.all_eq_true]
  refine and_congr (by simp) (forall₂_congr fun c hc => ?_)
  exact Text.isDigit_iff_of_lt (h c hc)

theorem not_isDigit_of_mem_superscripts {c : Char} (h : c ∈ Text.superscripts) :
    c.isDigit = false := by
  have hall : Text.superscripts.all (!·.isDigit) = true := by decide
  simpa using List.all_eq_true.mp hall c h

/-- A header that is not legible is one of digits that are not all decimal, or that are too many. -/
theorem not_legible_iff : ¬ Legible r ↔ ∃ s, r.header? "content-length" = some s ∧
    Text.isDigits s = true ∧ ((∀ c ∈ s.toList, c.isDigit = true) → maxDigits < s.length) := by
  unfold Legible
  simp only [not_forall, exists_prop, not_and, Nat.not_le]

/-- Among the headers that a request can carry, those that are not legible are misread. -/
theorem misread_iff (h : Carried r) : Misread r ↔ ¬ Legible r := by
  constructor
  · rintro ⟨s, hs, hne, hdigits, hmisread⟩ hlegible
    obtain ⟨hall, hlength⟩ := hlegible s hs ((isDigits_iff_of_carried (h s hs)).mpr ⟨hne, hdigits⟩)
    rcases hmisread with ⟨c, hc, hsuper⟩ | hlong
    · exact absurd (hall c hc) (by simp [not_isDigit_of_mem_superscripts hsuper])
    · exact absurd hlong (Nat.not_lt.mpr hlength)
  · intro hnot
    obtain ⟨s, hs, hdigits, hunread⟩ := not_legible_iff.mp hnot
    obtain ⟨hne, hall⟩ := (isDigits_iff_of_carried (h s hs)).mp hdigits
    refine ⟨s, hs, hne, hall, ?_⟩
    by_cases hsuper : ∃ c ∈ s.toList, c ∈ Text.superscripts
    · exact Or.inl hsuper
    · exact Or.inr (hunread fun c hc => (hall c hc).resolve_right fun hmem => hsuper ⟨c, hc, hmem⟩)

/-- **On a header that is not legible the limit fails.** -/
theorem check_of_not_legible (limit : Int) (h : ¬ Legible r) :
    ∃ e : InternalError, e.typeName = "ValueError" ∧ check limit r = .error e := by
  obtain ⟨s, hs, hdigits, hunread⟩ := not_legible_iff.mp h
  obtain ⟨e, hname, hdeclared⟩ : ∃ e : InternalError, e.typeName = "ValueError" ∧
      declaredLength r = .error e := by
    unfold declaredLength
    rw [hs]
    simp only [hdigits, Bool.not_true, Bool.false_eq_true, if_false]
    cases hall : s.toList.all Char.isDigit with
    | false => exact ⟨_, rfl, rfl⟩
    | true => exact ⟨_, rfl, if_pos (hunread (List.all_eq_true.mp hall))⟩
  refine ⟨e, hname, ?_⟩
  unfold check
  rw [hdeclared]

end Http.SizeLimit

/-! ## The limit -/

namespace Service

open Http.SizeLimit (Carried Misread TooLarge not_isDigit_of_mem_superscripts)

/-- **When the limit fails.** It fails exactly on a declared length that is misread: then the
request ends in this error, and the service stays as it is. On every other header it answers with
its refusal, if the request is too large, or passes the request on as it came. -/
theorem limit_fails_iff (site : Site) (s : State) (fresh : String) (r : Http.Request)
    (h : Carried r) :
    ((∃ e, Http.SizeLimit.check site.sizeLimit r = .error e) ↔ Misread r) ∧
      (∀ e, Http.SizeLimit.check site.sizeLimit r = .error e →
        e.typeName = "ValueError" ∧
          site.serveLimited s fresh r = { result := .error e, state := s }) ∧
      (¬ Misread r → TooLarge site.sizeLimit r →
        ∃ excess : Http.SizeLimit.Excess, site.sizeLimit < excess.size ∧
          site.serveLimited s fresh r =
            { result := .ok Http.SizeLimit.refusal
              state := s
              log := [Http.SizeLimit.logRow site.sizeLimit r excess] }) ∧
      (¬ Misread r → ¬ TooLarge site.sizeLimit r →
        site.serveLimited s fresh r = site.serveShared s fresh r) := by
  rw [Http.SizeLimit.misread_iff h]
  unfold Site.serveLimited
  by_cases hl : Http.SizeLimit.Legible r
  · rcases Http.SizeLimit.check_of_legible site.sizeLimit hl with
      ⟨hlarge, excess, hexcess, hcheck⟩ | ⟨hsmall, hcheck⟩
    · rw [hcheck]
      exact ⟨iff_of_false (by simp) (not_not_intro hl), nofun,
        fun _ _ => ⟨excess, hexcess, rfl⟩, fun _ hsmall => absurd hlarge hsmall⟩
    · rw [hcheck]
      exact ⟨iff_of_false (by simp) (not_not_intro hl), nofun,
        fun _ hlarge => absurd hlarge hsmall, fun _ _ => rfl⟩
  · obtain ⟨e, hname, hcheck⟩ := Http.SizeLimit.check_of_not_legible site.sizeLimit hl
    rw [hcheck]
    refine ⟨iff_of_true ⟨e, rfl⟩ hl, fun e' he => ?_, fun hm => absurd hl hm,
      fun hm => absurd hl hm⟩
    cases he
    exact ⟨hname, rfl⟩

theorem carried_declaring {length : String}
    (h : length.toList.all (fun c => decide (c.toNat < 256)) = true) :
    Carried (declaring length) := by
  intro s hs c hc
  obtain rfl := Option.some.inj ((header?_declaring length).symm.trans hs)
  exact of_decide_eq_true (List.all_eq_true.mp h c hc)

/-- Of the two lengths, the superscript is misread, and the other is as much as a request may have.
-/
theorem limit_fails_iff_declaring :
    (∃ e, Http.SizeLimit.check ({} : Site).sizeLimit (declaring "²") = .error e) ∧
      ({} : Site).serveLimited {} "1" (declaring "1048576") =
        ({} : Site).serveShared {} "1" (declaring "1048576") := by
  have hmisread : Misread (declaring "²") :=
    ⟨"²", header?_declaring _, by decide, by simp [Text.superscripts],
      Or.inl ⟨'²', by decide, by decide⟩⟩
  have hread : ¬ Misread (declaring "1048576") := by
    rintro ⟨s, hs, -, -, ⟨c, hc, hsuper⟩ | hlong⟩
    all_goals obtain rfl := Option.some.inj ((header?_declaring _).symm.trans hs)
    · have hdigits : "1048576".toList.all Char.isDigit = true := by decide
      have hdigit := List.all_eq_true.mp hdigits c hc
      exact absurd hdigit (by simp [not_isDigit_of_mem_superscripts hsuper])
    · exact absurd hlong (by decide)
  obtain ⟨hfails, -⟩ := limit_fails_iff {} {} "1" (declaring "²") (carried_declaring (by decide))
  obtain ⟨-, -, -, hpassed⟩ :=
    limit_fails_iff {} {} "1" (declaring "1048576") (carried_declaring (by decide))
  exact ⟨hfails.mpr hmisread, hpassed hread not_tooLarge_declaring⟩

/-- A superscript two is a digit that a header can carry, and no number: the limit neither refuses a
request that declares it as its length nor passes it on. -/
theorem superscript_length_fails :
    Carried (declaring "²") ∧
      (({} : Site).serveLimited {} "1" (declaring "²")).result = .error (.notANumeral "²") ∧
      (({} : Site).handle {} "1" (declaring "²")).1.Failed (.notANumeral "²") := by
  have hserve : ({} : Site).serveLimited {} "1" (declaring "²") =
      { result := .error (.notANumeral "²"), state := {} } := by
    unfold Site.serveLimited
    rw [check_superscript]
  refine ⟨carried_declaring (by decide), congrArg Reply.result hserve, ?_⟩
  unfold Site.handle
  rw [hserve]
  exact ⟨rfl, rfl⟩

end Service

end HealthAlert
