import HealthAlert.Proofs.Service.Endings

/-!
# Requests that are too large

A request is too large when it declares a length beyond the limit, or when it is of a method that
brings a body and the body is beyond the limit; the declared length need not be true. Such a request
is refused before anything else looks at it, and no route ever answers with the status of that
refusal.

* `declaredLength_of_legible`: the length that a request declares.
* `check_of_legible`: what the limit lets through.
* `Routing.status_mem`, `Site.status_mem`: the statuses with which anything behind the limit
  answers.
* **`refused_iff_tooLarge`**: which requests are refused for their size, and what happens to them
  and to all others.
-/

namespace HealthAlert

/-! ## Declared lengths -/

theorem Text.isDigit_of_isDigit {c : Char} (h : c.isDigit = true) : Text.isDigit c = true :=
  (CodeSet.contains_iff _ _).mpr ⟨(0x30, 0x39), List.mem_cons_self, Char.isDigit_iff_toNat.mp h⟩

namespace Http.SizeLimit

variable {r : Request}

/-- The header for the declared length is absent, holds something else than digits, or holds a
number in ASCII that has no more digits than are read. -/
def Legible (r : Request) : Prop :=
  ∀ s, r.header? "content-length" = some s → Text.isDigits s = true →
    (∀ c ∈ s.toList, c.isDigit = true) ∧ s.length ≤ maxDigits

/-- The request declares this length, which need not be true. -/
def Declares (r : Request) (n : Nat) : Prop :=
  ∃ s, r.header? "content-length" = some s ∧ s ≠ "" ∧ (∀ c ∈ s.toList, c.isDigit = true) ∧
    n = Decimal.ofDigits s.toList

/-- The request declares a length beyond the limit, or it is of a method that brings a body and the
body is beyond the limit. -/
def TooLarge (limit : Int) (r : Request) : Prop :=
  (∃ n, Declares r n ∧ limit < n) ∨ (r.method ∈ methodsWithBody ∧ limit < r.body.length)

theorem isDigits_of_ascii {s : String} (hne : s ≠ "") (h : ∀ c ∈ s.toList, c.isDigit = true) :
    Text.isDigits s = true := by
  simp only [Text.isDigits, Bool.and_eq_true, Bool.not_eq_true', List.all_eq_true]
  exact ⟨by simpa using hne, fun c hc => Text.isDigit_of_isDigit (h c hc)⟩

/-- **The declared length is told** by a header that is legible. -/
theorem declaredLength_of_legible (h : Legible r) :
    ∃ declared, declaredLength r = .ok declared ∧ ∀ n, declared = some n ↔ Declares r n := by
  unfold declaredLength
  cases hheader : r.header? "content-length" with
  | none =>
    refine ⟨none, rfl, fun n => iff_of_false nofun ?_⟩
    rintro ⟨s, hs, -⟩
    exact nomatch hheader.symm.trans hs
  | some s =>
    cases hdigits : Text.isDigits s with
    | false =>
      refine ⟨none, by simp [hdigits], fun n => iff_of_false nofun ?_⟩
      rintro ⟨s', hs', hne, hall, -⟩
      obtain rfl := Option.some.inj (hheader.symm.trans hs')
      exact absurd (hdigits.symm.trans (isDigits_of_ascii hne hall)) (by decide)
    | true =>
      obtain ⟨hall, hlength⟩ := h s hheader hdigits
      have hne : s ≠ "" := by
        rintro rfl
        exact absurd hdigits (by decide)
      refine ⟨some (Decimal.ofDigits s.toList), ?_, fun n => ?_⟩
      · simp only [hdigits, Bool.not_true, Bool.false_eq_true, if_false,
          List.all_eq_true.mpr hall, if_neg (Nat.not_lt.mpr hlength)]
      · rw [Option.some.injEq]
        constructor
        · rintro rfl
          exact ⟨s, hheader, hne, hall, rfl⟩
        · rintro ⟨s', hs', -, -, rfl⟩
          rw [Option.some.inj (hheader.symm.trans hs')]

/-- **What the limit lets through**: the requests that are not too large, and no others. -/
theorem check_of_legible (limit : Int) (h : Legible r) :
    (TooLarge limit r ∧ ∃ e : Excess, limit < e.size ∧ check limit r = .ok (some e)) ∨
      (¬ TooLarge limit r ∧ check limit r = .ok none) := by
  obtain ⟨declared, hdeclared, hiff⟩ := declaredLength_of_legible h
  unfold check
  rw [hdeclared]
  dsimp only
  cases hover : declared.filter fun (n : Nat) => decide (limit < n) with
  | some n =>
    obtain ⟨hn, hlimit⟩ := Option.filter_eq_some_iff.mp hover
    have hlimit := of_decide_eq_true hlimit
    exact Or.inl ⟨Or.inl ⟨n, (hiff n).mp hn, hlimit⟩, ⟨n, .declared⟩, hlimit, rfl⟩
  | none =>
    have hwithin : ¬ ∃ n, Declares r n ∧ limit < n := by
      rintro ⟨n, hn, hlimit⟩
      have hsome : declared.filter (fun (n : Nat) => decide (limit < n)) = some n :=
        Option.filter_eq_some_iff.mpr ⟨(hiff n).mpr hn, decide_eq_true hlimit⟩
      exact nomatch hover.symm.trans hsome
    by_cases hbody : r.method ∈ methodsWithBody ∧ limit < r.body.length
    · refine Or.inl ⟨Or.inr hbody, ⟨r.body.length, .measured⟩, hbody.2, if_pos ?_⟩
      simpa using hbody
    · exact Or.inr ⟨not_or.mpr ⟨hwithin, hbody⟩, if_neg (by simpa using hbody)⟩

end Http.SizeLimit

/-! ## Statuses behind the limit -/

namespace Service

open Http (Request Response)

/-- The statuses with which endpoints end. -/
def endingStatuses : List Nat := [200, 400, 403, 404, 422, 500]

/-- The statuses with which anything behind the limit on the size of requests answers. -/
def routedStatuses : List Nat := 307 :: 405 :: endingStatuses

theorem failure_status_mem (f : Failure) : f.status ∈ endingStatuses := by
  unfold Failure.status
  cases f.kind <;> decide

/-- The status of what the client is answered in the end. -/
def Ending.status : Ending → Nat
  | .response r => r.status
  | .failure f => f.status
  | .refusal status _ => status
  | .error _ => internalErrorStatus

theorem Endpoint.status_invalid (issues : List Issue) :
    (invalid issues).status ∈ endingStatuses := by
  rcases invalid_cases issues with hi | ⟨response, hi, hs⟩
  · rw [hi]
    decide
  · rw [hi, Ending.status, hs]
    decide

theorem Ends.status_mem {r : Request} {route : Route} {e : Ending} (h : Ends r route e) :
    e.status ∈ endingStatuses := by
  cases h with
  | answer h =>
    rw [Ending.status, h]
    decide
  | issues issues => exact Endpoint.status_invalid issues
  | unreadable _ _ => exact (by decide : 400 ∈ endingStatuses)
  | noTemplate fault => exact failure_status_mem _
  | unknownList name => exact failure_status_mem _
  | noList kind fault => exact failure_status_mem _
  | refusal h => exact (by decide : ∀ status ∈ [403, 500], status ∈ endingStatuses) _ h
  | error e => exact (by decide : 500 ∈ endingStatuses)

theorem statusOf_map_withHeaders (result : Except InternalError Response)
    (headers : List (String × String)) :
    statusOf (result.map (·.withHeaders headers)) = statusOf result := by
  cases result <;> rfl

theorem Routing.statusOf_settle (site : Site) (r : Request) (id : String) (h : Handling) :
    statusOf (settle site r id h).result = h.ending.status := by
  rw [settle_result]
  cases h.ending <;> rfl

theorem Routing.status_mem (site : Site) (s : State) (id : String) (r : Request) :
    statusOf (run site s id r).result ∈ routedStatuses := by
  unfold run
  split
  · rw [statusOf_settle]
    exact List.mem_cons_of_mem _ (List.mem_cons_of_mem _ (Endpoint.ends site s r _ _).status_mem)
  · exact (by decide : 405 ∈ routedStatuses)
  · exact (by decide : 307 ∈ routedStatuses)
  · exact (by decide : 404 ∈ routedStatuses)

theorem status_preflight (origins : List String) (r : Request) :
    (Http.Sharing.preflight origins r).status ∈ routedStatuses := by
  unfold Http.Sharing.preflight
  dsimp only
  split
  · exact (by decide : 200 ∈ routedStatuses)
  · exact (by decide : 400 ∈ routedStatuses)

/-- The statuses with which anything behind the limit answers. -/
theorem Site.status_mem (site : Site) (s : State) (fresh : String) (r : Request) :
    statusOf (site.serveShared s fresh r).result ∈ routedStatuses := by
  unfold serveShared
  dsimp only
  split
  · exact status_preflight _ r
  · obtain ⟨s', id, headers, -, hserve⟩ := site.serve_result s fresh r
    unfold Http.Sharing.share
    rw [statusOf_map_withHeaders, hserve, statusOf_map_withHeaders]
    exact Routing.status_mem site s' id r

theorem status_handle (site : Site) (s : State) (fresh : String) (r : Request) :
    (site.handle s fresh r).1.response.status = statusOf (site.serveLimited s fresh r).result := by
  unfold Site.handle
  dsimp only
  cases (site.serveLimited s fresh r).result <;> rfl

/-! ## Requests that are too large -/

/-- **Which requests are refused for their size.** The answer has the status of that refusal exactly
when the request is too large. Then the answer is the refusal, which is logged in one row, and the
service stays as it is: no route is reached. Every other request goes on as it came. -/
theorem refused_iff_tooLarge (site : Site) (s : State) (fresh : String) (r : Request)
    (h : Http.SizeLimit.Legible r) :
    ((site.handle s fresh r).1.response.status = 413 ↔ Http.SizeLimit.TooLarge site.sizeLimit r) ∧
      (Http.SizeLimit.TooLarge site.sizeLimit r →
        ∃ e : Http.SizeLimit.Excess, site.sizeLimit < e.size ∧
          site.handle s fresh r =
            ({ response := Http.SizeLimit.refusal
               log := [Http.SizeLimit.logRow site.sizeLimit r e] }, s)) ∧
      (¬ Http.SizeLimit.TooLarge site.sizeLimit r →
        site.serveLimited s fresh r = site.serveShared s fresh r) := by
  rcases Http.SizeLimit.check_of_legible site.sizeLimit h with
    ⟨hlarge, e, he, hcheck⟩ | ⟨hsmall, hcheck⟩
  · have hhandle : site.handle s fresh r =
        ({ response := Http.SizeLimit.refusal
           log := [Http.SizeLimit.logRow site.sizeLimit r e] }, s) := by
      unfold Site.handle Site.serveLimited
      rw [hcheck]
    refine ⟨iff_of_true ?_ hlarge, fun _ => ⟨e, he, hhandle⟩, fun hsmall => absurd hlarge hsmall⟩
    rw [hhandle]
    rfl
  · have hpassed : site.serveLimited s fresh r = site.serveShared s fresh r := by
      unfold Site.serveLimited
      rw [hcheck]
    refine ⟨iff_of_false ?_ hsmall, fun hlarge => absurd hlarge hsmall, fun _ => hpassed⟩
    rw [status_handle, hpassed]
    intro hstatus
    exact absurd (hstatus ▸ site.status_mem s fresh r) (by decide)

/-- A request may have as many bytes as the limit. -/
theorem not_tooLarge_declaring :
    ¬ Http.SizeLimit.TooLarge ({} : Site).sizeLimit (declaring "1048576") := by
  rintro (⟨n, ⟨s, hs, -, -, rfl⟩, hlimit⟩ | ⟨hmethod, -⟩)
  · obtain rfl := Option.some.inj ((header?_declaring _).symm.trans hs)
    exact absurd hlimit (by decide)
  · exact absurd hmethod (by decide)

/-- The declared length counts although there is no body, and the limit itself may be reached. -/
theorem refused_iff_tooLarge_declaring :
    (({} : Site).handle {} "1" (declaring "1048577")).1.response = Http.SizeLimit.refusal ∧
      ({} : Site).serveLimited {} "1" (declaring "1048576") =
        ({} : Site).serveShared {} "1" (declaring "1048576") := by
  have hlegible {length : String} (hall : length.toList.all Char.isDigit = true)
      (hlength : length.length ≤ Http.SizeLimit.maxDigits) :
      Http.SizeLimit.Legible (declaring length) := by
    intro s hs _
    obtain rfl := Option.some.inj ((header?_declaring length).symm.trans hs)
    exact ⟨List.all_eq_true.mp hall, hlength⟩
  have hlarge : Http.SizeLimit.TooLarge ({} : Site).sizeLimit (declaring "1048577") :=
    Or.inl ⟨1048577, ⟨"1048577", header?_declaring _, by decide, List.all_eq_true.mp (by decide),
      by decide⟩, by decide⟩
  obtain ⟨-, hrefused, -⟩ := refused_iff_tooLarge {} {} "1" (declaring "1048577")
    (hlegible (by decide) (by decide))
  obtain ⟨-, -, hpassed⟩ := refused_iff_tooLarge {} {} "1" (declaring "1048576")
    (hlegible (by decide) (by decide))
  obtain ⟨e, -, hhandle⟩ := hrefused hlarge
  exact ⟨congrArg (·.1.response) hhandle, hpassed not_tooLarge_declaring⟩

end Service

end HealthAlert
