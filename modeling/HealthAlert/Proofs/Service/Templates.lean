import HealthAlert.Proofs.Json.Settling
import HealthAlert.Proofs.Request.Refused
import HealthAlert.Proofs.Service.RouteMetrics

/-!
# How the service answers requests for templates

Both routes that give templates read the same payload and differ only in what they show. Whether the
service is observed makes no difference to what the client is told, and neither does what the
service remembers.

* `Posts`: a request that reaches a route with JSON.
* `Posts.answers`, `Posts.failed`: the exchange, from how the endpoint ends.
* `render_of_json_accepted`, `render_of_json_unencodable`, `render_of_json_refused`: how the
  rendering ends, from what the request says.
* **`refusal_cases`**: how a payload is refused, and when it is not answered so.
-/

namespace HealthAlert.Service

open Http (Request Response)

/-- The request reaches a route, with these bytes as JSON. -/
structure Posts (site : Site) (r : Request) (route : Route) (bytes : List UInt8) : Prop where
  admits : site.Admits r
  target : Routing.target site r = .found route []
  isJson : isJsonType ((r.header? "content-type").getD "") = true
  body : r.body = bytes

section Exchanges

variable {site : Site} {r : Request} {route : Route} {bytes : List UInt8}

/-- **What the endpoint responds, the client is told.** -/
theorem Posts.answers (h : Posts site r route bytes) (s : State) (fresh : String)
    {response : Response} (he : ∀ s, (Endpoint.run site s r route []).ending = .response response) :
    (site.handle s fresh r).1.Answers response.status response.body := by
  have hrun (s : State) (id : String) : (Routing.run site s id r).result = .ok response := by
    rw [Routing.run_of_found h.target, Routing.settle_result, he]
  obtain ⟨headers, hserve⟩ := Site.serve_of_run s fresh hrun
  have hanswers := answers_of_served h.admits hserve
  exact hanswers

theorem Posts.failed (h : Posts site r route bytes) (s : State) (fresh : String)
    {e : InternalError} (he : ∀ s, (Endpoint.run site s r route []).ending = .error e) :
    (site.handle s fresh r).1.Failed e := by
  have hrun (s : State) (id : String) : (Routing.run site s id r).result = .error e := by
    rw [Routing.run_of_found h.target, Routing.settle_result, he]
  obtain ⟨headers, hserve⟩ := Site.serve_of_run s fresh hrun
  exact failed_of_served h.admits hserve

end Exchanges

/-! ## Payloads -/

section Payloads

variable {site : Site} {r : Request} {route : Route} {bytes : List UInt8} {d : Json.Document}

theorem readBytes_nil : Json.readBytes [] ≠ .value d := by
  have hread : Json.readBytes [] = .malformed .expectedValue 0 := rfl
  rw [hread]
  exact fun h => nomatch h

/-- What is read in the body is what the request brings. -/
theorem Posts.payload (h : Posts site r route bytes) (hd : Json.readBytes bytes = .value d) :
    Payload.ofRequest r = Payload.ofJson bytes := by
  have hbody : r.body.isEmpty = false := by
    rw [h.body, Bool.eq_false_iff]
    intro hempty
    rw [List.isEmpty_iff.mp hempty] at hd
    exact readBytes_nil hd
  unfold Payload.ofRequest
  rw [hbody, if_neg Bool.false_ne_true, if_pos h.isJson, h.body]

theorem ofJson_of_null (hd : Json.readBytes bytes = .value d) (hnull : d.value = .null) :
    Payload.ofJson bytes = .none := by
  obtain ⟨v, lone⟩ := d
  obtain rfl : v = .null := hnull
  unfold Payload.ofJson
  rw [hd]

theorem ofJson_of_ne_null (hd : Json.readBytes bytes = .value d) (hne : d.value ≠ .null) :
    Payload.ofJson bytes = .value d.value d.lone := by
  obtain ⟨v, lone⟩ := d
  unfold Payload.ofJson
  rw [hd]
  cases v with
  | null => exact absurd rfl hne
  | _ => rfl

/-! ## Rendering -/

namespace Endpoint

/-- What is told about a part of a payload can be shown, if the part can. -/
theorem finite_issueValue {i : Issue} (h : i.value.Finite) : (issueValue i).Finite := by
  have hplace : ∀ p ∈ i.place.map placeValue, p.Finite := by
    intro p hp
    obtain ⟨step, -, rfl⟩ := List.mem_map.mp hp
    cases step <;> rfl
  have hcontext : (Value.record i.refusal.context).Finite := by
    cases i.refusal <;> rfl
  have hloc : (Value.list (.text "body" :: i.place.map placeValue)).Finite :=
    Value.finite_list_iff.mpr (List.forall_mem_cons.mpr ⟨rfl, hplace⟩)
  unfold issueValue
  rw [Value.finite_record_iff]
  intro e he
  rcases List.mem_append.mp he with he | he
  · simp only [List.mem_cons, List.not_mem_nil, or_false] at he
    rcases he with rfl | rfl | rfl | rfl
    · rfl
    · exact hloc
    · rfl
    · exact h
  · split at he
    · exact absurd he List.not_mem_nil
    · rw [List.mem_singleton.mp he]
      exact hcontext

/-- **Issues with values that can be shown are answered.** -/
theorem invalid_of_finite {issues : List Issue} (h : ∀ i ∈ issues, i.value.Finite) :
    ∃ response, invalid issues = .response response ∧ response.status = invalidStatus := by
  have hdetail : Value.Finite (.record [("detail", .list (issues.map issueValue))]) := by
    rw [Value.finite_record_iff, List.forall_mem_singleton, Value.finite_list_iff]
    intro shown hshown
    obtain ⟨i, hi, rfl⟩ := List.mem_map.mp hshown
    exact finite_issueValue (h i hi)
  unfold invalid
  dsimp only
  rw [show Json.hasNonFinite _ = false from hdetail]
  exact ⟨_, rfl, rfl⟩

section Accepted

variable {input : AlertInput} {t : Template}

/-- What is accepted is no null, and is what the request brings. -/
theorem payload_of_accepted (h : Posts site r route bytes) (hd : Json.readBytes bytes = .value d)
    (hread : HealthAlert.Request.readWith .byFields d.value d.lone = .accepted input) :
    Payload.ofRequest r = .value d.value d.lone := by
  obtain ⟨es, hes, -⟩ := HealthAlert.Request.readWith_eq_accepted_iff.mp hread
  have hne : d.value ≠ .null := by
    rw [hes]
    exact fun h => nomatch h
  exact (h.payload hd).trans (ofJson_of_ne_null hd hne)

theorem render_of_json_accepted {answer : AlertInput → Template → Response}
    (hanswer : Gives answer) (h : Posts site r route bytes)
    (hd : Json.readBytes bytes = .value d)
    (hread : HealthAlert.Request.readWith .byFields d.value d.lone = .accepted input)
    (ht : Template.render site.settings.templateOptions input = .ok t)
    (htext : Text.encodingFault? d.lone t.text = none) (s : State) :
    (render site s r answer).ending = .response (answer input t) := by
  rw [render_accepted (payload_of_accepted h hd hread) hanswer hread ht htext]

theorem render_of_json_unencodable (answer : AlertInput → Template → Response)
    (h : Posts site r route bytes) (hd : Json.readBytes bytes = .value d)
    (hread : HealthAlert.Request.readWith .byFields d.value d.lone = .accepted input)
    (ht : Template.render site.settings.templateOptions input = .ok t) {f : Text.EncodingFault}
    (htext : Text.encodingFault? d.lone t.text = some f) (s : State) :
    (render site s r answer).ending = .error (.unencodable f) := by
  rw [render_unencodable (payload_of_accepted h hd hread) hread ht htext]

end Accepted

/-! ## Refusing -/

/-- How the service ends with the issues of a refused payload. Null counts as no payload. -/
def refusal (d : Json.Document) (issues : List Issue) : Ending :=
  match d.value with
  | .null => invalid [⟨[], .missing, .null⟩]
  | _ => (Handling.encoded d.lone { ending := invalid issues, state := {} }).ending

theorem ending_encoded (lone : Text.StandIns) (h : Handling) :
    (h.encoded lone).ending =
      (Handling.encoded lone { ending := h.ending, state := {} }).ending := by
  unfold Handling.encoded
  dsimp only
  split
  · split <;> rfl
  · rfl

/-- A refused payload ends the rendering by its issues. -/
theorem render_of_json_refused (answer : AlertInput → Template → Response)
    (h : Posts site r route bytes) (hd : Json.readBytes bytes = .value d) {issues : List Issue}
    (hread : HealthAlert.Request.readWith .byFields d.value d.lone = .refused issues) (s : State) :
    (render site s r answer).ending = refusal d issues := by
  by_cases hne : d.value = .null
  · unfold render withValue refusal
    rw [h.payload hd, ofJson_of_null hd hne, hne]
  · rw [render_refused ((h.payload hd).trans (ofJson_of_ne_null hd hne)) hread, ending_encoded]
    unfold refusal
    split
    · exact absurd ‹_› hne
    · rfl

/-- **A refused payload is answered so**, unless it holds a number or a surrogate that cannot be
shown. -/
theorem refusal_cases {issues : List Issue}
    (hread : HealthAlert.Request.readWith .byFields d.value d.lone = .refused issues) :
    (∃ response, refusal d issues = .response response ∧ response.status = invalidStatus) ∨
      (refusal d issues = .error .nonFiniteAnswer ∧ ¬ d.value.Finite) ∨
      ∃ f, refusal d issues = .error (.unencodable f) ∧ d.lone ≠ [] := by
  unfold refusal
  split
  · exact Or.inl (invalid_of_finite (List.forall_mem_singleton.mpr rfl))
  · rcases invalid_cases issues with hinvalid | ⟨response, hinvalid, hstatus⟩
    · rw [hinvalid]
      refine Or.inr (Or.inl ⟨rfl, fun hfinite => ?_⟩)
      have hshows := @HealthAlert.Request.shows_readWith .byFields d.value d.lone hfinite
      rw [hread] at hshows
      obtain ⟨response, hanswered, -⟩ := invalid_of_finite hshows
      exact absurd (hinvalid.symm.trans hanswered) (by simp)
    · rw [hinvalid]
      unfold Handling.encoded
      dsimp only
      cases hfault : Text.encodingFault? d.lone response.body with
      | none => exact Or.inl ⟨response, rfl, hstatus⟩
      | some f =>
        refine Or.inr (Or.inr ⟨f, rfl, fun hnil => ?_⟩)
        rw [hnil, Text.encodingFault?_nil] at hfault
        exact absurd hfault (by simp)

end Endpoint

end Payloads

end HealthAlert.Service
