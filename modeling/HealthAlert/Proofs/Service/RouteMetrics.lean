import HealthAlert.Proofs.Request.Rendering
import HealthAlert.Proofs.Service.Answers
import HealthAlert.Proofs.Service.Passage

/-!
# What the routes do to the metrics

A route changes the metrics only where it answers with a template: then one rendering that
succeeded is counted. Every other request for such a route is refused before anything is rendered,
or ends in an error because the text of its template has no UTF-8; such a rendering is not counted.
No other route renders.

* `Endpoint.render_cases`: how a request for a template ends.
* `run_of_found`, `run_state_of_not_found`: the reply of a route, and of a target which is none.
* **`run_metrics`**: the metrics after the routes have replied.
-/

namespace HealthAlert.Service

open Http (Request Response)

/-! ## Answers with a template -/

/-- The target is a route that answers with a template. -/
def Target.givesTemplate : Target → Bool
  | .found .template _ => true
  | .found .templateText _ => true
  | _ => false

/-- The status of what the client is answered; an error that nothing handles is answered too. -/
def statusOf : Except InternalError Response → Nat
  | .ok response => response.status
  | .error _ => internalErrorStatus

theorem internalErrorStatus_ne : internalErrorStatus ≠ 200 := by decide

/-- The result is the answer of a route that gives templates, and not a refusal. -/
def IsTemplate (target : Target) (result : Except InternalError Response) : Prop :=
  target.givesTemplate = true ∧ statusOf result = 200

namespace Endpoint

variable {site : Site} {s : State} {r : Request}

/-- The handling ended without a template: in an error, or in a response that says no. -/
def Refuses (h : Handling) : Prop :=
  (∃ e, h.ending = .error e) ∨ ∃ response, h.ending = .response response ∧ response.status ≠ 200

theorem invalid_cases (issues : List Issue) :
    invalid issues = .error .nonFiniteAnswer ∨
      ∃ response, invalid issues = .response response ∧ response.status = invalidStatus := by
  unfold invalid
  dsimp only
  split
  · exact Or.inl rfl
  · exact Or.inr ⟨_, rfl, rfl⟩

theorem refuses_invalid (issues : List Issue) (s : State) (log : List Log.Row) :
    Refuses { ending := invalid issues, state := s, log := log } := by
  rcases invalid_cases issues with hi | ⟨response, hi, hs⟩
  · exact Or.inl ⟨_, hi⟩
  · refine Or.inr ⟨response, hi, ?_⟩
    rw [hs]
    decide

theorem encoded_state (lone : Text.StandIns) (h : Handling) : (h.encoded lone).state = h.state := by
  unfold Handling.encoded
  split
  · split <;> rfl
  · rfl

/-- A handling that refuses does so with a response that has no UTF-8. -/
theorem Refuses.encoded {h : Handling} (hr : Refuses h) (lone : Text.StandIns) :
    Refuses (h.encoded lone) := by
  unfold Handling.encoded
  split
  · split
    · exact hr
    · exact Or.inl ⟨_, rfl⟩
  · exact hr

theorem encoded_of_response {lone : Text.StandIns} {h : Handling} {response : Response}
    (he : h.ending = .response response) (hb : Text.encodingFault? lone response.body = none) :
    h.encoded lone = h := by
  unfold Handling.encoded
  rw [he]
  dsimp only
  rw [hb]

variable {go : Value → Text.StandIns → Handling}

theorem withValue_of_value {v : Value} {lone : Text.StandIns}
    (h : Payload.ofRequest r = .value v lone) : withValue s r go = (go v lone).encoded lone := by
  unfold withValue
  rw [h]

/-- A request that brings no value is refused, and nothing changes. -/
theorem withValue_of_no_value (h : ∀ v lone, Payload.ofRequest r ≠ .value v lone) :
    Refuses (withValue s r go) ∧ (withValue s r go).state = s := by
  unfold withValue
  split
  · exact ⟨refuses_invalid _ s [], rfl⟩
  · exact ⟨refuses_invalid _ s [], rfl⟩
  · exact ⟨Or.inr ⟨_, rfl, by decide⟩, rfl⟩
  · exact ⟨Or.inl ⟨_, rfl⟩, rfl⟩
  · exact absurd ‹_› (h _ _)

section Render

variable {answer : AlertInput → Template → Response} {v : Value} {lone : Text.StandIns}

theorem render_refused (hv : Payload.ofRequest r = .value v lone) {issues : List Issue}
    (h : HealthAlert.Request.readWith .byFields v lone = .refused issues) :
    render site s r answer =
      Handling.encoded lone { ending := invalid issues, state := s } := by
  unfold render
  rw [withValue_of_value hv, h]

/-- A request that is accepted is answered with its template. -/
theorem render_accepted (hv : Payload.ofRequest r = .value v lone) (hanswer : Gives answer)
    {input : AlertInput} (h : HealthAlert.Request.readWith .byFields v lone = .accepted input)
    {t : Template} (ht : Template.render site.settings.templateOptions input = .ok t)
    (htext : Text.encodingFault? lone t.text = none) :
    render site s r answer =
      { ending := .response (answer input t)
        state := { s with metrics := s.metrics.rendered input.actionMode (byteSize t.text) }
        log := [Rendering.logRow site.duration input t] } := by
  have hcompose : Rendering.compose site.settings.templateOptions input = .ok t :=
    Template.compose_of_accepted h ht
  have hencoded : (Except.ok t >>= Rendering.encoded lone) = .ok t :=
    Rendering.encoded_of_none htext
  unfold render Rendering.run
  rw [withValue_of_value hv, h]
  simp only [hcompose, hencoded]
  exact encoded_of_response rfl (hanswer.body (Payload.private_ofRequest hv) input t htext)

/-- A request that is accepted ends in an error when the text of its template has no UTF-8. -/
theorem render_unencodable (hv : Payload.ofRequest r = .value v lone) {input : AlertInput}
    (h : HealthAlert.Request.readWith .byFields v lone = .accepted input) {t : Template}
    (ht : Template.render site.settings.templateOptions input = .ok t) {f : Text.EncodingFault}
    (htext : Text.encodingFault? lone t.text = some f) :
    render site s r answer = { ending := .error (.unencodable f), state := s } := by
  have hcompose : Rendering.compose site.settings.templateOptions input = .ok t :=
    Template.compose_of_accepted h ht
  have hencoded : (Except.ok t >>= Rendering.encoded lone) = .error (.unencodable f) :=
    Rendering.encoded_of_some htext
  unfold render Rendering.run
  rw [withValue_of_value hv, h]
  simp only [hcompose, hencoded]
  rfl

/-- **How a request for a template ends.** It is answered with a template, and a rendering that
succeeded is counted; or it is refused, and nothing changes. -/
theorem render_cases (site : Site) (s : State) (r : Request) (hanswer : Gives answer) :
    (∃ response mode size, (render site s r answer).ending = .response response ∧
        response.status = 200 ∧
        (render site s r answer).state.metrics = s.metrics.rendered mode size) ∨
      (Refuses (render site s r answer) ∧ (render site s r answer).state = s) := by
  by_cases hv : ∃ v lone, Payload.ofRequest r = .value v lone
  · obtain ⟨v, lone, hv⟩ := hv
    cases hread : HealthAlert.Request.readWith .byFields v lone with
    | refused issues =>
      rw [render_refused hv hread]
      exact Or.inr ⟨(refuses_invalid issues s []).encoded lone, encoded_state lone _⟩
    | accepted input =>
      -- What is accepted has a template, so only the size of its text can fail.
      have ht := Template.render_accepted hread site.settings.templateOptions
      cases htext : Text.encodingFault? lone
          (Template.withReference site.settings.templateOptions input input.reference).text with
      | none =>
        rw [render_accepted hv hanswer hread ht htext]
        exact Or.inl ⟨_, _, _, rfl, hanswer.status input _, rfl⟩
      | some f =>
        rw [render_unencodable hv hread ht htext]
        exact Or.inr ⟨Or.inl ⟨_, rfl⟩, rfl⟩
  · exact Or.inr (withValue_of_no_value fun v lone h => hv ⟨v, lone, h⟩)

end Render

theorem options_metrics (site : Site) (s : State) (kind : String) :
    (options site s kind).state.metrics = s.metrics := by
  unfold options
  dsimp only
  split <;> rfl

theorem validate_state (s : State) (r : Request) : (validate s r).state = s := by
  by_cases hv : ∃ v lone, Payload.ofRequest r = .value v lone
  · obtain ⟨v, lone, hv⟩ := hv
    unfold validate
    rw [withValue_of_value hv, encoded_state]
    split <;> rfl
  · exact (withValue_of_no_value fun v lone h => hv ⟨v, lone, h⟩).2

theorem metrics_state (site : Site) (s : State) (r : Request) : (metrics site s r).state = s := by
  unfold metrics
  split
  · rfl
  · split <;> rfl

/-- A route that gives no templates leaves the metrics as they are. -/
theorem run_metrics_of_not_givesTemplate {route : Route} {parameters : List String}
    (h : (Target.found route parameters).givesTemplate = false) :
    (run site s r route parameters).state.metrics = s.metrics := by
  unfold run
  cases route with
  | template => exact absurd h (by simp [Target.givesTemplate])
  | templateText => exact absurd h (by simp [Target.givesTemplate])
  | options => exact options_metrics site s _
  | validation => exact congrArg State.metrics (validate_state s r)
  | metrics => exact congrArg State.metrics (metrics_state site s r)
  | health => rfl
  | optionKinds => rfl
  | document d => rfl

end Endpoint

/-! ## Replies -/

namespace Routing

variable {site : Site} {s : State} {id : String} {r : Request}

theorem settle_state (site : Site) (r : Request) (id : String) (h : Handling) :
    (settle site r id h).state = h.state := by
  unfold settle
  cases h.ending <;> rfl

theorem run_of_found {route : Route} {parameters : List String}
    (h : target site r = .found route parameters) :
    run site s id r = settle site r id (Endpoint.run site s r route parameters) := by
  unfold run
  rw [h]

/-- Where no route is found, the state stays as it is. -/
theorem run_state_of_not_found (h : ∀ route parameters, target site r ≠ .found route parameters) :
    (run site s id r).state = s := by
  unfold run
  split
  · exact absurd ‹_› (h _ _)
  · rfl
  · rfl
  · rfl

/-- The rendering of a template, settled: a template in the reply and one more rendering counted,
or neither. -/
theorem settle_render (site : Site) (s : State) (id : String) (r : Request)
    {answer : AlertInput → Template → Response} (hanswer : Endpoint.Gives answer) :
    (statusOf (settle site r id (Endpoint.render site s r answer)).result = 200 ∧
        ∃ mode size, (settle site r id (Endpoint.render site s r answer)).state.metrics =
          s.metrics.rendered mode size) ∨
      (statusOf (settle site r id (Endpoint.render site s r answer)).result ≠ 200 ∧
        (settle site r id (Endpoint.render site s r answer)).state.metrics = s.metrics) := by
  rw [settle_state, settle_result]
  rcases Endpoint.render_cases site s r hanswer with
    ⟨response, mode, size, he, hs, hm⟩ | ⟨⟨e, he⟩ | ⟨response, he, hs⟩, hm⟩
  · rw [he]
    exact Or.inl ⟨hs, mode, size, hm⟩
  · rw [he, hm]
    exact Or.inr ⟨internalErrorStatus_ne, rfl⟩
  · rw [he, hm]
    exact Or.inr ⟨hs, rfl⟩

/-- **The metrics after the routes have replied**: a reply with a template counts one rendering
that succeeded, and every other reply leaves the metrics as they are. -/
theorem run_metrics (site : Site) (s : State) (id : String) (r : Request) :
    (IsTemplate (target site r) (run site s id r).result ∧
        ∃ mode size, (run site s id r).state.metrics = s.metrics.rendered mode size) ∨
      (¬ IsTemplate (target site r) (run site s id r).result ∧
        (run site s id r).state.metrics = s.metrics) := by
  by_cases hg : (target site r).givesTemplate = true
  · -- Both routes render alike and differ only in how they answer.
    have hrender : ∃ answer, Endpoint.Gives answer ∧
        run site s id r = settle site r id (Endpoint.render site s r answer) := by
      unfold Target.givesTemplate at hg
      split at hg
      · exact ⟨Endpoint.showDescribed, Endpoint.gives_showDescribed, run_of_found ‹_›⟩
      · exact ⟨Endpoint.showText, Endpoint.gives_showText, run_of_found ‹_›⟩
      · exact absurd hg (by simp)
    obtain ⟨answer, hanswer, hrun⟩ := hrender
    rw [hrun]
    rcases settle_render site s id r hanswer with h | h
    · exact Or.inl ⟨⟨hg, h.1⟩, h.2⟩
    · exact Or.inr ⟨fun ht => h.1 ht.2, h.2⟩
  · refine Or.inr ⟨fun ht => hg ht.1, ?_⟩
    by_cases hf : ∃ route parameters, target site r = .found route parameters
    · obtain ⟨route, parameters, hf⟩ := hf
      rw [run_of_found hf, settle_state]
      rw [hf, Bool.not_eq_true] at hg
      exact Endpoint.run_metrics_of_not_givesTemplate hg
    · rw [run_state_of_not_found fun route parameters h => hf ⟨route, parameters, h⟩]

end Routing

end HealthAlert.Service
