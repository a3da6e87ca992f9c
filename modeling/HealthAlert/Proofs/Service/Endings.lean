import HealthAlert.Proofs.Options.Outcomes
import HealthAlert.Proofs.Service.RouteMetrics

/-!
# How endpoints end

An endpoint answers what was asked, lists the issues with a payload, or reports why there is no
answer. `Ends` lists all these ends, so what every end has in common is shown by going through them
once.

* **`Endpoint.ends`**: every endpoint ends in one of these ways.
* `Endpoint.run_of_unreadable`: a body that cannot be read is answered by its reader.
-/

namespace HealthAlert.Service

open Http (Request Response)

/-- The route needs a value from the body of a request. -/
def Route.takesValue : Route → Bool
  | .template => true
  | .templateText => true
  | .validation => true
  | _ => false

/-- How the handling of a request for a route ends. -/
inductive Ends (r : Request) (route : Route) : Ending → Prop where
  /-- The answer to what was asked. -/
  | answer {response : Response} (h : response.status = 200) : Ends r route (.response response)
  /-- The payload has issues. -/
  | issues (issues : List Issue) : Ends r route (Endpoint.invalid issues)
  /-- The body is needed and cannot be read. -/
  | unreadable (takesValue : route.takesValue = true) (h : Payload.ofRequest r = .unreadable) :
    Ends r route (.response (Endpoint.explained 400 "There was an error parsing the body"))
  | noTemplate (fault : TemplateFault) : Ends r route (.failure fault.failure)
  | unknownList (name : String) : Ends r route (.failure (OptionKind.unknown name))
  | noList (kind : OptionKind) (fault : Options.Fault) :
    Ends r route (.failure (Options.Fault.failure kind fault))
  /-- The metrics are not shown. -/
  | refusal {status : Nat} {message : String} (h : status ∈ [403, 500]) :
    Ends r route (.refusal status message)
  | error (e : InternalError) : Ends r route (.error e)

namespace Endpoint

variable {site : Site} {s : State} {r : Request} {route : Route}

/-- A response without UTF-8 is an error, and every other end stays. -/
theorem ends_encoded {h : Handling} (he : Ends r route h.ending) (lone : Text.StandIns) :
    Ends r route (h.encoded lone).ending := by
  unfold Handling.encoded
  split
  · split
    · exact he
    · exact .error _
  · exact he

/-- The handling ends so when it does for every value that the request may bring. -/
theorem ends_withValue {go : Value → Text.StandIns → Handling} (ht : route.takesValue = true)
    (hgo : ∀ v lone, Ends r route (go v lone).ending) :
    Ends r route (withValue s r go).ending := by
  unfold withValue
  split
  · dsimp only
    exact .issues _
  · dsimp only
    exact .issues _
  · exact .unreadable ht ‹_›
  · exact .error _
  · exact ends_encoded (hgo _ _) _

/-- A rendering ends in a failure or in an error. -/
theorem ends_fault (fault : Rendering.Fault) : Ends r route (.ofTrouble fault.trouble) := by
  cases fault with
  | template f => exact .noTemplate f
  | unwritableInteger => exact .error _
  | unencodable f => exact .error _

theorem ends_render {answer : AlertInput → Template → Response}
    (hanswer : ∀ input t, (answer input t).status = 200) (ht : route.takesValue = true) :
    Ends r route (render site s r answer).ending := by
  refine ends_withValue ht fun v lone => ?_
  cases HealthAlert.Request.readWith .byFields v lone with
  | refused issues => exact .issues issues
  | accepted input =>
    dsimp only
    -- An accepted request has a template, but its failures would be reported just as well.
    split
    · exact .answer (hanswer input _)
    · exact ends_fault _

theorem ends_validate (ht : route.takesValue = true) : Ends r route (validate s r).ending := by
  refine ends_withValue ht fun v _ => ?_
  cases v with
  | record entries => exact .answer rfl
  | _ =>
    dsimp only
    exact .issues _

theorem ends_shown (choices : List Choice) : Ends r route (shown choices) := by
  unfold shown
  split
  · exact .answer rfl
  · exact .error _

theorem ends_options (site : Site) (s : State) (r : Request) (route : Route) (name : String) :
    Ends r route (options site s name).ending := by
  unfold options
  dsimp only
  split
  · exact ends_shown _
  · rename_i t hload
    cases t with
    | failure f =>
      rcases Options.Cache.loadNamed_eq_failure hload with ⟨-, rfl⟩ | ⟨kind, fault, -, rfl⟩
      · exact .unknownList name
      · exact .noList kind fault
    | internal e => exact .error e

theorem ends_metrics (site : Site) (s : State) (r : Request) (route : Route) :
    Ends r route (metrics site s r).ending := by
  unfold metrics
  split
  · exact .refusal (by decide)
  · split
    · exact .error _
    · exact .answer rfl
    · exact .refusal (by decide)

/-- **Every endpoint ends in one of these ways.** -/
theorem ends (site : Site) (s : State) (r : Request) (route : Route) (parameters : List String) :
    Ends r route (run site s r route parameters).ending := by
  cases route with
  | health => exact .answer rfl
  | optionKinds => exact .answer rfl
  | options => exact ends_options site s r _ _
  | template => exact ends_render (fun _ _ => rfl) rfl
  | templateText => exact ends_render (fun _ _ => rfl) rfl
  | validation => exact ends_validate rfl
  | metrics => exact ends_metrics site s r _
  | document d => exact .answer rfl

/-- A body that cannot be read is answered by its reader. -/
theorem run_of_unreadable {parameters : List String} (ht : route.takesValue = true)
    (hr : Payload.ofRequest r = .unreadable) :
    (run site s r route parameters).ending =
      .response (explained 400 "There was an error parsing the body") := by
  have hvalue (go : Value → Text.StandIns → Handling) : (withValue s r go).ending =
      .response (explained 400 "There was an error parsing the body") := by
    unfold withValue
    rw [hr]
  cases route with
  | template => exact hvalue _
  | templateText => exact hvalue _
  | validation => exact hvalue _
  | _ => exact absurd ht (by simp [Route.takesValue])

end Endpoint

end HealthAlert.Service
