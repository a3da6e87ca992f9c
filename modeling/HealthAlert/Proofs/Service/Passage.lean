import HealthAlert.Service.Exchange

/-!
# How a request passes through the service

A request that is not too large and is no preflight reaches the routes (`Site.Admits`), and the
layers around them leave what the routes reply as it is: a response keeps its status and its body,
and an error that nothing handled becomes the general answer about errors.

* `Routing.settle_result`: what the handling of a request replies.
* `Site.serve_of_run`: observed or not, a request gets what the routes reply.
* `Site.handle_of_ok`, `Site.handle_of_error`: the exchange for each way in which the routes reply.
* `answers_of_routed`, `failed_of_routed`: what the client gets of it.
-/

namespace HealthAlert.Service

open Http (Request Response)

/-- The exchange ended in a response of the service with this status and body. -/
def Exchange.Answers (e : Exchange) (status : Nat) (body : String) : Prop :=
  e.raised = none ∧ e.response.status = status ∧ e.response.body = body

/-- The exchange ended in an error that nothing handled, and the client was told no more than
that. -/
def Exchange.Failed (e : Exchange) (error : InternalError) : Prop :=
  e.raised = some error ∧ e.response = Site.errorResponse

theorem Exchange.Answers.unique {e : Exchange} {status status' : Nat} {body body' : String}
    (h : e.Answers status body) (h' : e.Answers status' body') : status = status' :=
  h.2.1.symm.trans h'.2.1

theorem Exchange.Answers.not_failed {e : Exchange} {status : Nat} {body : String}
    {error : InternalError} (h : e.Answers status body) : ¬ e.Failed error := fun hf =>
  absurd (h.1.symm.trans hf.1) (by simp)

/-- The request reaches the routes: it is not too large, and it is no preflight. -/
structure Site.Admits (site : Site) (r : Request) : Prop where
  size : Http.SizeLimit.check site.sizeLimit r = .ok none
  noPreflight : Http.Sharing.isPreflight r = false

/-- A request that declares no length and brings no body is never too large. -/
theorem check_of_undeclared {limit : Int} {r : Request} (h : r.header? "content-length" = none)
    (hm : r.method ∉ Http.SizeLimit.methodsWithBody) :
    Http.SizeLimit.check limit r = .ok none := by
  unfold Http.SizeLimit.check Http.SizeLimit.declaredLength
  rw [h]
  exact if_neg (by simp [hm])

/-- A request for the health of the service that declares a length. -/
def declaring (length : String) : Request where
  method := "GET"
  path := "/api/v1/health"
  headers := [("Content-Length", length)]
  server := "testserver"
  client := "testclient"

theorem header?_declaring (length : String) :
    (declaring length).header? "content-length" = some length := by
  have hname : "Content-Length".toLower = "content-length" := by decide +kernel
  exact (Http.header?_cons _ _ _).trans (if_pos hname)

/-- A superscript two is taken for a digit, and does not spell a number. -/
theorem check_superscript (limit : Int) :
    Http.SizeLimit.check limit (declaring "²") = .error (.notANumeral "²") := by
  have hdeclared : Http.SizeLimit.declaredLength (declaring "²") = .error (.notANumeral "²") := by
    unfold Http.SizeLimit.declaredLength
    rw [header?_declaring]
    rfl
  unfold Http.SizeLimit.check
  rw [hdeclared]

/-! ## Routes -/

/-- The target is the route, whether or not it takes the method of the request. -/
def Target.IsOf (t : Target) (route : Route) : Prop :=
  (∃ parameters, t = .found route parameters) ∨ t = .wrongMethod route

/-- A request only goes to a route that the service offers and that fits its path. -/
theorem Route.mem_filter_of_resolve {routes : List Route} {method path : String} {route : Route}
    (h : (resolve routes method path).IsOf route) : route ∈ routes.filter (·.fits path) := by
  unfold resolve Target.IsOf at h
  split at h
  · rename_i first rest hfit
    rw [hfit]
    split at h
    · rename_i found hfind
      rcases h with ⟨parameters, h⟩ | h
      · obtain ⟨rfl, -⟩ := Target.found.inj h
        exact List.mem_of_find?_eq_some hfind
      · exact absurd h (by simp)
    · rcases h with ⟨parameters, h⟩ | h
      · exact absurd h (by simp)
      · obtain rfl := Target.wrongMethod.inj h
        exact List.mem_cons_self
  · dsimp only at h
    split at h <;> simp at h

/-- The result of a reply is that of the handling: a failure and a refusal become responses, and
only an error that nothing handles stays one. -/
theorem Routing.settle_result (site : Site) (r : Request) (requestId : String) (h : Handling) :
    (settle site r requestId h).result =
      match h.ending with
      | .response response => .ok response
      | .failure f => .ok (failureResponse site f)
      | .refusal status message => .ok (refusalResponse status message)
      | .error e => .error e := by
  unfold settle
  cases h.ending <;> rfl

/-! ## Exchanges -/

/-- What the routes reply to a request that is observed. -/
def Site.routed (site : Site) (s : State) (fresh : String) (r : Request) : Reply :=
  Routing.run site (Observation.start s r) (Observation.requestId fresh r) r

variable {site : Site} {s : State} {fresh : String} {r : Request}

theorem Site.serve_eq (h : site.settings.observabilityEnabled = true) :
    site.serve s fresh r = Observation.finish r (Observation.requestId fresh r)
      (Routing.target site r).label (site.routed s fresh r) :=
  if_pos h

/-- Whether it is observed or not, a request is replied to by the routes, with the lists that are
kept, and only headers are added. -/
theorem Site.serve_result (site : Site) (s : State) (fresh : String) (r : Request) :
    ∃ s' id headers, s'.cache = s.cache ∧ (site.serve s fresh r).result =
      (Routing.run site s' id r).result.map (·.withHeaders headers) := by
  cases ho : site.settings.observabilityEnabled with
  | true =>
    refine ⟨Observation.start s r, Observation.requestId fresh r,
      [(Observation.idHeader, Observation.requestId fresh r)], rfl, ?_⟩
    rw [Site.serve_eq ho]
    unfold Observation.finish Site.routed
    cases (Routing.run site (Observation.start s r) (Observation.requestId fresh r) r).result <;>
      rfl
  | false =>
    refine ⟨s, "", [], rfl, ?_⟩
    unfold Site.serve
    rw [ho, if_neg Bool.false_ne_true]
    cases (Routing.run site s "" r).result with
    | error e => rfl
    | ok response => simp [Except.map, Response.withHeaders]

/-- A reply of the routes that depends neither on the state nor on the request's ID. -/
theorem Site.serve_of_run (s : State) (fresh : String) {result : Except InternalError Response}
    (hrun : ∀ s id, (Routing.run site s id r).result = result) :
    ∃ headers, (site.serve s fresh r).result = result.map (·.withHeaders headers) := by
  obtain ⟨s', id, headers, -, hserve⟩ := site.serve_result s fresh r
  exact ⟨headers, by rw [hserve, hrun]⟩

/-- Nothing but the observation stands between the request and the routes. -/
theorem Site.serveLimited_eq (h : site.Admits r) :
    site.serveLimited s fresh r =
      { site.serve s fresh r with
        result := (site.serve s fresh r).result.map
          (Http.Sharing.share site.settings.corsOrigins r) } := by
  unfold serveLimited serveShared
  rw [h.size]
  exact if_neg (by simp [h.noPreflight])

/-- What is responded inside, the client gets: only headers are added. -/
theorem answers_of_served (h : site.Admits r) {response : Response}
    (hr : (site.serve s fresh r).result = .ok response) :
    (site.handle s fresh r).1.Answers response.status response.body := by
  unfold Site.handle
  rw [Site.serveLimited_eq h, hr]
  exact ⟨rfl, rfl, rfl⟩

theorem failed_of_served (h : site.Admits r) {e : InternalError}
    (hr : (site.serve s fresh r).result = .error e) : (site.handle s fresh r).1.Failed e := by
  unfold Site.handle
  rw [Site.serveLimited_eq h, hr]
  exact ⟨rfl, rfl⟩

/-- The exchange when the routes respond. -/
theorem Site.handle_of_ok (ho : site.settings.observabilityEnabled = true) (h : site.Admits r)
    {response : Response} (hr : (site.routed s fresh r).result = .ok response) :
    (site.handle s fresh r).1 =
      { response := Http.Sharing.share site.settings.corsOrigins r
          (response.withHeaders [(Observation.idHeader, Observation.requestId fresh r)])
        log := (site.routed s fresh r).log ++
          if Observation.isSilent r.shownPath then []
          else [Observation.answeredRow r (Routing.target site r).label response.status] } := by
  unfold Site.handle
  rw [Site.serveLimited_eq h, Site.serve_eq ho]
  unfold Observation.finish
  rw [hr]
  rfl

/-- The exchange when an error reaches the observation that no route handles. -/
theorem Site.handle_of_error (ho : site.settings.observabilityEnabled = true)
    (h : site.Admits r) {e : InternalError} (hr : (site.routed s fresh r).result = .error e) :
    (site.handle s fresh r).1 =
      { response := Site.errorResponse
        raised := some e
        log := (site.routed s fresh r).log ++
          [Observation.failedRow r (Routing.target site r).label e] ++ [Site.errorRow r e] } := by
  unfold Site.handle
  rw [Site.serveLimited_eq h, Site.serve_eq ho]
  unfold Observation.finish
  rw [hr]
  rfl

/-- **What the routes respond, the client gets**, with the same status and body. -/
theorem answers_of_routed (ho : site.settings.observabilityEnabled = true) (h : site.Admits r)
    {response : Response} (hr : (site.routed s fresh r).result = .ok response) :
    (site.handle s fresh r).1.Answers response.status response.body := by
  rw [Site.handle_of_ok ho h hr]
  exact ⟨rfl, rfl, rfl⟩

/-- An error that no route handles ends in the general answer. -/
theorem failed_of_routed (ho : site.settings.observabilityEnabled = true) (h : site.Admits r)
    {e : InternalError} (hr : (site.routed s fresh r).result = .error e) :
    (site.handle s fresh r).1.Failed e := by
  rw [Site.handle_of_error ho h hr]
  exact ⟨rfl, rfl⟩

end HealthAlert.Service
