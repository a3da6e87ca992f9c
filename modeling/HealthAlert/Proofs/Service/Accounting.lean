import HealthAlert.Proofs.Service.RouteMetrics

/-!
# The metrics account for every request

A run of the service handles requests one after the other. `Accounts` says that the metrics hold
the visits of such a run: each request that reached the routes once, under its method, its route and
the status of its answer; an error for each of these that nothing handled; nothing in progress; and
one rendering, which succeeded, for each template that was answered.

A request whose declared length is no number ends in an error before it is observed. Such errors are
not counted, so that the errors that are counted and these make up all that happened.

* `Site.handle_of_admits`, `Site.handle_of_not_admits`: what one exchange does.
* `accounts_handle`, `accounts_append`: one more visit, and a run.
* **`handleAll_accounts`**: the metrics after a run account for all its visits.
* `unreadable_length_uncounted`: an error that is not counted.
-/

namespace HealthAlert

/-- The renderings of an outcome, in all modes. -/
def Metrics.renderings (m : Metrics) (outcome : RenderOutcome) : Nat :=
  m.renders.count ⟨outcome, .existing⟩ + m.renders.count ⟨outcome, .quick⟩

namespace Service

open Http (Request Response)

/-! ## Visits -/

/-- A request that was handled, and the exchange that it led to. -/
structure Visit where
  request : Request
  exchange : Exchange

namespace Visit

/-- The visit ended in an error that nothing handled. -/
def failed (v : Visit) : Bool :=
  v.exchange.raised.isSome

/-- The status of the answer; an error that nothing handled counts as an internal error. -/
def status (v : Visit) : Nat :=
  if v.failed then internalErrorStatus else v.exchange.response.status

/-- What an observed visit is counted under. -/
def labels (site : Site) (v : Visit) : RequestLabels :=
  ⟨v.request.method, (Routing.target site v.request).label, v.status⟩

/-- The visit was answered with a template. -/
def isTemplate (site : Site) (v : Visit) : Bool :=
  (Routing.target site v.request).givesTemplate && v.status == 200

end Visit

namespace Site

/-- The limit on sizes cannot tell how long the request is. -/
def lengthFails (site : Site) (r : Request) : Bool :=
  match Http.SizeLimit.check site.sizeLimit r with
  | .error _ => true
  | .ok _ => false

/-- The request reaches the routes: the limit on sizes passes it on, and it is no preflight. -/
def reaches (site : Site) (r : Request) : Bool :=
  match Http.SizeLimit.check site.sizeLimit r with
  | .ok none => !Http.Sharing.isPreflight r
  | _ => false

/-- The visits of a run. -/
def visits (site : Site) (s : State) (fresh : String) (rs : List Request) : List Visit :=
  List.zipWith Visit.mk rs (site.handleAll s fresh rs).1

/-- The visits whose requests reached the routes. -/
def observed (site : Site) (done : List Visit) : List Visit :=
  done.filter fun v => site.reaches v.request

end Site

/-- **The metrics hold these visits**, and nothing else has happened. -/
structure Accounts (site : Site) (done : List Visit) (m : Metrics) : Prop where
  /-- Each observed visit is counted once, under its method, route and status. -/
  requests : ∀ labels, m.requests.count labels =
    (site.observed done).countP fun v => decide (v.labels site = labels)
  total : m.requests.total = (site.observed done).length
  /-- The routes are those of the service, by the template of their paths. -/
  routes : ∀ e ∈ m.requests,
    e.1.route = unmatched ∨ ∃ route ∈ Route.all true, e.1.route = route.path
  errors : m.errors.total = (site.observed done).countP Visit.failed
  /-- The errors that are not counted come from lengths that cannot be read. -/
  allErrors : m.errors.total + done.countP (fun v => site.lengthFails v.request) =
    done.countP Visit.failed
  inProgress : ∀ method, m.inProgress.count method = 0
  /-- Each template that was answered counts as a rendering that succeeded. -/
  renders : m.renderings .success = (site.observed done).countP (Visit.isTemplate site)
  noFailedRender : ∀ e ∈ m.renders, e.1.outcome ≠ .error

/-! ## One exchange -/

section Exchange

variable {site : Site} {s : State} {fresh : String} {r : Request}

theorem Site.reaches_iff : site.reaches r = true ↔ site.Admits r := by
  unfold reaches
  constructor
  · intro h
    split at h
    · exact ⟨‹_›, by simpa using h⟩
    · exact absurd h (by simp)
  · intro h
    simp only [h.size, h.noPreflight, Bool.not_false]

theorem Site.lengthFails_of_admits (h : site.Admits r) : site.lengthFails r = false := by
  unfold lengthFails
  rw [h.size]

/-- The metrics with an observed visit, from those that the routes left. -/
def Visit.record (site : Site) (v : Visit) (m : Metrics) : Metrics :=
  let route := (Routing.target site v.request).label
  let m := (m.requestEnded v.request.method).requestHandled v.request.method route v.status
  match v.exchange.raised with
  | none => m
  | some e => m.errorRaised e.typeName v.request.method route

/-- A request that reaches the routes is counted with the status that they replied. -/
theorem Site.handle_of_admits (s : State) (fresh : String)
    (ho : site.settings.observabilityEnabled = true)
    (h : site.Admits r) :
    let v : Visit := ⟨r, (site.handle s fresh r).1⟩
    v.status = statusOf (site.routed s fresh r).result ∧
      (site.handle s fresh r).2.metrics = v.record site (site.routed s fresh r).state.metrics := by
  unfold Site.handle
  rw [serveLimited_eq h, serve_eq ho]
  unfold Observation.finish
  cases hr : (site.routed s fresh r).result <;> exact ⟨rfl, rfl⟩

/-- A request that does not reach the routes changes nothing, and ends in an error exactly when its
length cannot be read. -/
theorem Site.handle_of_not_admits (s : State) (fresh : String) (h : ¬ site.Admits r) :
    (site.handle s fresh r).2 = s ∧
      Visit.failed ⟨r, (site.handle s fresh r).1⟩ = site.lengthFails r := by
  have hreply : (site.serveLimited s fresh r).state = s ∧
      ((site.serveLimited s fresh r).result.toOption.isNone) = site.lengthFails r := by
    unfold serveLimited serveShared lengthFails
    cases hc : Http.SizeLimit.check site.sizeLimit r with
    | error e => exact ⟨rfl, rfl⟩
    | ok excess =>
      cases excess with
      | some n => exact ⟨rfl, rfl⟩
      | none =>
        cases hp : Http.Sharing.isPreflight r with
        | true => exact ⟨rfl, rfl⟩
        | false => exact absurd ⟨hc, hp⟩ h
  unfold Site.handle
  rw [← hreply.2]
  dsimp only
  cases (site.serveLimited s fresh r).result <;> exact ⟨hreply.1, rfl⟩

end Exchange

/-! ## Routes -/

/-- A route is counted under the template of its paths, or not under its own. -/
theorem Route.label_eq (route : Route) : routeLabel route.countedPath? = unmatched ∨
    routeLabel route.countedPath? = route.path := by
  cases route with
  | document d => exact Or.inl rfl
  | _ => exact Or.inr (by decide)

/-- Requests are counted under the template of a route's paths, or as unmatched. -/
theorem Routing.label_target {site : Site} (ho : site.settings.observabilityEnabled = true)
    (r : Request) : (target site r).label = unmatched ∨
      ∃ route ∈ Route.all true, (target site r).label = route.path := by
  have hroutes : ∀ route, (target site r).IsOf route → route ∈ Route.all true := by
    intro route h
    rw [← ho]
    exact (List.mem_filter.mp (Route.mem_filter_of_resolve h)).1
  cases ht : target site r with
  | found route parameters =>
    exact route.label_eq.imp_right fun hl => ⟨route, hroutes route (Or.inl ⟨_, ht⟩), hl⟩
  | wrongMethod route =>
    exact route.label_eq.imp_right fun hl => ⟨route, hroutes route (Or.inr ht), hl⟩
  | redirect path => exact Or.inl rfl
  | unknown => exact Or.inl rfl

/-! ## One more visit -/

section Step

variable {site : Site} {done : List Visit} {m : Metrics} {v : Visit}

theorem Site.observed_append (done : List Visit) (v : Visit) :
    site.observed (done ++ [v]) =
      site.observed done ++ if site.reaches v.request then [v] else [] := by
  unfold observed
  rw [List.filter_append, List.filter_cons, List.filter_nil]

theorem accounts_of_not_reaches (h : Accounts site done m) (hr : site.reaches v.request = false)
    (hf : v.failed = site.lengthFails v.request) : Accounts site (done ++ [v]) m := by
  have ho : site.observed (done ++ [v]) = site.observed done := by
    rw [Site.observed_append, hr]
    exact List.append_nil _
  refine ⟨ho ▸ h.requests, ho ▸ h.total, h.routes, ho ▸ h.errors, ?_, h.inProgress,
    ho ▸ h.renders, h.noFailedRender⟩
  rw [List.countP_append, List.countP_append, ← Nat.add_assoc, h.allErrors,
    List.countP_singleton, List.countP_singleton, hf]

/-- Starting a request, handling it and ending it leaves nothing more in progress. -/
theorem inProgress_record {m routed : Metrics} (h : ∀ method, m.inProgress.count method = 0)
    (hr : routed.inProgress = m.inProgress.bump v.request.method) (method : String) :
    (v.record site routed).inProgress.count method = 0 := by
  have hrec : (v.record site routed).inProgress =
      routed.inProgress.modify v.request.method (· - 1) := by
    unfold Visit.record
    cases v.exchange.raised <;> rfl
  rw [hrec, hr]
  by_cases hm : v.request.method = method
  · subst hm
    rw [Tally.count_modify_self, Tally.count_bump, h, if_pos rfl]
  · rw [Tally.count_modify_of_ne _ _ hm, Tally.count_bump, h, if_neg hm]

theorem requests_record (v : Visit) (m : Metrics) :
    (v.record site m).requests = m.requests.bump (v.labels site) := by
  unfold Visit.record
  cases v.exchange.raised <;> rfl

theorem renders_record (v : Visit) (m : Metrics) : (v.record site m).renders = m.renders := by
  unfold Visit.record
  cases v.exchange.raised <;> rfl

theorem errors_record (v : Visit) (m : Metrics) :
    (v.record site m).errors.total = m.errors.total + if v.failed then 1 else 0 := by
  unfold Visit.record Visit.failed
  cases v.exchange.raised with
  | none => rfl
  | some e => exact Tally.total_bump _ _

/-- **One more visit.** An observed visit whose routes replied from the metrics so far is counted
once in each place where it belongs. -/
theorem accounts_record (h : Accounts site done m) (hr : site.Admits v.request)
    (ho : site.settings.observabilityEnabled = true) {routed : Metrics}
    (hrouted : (v.isTemplate site = true ∧ ∃ mode size,
        routed = (m.requestStarted v.request.method).rendered mode size) ∨
      (v.isTemplate site = false ∧ routed = m.requestStarted v.request.method)) :
    Accounts site (done ++ [v]) (v.record site routed) := by
  have hobserved : site.observed (done ++ [v]) = site.observed done ++ [v] := by
    rw [Site.observed_append, Site.reaches_iff.mpr hr, if_pos rfl]
  have hrequests : routed.requests = m.requests := by
    rcases hrouted with ⟨-, _, _, rfl⟩ | ⟨-, rfl⟩ <;> rfl
  have herrors : routed.errors = m.errors := by
    rcases hrouted with ⟨-, _, _, rfl⟩ | ⟨-, rfl⟩ <;> rfl
  have hprogress : routed.inProgress = m.inProgress.bump v.request.method := by
    rcases hrouted with ⟨-, _, _, rfl⟩ | ⟨-, rfl⟩ <;> rfl
  refine ⟨fun labels => ?_, ?_, fun e he => ?_, ?_, ?_, inProgress_record h.inProgress hprogress,
    ?_, fun e he => ?_⟩
  · rw [requests_record, hrequests, Tally.count_bump, h.requests, hobserved, List.countP_append,
      List.countP_singleton]
    simp
  · rw [requests_record, hrequests, Tally.total_bump, h.total, hobserved, List.length_append,
      List.length_singleton]
  · rw [requests_record, hrequests] at he
    rcases Tally.mem_bump he with hkey | ⟨e', he', hkey⟩
    · rw [hkey]
      exact Routing.label_target ho v.request
    · rw [← hkey]
      exact h.routes e' he'
  · rw [errors_record, herrors, h.errors, hobserved, List.countP_append, List.countP_singleton]
  · rw [errors_record, herrors, List.countP_append, List.countP_append, ← h.allErrors,
      List.countP_singleton, List.countP_singleton, Site.lengthFails_of_admits hr]
    simp only [Bool.false_eq_true, if_false]
    omega
  · rw [hobserved, List.countP_append, List.countP_singleton, ← h.renders]
    unfold Metrics.renderings
    rw [renders_record]
    rcases hrouted with ⟨ht, mode, size, rfl⟩ | ⟨ht, rfl⟩
    · rw [ht, Metrics.rendered, Metrics.requestStarted, Tally.count_bump, Tally.count_bump]
      cases mode <;> simp <;> omega
    · rw [ht]
      rfl
  · rw [renders_record] at he
    rcases hrouted with ⟨-, mode, size, rfl⟩ | ⟨-, rfl⟩
    · rcases Tally.mem_bump he with hkey | ⟨e', he', hkey⟩
      · rw [hkey]
        exact fun hn => RenderOutcome.noConfusion hn
      · rw [← hkey]
        exact h.noFailedRender e' he'
    · exact h.noFailedRender e he

end Step

/-! ## Runs -/

section Runs

variable {site : Site} {fresh : String}

/-- One exchange keeps the account. -/
theorem accounts_handle (ho : site.settings.observabilityEnabled = true) {done : List Visit}
    {s : State} (h : Accounts site done s.metrics) (r : Request) :
    Accounts site (done ++ [⟨r, (site.handle s fresh r).1⟩])
      (site.handle s fresh r).2.metrics := by
  by_cases ha : site.Admits r
  · obtain ⟨hstatus, hmetrics⟩ := Site.handle_of_admits s fresh ho ha
    rw [hmetrics]
    refine accounts_record h ha ho ?_
    have hiff : Visit.isTemplate site ⟨r, (site.handle s fresh r).1⟩ = true ↔
        IsTemplate (Routing.target site r) (site.routed s fresh r).result := by
      unfold Visit.isTemplate IsTemplate
      rw [Bool.and_eq_true, beq_iff_eq, hstatus]
    rcases Routing.run_metrics site (Observation.start s r) (Observation.requestId fresh r) r with
      ⟨ht, hm⟩ | ⟨ht, hm⟩
    · exact Or.inl ⟨hiff.mpr ht, hm⟩
    · exact Or.inr ⟨Bool.eq_false_iff.mpr fun hb => ht (hiff.mp hb), hm⟩
  · obtain ⟨hstate, hfailed⟩ := Site.handle_of_not_admits s fresh ha
    rw [hstate]
    exact accounts_of_not_reaches h
      (Bool.eq_false_iff.mpr fun hr => ha (Site.reaches_iff.mp hr)) hfailed

/-- A run keeps the account. -/
theorem accounts_append (ho : site.settings.observabilityEnabled = true) {done : List Visit}
    {s : State} (h : Accounts site done s.metrics) (rs : List Request) :
    Accounts site (done ++ site.visits s fresh rs) (site.handleAll s fresh rs).2.metrics := by
  induction rs generalizing done s with
  | nil =>
    have hnil : site.visits s fresh [] = [] := rfl
    rw [hnil, List.append_nil]
    exact h
  | cons r rs ih =>
    have hcons : site.visits s fresh (r :: rs) = ⟨r, (site.handle s fresh r).1⟩ ::
        site.visits (site.handle s fresh r).2 fresh rs := rfl
    rw [hcons, List.append_cons]
    exact ih (accounts_handle ho h r)

theorem accounts_nil : Accounts site [] {} :=
  ⟨fun _ => rfl, rfl, fun _ he => absurd he List.not_mem_nil, rfl, rfl, fun _ => rfl, rfl,
    fun _ he => absurd he List.not_mem_nil⟩

/-- Every request of a run is visited. -/
theorem Site.map_request_visits (site : Site) (s : State) (fresh : String) (rs : List Request) :
    (site.visits s fresh rs).map Visit.request = rs := by
  induction rs generalizing s with
  | nil => rfl
  | cons r rs ih => exact congrArg (r :: ·) (ih (site.handle s fresh r).2)

/-- **The metrics account for every request.** After any run of an observed service that started
with no metrics, whatever its cache held, the metrics hold the visits of the run. -/
theorem handleAll_accounts (ho : site.settings.observabilityEnabled = true)
    (cache : Options.Cache) (fresh : String) (rs : List Request) :
    (site.visits { cache } fresh rs).map Visit.request = rs ∧
      Accounts site (site.visits { cache } fresh rs)
        (site.handleAll { cache } fresh rs).2.metrics := by
  have hnil : Accounts site [] ({ cache } : State).metrics := accounts_nil
  exact ⟨site.map_request_visits _ fresh rs, accounts_append ho hnil rs⟩

end Runs

theorem handleAll_accounts_declaring :
    ({} : Site).settings.observabilityEnabled = true ∧
      (({} : Site).visits {} "1" [declaring "0", declaring "²", declaring "0"]).map Visit.request =
        [declaring "0", declaring "²", declaring "0"] ∧
      Accounts {} (({} : Site).visits {} "1" [declaring "0", declaring "²", declaring "0"])
        (({} : Site).handleAll {} "1" [declaring "0", declaring "²", declaring "0"]).2.metrics :=
  ⟨rfl, handleAll_accounts rfl {} "1" _⟩

theorem lengthFails_declaring (site : Site) : site.lengthFails (declaring "²") = true := by
  unfold Site.lengthFails
  rw [check_superscript]

/-- A superscript two is a digit, but no number: a request that declares it as its length ends in an
error that nothing handles and nothing counts. -/
theorem unreadable_length_uncounted :
    (({} : Site).visits {} "1" [declaring "²"]).countP Visit.failed = 1 ∧
      (({} : Site).handleAll {} "1" [declaring "²"]).2.metrics.errors.total = 0 := by
  have hfails := lengthFails_declaring {}
  have hnot : ¬ ({} : Site).Admits (declaring "²") := fun ha =>
    absurd (Site.lengthFails_of_admits ha) (by simp [hfails])
  obtain ⟨hstate, hfailed⟩ := Site.handle_of_not_admits {} "1" hnot
  constructor
  · have hvisits : ({} : Site).visits {} "1" [declaring "²"] =
        [⟨declaring "²", (({} : Site).handle {} "1" (declaring "²")).1⟩] := rfl
    rw [hvisits, List.countP_singleton, hfailed, hfails, if_pos rfl]
  · have hrun : (({} : Site).handleAll {} "1" [declaring "²"]).2 =
        (({} : Site).handle {} "1" (declaring "²")).2 := rfl
    rw [hrun, hstate]
    rfl

end Service

end HealthAlert
