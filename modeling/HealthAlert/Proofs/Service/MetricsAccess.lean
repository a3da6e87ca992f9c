import HealthAlert.Proofs.Service.Passage

/-!
# Who sees the metrics

The metrics are shown to a request that presents the token which is set. Tokens are compared as
ASCII texts only: where the presented text or the expected one holds another character, there is
no answer about access at all, but an error that nothing handles.

* `metrics_ending`: how the endpoint ends, from the comparison of the tokens.
* **`metrics_access`**: who is shown the metrics, who is refused, and when the endpoint fails.
* `accented_token_fails`: a presented token that is not ASCII makes the endpoint fail.
-/

namespace HealthAlert.Service

open Http (Request Response)

namespace Endpoint

/-! ## Comparing tokens -/

variable {expected presented : String}

/-- Both texts can be compared. -/
def Comparable (expected presented : String) : Prop :=
  isAscii expected = true ∧ isAscii presented = true

theorem tokenMatches_of_comparable (h : Comparable expected presented) :
    tokenMatches expected presented = .ok (presented == expected) := by
  unfold tokenMatches
  rw [h.1, h.2]
  rfl

theorem tokenMatches_of_not_comparable (h : ¬ Comparable expected presented) :
    tokenMatches expected presented = .error .incomparableSecret := by
  unfold tokenMatches
  refine if_neg fun hc => h ?_
  rwa [Bool.and_eq_true] at hc

/-! ## The endpoint -/

/-- How the endpoint ends when a token is set. -/
theorem metrics_ending {site : Site} {s : State} {r : Request} {token : String}
    (htoken : site.settings.metricsToken = some token) (hne : token ≠ "") :
    (metrics site s r).ending =
      match tokenMatches token ((r.header? tokenHeader).getD "") with
      | .error e => .error e
      | .ok true => .response (exposed s.metrics)
      | .ok false => .refusal 403 "Invalid metrics token" := by
  unfold metrics
  rw [htoken, Option.getD_some]
  split
  · exact absurd rfl hne
  · cases tokenMatches token ((r.header? tokenHeader).getD "") with
    | error e => rfl
    | ok matched => cases matched <;> rfl

end Endpoint

/-! ## The whole exchange -/

/-- The request asks a service that counts for its metrics, and is not refused for its size. -/
structure AsksForMetrics (site : Site) (r : Request) : Prop where
  observed : site.settings.observabilityEnabled = true
  method : r.method = "GET"
  path : r.path = "/metrics"
  size : Http.SizeLimit.check site.sizeLimit r = .ok none

namespace AsksForMetrics

variable {site : Site} {r : Request}

theorem admits (h : AsksForMetrics site r) : site.Admits r := by
  refine ⟨h.size, ?_⟩
  unfold Http.Sharing.isPreflight
  rw [h.method]
  rfl

theorem target_eq (h : AsksForMetrics site r) : Routing.target site r = .found .metrics [] := by
  unfold Routing.target
  rw [h.observed, h.method, h.path]
  decide

/-- The routes reply as the end of the endpoint says. -/
theorem routed_eq (h : AsksForMetrics site r) (s : State) (fresh : String) :
    site.routed s fresh r = Routing.settle site r (Observation.requestId fresh r)
      (Endpoint.metrics site (Observation.start s r) r) := by
  unfold Site.routed Routing.run
  rw [h.target_eq]
  rfl

end AsksForMetrics

/-- The text of the metrics while the request for them is in progress. -/
def shownMetrics (s : State) : String :=
  (Endpoint.exposed (s.metrics.requestStarted "GET")).body

/-- The text of the answer to a request that must not see the metrics. -/
def refusedMetrics : String :=
  (Routing.refusalResponse 403 "Invalid metrics token").body

section Access

variable {site : Site} {s : State} {fresh : String} {r : Request} {token : String}

/-- What the routes reply, from the comparison of the tokens. -/
theorem routed_result (h : AsksForMetrics site r)
    (htoken : site.settings.metricsToken = some token) (hne : token ≠ "") :
    (site.routed s fresh r).result =
      match Endpoint.tokenMatches token ((r.header? Endpoint.tokenHeader).getD "") with
      | .error e => .error e
      | .ok true => .ok (Endpoint.exposed (s.metrics.requestStarted "GET"))
      | .ok false => .ok (Routing.refusalResponse 403 "Invalid metrics token") := by
  rw [h.routed_eq, Routing.settle_result, Endpoint.metrics_ending htoken hne, ← h.method]
  cases Endpoint.tokenMatches token ((r.header? Endpoint.tokenHeader).getD "") with
  | error e => rfl
  | ok matched => cases matched <;> rfl

theorem answers_of_matching (h : AsksForMetrics site r)
    (htoken : site.settings.metricsToken = some token) (hne : token ≠ "")
    (hm : Endpoint.tokenMatches token ((r.header? Endpoint.tokenHeader).getD "") = .ok true) :
    (site.handle s fresh r).1.Answers 200 (shownMetrics s) := by
  have hreply := @routed_result site s fresh r token h htoken hne
  rw [hm] at hreply
  exact answers_of_routed h.observed h.admits hreply

theorem answers_of_differing (h : AsksForMetrics site r)
    (htoken : site.settings.metricsToken = some token) (hne : token ≠ "")
    (hm : Endpoint.tokenMatches token ((r.header? Endpoint.tokenHeader).getD "") = .ok false) :
    (site.handle s fresh r).1.Answers 403 refusedMetrics := by
  have hreply := @routed_result site s fresh r token h htoken hne
  rw [hm] at hreply
  exact answers_of_routed h.observed h.admits hreply

theorem failed_of_not_comparable (h : AsksForMetrics site r)
    (htoken : site.settings.metricsToken = some token) (hne : token ≠ "")
    (hc : ¬ Endpoint.Comparable token ((r.header? Endpoint.tokenHeader).getD "")) :
    (site.handle s fresh r).1.Failed .incomparableSecret := by
  have hreply := @routed_result site s fresh r token h htoken hne
  rw [Endpoint.tokenMatches_of_not_comparable hc] at hreply
  exact failed_of_routed h.observed h.admits hreply

/-- **Who sees the metrics.** A request is shown them if it presents the token, and refused if it
presents another text or none, as long as both texts are ASCII; otherwise the endpoint fails. -/
theorem metrics_access (h : AsksForMetrics site r)
    (htoken : site.settings.metricsToken = some token) (hne : token ≠ "") :
    ((site.handle s fresh r).1.Answers 200 (shownMetrics s) ↔
        Endpoint.isAscii token = true ∧ r.header? Endpoint.tokenHeader = some token) ∧
      ((site.handle s fresh r).1.Answers 403 refusedMetrics ↔
        Endpoint.Comparable token ((r.header? Endpoint.tokenHeader).getD "") ∧
          r.header? Endpoint.tokenHeader ≠ some token) ∧
      ((site.handle s fresh r).1.Failed .incomparableSecret ↔
        ¬ Endpoint.Comparable token ((r.header? Endpoint.tokenHeader).getD "")) := by
  -- The token is not empty, so an absent header never counts as presenting it.
  have hpresents : r.header? Endpoint.tokenHeader = some token ↔
      (r.header? Endpoint.tokenHeader).getD "" = token := by
    cases r.header? Endpoint.tokenHeader with
    | none => simp [Ne.symm hne]
    | some presented => simp
  by_cases hc : Endpoint.Comparable token ((r.header? Endpoint.tokenHeader).getD "")
  · have hm := Endpoint.tokenMatches_of_comparable hc
    by_cases hp : (r.header? Endpoint.tokenHeader).getD "" = token
    · rw [beq_iff_eq.mpr hp] at hm
      have hshown : (site.handle s fresh r).1.Answers 200 (shownMetrics s) :=
        answers_of_matching h htoken hne hm
      refine ⟨iff_of_true hshown ⟨hc.1, hpresents.mpr hp⟩,
        iff_of_false (fun hr => ?_) (fun hr => hr.2 (hpresents.mpr hp)),
        iff_of_false hshown.not_failed (not_not_intro hc)⟩
      exact absurd (hshown.unique hr) (by decide)
    · rw [beq_eq_false_iff_ne.mpr hp] at hm
      have hrefused : (site.handle s fresh r).1.Answers 403 refusedMetrics :=
        answers_of_differing h htoken hne hm
      refine ⟨iff_of_false (fun hs => ?_) (fun hs => hp (hpresents.mp hs.2)),
        iff_of_true hrefused ⟨hc, fun hs => hp (hpresents.mp hs)⟩,
        iff_of_false hrefused.not_failed (not_not_intro hc)⟩
      exact absurd (hrefused.unique hs) (by decide)
  · have hfailed : (site.handle s fresh r).1.Failed .incomparableSecret :=
      failed_of_not_comparable h htoken hne hc
    refine ⟨iff_of_false (fun hs => hs.not_failed hfailed) (fun hs => hc ⟨hs.1, ?_⟩),
      iff_of_false (fun hr => hr.not_failed hfailed) (fun hr => hc hr.1),
      iff_of_true hfailed hc⟩
    rw [hs.2]
    exact hs.1

end Access

/-! ## Requests for guarded metrics -/

/-- A service whose metrics are guarded by a token. -/
def guardedSite : Site where
  settings := { metricsToken := some "0123456789abcdef0123" }

/-- A request for the metrics that presents a token. -/
def presenting (token : String) : Request where
  method := "GET"
  path := "/metrics"
  headers := [("X-Metrics-Token", token)]
  server := "testserver"
  client := "testclient"

theorem header?_presenting (token : String) :
    (presenting token).header? Endpoint.tokenHeader = some token := by
  have hname : "X-Metrics-Token".toLower = Endpoint.tokenHeader := by decide +kernel
  unfold Request.header? presenting
  rw [Http.header?_cons, if_pos hname]

theorem asksForMetrics_presenting (token : String) :
    AsksForMetrics guardedSite (presenting token) := by
  have hname : "X-Metrics-Token".toLower ≠ "content-length" := by decide +kernel
  have hlength : (presenting token).header? "content-length" = none := by
    unfold Request.header? presenting
    rw [Http.header?_cons, if_neg hname]
    rfl
  have hmethod : "GET" ∉ Http.SizeLimit.methodsWithBody := by decide
  exact ⟨rfl, rfl, rfl, check_of_undeclared hlength hmethod⟩

theorem metrics_access_presenting :
    (guardedSite.handle {} "1" (presenting "0123456789abcdef0123")).1.Answers 200
        (shownMetrics {}) ∧
      (guardedSite.handle {} "1" (presenting "0123456789abcdef012")).1.Answers 403
        refusedMetrics :=
  ⟨(metrics_access (asksForMetrics_presenting _) rfl (by decide)).1.mpr
      ⟨by decide, header?_presenting _⟩,
    (metrics_access (asksForMetrics_presenting _) rfl (by decide)).2.1.mpr
      ⟨by rw [header?_presenting]; exact ⟨by decide, by decide⟩,
        by rw [header?_presenting]; decide⟩⟩

/-- A token with a letter that is not ASCII is neither accepted nor refused. -/
theorem accented_token_fails :
    (presenting "é").header? Endpoint.tokenHeader ≠ some "0123456789abcdef0123" ∧
      (guardedSite.handle {} "1" (presenting "é")).1.Failed .incomparableSecret ∧
      (guardedSite.handle {} "1" (presenting "é")).1.response.status ≠ 403 := by
  have hheader := header?_presenting "é"
  have hfailed : (guardedSite.handle {} "1" (presenting "é")).1.Failed .incomparableSecret := by
    refine failed_of_not_comparable (asksForMetrics_presenting _) rfl (by decide) ?_
    rw [hheader]
    exact fun hc => absurd hc.2 (by decide)
  refine ⟨?_, hfailed, ?_⟩
  · rw [hheader]
    decide
  · rw [hfailed.2]
    decide

end HealthAlert.Service
