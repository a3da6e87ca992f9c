import HealthAlert.Proofs.Service.Discretion
import HealthAlert.Proofs.Service.OptionLists

/-!
# The IDs of requests on responses

A request that is observed has an ID: the one that it brings, or a fresh one. The observation sets
it on the response that comes back from the routes. An error that nothing handled passes the
observation by, and the general answer about such errors is made outside of it: that answer shows no
ID, although the request has one.

* `identifies_iff`: the ID of a request.
* **`shows_id_iff`**: a response shows the ID of its request exactly when the routes responded.
* `failed_request_shows_no_id`: an answer without the ID that its request brought.
-/

namespace HealthAlert.Service

open Http (Request Response)

/-- The text is the ID of the request: the one that the request brings, if that is not empty, and
otherwise the fresh one. -/
def Identifies (fresh : String) (r : Request) (id : String) : Prop :=
  (r.header? "x-request-id" = some id ∧ id ≠ "") ∨
    ((∀ own, r.header? "x-request-id" = some own → own = "") ∧ id = fresh)

variable {site : Site} {fresh : String} {r : Request}

/-- Every request has one ID, which is the one that the observation sets. -/
theorem identifies_iff {id : String} :
    Identifies fresh r id ↔ id = Observation.requestId fresh r := by
  unfold Identifies Observation.requestId Observation.idHeader
  cases r.header? "x-request-id" with
  | none => simp
  | some own =>
    by_cases hown : own = ""
    · subst hown
      simp
    · have hne : id = own → ¬ id = "" := fun h => h ▸ hown
      simpa [hown, eq_comm] using hne

/-- **Which responses show the ID of their request.** A response shows the ID, once, exactly when no
error was left that nothing handled. Such an error comes from the route that was found; an answer, a
report of a failure, and what is responded where there is no route all show the ID. Otherwise the
response shows no ID at all. -/
theorem shows_id_iff (s : State) (fresh : String)
    (ho : site.settings.observabilityEnabled = true) (h : site.Admits r) :
    let exchange := (site.handle s fresh r).1
    (exchange.raised = none ↔
        ∃ id, Identifies fresh r id ∧ idsIn exchange.response.headers = [id]) ∧
      (∀ e, exchange.raised = some e ↔
        ∃ route parameters, Routing.target site r = .found route parameters ∧
          (Endpoint.run site (Observation.start s r) r route parameters).ending = .error e) ∧
      ∀ e, exchange.raised = some e → idsIn exchange.response.headers = [] := by
  simp only [← Site.routed_eq_error_iff s fresh]
  cases hr : (site.routed s fresh r).result with
  | ok response =>
    have hplain := (site.discreet_routed s fresh r).headers response hr
    have hids : idsIn (site.handle s fresh r).1.response.headers =
        [Observation.requestId fresh r] := by
      rw [Site.handle_of_ok ho h hr, idsIn_share, Response.withHeaders, idsIn_append,
        idsIn_of_plain hplain, idsIn_id, List.nil_append]
    have hraised : (site.handle s fresh r).1.raised = none := by
      rw [Site.handle_of_ok ho h hr]
    exact ⟨iff_of_true hraised ⟨_, identifies_iff.mpr rfl, hids⟩, by simp [hraised],
      by simp [hraised]⟩
  | error e =>
    have hids : idsIn (site.handle s fresh r).1.response.headers = [] := by
      rw [Site.handle_of_error ho h hr]
      exact idsIn_of_plain (plain_ofText _ _ _)
    have hraised : (site.handle s fresh r).1.raised = some e := by
      rw [Site.handle_of_error ho h hr]
    exact ⟨iff_of_false (by simp [hraised]) (by simp [hids]), by simp [hraised], fun _ _ => hids⟩

/-- The request with an ID of its own. -/
def identified (id : String) (r : Request) : Request :=
  { r with headers := ("X-Request-ID", id) :: r.headers }

theorem identifies_identified {id : String} (h : id ≠ "") :
    Identifies fresh (identified id r) id := by
  have hname : "X-Request-ID".toLower = "x-request-id" := by decide +kernel
  exact Or.inl ⟨(Http.header?_cons _ _ _).trans (if_pos hname), h⟩

theorem asksForOptions_identified {name : String} (site : Site) (id : String) (hne : name ≠ "")
    (h : '/' ∉ name.toList) : AsksForOptions site (identified id (askingForOptions name)) name := by
  have hname : "X-Request-ID".toLower ≠ "content-length" := by decide +kernel
  have hundeclared : (identified id (askingForOptions name)).header? "content-length" = none :=
    (Http.header?_cons _ _ _).trans (if_neg hname)
  exact ⟨rfl, rfl, hne, h,
    check_of_undeclared hundeclared (by decide : "GET" ∉ Http.SizeLimit.methodsWithBody)⟩

/-- A report that there is no such list shows the ID that the request brought. -/
theorem shows_id_iff_unknownList :
    idsIn (({} : Site).handle {} "1" (identified "abc-123" (askingForOptions "colors"))
      ).1.response.headers = ["abc-123"] := by
  have hasks : AsksForOptions {} (identified "abc-123" (askingForOptions "colors")) "colors" :=
    asksForOptions_identified {} _ (by decide) (by decide)
  have hreported := (hasks.ends {} "1").2.1 _
    (loadNamed_unlisted fun kind => by cases kind <;> decide)
  have hshown := (shows_id_iff {} "1" rfl hasks.admits).1.mp hreported.1
  obtain ⟨id, hid, hids⟩ := hshown
  rw [hids, identifies_iff.mp hid, ← identifies_iff.mp (identifies_identified (by decide))]

/-- The data file that the route needs is not UTF-8: the request has an ID, which it brought, and
the answer does not show it. -/
theorem failed_request_shows_no_id :
    let r := identified "boom" (askingForOptions "severity")
    let exchange := (garbledSite.handle {} "1" r).1
    garbledSite.settings.observabilityEnabled = true ∧ garbledSite.Admits r ∧
      Identifies "1" r "boom" ∧ exchange.Failed (.undecodable garbledFault) ∧
      idsIn exchange.response.headers = [] := by
  have hasks : AsksForOptions garbledSite (identified "boom" (askingForOptions "severity"))
      "severity" := asksForOptions_identified garbledSite _ (by decide) (by decide)
  have hfailed := (hasks.ends {} "1").2.2 _ loadNamed_garbledSite
  refine ⟨rfl, hasks.admits, identifies_identified (by decide), hfailed, ?_⟩
  rw [hfailed.2]
  exact idsIn_of_plain (plain_ofText _ _ _)

end HealthAlert.Service
