import HealthAlert.Proofs.Service.Discretion
import HealthAlert.Proofs.Service.OptionLists

/-!
# The log of requests

Every request that is observed leaves one row in the log: which request it was, on which route, and
with which status it ended. A request for the health of the service or for the metrics leaves none
when it is answered. But what is looked at is the end of the path, which other paths have too: a
request with such a path is answered without a row, whatever its route.

* `isSilent_iff`: the paths whose requests leave no row.
* `hasSilentEnd_of_isOf`: the paths of the two routes are among these.
* **`access_rows`**: what a request leaves in the log of requests.
* `list_named_health_unlogged`: a request for a list that leaves no row.
-/

namespace HealthAlert.Service

open Http (Request Response)

/-! ## Paths -/

/-- The path ends as those of the health of the service or of the metrics do. -/
def HasSilentEnd (path : String) : Prop :=
  "/health".toList <:+ path.toList ∨ "/metrics".toList <:+ path.toList

theorem isSilent_iff {path : String} :
    Observation.isSilent path = true ↔ HasSilentEnd path := by
  unfold Observation.isSilent Observation.silentEnds HasSilentEnd
  simp only [List.any_cons, List.any_nil, Bool.or_false, Bool.or_eq_true,
    List.isSuffixOf_iff_suffix]

/-- A path is made of its parts. -/
theorem Route.path_of_parts? {path : String} {parts : List String}
    (h : parts? path = some parts) :
    path = String.ofList (['/'].intercalate ([] :: parts.map String.toList)) := by
  unfold parts? at h
  split at h
  · rename_i rest hsplit
    obtain rfl := Option.some.inj h
    have hlists : path.toList.splitOn '/' = [] :: rest.map String.toList := by
      have hmap := congrArg (List.map String.toList) hsplit
      simpa [Function.comp_def] using hmap
    rw [← hlists, List.intercalate_splitOn, String.ofList_toList]
  · exact absurd h (by simp)

/-- What fits literals are these, perhaps with a line feed behind the last one. -/
theorem Route.parts_of_fit_literals {texts parts parameters : List String}
    (h : fit (texts.map .literal) parts = some parameters) :
    parts = texts ∨ parts = texts.dropLast ++ [texts.getLastD "" ++ "\n"] := by
  induction texts generalizing parts with
  | nil =>
    cases parts with
    | nil => exact Or.inl rfl
    | cons part parts => exact absurd h (by simp [fit])
  | cons text texts ih =>
    cases parts with
    | nil => exact absurd h (by simp [fit])
    | cons part parts =>
      rw [List.map_cons, fit] at h
      split at h
      · rename_i hpart
        cases texts with
        | nil =>
          -- The last literal: no part is left for what follows.
          obtain rfl : parts = [] := by
            cases parts with
            | nil => rfl
            | cons next rest => exact absurd h (by simp [fit])
          rcases hpart with rfl | ⟨-, rfl⟩
          · exact Or.inl rfl
          · exact Or.inr rfl
        | cons next rest =>
          have hne : parts ≠ [] := by
            rintro rfl
            exact absurd h (by simp [fit])
          obtain rfl : part = text := hpart.resolve_right fun hlast => hne hlast.1
          rcases ih h with rfl | hfeed
          · exact Or.inl rfl
          · rw [hfeed]
            exact Or.inr rfl
      · exact absurd h (by simp)

/-- A path that fits a route of literals is the path of the route, perhaps with a line feed. -/
theorem Route.path_of_fits {route : Route} {path : String} (texts : List String)
    (hroute : route.segments = texts.map .literal) (h : route.fits path = true) :
    path = String.ofList (['/'].intercalate ([] :: texts.map String.toList)) ∨
      path = String.ofList (['/'].intercalate
        ([] :: (texts.dropLast ++ [texts.getLastD "" ++ "\n"]).map String.toList)) := by
  unfold fits parameters? at h
  rw [hroute] at h
  obtain ⟨parameters, h⟩ := Option.isSome_iff_exists.mp h
  obtain ⟨parts, hparts, hfit⟩ := Option.bind_eq_some_iff.mp h
  rw [path_of_parts? hparts]
  exact (parts_of_fit_literals hfit).imp (fun h => by rw [h]) fun h => by rw [h]

/-- The paths of the two routes end so, as they are shown. -/
theorem hasSilentEnd_of_isOf {site : Site} {r : Request} {route : Route}
    (hroute : route = .health ∨ route = .metrics) (h : (Routing.target site r).IsOf route) :
    HasSilentEnd r.shownPath := by
  have hfits : route.fits r.path = true :=
    (List.mem_filter.mp (Route.mem_filter_of_resolve h)).2
  rw [← isSilent_iff]
  unfold Http.Request.shownPath
  rcases hroute with rfl | rfl
  · rcases Route.path_of_fits ["api", "v1", "health"] rfl hfits with hpath | hpath
    all_goals
      rw [hpath]
      decide +kernel
  · rcases Route.path_of_fits ["metrics"] rfl hfits with hpath | hpath
    all_goals
      rw [hpath]
      decide +kernel

/-! ## Rows -/

/-- The row that tells of a request: which it was, how it ended, on which route, with which status.
-/
def accessRow (level : Log.Level) (r : Request) (ending route : String) (status : Nat) :
    Log.Row where
  level := level
  logger := "alert_bicep.request"
  message := r.method ++ " " ++ r.shownPath ++ ending
  fields := [("route", .text route), ("status_code", .int status)]

theorem answeredRow_eq (r : Request) (route : String) (status : Nat) :
    Observation.answeredRow r route status =
      accessRow .info r (" -> " ++ toString status) route status := by
  unfold Observation.answeredRow accessRow
  simp only [String.append_assoc]
  rfl

theorem failedRow_eq (r : Request) (route : String) (e : InternalError) :
    Observation.failedRow r route e =
      accessRow .error r (" failed with " ++ e.typeName) route Site.errorResponse.status := by
  unfold Observation.failedRow accessRow
  simp only [String.append_assoc]
  rfl

theorem accessRows_accessRow (level : Log.Level) (r : Request) (ending route : String)
    (status : Nat) (log : List Log.Row) :
    accessRows (accessRow level r ending route status :: log) =
      accessRow level r ending route status :: accessRows log :=
  List.filter_cons_of_pos (by rfl)

variable {site : Site} {r : Request}

/-- The rows of an exchange are those of the observation, which looks at the end of the path only if
the request was answered. -/
theorem accessRows_handle (s : State) (fresh : String)
    (ho : site.settings.observabilityEnabled = true) (h : site.Admits r) :
    let exchange := (site.handle s fresh r).1
    let label := (Routing.target site r).label
    let status := exchange.response.status
    accessRows exchange.log =
      match exchange.raised with
      | some e => [accessRow .error r (" failed with " ++ e.typeName) label status]
      | none =>
        if Observation.isSilent r.shownPath then []
        else [accessRow .info r (" -> " ++ toString status) label status] := by
  have hrows := (site.discreet_routed s fresh r).rows
  cases hr : (site.routed s fresh r).result with
  | ok response =>
    rw [Site.handle_of_ok ho h hr]
    dsimp only
    rw [accessRows_append, hrows, List.nil_append]
    split
    · rfl
    · rw [answeredRow_eq, accessRows_accessRow]
      rfl
  | error e =>
    rw [Site.handle_of_error ho h hr]
    dsimp only
    rw [accessRows_append, accessRows_append, hrows, List.nil_append, failedRow_eq,
      accessRows_accessRow]
    rfl

/-- **What a request leaves in the log of requests.** A request that ends in an error which nothing
handles leaves one row of an error. One that is answered leaves one row, unless its path ends as
those of the health of the service or of the metrics do; then it leaves none. The paths of these two
routes do end so; those of other routes may. -/
theorem access_rows (s : State) (fresh : String)
    (ho : site.settings.observabilityEnabled = true) (h : site.Admits r) :
    let exchange := (site.handle s fresh r).1
    let label := (Routing.target site r).label
    let status := exchange.response.status
    (∀ e, exchange.raised = some e → accessRows exchange.log =
        [accessRow .error r (" failed with " ++ e.typeName) label status]) ∧
      (exchange.raised = none → ¬ HasSilentEnd r.shownPath → accessRows exchange.log =
        [accessRow .info r (" -> " ++ toString status) label status]) ∧
      (exchange.raised = none → HasSilentEnd r.shownPath → accessRows exchange.log = []) ∧
      ∀ route, route = .health ∨ route = .metrics → (Routing.target site r).IsOf route →
        HasSilentEnd r.shownPath := by
  have hrows := accessRows_handle s fresh ho h
  refine ⟨fun e he => ?_, fun hnone hend => ?_, fun hnone hend => ?_,
    fun _ hroute ht => hasSilentEnd_of_isOf hroute ht⟩
  · rw [hrows, he]
  · rw [hrows, hnone]
    exact if_neg fun hs => hend (isSilent_iff.mp hs)
  · rw [hrows, hnone]
    exact if_pos (isSilent_iff.mpr hend)

/-- A request for a list that there is not leaves one row. -/
theorem access_rows_unknownList :
    accessRows (({} : Site).handle {} "1" (askingForOptions "colors")).1.log =
      [accessRow .info (askingForOptions "colors") " -> 404" Route.options.path 404] := by
  have hasks : AsksForOptions {} (askingForOptions "colors") "colors" :=
    asksForOptions_asking {} (by decide) (by decide)
  have hanswers := (hasks.ends {} "1").2.1 _
    (loadNamed_unlisted fun kind => by cases kind <;> decide)
  have hend : ¬ HasSilentEnd (askingForOptions "colors").shownPath := by
    rw [← isSilent_iff]
    decide +kernel
  have hrow := (access_rows {} "1" rfl hasks.admits).2.1 hanswers.1 hend
  rw [hrow, hasks.target_eq, hanswers.2.1]
  rfl

/-- A list that there is not may be called like the end of a path that leaves no row: the request
for it goes to the route of the lists, is told that there is no such list, and leaves no row. -/
theorem list_named_health_unlogged :
    let r := askingForOptions "health"
    let exchange := (({} : Site).handle {} "1" r).1
    ({} : Site).settings.observabilityEnabled = true ∧ ({} : Site).Admits r ∧
      Routing.target {} r = .found .options ["health"] ∧
      exchange.raised = none ∧ exchange.response.status = 404 ∧ accessRows exchange.log = [] := by
  have hasks : AsksForOptions {} (askingForOptions "health") "health" :=
    asksForOptions_asking {} (by decide) (by decide)
  have hanswers := (hasks.ends {} "1").2.1 _
    (loadNamed_unlisted fun kind => by cases kind <;> decide)
  have hsilent : Observation.isSilent (askingForOptions "health").shownPath = true := by
    decide +kernel
  refine ⟨rfl, hasks.admits, hasks.target_eq, hanswers.1, hanswers.2.1, ?_⟩
  rw [accessRows_handle {} "1" rfl hasks.admits, hanswers.1, hsilent]
  rfl

end HealthAlert.Service
