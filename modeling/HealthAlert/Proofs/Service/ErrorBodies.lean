import HealthAlert.Proofs.Failure.Redacting
import HealthAlert.Proofs.Json.RoundTrip
import HealthAlert.Proofs.Service.Endings

/-!
# The bodies of answers that say no

A failure, a refusal, a request that is too large and an error that nothing handles are answered
with an object of the same three keys (`Reports`). The router and the reader of bodies answer in
another form where they turn a request away themselves (`Site.TurnsAway`): with an object whose only
key is `detail`.

* `isObject_errorBody`: the body of an answer about an error is read as an object of the three keys.
* `Orderly`: no error, or the issues with a payload, or a report.
* `Ends.orderly`: how every endpoint ends; `orderly_run`, `orderly_handle`: what the routes reply
  and the client is told, when the request is not turned away.
* **`reports_iff`**: an answer from status 400 on that lists no issues reports an error exactly when
  the request was not turned away.
* `notFound_reports_not`: a request that is turned away.
-/

namespace HealthAlert

/-! ## Objects -/

namespace Json

/-- The text is an object with these keys. -/
def IsObject (keys : List String) (text : String) : Prop :=
  ∃ es, readText text.toList = .ok (.record es) ∧ Keyed.keys es = keys

theorem IsObject.unique {keys keys' : List String} {text : String} (h : IsObject keys text)
    (h' : IsObject keys' text) : keys = keys' := by
  obtain ⟨es, hes, rfl⟩ := h
  obtain ⟨es', hes', rfl⟩ := h'
  obtain rfl := Value.record.inj (Except.ok.inj (hes.symm.trans hes'))
  rfl

theorem isObject_write {es : List (String × Value)} (h : Plain (.record es)) :
    IsObject (Keyed.keys es) (write compact (.record es)) :=
  ⟨es, readText_write regular_compact h, rfl⟩

end Json

namespace Redaction

open Json (Plain PlainItems PlainEntries)

theorem keys_redactFields (es : List (String × Value)) :
    Keyed.keys (redactFields es) = Keyed.keys es := by
  rw [redactFields_eq_map, Keyed.keys, Keyed.keys, List.map_map]
  rfl

mutual

/-- Redaction leaves what JSON can show as something that JSON can show. -/
theorem plain_redact : ∀ {v : Value}, Plain v → Plain (redact v)
  | .text s, _ => by
    rw [redact]
    trivial
  | .record es, h => by
    rw [redact]
    exact ⟨(keys_redactFields es).symm ▸ h.1, plain_redactFields h.2⟩
  | .list xs, h => by
    rw [redact]
    exact plain_redactRecords h
  | .null, h => h
  | .bool _, h => h
  | .int _, h => h

theorem plain_redactFields : ∀ {es : List (String × Value)},
    PlainEntries es → PlainEntries (redactFields es)
  | [], _ => by
    rw [redactFields]
    trivial
  | (_, v) :: es, h => by
    rw [redactFields]
    exact ⟨plain_redact h.1, plain_redactFields h.2⟩

theorem plain_redactRecords : ∀ {xs : List Value}, PlainItems xs → PlainItems (redactRecords xs)
  | [], _ => by
    rw [redactRecords]
    trivial
  | x :: xs, h => by
    cases x with
    | record es =>
      rw [redactRecords]
      exact ⟨⟨(keys_redactFields es).symm ▸ h.1.1, plain_redactFields h.1.2⟩,
        plain_redactRecords h.2⟩
    | _ => exact ⟨h.1, plain_redactRecords h.2⟩

end

theorem plain_sanitize (production : Bool) {details : Value} (h : Plain details) :
    Plain (sanitize production details) := by
  cases production with
  | true => exact plain_redact h
  | false => exact h

/-- The keys of an object that reports an error. -/
def reportKeys : List String := ["error", "message", "details"]

/-- **The body of an answer about an error is read as an object of the three keys.** -/
theorem isObject_errorBody (error message : String) {details : Value} (h : Plain details) :
    Json.IsObject reportKeys
      (Json.write Json.compact (errorBody error (.text message) details)) := by
  have hshown : Plain (if details.truthy then details else .record []) := by
    split
    · exact h
    · exact ⟨List.nodup_nil, trivial⟩
  refine Json.isObject_write ⟨?_, trivial, trivial, hshown, trivial⟩
  exact (by decide : reportKeys.Nodup)

end Redaction

/-! ## Failures -/

/-- The details of the failure can be shown as JSON. -/
def Failure.Plain (f : Failure) : Prop :=
  Json.Plain (.record f.details)

theorem Json.plain_oneText (key s : String) : Json.Plain (.record [(key, .text s)]) :=
  ⟨by simp [Keyed.keys], trivial, trivial⟩

theorem TemplateFault.plain_failure (fault : TemplateFault) : fault.failure.Plain := by
  cases fault with
  | unwritable fault => cases fault <;> exact Json.plain_oneText _ _
  | _ => exact Json.plain_oneText _ _

/-- A name without list fails with the name and the names that there are. -/
theorem OptionKind.plain_unknown (name : String) : (OptionKind.unknown name).Plain :=
  ⟨(by decide : ["kind", "available"].Nodup), trivial,
    ⟨trivial, trivial, trivial, trivial, trivial⟩, trivial⟩

/-- Every fault of a data file names its list, and no more. -/
theorem Options.Fault.plain_failure (kind : OptionKind) (fault : Options.Fault) :
    (Options.Fault.failure kind fault).Plain :=
  Json.plain_oneText _ _

namespace Service

open Http (Request Response)

/-! ## Answers -/

/-- The body reports an error. -/
def Reports (body : String) : Prop :=
  Json.IsObject Redaction.reportKeys body

/-- The answer lists the issues with a payload. -/
def ListsIssues (response : Response) : Prop :=
  ∃ issues shown, Endpoint.invalid issues = .response shown ∧ response.status = shown.status ∧
    response.body = shown.body

/-- The answer is about no error, or it lists issues, or it reports an error. -/
def Orderly (response : Response) : Prop :=
  response.status < 400 ∨ ListsIssues response ∨ Reports response.body

/-- Only status and body matter. -/
theorem Orderly.of_eq {response response' : Response} (h : Orderly response)
    (hs : response'.status = response.status) (hb : response'.body = response.body) :
    Orderly response' := by
  rcases h with h | ⟨issues, shown, hi, hstatus, hbody⟩ | h
  · exact Or.inl (hs ▸ h)
  · exact Or.inr (Or.inl ⟨issues, shown, hi, hs.trans hstatus, hb.trans hbody⟩)
  · exact Or.inr (Or.inr (hb ▸ h))

theorem orderly_of_reports {response : Response} (h : Reports response.body) : Orderly response :=
  Or.inr (Or.inr h)

theorem reports_ofValue (status : Nat) (error message : String) {details : Value}
    (h : Json.Plain details) :
    Reports (Response.ofValue status
      (Redaction.errorBody error (.text message) details)).body :=
  Redaction.isObject_errorBody error message h

theorem plain_noDetails : Json.Plain (.record []) := ⟨List.nodup_nil, trivial⟩

theorem refusal_eq : Http.SizeLimit.refusal = Response.ofValue 413
    (Redaction.errorBody "RequestTooLarge" (.text "Request body exceeds maximum allowed size")
      (.record [])) := by
  unfold Http.SizeLimit.refusal Redaction.errorBody
  rw [ite_self]

theorem reports_refusal : Reports Http.SizeLimit.refusal.body := by
  rw [refusal_eq]
  exact reports_ofValue _ _ _ plain_noDetails

theorem reports_errorResponse : Reports Site.errorResponse.body := by
  unfold Site.errorResponse
  exact reports_ofValue _ _ _ plain_noDetails

/-! ## Ends -/

/-- The handling ends in an orderly answer. -/
def Ending.Orderly : Ending → Prop
  | .response answer => Service.Orderly answer
  | .failure f => f.Plain
  | .refusal _ _ => True
  | .error _ => True

theorem Endpoint.orderly_invalid (issues : List Issue) : (invalid issues).Orderly := by
  cases hi : invalid issues with
  | response shown => exact Or.inr (Or.inl ⟨issues, shown, hi, rfl, rfl⟩)
  | failure f =>
    rcases invalid_cases issues with h | ⟨_, h, -⟩ <;> exact absurd (hi.symm.trans h) (by simp)
  | refusal _ _ => trivial
  | error _ => trivial

/-- Every end is orderly, unless the body that is needed cannot be read. -/
theorem Ends.orderly {r : Request} {route : Route} {e : Ending} (h : Ends r route e)
    (hr : route.takesValue = true → Payload.ofRequest r ≠ .unreadable) : e.Orderly := by
  cases h with
  | answer h => exact Or.inl (h ▸ by decide)
  | issues issues => exact Endpoint.orderly_invalid issues
  | unreadable takesValue h => exact absurd h (hr takesValue)
  | noTemplate fault => exact fault.plain_failure
  | unknownList name => exact OptionKind.plain_unknown name
  | noList kind fault => exact fault.plain_failure kind
  | refusal _ => trivial
  | error _ => trivial

/-! ## Requests that are turned away -/

/-- The request never reaches an endpoint, or not the value of one: it is answered with a status
and an explanation by the router, or by the reader of bodies. -/
inductive Site.TurnsAway (site : Site) (r : Request) : Nat → String → Prop
  | unknown (admits : site.Admits r) (target : Routing.target site r = .unknown) :
      TurnsAway site r 404 "Not Found"
  | wrongMethod {route : Route} (admits : site.Admits r)
      (target : Routing.target site r = .wrongMethod route) :
      TurnsAway site r 405 "Method Not Allowed"
  | unreadable {route : Route} {parameters : List String} (admits : site.Admits r)
      (target : Routing.target site r = .found route parameters)
      (takesValue : route.takesValue = true) (payload : Payload.ofRequest r = .unreadable) :
      TurnsAway site r 400 "There was an error parsing the body"

section Replies

variable {site : Site} {s : State} {id : String} {r : Request} {response : Response}

theorem Routing.orderly_settle {h : Handling} (hh : h.ending.Orderly)
    (hr : (settle site r id h).result = .ok response) : Orderly response := by
  rw [settle_result] at hr
  cases he : h.ending with
  | response answer =>
    rw [he] at hr hh
    obtain rfl := Except.ok.inj hr
    exact hh
  | failure f =>
    rw [he] at hr hh
    obtain rfl := Except.ok.inj hr
    exact orderly_of_reports (reports_ofValue _ _ _ (Redaction.plain_sanitize _ hh))
  | refusal status message =>
    rw [he] at hr
    obtain rfl := Except.ok.inj hr
    exact orderly_of_reports (reports_ofValue _ _ _ plain_noDetails)
  | error e =>
    rw [he] at hr
    cases hr

/-- What the routes respond is orderly, unless they turn the request away. -/
theorem Routing.orderly_run (ha : site.Admits r)
    (hnot : ∀ status detail, ¬ site.TurnsAway r status detail)
    (hr : (run site s id r).result = .ok response) : Orderly response := by
  cases ht : target site r with
  | found route parameters =>
    rw [run_of_found ht] at hr
    have hends := Endpoint.ends site s r route parameters
    refine orderly_settle (hends.orderly fun htakes hpayload => ?_) hr
    exact hnot _ _ (.unreadable ha ht htakes hpayload)
  | wrongMethod route => exact absurd (.wrongMethod ha ht) (hnot _ _)
  | redirect path =>
    unfold run at hr
    rw [ht] at hr
    obtain rfl := Except.ok.inj hr
    exact Or.inl (by decide : 307 < 400)
  | unknown => exact absurd (.unknown ha ht) (hnot _ _)

/-- A request that is turned away is replied to with the explanation. -/
theorem Site.TurnsAway.run_result {status : Nat} {detail : String}
    (h : site.TurnsAway r status detail) :
    ∃ headers, ∀ s id, (Routing.run site s id r).result =
      .ok ((Endpoint.explained status detail).withHeaders headers) := by
  cases h with
  | unknown _ target =>
    refine ⟨[], fun s id => ?_⟩
    unfold Routing.run
    rw [target]
    rfl
  | @wrongMethod route _ target =>
    refine ⟨[("allow", String.intercalate ", " route.methods)], fun s id => ?_⟩
    unfold Routing.run
    rw [target]
    rfl
  | unreadable _ target takesValue payload =>
    refine ⟨[], fun s id => ?_⟩
    rw [Routing.run_of_found target, Routing.settle_result,
      Endpoint.run_of_unreadable takesValue payload]
    rfl

end Replies

/-! ## Exchanges -/

section Exchanges

variable {site : Site} {s : State} {fresh : String} {r : Request}

theorem Site.TurnsAway.admits {status : Nat} {detail : String}
    (h : site.TurnsAway r status detail) : site.Admits r := by
  cases h <;> assumption

/-- The client is told what the request was turned away with, as an object of one key. -/
theorem Site.TurnsAway.told {status : Nat} {detail : String} (h : site.TurnsAway r status detail)
    (s : State) (fresh : String) :
    (site.handle s fresh r).1.response.status = status ∧
      Json.readText (site.handle s fresh r).1.response.body.toList =
        .ok (.record [("detail", .text detail)]) := by
  obtain ⟨headers, hrun⟩ := h.run_result
  obtain ⟨_, hserve⟩ := Site.serve_of_run s fresh hrun
  obtain ⟨-, hstatus, hbody⟩ := answers_of_served h.admits hserve
  rw [hbody]
  exact ⟨hstatus, Json.readText_write Json.regular_compact (Json.plain_oneText "detail" detail)⟩

/-- What the client is told is orderly, unless the request was turned away. -/
theorem Site.orderly_handle (hp : Http.Sharing.isPreflight r = false)
    (hnot : ∀ status detail, ¬ site.TurnsAway r status detail) :
    Orderly (site.handle s fresh r).1.response := by
  have herror := orderly_of_reports reports_errorResponse
  cases hsize : Http.SizeLimit.check site.sizeLimit r with
  | error e =>
    unfold handle serveLimited
    rw [hsize]
    exact herror
  | ok excess =>
    cases excess with
    | some excess =>
      unfold handle serveLimited
      rw [hsize]
      exact orderly_of_reports reports_refusal
    | none =>
      have ha : site.Admits r := ⟨hsize, hp⟩
      obtain ⟨s', id, headers, -, hserve⟩ := site.serve_result s fresh r
      cases hrun : (Routing.run site s' id r).result with
      | error e =>
        rw [hrun] at hserve
        obtain ⟨-, hresponse⟩ := failed_of_served ha hserve
        rw [hresponse]
        exact herror
      | ok response =>
        rw [hrun] at hserve
        obtain ⟨-, hstatus, hbody⟩ := answers_of_served ha hserve
        exact (Routing.orderly_run ha hnot hrun).of_eq hstatus hbody

/-- **An answer from status 400 on that lists no issues reports an error exactly when the request
was not turned away** by the router or the reader of bodies; and those tell why in an object of one
key. -/
theorem reports_iff (hp : Http.Sharing.isPreflight r = false)
    (hstatus : 400 ≤ (site.handle s fresh r).1.response.status)
    (hissues : ¬ ListsIssues (site.handle s fresh r).1.response) :
    (Reports (site.handle s fresh r).1.response.body ↔
        ∀ status detail, ¬ site.TurnsAway r status detail) ∧
      ∀ status detail, site.TurnsAway r status detail →
        (site.handle s fresh r).1.response.status = status ∧
          Json.readText (site.handle s fresh r).1.response.body.toList =
            .ok (.record [("detail", .text detail)]) := by
  refine ⟨⟨fun hreports status detail h => ?_, fun hnot => ?_⟩, fun _ _ h => h.told s fresh⟩
  · have hdetail : Json.IsObject ["detail"] (site.handle s fresh r).1.response.body :=
      ⟨_, (h.told s fresh).2, rfl⟩
    exact absurd (hreports.unique hdetail) (by decide)
  · rcases Site.orderly_handle hp hnot with h | h | h
    · exact absurd h (Nat.not_lt.mpr hstatus)
    · exact absurd h hissues
    · exact h

end Exchanges

/-! ## Two requests -/

theorem ListsIssues.status_eq {response : Response} (h : ListsIssues response) :
    response.status = Endpoint.invalidStatus := by
  obtain ⟨issues, shown, hi, hstatus, -⟩ := h
  rcases Endpoint.invalid_cases issues with herror | ⟨_, hanswer, hinvalid⟩
  · exact absurd (hi.symm.trans herror) (by simp)
  · obtain rfl := Ending.response.inj (hi.symm.trans hanswer)
    exact hstatus.trans hinvalid

/-- A request for a path, without headers. -/
def asking (path : String) : Request where
  method := "GET"
  path
  server := "testserver"
  client := "testclient"

theorem admits_asking (path : String) : ({} : Site).Admits (asking path) := by
  refine ⟨check_of_undeclared rfl ?_, rfl⟩
  show "GET" ∉ Http.SizeLimit.methodsWithBody
  decide

/-- A list that does not exist is a failure of the service, which reports it. -/
theorem reports_unknownList :
    (({} : Site).handle {} "" (asking "/api/v1/options/nope")).1.response.status = 404 ∧
      Reports (({} : Site).handle {} "" (asking "/api/v1/options/nope")).1.response.body := by
  have hstatus : (({} : Site).handle {} "" (asking "/api/v1/options/nope")).1.response.status =
      404 := by decide +kernel
  have htarget : Routing.target {} (asking "/api/v1/options/nope") = .found .options ["nope"] := by
    decide +kernel
  have hserved : ∀ status detail,
      ¬ ({} : Site).TurnsAway (asking "/api/v1/options/nope") status detail := by
    intro status detail h
    cases h with
    | unknown _ target => exact absurd (htarget.symm.trans target) (by simp)
    | wrongMethod _ target => exact absurd (htarget.symm.trans target) (by simp)
    | unreadable _ target takesValue _ =>
      obtain ⟨rfl, -⟩ := Target.found.inj (htarget.symm.trans target)
      exact absurd takesValue (by decide)
  have hissues : ¬ ListsIssues
      (({} : Site).handle {} "" (asking "/api/v1/options/nope")).1.response := fun h =>
    absurd (hstatus.symm.trans h.status_eq) (by decide)
  exact ⟨hstatus, (reports_iff rfl (hstatus ▸ by decide) hissues).1.mpr hserved⟩

/-- A path without route is answered by the router, and the answer is no report. -/
theorem notFound_reports_not :
    Http.Sharing.isPreflight (asking "/nope") = false ∧
      (({} : Site).handle {} "" (asking "/nope")).1.response.status = 404 ∧
      ¬ ListsIssues (({} : Site).handle {} "" (asking "/nope")).1.response ∧
      ¬ Reports (({} : Site).handle {} "" (asking "/nope")).1.response.body := by
  have htarget : Routing.target {} (asking "/nope") = .unknown := by decide +kernel
  have haway : ({} : Site).TurnsAway (asking "/nope") 404 "Not Found" :=
    .unknown (admits_asking "/nope") htarget
  obtain ⟨hstatus, hbody⟩ := haway.told {} ""
  refine ⟨rfl, hstatus, fun h => ?_, fun h => ?_⟩
  · exact absurd (hstatus.symm.trans h.status_eq) (by decide)
  · exact absurd (h.unique ⟨_, hbody, rfl⟩) (by decide)

end Service

end HealthAlert
