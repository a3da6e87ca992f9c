import HealthAlert.Proofs.Service.Passage

/-!
# What the routes leave to the observation

The ID of a request is shown, and the row about it is written, by the observation alone. The routes
have headers and log rows of their own, but no response of theirs carries an ID and no row of theirs
comes from the logger of requests. So what a response shows, and what a log holds about a request,
can be read off the observation.

* `Endpoint.discreet_run`: every endpoint is discreet.
* **`Routing.discreet_run`**: so is every reply of the routes, whether there is a route or not.
* `Site.routed_eq_error_iff`: when the routes leave an error to the observation.
-/

namespace HealthAlert

/-! ## Loggers -/

namespace Options

/-- What is logged when a list is read comes from the logger of its module. -/
theorem logger_of_load {files : FileTree} {dir : DataDirectory} {kind : OptionKind}
    {loading : Loading} (h : load files dir kind = .ok loading) :
    ∀ row ∈ loading.log, row.logger = logger := by
  have hentries (file : String) (entries : List Value) (lone : Text.StandIns) :
      ∀ row ∈ (ofEntries file kind entries lone).log, row.logger = logger := by
    intro row hrow
    rcases List.mem_append.mp hrow with hwarning | hreport
    · obtain ⟨entry, -, rfl⟩ := List.mem_map.mp hwarning
      rfl
    · obtain rfl := List.mem_singleton.mp hreport
      rfl
  unfold load at h
  split at h
  · obtain rfl := Except.ok.inj h
    intro row hrow
    obtain rfl := List.mem_singleton.mp hrow
    rfl
  · dsimp only at h
    split at h
    · unfold ofContent at h
      split at h
      · exact absurd h (by simp)
      · split at h
        · exact absurd h (by simp)
        · exact absurd h (by simp)
        · obtain rfl := Except.ok.inj h
          exact hentries _ _ _
        · exact absurd h (by simp)
    · exact absurd h (by simp)
    · split at h <;> exact absurd h (by simp)
    · exact absurd h (by simp)

/-- A list that is kept is given without a word. -/
theorem logger_of_loadNamed {c : Cache} {files : FileTree} {dir : DataDirectory} {name : String}
    {loading : Loading} (h : (c.loadNamed files dir name).1 = .ok loading) :
    ∀ row ∈ loading.log, row.logger = logger := by
  unfold Cache.loadNamed at h
  split at h
  · exact absurd h (by simp)
  · unfold Cache.load at h
    dsimp only at h
    split at h
    · obtain rfl := Except.ok.inj h
      exact List.forall_mem_nil _
    · split at h
      · obtain rfl := Except.ok.inj h
        exact logger_of_load ‹_›
      · exact absurd h (by simp)

end Options

namespace Service

open Http (Request Response)

/-! ## IDs in headers and rows about requests -/

/-- The IDs of requests that headers show. -/
def idsIn (headers : List (String × String)) : List String :=
  (headers.filter fun h => h.1.toLower == "x-request-id").map Prod.snd

/-- The rows of a log that come from the logger of requests. -/
def accessRows (log : List Log.Row) : List Log.Row :=
  log.filter fun row => row.logger == "alert_bicep.request"

/-- The names of the headers that responses have besides. -/
def plainNames : List String :=
  ["content-length", "content-type", "allow", "location", "vary",
    "access-control-allow-credentials", "access-control-allow-origin"]

/-- The headers have none but such names. -/
def Plain (headers : List (String × String)) : Prop :=
  ∀ h ∈ headers, h.1 ∈ plainNames

section Headers

variable {headers headers' : List (String × String)}

theorem idsIn_append (headers headers' : List (String × String)) :
    idsIn (headers ++ headers') = idsIn headers ++ idsIn headers' := by
  unfold idsIn
  rw [List.filter_append, List.map_append]

theorem idsIn_of_plain (h : Plain headers) : idsIn headers = [] := by
  have hnames : ∀ name ∈ plainNames, (name.toLower == "x-request-id") = false := by
    decide +kernel
  unfold idsIn
  rw [List.filter_eq_nil_iff.mpr fun entry hentry => by simp [hnames _ (h entry hentry)],
    List.map_nil]

theorem idsIn_id (id : String) : idsIn [(Observation.idHeader, id)] = [id] := by
  have hname : (Observation.idHeader.toLower == "x-request-id") = true := by decide +kernel
  simp [idsIn, hname]

theorem Plain.append (h : Plain headers) (h' : Plain headers') : Plain (headers ++ headers') :=
  List.forall_mem_append.mpr ⟨h, h'⟩

theorem plain_nil : Plain [] :=
  List.forall_mem_nil _

theorem Plain.cons {name value : String} (hname : name ∈ plainNames) (h : Plain headers) :
    Plain ((name, value) :: headers) :=
  List.forall_mem_cons.mpr ⟨hname, h⟩

theorem plain_ofText (status : Nat) (mediaType body : String) :
    Plain (Response.ofText status mediaType body).headers :=
  .cons (by decide) (.cons (by decide) plain_nil)

/-- What pages of other origins may read shows the same IDs. -/
theorem idsIn_share (origins : List String) (r : Request) (response : Response) :
    idsIn (Http.Sharing.share origins r response).headers = idsIn response.headers := by
  have horigin (origin : String) : Plain (Http.Sharing.originHeader origins origin) := by
    unfold Http.Sharing.originHeader
    split
    · exact .cons (by decide) plain_nil
    · exact plain_nil
  unfold Http.Sharing.share Response.withHeaders
  rw [idsIn_append]
  split
  · rw [idsIn_of_plain (.cons (by decide) plain_nil), List.append_nil]
  · rw [idsIn_of_plain (.cons (by decide) (.cons (by decide) (horigin _))), List.append_nil]

end Headers

theorem accessRows_append (log log' : List Log.Row) :
    accessRows (log ++ log') = accessRows log ++ accessRows log' :=
  List.filter_append _ _

theorem accessRows_of_logger {log : List Log.Row} {logger : String}
    (hne : logger ≠ "alert_bicep.request") (h : ∀ row ∈ log, row.logger = logger) :
    accessRows log = [] :=
  List.filter_eq_nil_iff.mpr fun row hrow => by simp [h row hrow, hne]

/-! ## Endpoints -/

/-- The handling of a request shows no ID, and leaves no row about the request. -/
structure Handling.Discreet (h : Handling) : Prop where
  headers : ∀ response, h.ending = .response response → Plain response.headers
  rows : accessRows h.log = []

namespace Endpoint

variable {site : Site} {s : State} {r : Request}

/-- An answer that says nothing but its value or text. -/
theorem discreet_ofText (s : State) (status : Nat) (mediaType body : String) {log : List Log.Row}
    (h : accessRows log = []) :
    Handling.Discreet
      { ending := .response (Response.ofText status mediaType body), state := s, log := log } :=
  ⟨fun response hr => by obtain rfl := Ending.response.inj hr; exact plain_ofText _ _ _, h⟩

/-- An end without an answer of its own. -/
theorem discreet_of_no_response {h : Handling} (he : ∀ response, h.ending ≠ .response response)
    (hlog : accessRows h.log = []) : h.Discreet :=
  ⟨fun response hr => absurd hr (he response), hlog⟩

theorem discreet_invalid (s : State) (issues : List Issue) :
    Handling.Discreet { ending := invalid issues, state := s } := by
  unfold invalid
  dsimp only
  split
  · exact discreet_of_no_response (fun _ => by simp) rfl
  · exact discreet_ofText s _ _ _ rfl

/-- A response without UTF-8 becomes an error. -/
theorem discreet_encoded {h : Handling} (hd : h.Discreet) (lone : Text.StandIns) :
    (h.encoded lone).Discreet := by
  unfold Handling.encoded
  split
  · split
    · exact hd
    · exact discreet_of_no_response (fun _ => by simp) hd.rows
  · exact hd

/-- An end by a trouble has no answer of its own. -/
theorem ofTrouble_ne_response (t : Trouble) (response : Response) :
    Ending.ofTrouble t ≠ .response response := by
  cases t <;> simp [Ending.ofTrouble]

/-- The handling is discreet when it is for every value that the request may bring. -/
theorem discreet_withValue {go : Value → Text.StandIns → Handling}
    (hgo : ∀ v lone, (go v lone).Discreet) : (withValue s r go).Discreet := by
  unfold withValue
  split
  · exact discreet_invalid s _
  · exact discreet_invalid s _
  · exact discreet_ofText s _ _ _ rfl
  · exact discreet_of_no_response (fun _ => by simp) rfl
  · exact discreet_encoded (hgo _ _) _

theorem discreet_shown (choices : List Choice) (s : State) {log : List Log.Row}
    (h : accessRows log = []) :
    Handling.Discreet { ending := shown choices, state := s, log := log } := by
  unfold shown
  split
  · exact discreet_ofText s _ _ _ h
  · exact discreet_of_no_response (fun _ => by simp) h

theorem discreet_options (site : Site) (s : State) (kind : String) :
    (options site s kind).Discreet := by
  unfold options
  dsimp only
  split
  · exact discreet_shown _ _
      (accessRows_of_logger (by decide) (Options.logger_of_loadNamed ‹_›))
  · exact discreet_of_no_response (ofTrouble_ne_response _) rfl

theorem discreet_render {answer : AlertInput → Template → Response}
    (hanswer : ∀ input t, Plain (answer input t).headers) :
    (render site s r answer).Discreet := by
  refine discreet_withValue fun v lone => ?_
  cases HealthAlert.Request.readWith .byFields v lone with
  | refused issues => exact discreet_invalid s issues
  | accepted input =>
    dsimp only [Rendering.run]
    cases Rendering.compose site.settings.templateOptions input >>= Rendering.encoded lone with
    | ok t =>
      refine ⟨fun response hr => ?_, rfl⟩
      obtain rfl := Ending.response.inj hr
      exact hanswer input t
    | error fault => exact discreet_of_no_response (ofTrouble_ne_response _) rfl

theorem discreet_validate (s : State) (r : Request) : (validate s r).Discreet := by
  refine discreet_withValue fun v _ => ?_
  cases v with
  | record entries =>
    refine discreet_ofText s _ _ _ ?_
    unfold Form.submissionLog
    split <;> rfl
  | _ => exact discreet_invalid s _

theorem discreet_metrics (site : Site) (s : State) (r : Request) :
    (metrics site s r).Discreet := by
  unfold metrics
  split
  · exact discreet_of_no_response (fun _ => by simp) rfl
  · split
    · exact discreet_of_no_response (fun _ => by simp) rfl
    · exact discreet_ofText s _ _ _ rfl
    · exact discreet_of_no_response (fun _ => by simp) rfl

/-- **Every endpoint is discreet.** -/
theorem discreet_run (site : Site) (s : State) (r : Request) (route : Route)
    (parameters : List String) : (run site s r route parameters).Discreet := by
  cases route with
  | health => exact discreet_ofText s _ _ _ rfl
  | optionKinds => exact discreet_ofText s _ _ _ rfl
  | options => exact discreet_options site s _
  | template => exact discreet_render fun _ _ => plain_ofText _ _ _
  | templateText => exact discreet_render fun _ _ => plain_ofText _ _ _
  | validation => exact discreet_validate s r
  | metrics => exact discreet_metrics site s r
  | document d => exact discreet_ofText s _ _ _ rfl

end Endpoint

/-! ## Replies -/

/-- The reply to a request shows no ID, and leaves no row about the request. -/
structure Reply.Discreet (reply : Reply) : Prop where
  headers : ∀ response, reply.result = .ok response → Plain response.headers
  rows : accessRows reply.log = []

namespace Routing

/-- A failure and a refusal are reported without an ID. -/
theorem discreet_settle (site : Site) (r : Request) (requestId : String) {h : Handling}
    (hd : h.Discreet) : (settle site r requestId h).Discreet := by
  refine ⟨fun response hr => ?_, ?_⟩
  · rw [settle_result] at hr
    split at hr
    · obtain rfl := Except.ok.inj hr
      exact hd.headers _ ‹_›
    · obtain rfl := Except.ok.inj hr
      exact plain_ofText _ _ _
    · obtain rfl := Except.ok.inj hr
      exact plain_ofText _ _ _
    · exact absurd hr (by simp)
  · unfold settle
    split
    · exact hd.rows
    · rw [accessRows_append, hd.rows]
      rfl
    · rw [accessRows_append, hd.rows]
      unfold refusalRows
      split <;> rfl
    · exact hd.rows

/-- **Every reply of the routes is discreet**, also one that comes from no route. -/
theorem discreet_run (site : Site) (s : State) (requestId : String) (r : Request) :
    (run site s requestId r).Discreet := by
  unfold run
  split
  · exact discreet_settle site r requestId (Endpoint.discreet_run site s r _ _)
  · refine ⟨fun response hr => ?_, rfl⟩
    obtain rfl := Except.ok.inj hr
    exact (plain_ofText _ _ _).append (.cons (by decide) plain_nil)
  · refine ⟨fun response hr => ?_, rfl⟩
    obtain rfl := Except.ok.inj hr
    exact .cons (by decide) (.cons (by decide) plain_nil)
  · refine ⟨fun response hr => ?_, rfl⟩
    obtain rfl := Except.ok.inj hr
    exact plain_ofText _ _ _

end Routing

/-- The routes leave an error to the observation exactly when the route that was found ends in it.
-/
theorem Site.routed_eq_error_iff {site : Site} {r : Request} (s : State) (fresh : String)
    {e : InternalError} :
    (site.routed s fresh r).result = .error e ↔
      ∃ route parameters, Routing.target site r = .found route parameters ∧
        (Endpoint.run site (Observation.start s r) r route parameters).ending = .error e := by
  unfold Site.routed Routing.run
  cases Routing.target site r with
  | found route parameters =>
    have hending (h : Handling) : (Routing.settle site r (Observation.requestId fresh r) h).result =
        .error e ↔ h.ending = .error e := by
      rw [Routing.settle_result]
      cases h.ending <;> simp
    dsimp only
    rw [hending]
    refine ⟨fun h => ⟨route, parameters, rfl, h⟩, ?_⟩
    rintro ⟨_, _, hfound, h⟩
    obtain ⟨rfl, rfl⟩ := Target.found.inj hfound
    exact h
  | _ => simp

theorem Site.discreet_routed (site : Site) (s : State) (fresh : String) (r : Request) :
    (site.routed s fresh r).Discreet :=
  Routing.discreet_run site _ _ r

end Service

end HealthAlert
