import HealthAlert.Proofs.Alert.Dimensions
import HealthAlert.Proofs.Command.Rendering
import HealthAlert.Proofs.Json.RoundTrip
import HealthAlert.Proofs.Service.Templates

/-!
# All front ends agree

A template can be had from two routes of the service and from three forms of the program's command.
Each of them reads, answers and fails in its own way. For the same bytes under the same settings
they agree: either all give the same template (`AllGive`), or all refuse (`AllRefuse`).

What the service tells a client whose request it refuses shows the refused values. A number that is
infinite cannot be shown, and neither can a lone surrogate, so for a payload that holds one the
service may fail where it should refuse. An accepted request with a lone surrogate in its template
is given by none of them: all fail (`AllFail`).

* `tells_showDescribed`, `tells_written`: what is told in JSON can be read back.
* `allGive_of_accepted`, `allFail_of_accepted`, `allRefuse_of_refused`: the front ends, from what
  the payload says.
* **`front_ends_agree`**: all give the template of the request, or all refuse.
* `infinite_refused_apart`: a payload that the program refuses, and on which the service fails.
-/

namespace HealthAlert.FrontEnds

open Command (Surroundings Renders Writable)
open Http (Request)
open Service (Exchange Posts Site State)
open Service.Endpoint (showDescribed showText gives_showDescribed gives_showText
  render_of_json_accepted render_of_json_unencodable render_of_json_refused)

/-! ## What is told about a template -/

/-- The value tells what is known about a template. -/
structure Describes (d : Value) (t : Template) : Prop where
  text : d.member? "template" = some (.text t.text)
  resources : d.member? "resources" = some (.list (t.resources.map fun r => .text r.symbol))
  conditionCount : d.member? "condition_count" = some (.int t.conditionCount)

/-- The text is JSON that tells what is known about a template. -/
def Tells (s : String) (t : Template) : Prop :=
  ∃ d, Json.read s.toList = .ok d ∧ Describes d t

section Telling

variable {options : TemplateOptions} {input : AlertInput} {t : Template}

theorem conditionCount_le (ht : Template.render options input = .ok t) : t.conditionCount ≤ 4 := by
  obtain ⟨reference, -, rfl⟩ := Template.render_eq_ok_iff.mp ht
  change (Condition.build _ _ _).length ≤ 4
  rw [Condition.length_build]
  split <;> split <;> split <;> omega

theorem plain_conditionCount (ht : Template.render options input = .ok t) :
    Json.Plain (.int t.conditionCount) := by
  have hdigits : ∀ n ≤ 4, (Nat.toDigits 10 n).length ≤ maxIntegerDigits := by decide
  exact hdigits _ (conditionCount_le ht)

theorem plainItems_symbols (resources : List Resource) :
    Json.PlainItems (resources.map fun r => .text r.symbol) := by
  induction resources with
  | nil => trivial
  | cons r resources ih => exact ⟨trivial, ih⟩

/-- What the service answers about a template can be read back. -/
theorem tells_showDescribed (ht : Template.render options input = .ok t) :
    Tells (showDescribed input t).body t := by
  have hplain : Json.Plain (Service.Endpoint.templateValue input t) := by
    refine ⟨by simp [Keyed.keys], trivial, plainItems_symbols _, plain_conditionCount ht, ?_,
      trivial⟩
    cases input.shortName? <;> trivial
  exact ⟨_, Json.read_eq_ok_iff.mpr (Json.readText_write Json.regular_compact hplain),
    ⟨rfl, rfl, rfl⟩⟩

/-- What the program writes about a template can be read back. -/
theorem tells_written (ht : Template.render options input = .ok t) :
    Tells (Command.written true t) t := by
  have hplain : Json.Plain (Command.described t) :=
    ⟨by simp [Keyed.keys], trivial, plainItems_symbols _, plain_conditionCount ht, trivial⟩
  exact ⟨_, Json.read_eq_ok_iff.mpr (Json.readText_writeIndented hplain), ⟨rfl, rfl, rfl⟩⟩

end Telling

/-! ## The front ends -/

/-- Every front end, asked under these settings for the template of the request in these bytes,
gives the template. -/
structure AllGive (settings : Settings) (bytes : List UInt8) (t : Template) : Prop where
  described {site : Site} {s : State} {fresh : String} {r : Request}
    (hs : site.settings = settings) (hr : Posts site r .template bytes) :
    ∃ body, (site.handle s fresh r).1.Answers 200 body ∧ Tells body t
  text {site : Site} {s : State} {fresh : String} {r : Request}
    (hs : site.settings = settings) (hr : Posts site r .templateText bytes) :
    (site.handle s fresh r).1.Answers 200 t.text
  output {s : Surroundings} {arguments : List String}
    (hs : s.settings = settings) (hr : Renders s arguments none false bytes) :
    (Command.run s arguments).ending = .ok 0 ∧ (Command.run s arguments).output = t.text
  describedOutput {s : Surroundings} {arguments : List String}
    (hs : s.settings = settings) (hr : Renders s arguments none true bytes) :
    (Command.run s arguments).ending = .ok 0 ∧ Tells (Command.run s arguments).output t
  file {s : Surroundings} {arguments : List String} {output : String}
    (hs : s.settings = settings) (hr : Renders s arguments (some output) false bytes)
    (ho : Writable s.files output) :
    (Command.run s arguments).ending = .ok 0 ∧
      (Command.run s arguments).files.read (.ofText output) = .ok t.text.toUTF8.toList

/-- Every front end, asked under these settings for the template of the request in these bytes, ends
in the error and gives nothing. -/
structure AllFail (settings : Settings) (bytes : List UInt8) (e : InternalError) : Prop where
  described {site : Site} {s : State} {fresh : String} {r : Request}
    (hs : site.settings = settings) (hr : Posts site r .template bytes) :
    (site.handle s fresh r).1.Failed e
  text {site : Site} {s : State} {fresh : String} {r : Request}
    (hs : site.settings = settings) (hr : Posts site r .templateText bytes) :
    (site.handle s fresh r).1.Failed e
  command {s : Surroundings} {arguments : List String} {output : Option String}
    {withDescription : Bool} (hs : s.settings = settings)
    (hr : Renders s arguments output withDescription bytes) :
    Command.run s arguments = { ending := .error e, files := s.files }

/-- Every front end, asked for the template of the request in these bytes, refuses: the service so
that `answered` holds of the exchange. -/
structure AllRefuse (bytes : List UInt8) (answered : Exchange → Prop) : Prop where
  described {site : Site} {s : State} {fresh : String} {r : Request}
    (hr : Posts site r .template bytes) : answered (site.handle s fresh r).1
  text {site : Site} {s : State} {fresh : String} {r : Request}
    (hr : Posts site r .templateText bytes) : answered (site.handle s fresh r).1
  command {s : Surroundings} {arguments : List String} {output : Option String}
    {withDescription : Bool} (hr : Renders s arguments output withDescription bytes) :
    (Command.run s arguments).ending = .ok Command.invalidInputStatus

/-- The service answers that the payload is not acceptable. -/
def AnswersInvalid (e : Exchange) : Prop :=
  ∃ body, e.Answers Service.Endpoint.invalidStatus body

section Agreement

variable {settings : Settings} {bytes : List UInt8} {cs : List Char} {d : Json.Document}

section Accepted

variable {input : AlertInput} {t : Template} (hd : Text.Utf8.decode bytes = .ok cs)
  (h : Json.openText cs = .ok d)
  (hread : HealthAlert.Request.read d.value d.lone = .accepted input)
  (ht : Template.render settings.templateOptions input = .ok t)
include hd h hread ht

/-- What is accepted is given everywhere, if the text of the template has UTF-8. -/
theorem allGive_of_accepted (htext : Text.encodingFault? d.lone t.text = none) :
    AllGive settings bytes t := by
  have hbytes := Json.readBytes_of_openText hd h
  have hpayload := Command.payloadOf_of_decode hd h
  have hcompose := Template.compose_of_accepted hread ht
  have hfields : HealthAlert.Request.readWith .byFields d.value d.lone = .accepted input :=
    HealthAlert.Request.readWith_accepted_of_accepted hread
  refine ⟨?_, ?_, ?_, ?_, ?_⟩
  · rintro site s fresh r rfl hr
    have hending := render_of_json_accepted gives_showDescribed hr hbytes hfields ht htext
    exact ⟨_, hr.answers s fresh hending, tells_showDescribed ht⟩
  · rintro site s fresh r rfl hr
    have hending := render_of_json_accepted gives_showText hr hbytes hfields ht htext
    exact hr.answers s fresh hending
  · rintro s arguments rfl hr
    obtain ⟨verbose, log, hrun⟩ := hr.run_of_accepted hpayload hread hcompose htext
    rw [hrun, Command.deliver_of_no_output rfl]
    exact ⟨rfl, rfl⟩
  · rintro s arguments rfl hr
    obtain ⟨verbose, log, hrun⟩ := hr.run_of_accepted hpayload hread hcompose htext
    rw [hrun, Command.deliver_of_no_output rfl]
    exact ⟨rfl, tells_written ht⟩
  · rintro s arguments output rfl hr ho
    obtain ⟨verbose, log, hrun⟩ := hr.run_of_accepted hpayload hread hcompose htext
    rw [hrun]
    exact Command.deliver_of_output ho

/-- A template whose text has no UTF-8 is given nowhere. -/
theorem allFail_of_accepted {f : Text.EncodingFault}
    (htext : Text.encodingFault? d.lone t.text = some f) :
    AllFail settings bytes (.unencodable f) := by
  have hbytes := Json.readBytes_of_openText hd h
  have hfields : HealthAlert.Request.readWith .byFields d.value d.lone = .accepted input :=
    HealthAlert.Request.readWith_accepted_of_accepted hread
  refine ⟨?_, ?_, ?_⟩
  · rintro site s fresh r rfl hr
    have hending := render_of_json_unencodable showDescribed hr hbytes hfields ht htext
    exact hr.failed s fresh hending
  · rintro site s fresh r rfl hr
    have hending := render_of_json_unencodable showText hr hbytes hfields ht htext
    exact hr.failed s fresh hending
  · rintro s arguments output withDescription rfl hr
    exact hr.run_of_unencodable (Command.payloadOf_of_decode hd h) hread
      (Template.compose_of_accepted hread ht) htext

end Accepted

/-- What is refused is refused everywhere, and the service answers so if it can show the payload. -/
theorem allRefuse_of_refused (hd : Text.Utf8.decode bytes = .ok cs) (h : Json.openText cs = .ok d)
    {issues : List Issue} (hread : HealthAlert.Request.read d.value d.lone = .refused issues) :
    AllRefuse bytes AnswersInvalid ∨
      (¬ d.value.Finite ∧ AllRefuse bytes (·.Failed .nonFiniteAnswer)) ∨
      (d.lone ≠ [] ∧ ∃ f, AllRefuse bytes (·.Failed (.unencodable f))) := by
  have hbytes := Json.readBytes_of_openText hd h
  have hpayload := Command.payloadOf_of_decode hd h
  -- The service has its own words for what is no record, but refuses the same.
  obtain ⟨more, hfields⟩ : ∃ more,
      HealthAlert.Request.readWith .byFields d.value d.lone = .refused more :=
    HealthAlert.Request.exists_refused_of_refused hread
  have hcommand {s : Surroundings} {arguments : List String} {output : Option String}
      {withDescription : Bool} (hr : Renders s arguments output withDescription bytes) :=
    hr.run_of_refused hpayload hread
  have hending {site : Site} {r : Request} {route : Service.Route}
      (answer : AlertInput → Template → Http.Response) (hr : Posts site r route bytes)
      (s : State) :=
    render_of_json_refused answer hr hbytes hfields s
  have hfailed {e : InternalError} (he : Service.Endpoint.refusal d more = .error e) :
      AllRefuse bytes (·.Failed e) :=
    ⟨fun hr => hr.failed _ _ fun s => (hending showDescribed hr s).trans he,
      fun hr => hr.failed _ _ fun s => (hending showText hr s).trans he, hcommand⟩
  rcases Service.Endpoint.refusal_cases hfields with
    ⟨response, hanswered, hstatus⟩ | ⟨hnumber, hinfinite⟩ | ⟨f, hsurrogate, hlone⟩
  · refine Or.inl ⟨?_, ?_, hcommand⟩
    · intro site s fresh r hr
      have hanswers := hr.answers s fresh fun s => (hending showDescribed hr s).trans hanswered
      exact ⟨_, hstatus ▸ hanswers⟩
    · intro site s fresh r hr
      have hanswers := hr.answers s fresh fun s => (hending showText hr s).trans hanswered
      exact ⟨_, hstatus ▸ hanswers⟩
  · exact Or.inr (Or.inl ⟨hinfinite, hfailed hnumber⟩)
  · exact Or.inr (Or.inr ⟨hlone, f, hfailed hsurrogate⟩)

/-- **All front ends agree** about every JSON text in UTF-8 that can be read: if the request in it
is accepted, all give its template, and if not, all refuse. The service fails instead of refusing
only where the text holds a number that is infinite or not a number, or a lone surrogate. Where a
lone surrogate stands in the template, all fail alike. -/
theorem front_ends_agree (settings : Settings) (hd : Text.Utf8.decode bytes = .ok cs)
    (h : Json.openText cs = .ok d) :
    (∃ input t, HealthAlert.Request.read d.value d.lone = .accepted input ∧
        Template.render settings.templateOptions input = .ok t ∧
        match Text.encodingFault? d.lone t.text with
        | none => AllGive settings bytes t
        | some f => AllFail settings bytes (.unencodable f)) ∨
      (∃ issues, HealthAlert.Request.read d.value d.lone = .refused issues) ∧
        (AllRefuse bytes AnswersInvalid ∨
          (¬ d.value.Finite ∧ AllRefuse bytes (·.Failed .nonFiniteAnswer)) ∨
          (d.lone ≠ [] ∧ ∃ f, AllRefuse bytes (·.Failed (.unencodable f)))) := by
  cases hread : HealthAlert.Request.read d.value d.lone with
  | accepted input =>
    have ht := Template.render_accepted hread settings.templateOptions
    refine Or.inl ⟨input, _, rfl, ht, ?_⟩
    split
    · exact allGive_of_accepted hd h hread ht ‹_›
    · exact allFail_of_accepted hd h hread ht ‹_›
  | refused issues => exact Or.inr ⟨⟨issues, rfl⟩, allRefuse_of_refused hd h hread⟩

end Agreement

/-! ## Asking all front ends -/

/-- A request that brings JSON to a path. -/
def posting (path : String) (bytes : List UInt8) : Request where
  method := "POST"
  path
  headers := [("content-type", "application/json")]
  body := bytes
  server := "testserver"
  client := "testclient"

/-- Where the program finds a file with a request. -/
def among (bytes : List UInt8) : Surroundings where
  files := { files := [(["work", "request.json"], bytes)] }

theorem posts_posting {site : Site} {route : Service.Route} {path : String} {bytes : List UInt8}
    (hsize : (bytes.length : Int) ≤ site.sizeLimit)
    (hf : Service.Routing.target site (posting path bytes) = .found route []) :
    Posts site (posting path bytes) route bytes := by
  have hname : "content-type".toLower = "content-type" := by decide +kernel
  have hother : "content-type".toLower ≠ "content-length" := by decide +kernel
  have htype : (posting path bytes).header? "content-type" = some "application/json" := by
    unfold Request.header? posting
    rw [Http.header?_cons, if_pos hname]
  have hlength : (posting path bytes).header? "content-length" = none := by
    unfold Request.header? posting
    rw [Http.header?_cons, if_neg hother]
    rfl
  refine ⟨⟨?_, rfl⟩, hf, ?_, rfl⟩
  · have hdeclared : Http.SizeLimit.declaredLength (posting path bytes) = .ok none := by
      unfold Http.SizeLimit.declaredLength
      rw [hlength]
    have hbody : ¬ site.sizeLimit < ((posting path bytes).body.length : Int) := Int.not_lt.mpr hsize
    unfold Http.SizeLimit.check
    rw [hdeclared]
    exact if_neg (by simp [hbody])
  · rw [htype]
    decide +kernel

theorem sourceBytes_among (bytes : List UInt8) :
    Command.sourceBytes (among bytes) "request.json" = .ok bytes := by
  have hnamed : "request.json" ≠ Command.standardInput := by decide
  have hpath : Path.ofText "request.json" = ⟨.workingDirectory, ["request.json"]⟩ := by
    decide +kernel
  unfold Command.sourceBytes
  rw [if_neg hnamed, hpath]
  rfl

theorem renders_among {arguments : List String} {output : Option String} {withDescription : Bool}
    (ha : Command.Invocation.ofArguments arguments =
      .ok ⟨false, .render "request.json" output withDescription⟩) (bytes : List UInt8) :
    Renders (among bytes) arguments output withDescription bytes :=
  ⟨false, "request.json", ha, sourceBytes_among bytes⟩

theorem ofArguments_request : Command.Invocation.ofArguments ["render", "request.json"] =
    .ok ⟨false, .render "request.json" none false⟩ := by
  decide +kernel

/-- A text that asks for an alert, and writes the ID of its action group in escapes. -/
def briefText : String :=
  "\x7b\"subscriptionId\": \"11111111-2222-3333-4444-555555555555\", " ++
    "\"alertName\": \"svc\", \"existingActionGroupId\": \"\\u00e9\"\x7d"

/-- The bytes of `briefText`. -/
def briefBytes : List UInt8 :=
  briefText.toUTF8.toList

/-- What `briefText` says. -/
def briefRequest : Value :=
  .record [("subscriptionId", .text "11111111-2222-3333-4444-555555555555"),
    ("alertName", .text "svc"), ("existingActionGroupId", .text "é")]

/-- The alert that `briefRequest` asks for. -/
def briefInput : AlertInput where
  subscriptionId := "11111111-2222-3333-4444-555555555555"
  alertName := "svc"
  existingActionGroupId := some "é"

theorem decode_briefBytes : Text.Utf8.decode briefBytes = .ok briefText.toList := by
  decide +kernel

theorem readText_briefText : Json.readText briefText.toList = .ok briefRequest := by
  rfl

theorem openText_briefText : Json.openText briefText.toList = .ok ⟨briefRequest, []⟩ := by
  have hwhole : Json.Whole briefText.toList := by decide +kernel
  rw [Json.openText_of_whole hwhole, Json.read_eq_ok_iff.mpr readText_briefText]
  rfl

theorem front_ends_agree_briefText :
    Text.Utf8.decode briefBytes = .ok briefText.toList ∧
      Json.openText briefText.toList = .ok ⟨briefRequest, []⟩ ∧
      Posts {} (posting "/api/v1/templates/service-health-alert" briefBytes) .template briefBytes ∧
      Posts {} (posting "/api/v1/templates/service-health-alert.bicep" briefBytes) .templateText
        briefBytes ∧
      Renders (among briefBytes) ["render", "request.json"] none false briefBytes ∧
      Renders (among briefBytes) ["render", "request.json", "--json"] none true briefBytes ∧
      Renders (among briefBytes) ["render", "request.json", "-o", "alert.bicep"]
        (some "alert.bicep") false briefBytes ∧
      Writable (among briefBytes).files "alert.bicep" ∧
      ∃ t, Template.render {} briefInput = .ok t ∧ AllGive {} briefBytes t := by
  have hsize : (briefBytes.length : Int) ≤ Site.sizeLimit {} := by decide +kernel
  refine ⟨decode_briefBytes, openText_briefText, posts_posting hsize (by decide +kernel),
    posts_posting hsize (by decide +kernel), renders_among ofArguments_request _,
    renders_among (by decide +kernel) _, renders_among (by decide +kernel) _,
    ⟨by decide, ["work", "alert.bicep"], by decide +kernel, by decide +kernel, rfl⟩, ?_⟩
  have haccepted : HealthAlert.Request.read briefRequest = .accepted briefInput := rfl
  rcases front_ends_agree {} decode_briefBytes openText_briefText with
    ⟨input, t, hinput, ht, hgive⟩ | ⟨⟨_, hrefused⟩, -⟩
  · rw [← Checked.accepted.inj (haccepted.symm.trans hinput)] at ht
    rw [Text.encodingFault?_nil] at hgive
    exact ⟨t, ht, hgive⟩
  · exact absurd (haccepted.symm.trans hrefused) (by simp)

/-- A text with a number that is read as infinite. -/
def infiniteText : String := "\x7b\"alertName\": 1e400\x7d"

/-- The bytes of `infiniteText`. -/
def infiniteBytes : List UInt8 :=
  infiniteText.toUTF8.toList

/-- The program refuses a request that holds an infinite number, and the service, which cannot show
the number, fails on it. -/
theorem infinite_refused_apart :
    Text.Utf8.decode infiniteBytes = .ok infiniteText.toList ∧
      Json.openText infiniteText.toList =
        .ok ⟨.record [("alertName", .float (.infinite false))], []⟩ ∧
      Posts {} (posting "/api/v1/templates/service-health-alert" infiniteBytes) .template
        infiniteBytes ∧
      Renders (among infiniteBytes) ["render", "request.json"] none false infiniteBytes ∧
      (Command.run (among infiniteBytes) ["render", "request.json"]).ending =
        .ok Command.invalidInputStatus ∧
      ¬ AnswersInvalid (({} : Site).handle {} "1"
        (posting "/api/v1/templates/service-health-alert" infiniteBytes)).1 := by
  have hdecode : Text.Utf8.decode infiniteBytes = .ok infiniteText.toList := by decide +kernel
  have htext : Json.readText infiniteText.toList =
      .ok (.record [("alertName", .float (.infinite false))]) := rfl
  have hopen : Json.openText infiniteText.toList =
      .ok ⟨.record [("alertName", .float (.infinite false))], []⟩ := by
    rw [Json.openText_of_whole (by decide), Json.read_eq_ok_iff.mpr htext]
    rfl
  have hsize : (infiniteBytes.length : Int) ≤ Site.sizeLimit {} := by decide +kernel
  have hposts : Posts {} (posting "/api/v1/templates/service-health-alert" infiniteBytes) .template
      infiniteBytes := posts_posting hsize (by decide +kernel)
  have hrenders : Renders (among infiniteBytes) ["render", "request.json"] none false
      infiniteBytes := renders_among ofArguments_request _
  have hfailed : (({} : Site).handle {} "1" (posting "/api/v1/templates/service-health-alert"
      infiniteBytes)).1.Failed .nonFiniteAnswer := by
    refine hposts.failed {} "1" fun s => ?_
    exact (render_of_json_refused showDescribed hposts
      (Json.readBytes_of_openText hdecode hopen) rfl s).trans rfl
  exact ⟨hdecode, hopen, hposts, hrenders,
    hrenders.run_of_refused (Command.payloadOf_of_decode hdecode hopen) rfl,
    fun ⟨_, hanswers⟩ => hanswers.not_failed hfailed⟩

end HealthAlert.FrontEnds
