import HealthAlert.Alert.Rendering
import HealthAlert.Form.Check
import HealthAlert.Http.Message
import HealthAlert.Metrics.Exposition
import HealthAlert.Options.Cache
import HealthAlert.Request.Reader
import HealthAlert.Service.Payload
import HealthAlert.Service.Route
import HealthAlert.Settings.Basic

/-!
# Endpoints

Model of the route functions `create_service_health_alert`, `create_service_health_alert_bicep`,
`validate_alert`, `list_option_kinds`, `get_options`, `health` and `protected_metrics`.

What the service does for each of its routes. `Endpoint.run` ends with a response, with a failure
of the service, with the refusal of a request, or with an error that nothing handles; it also
gives the state afterwards and what was logged.
-/

namespace HealthAlert.Service

open Http (Request Response)

/-- What the service is started with. -/
structure Site where
  settings : Settings := {}
  files : FileTree := {}
  /-- How long a rendering takes, as the log shows it. -/
  duration : String := "0.0000s"
  /-- The texts of the documents about the service. -/
  documents : Document → String := fun _ => ""

/-- What the service remembers between requests. -/
structure State where
  cache : Options.Cache := {}
  metrics : Metrics := {}
  deriving DecidableEq, Repr, Inhabited

/-- How the handling of a request ends. -/
inductive Ending where
  | response (r : Response)
  | failure (f : Failure)
  /-- The request is refused with a status and a message. -/
  | refusal (status : Nat) (message : String)
  | error (e : InternalError)
  deriving Repr

/-- The end by a trouble. -/
def Ending.ofTrouble : Trouble → Ending
  | .failure f => .failure f
  | .internal e => .error e

/-- How the handling of a request ends, the state afterwards, and what was logged. -/
structure Handling where
  ending : Ending
  state : State
  log : List Log.Row := []

/-- The handling when its response must have UTF-8. -/
def Handling.encoded (lone : Text.StandIns) (h : Handling) : Handling :=
  match h.ending with
  | .response r =>
    match Text.encodingFault? lone r.body with
    | none => h
    | some fault => { h with ending := .error (.unencodable fault) }
  | _ => h

namespace Endpoint

/-! ## Issues with a payload -/

/-- A step to a part of a payload, as a value. -/
def placeValue : Place → Value
  | .field name => .text name
  | .index i => .int i

/-- An issue with a payload, as a value. -/
def issueValue (i : Issue) : Value :=
  .record ([("type", .text i.refusal.type),
    ("loc", .list (.text "body" :: i.place.map placeValue)),
    ("msg", .text i.refusal.message), ("input", i.value)] ++
    (match i.refusal.context with
      | [] => []
      | context => [("ctx", .record context)]))

/-- The status of an answer that lists the issues with a payload. -/
def invalidStatus : Nat := 422

/-- The answer that lists the issues with a payload. The issues show the values that are refused,
and some numbers among these cannot be shown. -/
def invalid (issues : List Issue) : Ending :=
  let detail : Value := .record [("detail", .list (issues.map issueValue))]
  if Json.hasNonFinite detail then .error .nonFiniteAnswer
  else .response (Response.ofValue invalidStatus detail)

/-- The answer with a short explanation. -/
def explained (status : Nat) (detail : String) : Response :=
  Response.ofValue status (.record [("detail", .text detail)])

/-- Go on with the value that a request brings. -/
def withValue (s : State) (r : Request) (go : Value → Text.StandIns → Handling) : Handling :=
  match Payload.ofRequest r with
  | .none => { ending := invalid [⟨[], .missing, .null⟩], state := s }
  | .malformed problem position =>
    { ending := invalid [⟨[.index position], .malformedText problem.message, .record []⟩]
      state := s }
  | .unreadable =>
    { ending := .response (explained 400 "There was an error parsing the body"), state := s }
  | .undecodable fault => { ending := .error (.undecodable fault), state := s }
  | .value v lone => (go v lone).encoded lone

/-! ## Options -/

/-- `list_option_kinds`: the names of the lists of options. -/
def optionKinds : Response :=
  Response.ofValue 200 (.list (OptionKind.all.map fun k => .text k.name))

/-- The choices of a list as a value. -/
def choicesValue (choices : List Choice) : Value :=
  .list (choices.map fun c => .record [("value", .text c.value), ("label", .text c.label)])

/-- How a list is answered: the texts of its choices have to fit the form of an option. -/
def shown (choices : List Choice) : Ending :=
  match Choice.allUnpaired choices with
  | 0 => .response (Response.ofValue 200 (choicesValue choices))
  | n => .error (.unfitAnswer n)

/-- `get_options`: the choices of a list. -/
def options (site : Site) (s : State) (kind : String) : Handling :=
  let (result, cache) := s.cache.loadNamed site.files site.settings.optionsDirectory kind
  let s := { s with cache }
  match result with
  | .ok loading =>
    { ending := shown loading.choices
      state := s
      log := loading.log }
  | .error t => { ending := .ofTrouble t, state := s }

/-! ## Templates -/

/-- A template with what is known about it, as a value. -/
def templateValue (input : AlertInput) (t : Template) : Value :=
  .record [("template", .text t.text),
    ("resources", .list (t.resources.map fun r => .text r.symbol)),
    ("condition_count", .int t.conditionCount),
    ("short_name",
      match input.shortName? with
      | some name => .text name
      | none => .null)]

/-- Render the alert that a request describes, and answer with the template as `answer` says. -/
def render (site : Site) (s : State) (r : Request)
    (answer : AlertInput → Template → Response) : Handling :=
  withValue s r fun payload lone =>
    match HealthAlert.Request.readWith .byFields payload lone with
    | .refused issues => { ending := invalid issues, state := s }
    | .accepted input =>
      let record :=
        Rendering.run site.settings.templateOptions { lone, duration := site.duration } s.metrics
          input
      { ending :=
          match record.result with
          | .ok t => .response (answer input t)
          | .error f => .ofTrouble f.trouble
        state := { s with metrics := record.metrics }
        log := record.log }

/-- Answer with a template and what is known about it. -/
def showDescribed (input : AlertInput) (t : Template) : Response :=
  Response.ofValue 200 (templateValue input t)

/-- Answer with the text of a template. -/
def showText (_ : AlertInput) (t : Template) : Response :=
  Response.ofText 200 Http.textType t.text

/-- `validate_alert`: judge the fields of a form. -/
def validate (s : State) (r : Request) : Handling :=
  withValue s r fun payload _ =>
    match payload with
    | .record entries =>
      let verdicts := Form.checkSubmission entries
      { ending := .response (Response.ofValue 200 verdicts.toValue)
        state := s
        log := Form.submissionLog verdicts }
    | v => { ending := invalid [⟨[], .notAMapping, v⟩], state := s }

/-! ## Metrics -/

/-- The media type of the metrics. -/
def metricsType : String := "text/plain; version=0.0.4; charset=utf-8"

/-- The logger of the service. -/
def logger : String := "alert_bicep.main"

/-- The header that presents the token for the metrics. -/
def tokenHeader : String := "x-metrics-token"

/-- A text of ASCII characters. -/
def isAscii (s : String) : Bool :=
  s.toList.all fun c => decide (c.toNat < 128)

/-- Whether the presented token is the expected one. Only ASCII texts can be compared. -/
def tokenMatches (expected presented : String) : Except InternalError Bool :=
  if isAscii expected && isAscii presented then .ok (presented == expected)
  else .error .incomparableSecret

/-- The metrics as an answer. -/
def exposed (m : Metrics) : Response :=
  Response.ofText 200 metricsType (String.join (m.exposition.map (· ++ "\n")))

/-- `protected_metrics`: the metrics, for a request that presents the token. -/
def metrics (site : Site) (s : State) (r : Request) : Handling :=
  match site.settings.metricsToken.getD "" with
  | "" =>
    { ending :=
        .refusal 500 "Metrics token not configured. Set METRICS_TOKEN environment variable."
      state := s
      log := [{ level := .error, logger := logger
                message := "Metrics requested but METRICS_TOKEN is not configured" }] }
  | expected =>
    match tokenMatches expected ((r.header? tokenHeader).getD "") with
    | .error e => { ending := .error e, state := s }
    | .ok true => { ending := .response (exposed s.metrics), state := s }
    | .ok false =>
      { ending := .refusal 403 "Invalid metrics token"
        state := s
        log := [{ level := .warning, logger := logger, message := "Rejected metrics request"
                  fields := [("client_ip", .text r.client)] }] }

/-! ## Routes -/

/-- The media type of a document about the service. -/
def documentType : Document → String
  | .schema => Http.jsonType
  | _ => "text/html; charset=utf-8"

/-- A document about the service. -/
def document (site : Site) (d : Document) : Response :=
  Response.ofText 200 (documentType d) (site.documents d)

/-- Handle a request for a route. -/
def run (site : Site) (s : State) (r : Request) (route : Route) (parameters : List String) :
    Handling :=
  match route with
  | .health =>
    { ending := .response (Response.ofValue 200 (.record [("ok", .bool true)])), state := s }
  | .optionKinds => { ending := .response optionKinds, state := s }
  | .options => options site s (parameters.headD "")
  | .template => render site s r showDescribed
  | .templateText => render site s r showText
  | .validation => validate s r
  | .metrics => metrics site s r
  | .document d => { ending := .response (document site d), state := s }

end Endpoint

end HealthAlert.Service
