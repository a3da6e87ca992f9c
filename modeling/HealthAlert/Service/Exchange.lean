import HealthAlert.Http.Sharing
import HealthAlert.Http.SizeLimit
import HealthAlert.Service.Observation

/-!
# Exchanges

Model of what `create_app` puts together, with `unhandled_exception_handler` and `lifespan`.

`Site.handle` is the service as a whole: a request goes through the limit on its size, the rules
for pages of other origins, and the observation, if it is on, to its route. An error that nothing
handled on the way is logged and answered in general words. `Site.startup` is what is logged when
the service starts.
-/

namespace HealthAlert.Service

open Http (Request Response)

/-- The response to a request, the error behind it if nothing handled it, and what was logged. -/
structure Exchange where
  response : Response
  raised : Option InternalError := none
  log : List Log.Row := []

namespace Site

/-- Handle a request, observed or not. -/
def serve (site : Site) (s : State) (fresh : String) (r : Request) : Reply :=
  if site.settings.observabilityEnabled then Observation.run site s fresh r
  else Routing.run site s "" r

/-- Handle a request by the rules for pages of other origins. -/
def serveShared (site : Site) (s : State) (fresh : String) (r : Request) : Reply :=
  let origins := site.settings.corsOrigins
  if Http.Sharing.isPreflight r then
    { result := .ok (Http.Sharing.preflight origins r), state := s }
  else
    let reply := site.serve s fresh r
    { reply with result := reply.result.map (Http.Sharing.share origins r) }

/-- The most bytes that a request may have. -/
def sizeLimit (site : Site) : Int :=
  Http.SizeLimit.bytes site.settings.maxRequestSizeMb

/-- Handle a request unless it is too large. -/
def serveLimited (site : Site) (s : State) (fresh : String) (r : Request) : Reply :=
  match Http.SizeLimit.check site.sizeLimit r with
  | .error e => { result := .error e, state := s }
  | .ok (some excess) =>
    { result := .ok Http.SizeLimit.refusal
      state := s
      log := [Http.SizeLimit.logRow site.sizeLimit r excess] }
  | .ok none => site.serveShared s fresh r

/-- The log row about an error that nothing handled. The ID of the request is no longer known. -/
def errorRow (r : Request) (e : InternalError) : Log.Row where
  level := .error
  logger := Endpoint.logger
  message := "Unhandled " ++ e.typeName ++ " on " ++ r.shownPath
  fields := Routing.requestContext "" r.method

/-- `unhandled_exception_handler`: the answer to a request that ended in an error which nothing
handled. -/
def errorResponse : Response :=
  Response.ofValue internalErrorStatus (Redaction.errorBody "InternalServerError"
    (.text "An unexpected error occurred") (.record []))

/-- Handle a request. -/
def handle (site : Site) (s : State) (fresh : String) (r : Request) : Exchange × State :=
  let reply := site.serveLimited s fresh r
  match reply.result with
  | .ok response => ({ response, log := reply.log }, reply.state)
  | .error e =>
    ({ response := errorResponse, raised := some e, log := reply.log ++ [errorRow r e] },
      reply.state)

/-- Handle requests one after the other. -/
def handleAll (site : Site) (s : State) (fresh : String) : List Request → List Exchange × State
  | [] => ([], s)
  | r :: rs =>
    let (exchange, s) := site.handle s fresh r
    let (exchanges, s) := handleAll site s fresh rs
    (exchange :: exchanges, s)

/-- `lifespan`: what is logged when the service starts. -/
def startup (site : Site) : List Log.Row :=
  [{ level := .info
     logger := Endpoint.logger
     message := "Starting " ++ site.settings.appName ++ " (env=" ++ site.settings.appEnv.label ++
       ", options_dir=" ++ site.settings.optionsDirectory.text site.files.packageData ++ ")" }]

end Site

end HealthAlert.Service
