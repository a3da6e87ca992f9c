import HealthAlert.Failure.Redaction
import HealthAlert.Service.Endpoint

/-!
# Routing

Model of `alert_bicep_error_handler` and of `http_exception_handler` where it is reached, as
`register_exception_handlers` installs them.

`Routing.run` sends a request to its route and turns the end of its handling into a response. A
failure of the service and a refusal are logged and answered with a body that says what is wrong;
an error that nothing handles is passed on.
-/

namespace HealthAlert.Service

open Http (Request Response)

/-- The response to a request, or the error that nothing handled, with the state afterwards and
what was logged. -/
structure Reply where
  result : Except InternalError Response
  state : State
  log : List Log.Row := []

namespace Routing

/-- The fields by which log rows tell requests apart. -/
def requestContext (requestId method : String) : List (String × Value) :=
  [("request_id", .text requestId), ("method", .text method)]

/-- The level at which an answer with a status is logged. -/
def levelOf (status : Nat) : Log.Level :=
  if 500 ≤ status then .error else .warning

/-! ## Failures -/

/-- The log row about a failure of the service. -/
def failureRow (r : Request) (requestId : String) (f : Failure) : Log.Row where
  level := levelOf f.status
  logger := Endpoint.logger
  message := f.kind.name ++ " on " ++ r.shownPath ++ ": " ++ f.message
  fields := ("details", .record f.details) :: requestContext requestId r.method

/-- The answer that reports a failure of the service. -/
def failureResponse (site : Site) (f : Failure) : Response :=
  Response.ofValue f.status (Redaction.errorBody f.kind.name (.text f.message)
    (Redaction.sanitize (site.settings.appEnv == .production) (.record f.details)))

/-- The log rows about a refusal: only those are logged that are the service's own fault. -/
def refusalRows (r : Request) (requestId : String) (status : Nat) (message : String) :
    List Log.Row :=
  if 500 ≤ status then
    [{ level := .error
       logger := Endpoint.logger
       message := "HTTP " ++ toString status ++ " on " ++ r.shownPath ++ ": " ++ message
       fields := requestContext requestId r.method }]
  else []

/-- The answer that reports a refusal. -/
def refusalResponse (status : Nat) (message : String) : Response :=
  Response.ofValue status (Redaction.errorBody "HTTPException" (.text message) (.record []))

/-- The reply that the end of the handling of a request gives. -/
def settle (site : Site) (r : Request) (requestId : String) (h : Handling) : Reply :=
  match h.ending with
  | .response response => { result := .ok response, state := h.state, log := h.log }
  | .failure f =>
    { result := .ok (failureResponse site f)
      state := h.state
      log := h.log ++ [failureRow r requestId f] }
  | .refusal status message =>
    { result := .ok (refusalResponse status message)
      state := h.state
      log := h.log ++ refusalRows r requestId status message }
  | .error e => { result := .error e, state := h.state, log := h.log }

/-! ## Targets -/

/-- Where a request goes. -/
def target (site : Site) (r : Request) : Target :=
  Route.resolve (Route.all site.settings.observabilityEnabled) r.method r.path

/-- The answer when a route does not take the method of a request. -/
def wrongMethod (route : Route) : Response :=
  (Endpoint.explained 405 "Method Not Allowed").withHeaders
    [("allow", String.intercalate ", " route.methods)]

/-- The answer that leads to another path. -/
def redirect (r : Request) (path : String) : Response :=
  (Response.bare 307).withHeaders [("location", r.address path)]

/-- The answer when there is nothing under a path. -/
def notFound : Response :=
  Endpoint.explained 404 "Not Found"

/-- The reply to a request. -/
def run (site : Site) (s : State) (requestId : String) (r : Request) : Reply :=
  match target site r with
  | .found route parameters => settle site r requestId (Endpoint.run site s r route parameters)
  | .wrongMethod route => { result := .ok (wrongMethod route), state := s }
  | .redirect path => { result := .ok (redirect r path), state := s }
  | .unknown => { result := .ok notFound, state := s }

end Routing

end HealthAlert.Service
