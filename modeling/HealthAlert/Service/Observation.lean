import HealthAlert.Service.Routing

/-!
# Observation

Model of `ObservabilityMiddleware`.

Every request that is observed has an ID, which it brings itself or is given, and which the
response shows. It is counted under its method, its route and its status, and it leaves one row
in the log; requests for the health of the service and for the metrics leave none.
-/

namespace HealthAlert.Service.Observation

open Http (Request Response)

/-- The header that shows the ID of a request. -/
def idHeader : String := "x-request-id"

/-- The ID of a request: its own if it brings one, otherwise a fresh one. -/
def requestId (fresh : String) (r : Request) : String :=
  match (r.header? idHeader).getD "" with
  | "" => fresh
  | id => id

/-- The logger of requests. -/
def logger : String := "alert_bicep.request"

/-- The ends of paths whose requests leave no row in the log. -/
def silentEnds : List (List Char) := ["/health".toList, "/metrics".toList]

/-- Requests for the path leave no row in the log. -/
def isSilent (path : String) : Bool :=
  silentEnds.any (·.isSuffixOf path.toList)

/-- The status that an error which nothing handles is counted under. -/
def errorStatus : Nat := 500

/-- The fields of the row that a request leaves. -/
def rowFields (route : String) (status : Nat) : List (String × Value) :=
  [("route", .text route), ("status_code", .int status)]

/-- The row that a request leaves which was answered. -/
def answeredRow (r : Request) (route : String) (status : Nat) : Log.Row where
  level := .info
  logger := logger
  message := r.method ++ " " ++ r.shownPath ++ " -> " ++ toString status
  fields := rowFields route status

/-- The row that a request leaves which ended in an error. -/
def failedRow (r : Request) (route : String) (e : InternalError) : Log.Row where
  level := .error
  logger := logger
  message := r.method ++ " " ++ r.shownPath ++ " failed with " ++ e.typeName
  fields := rowFields route errorStatus

/-- The state in which a request is handled. -/
def start (s : State) (r : Request) : State :=
  { s with metrics := s.metrics.requestStarted r.method }

/-- The reply to an observed request. -/
def finish (r : Request) (id route : String) (reply : Reply) : Reply :=
  let metrics := reply.state.metrics.requestEnded r.method
  match reply.result with
  | .ok response =>
    { result := .ok (response.withHeaders [(idHeader, id)])
      state := { reply.state with
        metrics := metrics.requestHandled r.method route response.status }
      log := reply.log ++
        (if isSilent r.shownPath then [] else [answeredRow r route response.status]) }
  | .error e =>
    { result := .error e
      state := { reply.state with
        metrics := (metrics.requestHandled r.method route errorStatus).errorRaised e.typeName
          r.method route }
      log := reply.log ++ [failedRow r route e] }

/-- Observe a request while it is handled. -/
def run (site : Site) (s : State) (fresh : String) (r : Request) : Reply :=
  let id := requestId fresh r
  finish r id (Routing.target site r).label (Routing.run site (start s r) id r)

end HealthAlert.Service.Observation
