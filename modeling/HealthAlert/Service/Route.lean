/-!
# Routes

The routes that `create_app` includes, and a model of `route_label`.

A `Route` is something that the service offers under a template of paths. `Route.resolve` finds
where a request goes: to a route, to a route that does not take its method, to a path without the
slashes at its end, or nowhere. `routeLabel` is how a route is counted and logged.
-/

namespace HealthAlert.Service

/-- A part of a template of paths, between slashes. -/
inductive Segment where
  | literal (text : String)
  /-- Any text that is not empty. -/
  | parameter (name : String)
  deriving DecidableEq, Repr

/-- A document about the service, whose text is made elsewhere. -/
inductive Document where
  | schema
  | explorer
  | signIn
  | reference
  deriving DecidableEq, Repr

/-- What the service offers. -/
inductive Route where
  | health
  | optionKinds
  | options
  /-- A template with what is known about it. -/
  | template
  /-- A template as plain text. -/
  | templateText
  | validation
  | metrics
  | document (d : Document)
  deriving DecidableEq, Repr

namespace Route

/-- The segments in front of those of the interface. -/
def interfaceStart : List Segment := [.literal "api", .literal "v1"]

/-- The template of a route's paths. -/
def segments : Route → List Segment
  | .health => interfaceStart ++ [.literal "health"]
  | .optionKinds => interfaceStart ++ [.literal "options"]
  | .options => interfaceStart ++ [.literal "options", .parameter "kind"]
  | .template => interfaceStart ++ [.literal "templates", .literal "service-health-alert"]
  | .templateText =>
    interfaceStart ++ [.literal "templates", .literal "service-health-alert.bicep"]
  | .validation => interfaceStart ++ [.literal "templates", .literal "validate"]
  | .metrics => [.literal "metrics"]
  | .document .schema => [.literal "openapi.json"]
  | .document .explorer => [.literal "docs"]
  | .document .signIn => [.literal "docs", .literal "oauth2-redirect"]
  | .document .reference => [.literal "redoc"]

/-- The methods that a route takes. -/
def methods : Route → List String
  | .template => ["POST"]
  | .templateText => ["POST"]
  | .validation => ["POST"]
  | .document _ => ["GET", "HEAD"]
  | _ => ["GET"]

/-- The routes that the schema of the interface describes, each with its title. -/
def described : List (Route × String) := [
  (.health, "Health"),
  (.optionKinds, "List Option Kinds"),
  (.options, "Get Options"),
  (.template, "Create Service Health Alert"),
  (.templateText, "Create Service Health Alert Bicep"),
  (.validation, "Validate Alert")]

/-- The documents about the service. -/
def documents : List Route :=
  [.document .schema, .document .explorer, .document .signIn, .document .reference]

/-- All routes; the metrics are offered when the service is observed. -/
def all (observed : Bool) : List Route :=
  documents ++ described.map Prod.fst ++ (if observed then [.metrics] else [])

/-! ## Paths -/

/-- A segment as it is written. -/
def segmentText : Segment → String
  | .literal text => text
  | .parameter name => "\x7b" ++ name ++ "\x7d"

/-- The template of a route's paths as text. -/
def path (r : Route) : String :=
  String.join (r.segments.map fun s => "/" ++ segmentText s)

/-- The parameters in the parts of a path that fit segments. A line feed at the end of the path
counts for nothing after a literal. -/
def fit : List Segment → List String → Option (List String)
  | [], [] => some []
  | .literal text :: segments, part :: parts =>
    if part = text ∨ (parts = [] ∧ part = text ++ "\n") then fit segments parts else none
  | .parameter _ :: segments, part :: parts =>
    if part = "" then none else (fit segments parts).map (part :: ·)
  | _, _ => none

/-- The parts of a path after its first slash. -/
def parts? (path : String) : Option (List String) :=
  match (path.toList.splitOn '/').map String.ofList with
  | "" :: parts => some parts
  | _ => none

/-- The parameters in a path that fits the route. -/
def parameters? (r : Route) (path : String) : Option (List String) :=
  (parts? path).bind (fit r.segments)

/-- The path fits the route. -/
def fits (r : Route) (path : String) : Bool :=
  (r.parameters? path).isSome

end Route

/-! ## Targets -/

/-- Where a request goes. -/
inductive Target where
  | found (r : Route) (parameters : List String)
  /-- The route does not take the request's method. -/
  | wrongMethod (r : Route)
  /-- The path is one of a route, but for the slashes at its end. -/
  | redirect (path : String)
  | unknown
  deriving DecidableEq, Repr

/-- The path without the slashes at its end. -/
def dropFinalSlashes (path : String) : String :=
  String.ofList (path.toList.reverse.dropWhile (· == '/')).reverse

/-- Where a request for a path goes among some routes. -/
def Route.resolve (routes : List Route) (method path : String) : Target :=
  match routes.filter (·.fits path) with
  | r :: rest =>
    match (r :: rest).find? (·.methods.contains method) with
    | some r => .found r ((r.parameters? path).getD [])
    | none => .wrongMethod r
  | [] =>
    let shorter := dropFinalSlashes path
    if shorter != path && routes.any (·.fits shorter) then .redirect shorter else .unknown

/-- How requests without a route are counted and logged. -/
def unmatched : String := "unmatched"

/-- `route_label`: how requests of a route are counted and logged, by the path of the route if it
has one. -/
def routeLabel (path : Option String) : String :=
  match path with
  | none => unmatched
  | some p => if p = "" then unmatched else p

/-- The path of a route by which its requests are counted; documents have none. -/
def Route.countedPath? : Route → Option String
  | .document _ => none
  | r => some r.path

/-- How a request that goes to a target is counted and logged. -/
def Target.label : Target → String
  | .found r _ => routeLabel r.countedPath?
  | .wrongMethod r => routeLabel r.countedPath?
  | _ => unmatched

end HealthAlert.Service
