import HealthAlert.Http.Message

/-!
# Sharing with pages of other origins

The rules for other origins that `create_app` installs.

A browser asks with a preflight whether a page of another origin may make a request.
`Sharing.preflight` is the answer; it says what is not allowed. `Sharing.share` marks any other
response with the origin that may read it.
-/

namespace HealthAlert.Http.Sharing

/-- The entry in a list of origins that stands for all. -/
def anyOrigin : String := "*"

/-- Pages of an origin may use the service. -/
def allows (origins : List String) (origin : String) : Bool :=
  origins.contains anyOrigin || origins.contains origin

/-- The methods that pages of other origins may use. -/
def methods : List String := ["GET", "POST"]

/-- The request asks whether another one is allowed. -/
def isPreflight (r : Request) : Bool :=
  r.method == "OPTIONS" && r.hasHeader "origin" && r.hasHeader "access-control-request-method"

/-- The header that names the origin, when it is allowed. -/
def originHeader (origins : List String) (origin : String) : List (String × String) :=
  if allows origins origin then [("access-control-allow-origin", origin)] else []

/-- What a preflight asks for that is not allowed. -/
def refused (origins : List String) (r : Request) : List String :=
  (if allows origins ((r.header? "origin").getD "") then [] else ["origin"]) ++
    (if methods.contains ((r.header? "access-control-request-method").getD "") then []
      else ["method"]) ++
    (if r.hasHeader "access-control-request-private-network" then ["private-network"] else [])

/-- The headers of the answer to a preflight. -/
def preflightHeaders (origins : List String) (r : Request) : List (String × String) :=
  [("access-control-allow-credentials", "true"),
    ("access-control-allow-methods", String.intercalate ", " methods),
    ("access-control-max-age", "600"),
    ("vary", "Origin, Access-Control-Request-Method, Access-Control-Request-Headers, " ++
      "Access-Control-Request-Private-Network")] ++
    originHeader origins ((r.header? "origin").getD "") ++
    (match r.header? "access-control-request-headers" with
      | some names => [("access-control-allow-headers", names)]
      | none => [])

/-- The answer to a preflight. -/
def preflight (origins : List String) (r : Request) : Response :=
  let response :=
    match refused origins r with
    | [] => Response.ofText 200 textType "OK"
    | failures =>
      Response.ofText 400 textType ("Disallowed CORS " ++ String.intercalate ", " failures)
  response.withHeaders (preflightHeaders origins r)

/-- The response with the headers by which pages of other origins may read it. -/
def share (origins : List String) (r : Request) (response : Response) : Response :=
  response.withHeaders
    (match r.header? "origin" with
      | none => [("vary", "Origin")]
      | some origin =>
        ("access-control-allow-credentials", "true") :: ("vary", "Origin") ::
          originHeader origins origin)

end HealthAlert.Http.Sharing
