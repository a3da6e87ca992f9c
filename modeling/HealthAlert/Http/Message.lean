import HealthAlert.Json.Writer
import HealthAlert.Text.Hexadecimal

/-!
# HTTP messages

A `Request` as it reaches the service, and the `Response` that is sent back. Names of headers are
compared without case; of several headers with one name the first counts. `Request.shownPath` is
the path of a request as logs show it, and `Request.address` the address of a path on the host that
the request was made to. A request that names no proper host was made to the server that answers.
-/

namespace HealthAlert.Http

/-- A request. -/
structure Request where
  method : String
  path : String
  /-- What follows the question mark, empty when nothing does. -/
  query : String := ""
  headers : List (String × String) := []
  body : List UInt8 := []
  /-- The server that answers, as it calls itself. -/
  server : String
  /-- Where the request comes from. -/
  client : String

/-- A response; names of headers are in small letters. -/
structure Response where
  status : Nat
  headers : List (String × String)
  body : String
  deriving DecidableEq, Repr

/-! ## Headers -/

/-- The value of the first header with a name, which is given in small letters. -/
def header? (headers : List (String × String)) (name : String) : Option String :=
  (headers.find? fun h => h.1.toLower == name).map (·.2)

theorem header?_cons (h : String × String) (headers : List (String × String)) (name : String) :
    header? (h :: headers) name =
      if h.1.toLower = name then some h.2 else header? headers name := by
  unfold header?
  by_cases hn : h.1.toLower = name
  · rw [if_pos hn, List.find?_cons_of_pos (by simpa using hn), Option.map_some]
  · rw [if_neg hn, List.find?_cons_of_neg (by simpa using hn)]

/-- The value of a header of a request. -/
def Request.header? (r : Request) (name : String) : Option String :=
  Http.header? r.headers name

/-- The request has a header. -/
def Request.hasHeader (r : Request) (name : String) : Bool :=
  (r.header? name).isSome

/-- The response with more headers. -/
def Response.withHeaders (r : Response) (headers : List (String × String)) : Response :=
  { r with headers := r.headers ++ headers }

/-! ## Responses -/

/-- The media type of JSON. -/
def jsonType : String := "application/json"

/-- The media type of text. -/
def textType : String := "text/plain; charset=utf-8"

/-- A response with a body of a media type. -/
def Response.ofText (status : Nat) (mediaType body : String) : Response where
  status
  headers := [("content-length", toString body.utf8ByteSize), ("content-type", mediaType)]
  body

/-- A response with a value as its body. -/
def Response.ofValue (status : Nat) (v : Value) : Response :=
  Response.ofText status jsonType (Json.write Json.compact v)

/-- A response without body. -/
def Response.bare (status : Nat) : Response where
  status
  headers := [("content-length", "0")]
  body := ""

/-! ## Addresses -/

/-- A character of a path as it stands in an address, where some have a meaning of their own. -/
def addressChar (c : Char) : List Char :=
  if c == '\\' then "%5C".toList
  else if c == '#' then "%23".toList
  else if c == '?' then "%3F".toList
  else [c]

/-- A path as it stands in an address. -/
def addressPath (path : String) : String :=
  String.ofList (path.toList.flatMap addressChar)

/-- A character that addresses drop. -/
def isDropped (c : Char) : Bool :=
  c == '\t' || c == '\n' || c == '\r'

/-- The path with a slash in front, unless it is empty. -/
def rooted (path : String) : String :=
  if path = "" || path.startsWith "/" then path else "/" ++ path

/-- The path of a request as it is shown. -/
def Request.shownPath (r : Request) : String :=
  String.ofList ((addressPath (rooted r.path)).toList.filter fun c => !isDropped c)

/-- The characters that an address may hold as they are. -/
def isAddressChar (c : Char) : Bool :=
  c.isAlphanum || "_.-~:/%#?=@[]!$&'()*+,;".toList.contains c

/-- A byte as a percent sign and two capital hexadecimal digits. -/
def percentByte (b : UInt8) : List Char :=
  ['%', (Nat.digitChar (b.toNat / 16)).toUpper, (Nat.digitChar (b.toNat % 16)).toUpper]

/-- A text with every character that an address may not hold written as its bytes. -/
def percentEncode (s : String) : String :=
  String.ofList (s.toList.flatMap fun c =>
    if isAddressChar c then [c] else (String.singleton c).toUTF8.toList.flatMap percentByte)

/-! ### Hosts -/

/-- A character that the name of a host may hold as it is. -/
def isHostChar (c : Char) : Bool :=
  c.isAlphanum || "-._~!$&'()*+,;=".toList.contains c

/-- The characters form the name of a host; a percent sign takes two hexadecimal digits. -/
def isHostName : List Char → Bool
  | [] => true
  | '%' :: a :: b :: rest => Text.isHexDigit a && Text.isHexDigit b && isHostName rest
  | c :: rest => isHostChar c && isHostName rest

/-- The characters are nothing, or a port after a colon. -/
def isPortSuffix : List Char → Bool
  | [] => true
  | ':' :: port => port.all Char.isDigit
  | _ => false

/-- The characters form an address of numbers between brackets, and perhaps a port. -/
def isBracketedHost : List Char → Bool
  | '[' :: rest =>
    let isNumberChar (c : Char) : Bool := Text.isHexDigit c || c == ':' || c == '.'
    match rest.span isNumberChar with
    | (_ :: _, ']' :: suffix) => isPortSuffix suffix
    | _ => false
  | _ => false

/-- The characters form the name of a host, and perhaps a port. -/
def isNamedHost (cs : List Char) : Bool :=
  let (name, suffix) := cs.span (· != ':')
  !name.isEmpty && isHostName name && isPortSuffix suffix

/-- The text is a host, with or without a port. -/
def isHost (s : String) : Bool :=
  isBracketedHost s.toList || isNamedHost s.toList

/-- The host that a request was made to: the one that it names, if that is a host, and otherwise
the server that answers. -/
def Request.host (r : Request) : String :=
  ((r.header? "host").filter isHost).getD r.server

/-- The address of a path on the server that the request was made to, with the query of the
request. -/
def Request.address (r : Request) (path : String) : String :=
  percentEncode ("http://" ++ r.host ++ addressPath (rooted path) ++
    (if r.query = "" then "" else "?" ++ r.query))

end HealthAlert.Http
