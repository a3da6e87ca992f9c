import HealthAlert.Http.Message
import HealthAlert.Json.Encoding
import HealthAlert.Text.Blank
import HealthAlert.Text.Lowercase

/-!
# Payloads

What a request brings to a route that needs a value. A body of a JSON media type is read as JSON;
any other body is a text. An empty body and the JSON null bring nothing.
-/

namespace HealthAlert.Service

/-- The value that a request brings. -/
inductive Payload where
  | none
  /-- A value, with the characters in it that stand for lone surrogates. -/
  | value (v : Value) (lone : Text.StandIns)
  /-- The body is not JSON, for this reason at this offset. -/
  | malformed (problem : Json.Problem) (position : Nat)
  /-- The body is JSON that cannot be read. -/
  | unreadable
  /-- The body is no text. -/
  | undecodable (fault : Text.Utf8.Fault)
  deriving Repr

/-- The media type in a content type, without its parameters and in small letters. -/
def mediaType (contentType : String) : List Char :=
  Text.trimBlanks
    (Text.lowercase (String.ofList (contentType.toList.takeWhile (· != ';')))).toList

/-- The content type is one of JSON: the subtype of applications is `json` or ends in `+json`. -/
def isJsonType (contentType : String) : Bool :=
  match (mediaType contentType).splitOn '/' with
  | [main, sub] =>
    main == "application".toList && (sub == "json".toList || "+json".toList.isSuffixOf sub)
  | _ => false

/-- The payload that bytes of JSON spell. -/
def Payload.ofJson (bytes : List UInt8) : Payload :=
  match Json.readBytes bytes with
  | .value ⟨.null, _⟩ => .none
  | .value d => .value d.value d.lone
  | .malformed problem position => .malformed problem position
  | .unreadable => .unreadable

/-- The payload that bytes of another media type spell. -/
def Payload.ofText (bytes : List UInt8) : Payload :=
  match Text.Utf8.decode bytes with
  | .ok cs => .value (.text (String.ofList cs)) []
  | .error fault => .undecodable fault

/-- The payload of a request. -/
def Payload.ofRequest (r : Http.Request) : Payload :=
  if r.body.isEmpty then .none
  else if isJsonType ((r.header? "content-type").getD "") then Payload.ofJson r.body
  else Payload.ofText r.body

end HealthAlert.Service
