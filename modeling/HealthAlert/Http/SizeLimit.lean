import HealthAlert.Failure.Internal
import HealthAlert.Http.Message
import HealthAlert.Log.Row
import HealthAlert.Text.Digit

/-!
# The limit on the size of requests

Model of `RequestSizeLimitMiddleware`.

A request whose declared length or whose body exceeds the limit is answered without being looked
at further. The declared length counts for every method, the body for the methods that bring
one. `SizeLimit.check` passes a request on or tells by how much it is too large; a declared
length of digits that do not spell a number is an error.
-/

namespace HealthAlert.Http.SizeLimit

/-- The bytes in a megabyte. -/
def megabyte : Int := 1024 * 1024

/-- The most bytes that a request may have. -/
def bytes (megabytes : Int) : Int :=
  megabytes * megabyte

/-- The most digits that a declared length may have. -/
def maxDigits : Nat := maxIntegerDigits

/-- The length that a request declares: none when the header is absent or holds something else
than digits. -/
def declaredLength (r : Request) : Except InternalError (Option Nat) :=
  match r.header? "content-length" with
  | none => .ok none
  | some s =>
    if !Text.isDigits s then .ok none
    else if !s.toList.all Char.isDigit then .error (.notANumeral s)
    else if maxDigits < s.length then .error (.longInteger s.length)
    else .ok (some (Decimal.ofDigits s.toList))

/-- How a size is known. -/
inductive Source where
  | declared
  | measured
  deriving DecidableEq, Repr

/-- How a size is known, in the log. -/
def Source.label : Source → String
  | .declared => "header"
  | .measured => "actual"

/-- The size of a request that is too large. -/
structure Excess where
  size : Nat
  source : Source
  deriving DecidableEq, Repr

/-- The methods whose requests bring a body. -/
def methodsWithBody : List String := ["POST", "PUT", "PATCH"]

/-- `dispatch`: the size by which a request exceeds the limit. -/
def check (limit : Int) (r : Request) : Except InternalError (Option Excess) :=
  match declaredLength r with
  | .error e => .error e
  | .ok declared =>
    match declared.filter fun (n : Nat) => decide (limit < n) with
    | some n => .ok (some ⟨n, .declared⟩)
    | none =>
      if methodsWithBody.contains r.method && decide (limit < r.body.length) then
        .ok (some ⟨r.body.length, .measured⟩)
      else .ok none

/-- The answer to a request that is too large. -/
def refusal : Response :=
  Response.ofValue 413 (.record [("error", .text "RequestTooLarge"),
    ("message", .text "Request body exceeds maximum allowed size"), ("details", .record [])])

/-- The log row about a request that is too large. -/
def logRow (limit : Int) (r : Request) (e : Excess) : Log.Row where
  level := .warning
  logger := "alert_bicep.core.middleware"
  message := "Request size " ++ toString e.size ++ " bytes (" ++ e.source.label ++
    ") exceeds limit " ++ toString limit ++ " bytes"
  fields := [("path", .text r.shownPath)]

end HealthAlert.Http.SizeLimit
