import HealthAlert.Json.Writer
import HealthAlert.Log.Placeholders
import HealthAlert.Log.Timestamp

/-!
# Structured log lines

Model of `StructuredFormatter`.

`Log.Record.lineText` writes a log record as one line of JSON: timestamp, level, logger, message,
function and line; the ID of the request that is handled, if there is one; the exception that was
caught, if there was one; and under `extra` the fields that came with the record. A field that has
the name of a standard attribute replaces that attribute and is not written under `extra`.
-/

namespace HealthAlert.Log

/-- The exception that a record tells of. -/
inductive ExceptionInfo where
  | none
  /-- Something is said about an exception, and there is none. -/
  | empty
  | caught (typeName message : String)
  /-- Anything else that was put in its place. -/
  | other (v : Value)
  deriving Repr

/-- A log record with its attributes. -/
structure Record where
  created : Value
  level : Value
  logger : Value
  message : Value
  arguments : Value
  function : Value
  line : Value
  exception : ExceptionInfo
  /-- The fields that came with the record, standard attributes aside. -/
  fields : List (String × Value)
  deriving Repr

/-- The attributes that every record has, and those that formatting adds. -/
def standardAttributes : List String := [
  "name", "msg", "args", "levelname", "levelno", "pathname", "filename", "module", "exc_info",
  "exc_text", "stack_info", "lineno", "funcName", "created", "msecs", "relativeCreated", "thread",
  "threadName", "processName", "process", "message", "asctime", "taskName"]

namespace Record

/-- The record with a field set. -/
def set (r : Record) (name : String) (v : Value) : Record :=
  match name with
  | "created" => { r with created := v }
  | "levelname" => { r with level := v }
  | "name" => { r with logger := v }
  | "msg" => { r with message := v }
  | "args" => { r with arguments := v }
  | "funcName" => { r with function := v }
  | "lineno" => { r with line := v }
  | "exc_info" => { r with exception := .other v }
  | _ =>
    if name ∈ standardAttributes then r else { r with fields := Keyed.put r.fields name v }

/-- The arguments of a message as a record keeps them: a single record that is not empty stands
for itself, so that its fields can be asked for. -/
def keptArguments (vs : List Value) : Value :=
  match vs with
  | [.record (e :: es)] => .record (e :: es)
  | vs => .tuple vs

/-- The message, filled in when there are arguments. -/
def filledMessage (r : Record) : Except FillError String :=
  match Placeholder.textOf r.message.display? with
  | .error e => .error e
  | .ok message =>
    if !r.arguments.truthy then .ok message
    else
      match r.arguments with
      | .tuple vs => Placeholder.fill (.several vs) message
      | v => Placeholder.fill (.single v) message

end Record

/-- Why a record has no line. -/
inductive LineError where
  | timestamp (e : TimestampError)
  | message (e : FillError)
  /-- What stands in the exception's place cannot be read as one, for this reason. -/
  | exception (typeName message : String)
  /-- An integer in an entry has more digits than are written. -/
  | unwritableInteger
  deriving Repr

namespace LineError

/-- The name of the error's type. -/
def typeName : LineError → String
  | .timestamp e => e.typeName
  | .message e => e.typeName
  | .exception t _ => t
  | .unwritableInteger => "ValueError"

/-- The error in words. -/
def text : LineError → String
  | .timestamp e => e.message
  | .message e => e.message
  | .exception _ m => m
  | .unwritableInteger => unwritableIntegerMessage

end LineError

/-- The fields about an exception. -/
def exceptionFields (e : ExceptionInfo) : Except LineError (List (String × Value)) :=
  let notIndexed (t : String) : LineError :=
    .exception "TypeError" ("'" ++ t ++ "' object is not subscriptable")
  match e with
  | .none => .ok []
  | .empty => .ok []
  | .caught t m => .ok [("exception", .record [("type", .text t), ("message", .text m)])]
  | .other v =>
    if !v.truthy then .ok []
    else
      let ofParts (parts : List Value) : Except LineError (List (String × Value)) :=
        match parts with
        | .null :: _ => .ok []
        | [v, _, _] =>
          .error (.exception "AttributeError"
            ("'" ++ v.typeName ++ "' object has no attribute '__name__'"))
        | vs =>
          if vs.length < 3 then
            .error (.exception "ValueError"
              ("not enough values to unpack (expected 3, got " ++ toString vs.length ++ ")"))
          else .error (.exception "ValueError" "too many values to unpack (expected 3)")
      match v with
      | .list vs => ofParts vs
      | .tuple vs => ofParts vs
      | .text s => ofParts (s.toList.map fun c => .text (String.ofList [c]))
      | .member m => ofParts (m.text.toList.map fun c => .text (String.ofList [c]))
      | .record _ => .error (.exception "KeyError" "0")
      | .foreign .bytes => ofParts [.int 0x78]
      | .foreign .byteArray => ofParts [.int 0x78]
      | .foreign .range => ofParts [.int 0, .int 1, .int 2]
      | .foreign .exactDecimal => .error (notIndexed "decimal.Decimal")
      | v => .error (notIndexed v.typeName)

/-- The entries of a record's line, in order. -/
def Record.entries (requestId : String) (r : Record) :
    Except LineError (List (String × Value)) :=
  match Timestamp.text r.created with
  | .error e => .error (.timestamp e)
  | .ok timestamp =>
    match r.filledMessage with
    | .error e => .error (.message e)
    | .ok message =>
      match exceptionFields r.exception with
      | .error e => .error e
      | .ok exception =>
        .ok ([("timestamp", .text timestamp), ("level", r.level), ("logger", r.logger),
            ("message", .text message), ("function", r.function), ("line", r.line)] ++
          (if requestId = "" then [] else [("request_id", .text requestId)]) ++
          exception ++
          (if r.fields.isEmpty then [] else [("extra", .record r.fields)]))

/-- The line of a record. -/
def Record.lineText (requestId : String) (r : Record) : Except LineError String :=
  match r.entries requestId with
  | .error e => .error e
  | .ok es =>
    match Json.write? Json.spaced (.record es) with
    | some line => .ok line
    | none => .error .unwritableInteger

end HealthAlert.Log
