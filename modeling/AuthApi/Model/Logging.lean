import AuthApi.Encoding.JsonText
import AuthApi.Model.Uuid

/-! # Log records

`app/core/logging.py`: the filter that marks every record with the request and the span it belongs to, and the
formatter of the JSON log file. The rendering of the time, of the message and of a traceback, which is the standard
library's, has happened before.
-/

namespace AuthApi

open Encoding

/-- An exception with its rendered traceback. -/
structure LoggedException where
  type : String
  message : String
  stackTrace : String
deriving DecidableEq, Repr

/-- `record.exc_info`; what `sys.exc_info()` returns outside of an `except` block is a triple of `None`s. -/
inductive LoggedExcInfo where
  | none
  | nones
  | raised (exc : LoggedException)
deriving DecidableEq, Repr

structure LogRecord where
  timestamp : String
  levelname : String
  name : String
  message : String
  process : Option ℤ
  requestId : Option String := none
  traceId : Option String := none
  spanId : Option String := none
  excInfo : LoggedExcInfo := .none
  stackInfo : Option String := none
deriving DecidableEq, Repr

/-- The ids of the current span, both zero outside of any. -/
structure SpanContext where
  traceId : BitVec 128
  spanId : BitVec 64
deriving DecidableEq, Repr

def SpanContext.isValid (context : SpanContext) : Bool := context.traceId ≠ 0 && context.spanId ≠ 0

/-- Where a record is written: the value of the context variable of the request id, and the current span. -/
structure LogContext where
  requestId : Option String
  span : SpanContext
deriving DecidableEq, Repr

/-- `get_request_id`. -/
def LogContext.getRequestId (context : LogContext) : String :=
  match context.requestId with
  | none => "-"
  | some requestId => if requestId = "" then "-" else requestId

/-- `TraceContextFilter.filter`. -/
def LogRecord.filter (context : LogContext) (record : LogRecord) : LogRecord :=
  if context.span.isValid then
    { record with
      requestId := some context.getRequestId
      traceId := some (String.ofList (UUID.hexDigits 32 context.span.traceId.toNat))
      spanId := some (String.ofList (UUID.hexDigits 16 context.span.spanId.toNat)) }
  else { record with requestId := some context.getRequestId, traceId := some "-", spanId := some "-" }

/-- `log_handled_exception`; the record comes with what the logger itself fills in. -/
def LogRecord.handledException (debug : Bool) (record : LogRecord) (message : String) (exc : LoggedException) :
    LogRecord :=
  { record with
    levelname := "INFO"
    message := message ++ ": exception=" ++ exc.type
    excInfo := if debug then .raised exc else .none }

namespace JsonFormatter

/-- `getattr(record, name, "-")`. -/
def getattr (value : Option String) : JsonText := .str (value.getD "-")

/-- The field of an error; a triple of `None`s is true, and the class it has in place of an exception is no class: an
`AttributeError`. -/
def errorFields : LoggedExcInfo → Option (List (String × JsonText))
  | .none => some []
  | .nones => none
  | .raised exc =>
    some [("error", .obj [("type", .str exc.type), ("message", .str exc.message),
      ("stack_trace", .str exc.stackTrace)])]

/-- The field of a stack, for the records that have one. -/
def stackFields : Option String → List (String × JsonText)
  | none => []
  | some stackInfo => if stackInfo = "" then [] else [("stack_trace", .str stackInfo)]

/-- What `JsonFormatter.format` dumps, unless it fails. -/
def payload (record : LogRecord) : Option JsonText :=
  (errorFields record.excInfo).map fun error => .obj <|
    [("@timestamp", .str record.timestamp),
      ("service", .obj [("name", .str "auth-api")]),
      ("log", .obj [("level", .str record.levelname), ("logger", .str record.name)]),
      ("message", .str record.message),
      ("process", .obj [("pid", record.process.elim .null .int)]),
      ("request", .obj [("id", getattr record.requestId)]),
      ("trace", .obj [("id", getattr record.traceId)]),
      ("span", .obj [("id", getattr record.spanId)])] ++ error ++ stackFields record.stackInfo

def format (record : LogRecord) : Option (List Char) := (payload record).map (dumps false)

end JsonFormatter

/-- The handler `json_file` writes a filtered record on a line of its own; one that cannot be formatted is dropped. -/
def jsonFileLine (entry : LogContext × LogRecord) : List Char :=
  match JsonFormatter.format (entry.2.filter entry.1) with
  | none => []
  | some line => line ++ ['\n']

/-- The log file after these records, as long as it is not rotated. -/
def jsonFile (entries : List (LogContext × LogRecord)) : List Char := entries.flatMap jsonFileLine

/-- A reader of the log file takes each line that is not blank for one document. -/
def readJsonLines (file : List Char) : Option (List JsonText) :=
  ((file.splitOn '\n').filter (· ≠ [])).mapM loads

end AuthApi
