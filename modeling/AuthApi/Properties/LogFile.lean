import AuthApi.Model.Logging

/-! # The JSON log file

Messages, request ids and error texts of a record come from clients and from the provider. Whatever they are, every
record that can be formatted is one line of the file, and the file tells which of them were written.
-/

namespace AuthApi

open Encoding

/-- What the file tells of a record. -/
structure ShownRecord where
  timestamp : String
  levelname : String
  name : String
  message : String
  process : Option ℤ
  requestId : String
  traceId : String
  spanId : String
  error : Option LoggedException
  stackTrace : Option String
deriving DecidableEq, Repr

/-- The object of a line. -/
def ShownRecord.payload (shown : ShownRecord) : JsonText :=
  .obj <|
    [("@timestamp", .str shown.timestamp),
      ("service", .obj [("name", .str "auth-api")]),
      ("log", .obj [("level", .str shown.levelname), ("logger", .str shown.name)]),
      ("message", .str shown.message),
      ("process", .obj [("pid", shown.process.elim .null .int)]),
      ("request", .obj [("id", .str shown.requestId)]),
      ("trace", .obj [("id", .str shown.traceId)]),
      ("span", .obj [("id", .str shown.spanId)])] ++
    shown.error.elim [] (fun exc => [("error", .obj [("type", .str exc.type), ("message", .str exc.message),
      ("stack_trace", .str exc.stackTrace)])]) ++
    shown.stackTrace.elim [] fun stackTrace => [("stack_trace", .str stackTrace)]

/-- The file shows no record whose `exc_info` names no exception, and no empty stack. -/
def LogRecord.shown? (record : LogRecord) : Option ShownRecord :=
  let shown (error : Option LoggedException) : ShownRecord :=
    { timestamp := record.timestamp, levelname := record.levelname, name := record.name, message := record.message
      process := record.process, requestId := record.requestId.getD "-", traceId := record.traceId.getD "-"
      spanId := record.spanId.getD "-", error, stackTrace := record.stackInfo.filter (· ≠ "") }
  match record.excInfo with
  | .none => some (shown none)
  | .nones => none
  | .raised exc => some (shown (some exc))

section Payloads

variable {record : LogRecord} {shown other : ShownRecord}

theorem pid_inj {process other : Option ℤ} :
    process.elim JsonText.null .int = other.elim JsonText.null .int ↔ process = other := by
  cases process <;> cases other <;> simp

theorem optionalFields_inj {error exc : Option LoggedException} {stackTrace stack : Option String} :
    error.elim [] (fun exc => [("error", JsonText.obj [("type", .str exc.type), ("message", .str exc.message),
        ("stack_trace", .str exc.stackTrace)])]) ++
        stackTrace.elim [] (fun stackTrace => [("stack_trace", JsonText.str stackTrace)]) =
      exc.elim [] (fun exc => [("error", JsonText.obj [("type", .str exc.type), ("message", .str exc.message),
        ("stack_trace", .str exc.stackTrace)])]) ++
        stack.elim [] (fun stackTrace => [("stack_trace", JsonText.str stackTrace)]) ↔
      error = exc ∧ stackTrace = stack := by
  constructor
  · intro same
    rcases error with _ | ⟨type, message, trace⟩ <;> rcases exc with _ | ⟨type', message', trace'⟩ <;>
      cases stackTrace <;> cases stack <;> simp_all
  · rintro ⟨rfl, rfl⟩
    rfl

/-- A line tells the record it shows. -/
theorem ShownRecord.payload_injective : Function.Injective ShownRecord.payload := by
  rintro ⟨⟩ ⟨⟩ same
  simpa [ShownRecord.payload, optionalFields_inj, pid_inj, and_assoc] using same

theorem payload_eq_shown (record : LogRecord) :
    JsonFormatter.payload record = record.shown?.map ShownRecord.payload := by
  have stack : JsonFormatter.stackFields record.stackInfo =
      (record.stackInfo.filter (· ≠ "")).elim [] fun stackTrace => [("stack_trace", .str stackTrace)] := by
    cases record.stackInfo with
    | none => rfl
    | some stackInfo => by_cases empty : stackInfo = "" <;> simp [JsonFormatter.stackFields, Option.filter, empty]
  unfold JsonFormatter.payload LogRecord.shown?
  rw [stack]
  cases record.excInfo <;> rfl

/-- A line has no line break but its own. -/
theorem line_break_not_mem_dumps (payload : JsonText) : '\n' ∉ dumps false payload := by
  intro member
  have printable := printable_dumps _ _ member
  exact absurd printable (by decide)

end Payloads

/-- What the file shows of the records that were written. -/
def shownRecords (entries : List (LogContext × LogRecord)) : List ShownRecord :=
  entries.filterMap fun entry => (entry.2.filter entry.1).shown?

/-- The file is made of the lines of what it shows. -/
theorem jsonFile_eq (entries : List (LogContext × LogRecord)) :
    jsonFile entries = (shownRecords entries).flatMap fun shown => dumps false shown.payload ++ ['\n'] := by
  induction entries with
  | nil => rfl
  | cons entry entries ih =>
    have file : jsonFile (entry :: entries) = jsonFileLine entry ++ jsonFile entries := rfl
    rw [file, ih, jsonFileLine, JsonFormatter.format, payload_eq_shown]
    simp only [shownRecords, List.filterMap_cons]
    cases (entry.2.filter entry.1).shown? <;> rfl

/-- The lines of the file are the records that could be formatted. -/
theorem lines_jsonFile (entries : List (LogContext × LogRecord)) :
    ((jsonFile entries).splitOn '\n').filter (· ≠ []) =
      (shownRecords entries).map fun shown => dumps false shown.payload := by
  rw [jsonFile_eq]
  induction shownRecords entries with
  | nil => rfl
  | cons shown rest ih =>
    rw [List.flatMap_cons, List.append_assoc, List.singleton_append,
      List.splitOn_append_cons_self_of_not_mem (line_break_not_mem_dumps _), List.filter_cons_of_pos, ih,
      List.map_cons]
    simpa using dumps_ne_nil _

theorem readJsonLines_jsonFile (entries : List (LogContext × LogRecord)) :
    readJsonLines (jsonFile entries) = some ((shownRecords entries).map ShownRecord.payload) := by
  rw [readJsonLines, lines_jsonFile]
  induction shownRecords entries with
  | nil => rfl
  | cons shown rest ih =>
    rw [List.map_cons, List.mapM_cons, ih, loads_dumps]
    rfl

/-- Whatever was logged, in whatever order and by whichever requests, the file has one line for each record that can be
formatted, each line is read back as the payload of its record, two files are the same only if they show the same
records, and the records of `log_handled_exception` are all among them. -/
theorem log_file_reads_back (entries : List (LogContext × LogRecord)) :
    readJsonLines (jsonFile entries) =
        some (entries.filterMap fun entry => JsonFormatter.payload (entry.2.filter entry.1)) ∧
      (∀ others : List (LogContext × LogRecord),
        jsonFile entries = jsonFile others ↔ shownRecords entries = shownRecords others) ∧
      ∀ context debug record message exc,
        ((LogRecord.handledException debug record message exc).filter context).shown?.isSome = true := by
  refine ⟨?_, fun others => ⟨fun same => ?_, fun same => ?_⟩, ?_⟩
  · rw [readJsonLines_jsonFile, shownRecords, List.map_filterMap]
    simp only [payload_eq_shown]
  · have payloads := (readJsonLines_jsonFile entries).symm.trans (same ▸ readJsonLines_jsonFile others)
    exact List.map_injective_iff.mpr ShownRecord.payload_injective (Option.some.inj payloads)
  · rw [jsonFile_eq, jsonFile_eq, same]
  · intro context debug record message exc
    have kept : ((LogRecord.handledException debug record message exc).filter context).excInfo =
        if debug then .raised exc else .none := by
      unfold LogRecord.filter
      split <;> rfl
    unfold LogRecord.shown?
    rw [kept]
    cases debug <;> rfl

/-- A message cannot end its line. -/
example : (readJsonLines (jsonFile [(⟨none, ⟨0, 0⟩⟩,
    { timestamp := "", levelname := "INFO", name := "app", message := "a\nb", process := none })])).map List.length =
      some 1 := by
  decide +kernel

end AuthApi
