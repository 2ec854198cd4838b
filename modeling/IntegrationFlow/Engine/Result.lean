import IntegrationFlow.Json.Render
import IntegrationFlow.Text.WhiteSpace

/-!
What a run reports: its result for the caller, with a status code (`0` done, `98` no output
reached, `99` failed), and the audit records written while it runs, one per node executed
and one summary per run.
-/

namespace IntegrationFlow

/-- How a run ended. -/
inductive RunStatus where
  /-- An output node answered. -/
  | completed
  /-- No output node was reached. -/
  | incomplete
  /-- A node failed and no edge led on from it. -/
  | failed
  deriving Inhabited, BEq

def RunStatus.code : RunStatus → Int
  | .completed => 0
  | .incomplete => 98
  | .failed => 99

/-- The outcome of one run as returned to the caller. -/
structure ExecutionResult where
  status : RunStatus
  message : String
  data : Option Members
  processId : String
  trigger : String
  deriving Inhabited

namespace ExecutionResult

def completed (processId trigger : String) (data : Members) : ExecutionResult :=
  { status := .completed, message := "OK", data := some data, processId, trigger }

def incomplete (processId trigger : String) : ExecutionResult :=
  { status := .incomplete, message := "incomplete flow: no output node was reached", data := none,
    processId, trigger }

def failed (processId trigger message : String) (fields : Members) : ExecutionResult :=
  { status := .failed, message, data := some fields, processId, trigger }

/-- The error code an answer carries in `codigoError`, when it is not blank. -/
def errorCode (r : ExecutionResult) : Option String :=
  match r.data.bind (·.get? "codigoError") with
  | some v => if Text.isBlankText v.plain then none else some v.plain
  | none => none

def toJson (r : ExecutionResult) : Json :=
  .obj [("data", match r.data with | some d => .obj d | none => .null),
    ("estado", Json.int r.status.code), ("mensaje", .str r.message),
    ("procesoId", .str r.processId), ("trigger", .str r.trigger)]

end ExecutionResult

/-- The status of an audit record. -/
inductive LogStatus where
  | ok
  | error
  | incomplete
  deriving Inhabited, BEq

def LogStatus.name : LogStatus → String
  | .ok => "ok"
  | .error => "error"
  | .incomplete => "incomplete"

def RunStatus.logStatus : RunStatus → LogStatus
  | .completed => .ok
  | .incomplete => .incomplete
  | .failed => .error

/-- One audit record: a node executed, or the summary of a run (object type `flujo`). -/
structure LogEntry where
  traceId : String
  processId : String
  processName : String
  channel : String
  objectType : String
  objectName : String
  parameters : Json
  result : Json
  fullOutput : Json := .null
  assignments : Json
  status : LogStatus := .ok
  errorDetail : Option String := none
  deriving Inhabited

/-- The record as a document, without its trace id, which is drawn at random. -/
def LogEntry.toJson (e : LogEntry) : Json :=
  .obj [("assignments", e.assignments), ("channel", .str e.channel),
    ("error_detail", match e.errorDetail with | some d => .str d | none => .null),
    ("full_output", e.fullOutput), ("object_name", .str e.objectName),
    ("object_type", .str e.objectType), ("parameters", e.parameters),
    ("process_id", .str e.processId), ("process_name", .str e.processName),
    ("result", e.result), ("status", .str e.status.name)]

end IntegrationFlow
