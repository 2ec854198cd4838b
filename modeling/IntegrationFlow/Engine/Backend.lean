import IntegrationFlow.Engine.Store
import IntegrationFlow.Text.Case

/-!
Backends answer the calls of process nodes with the raw text of an answer or a fault, and take
some time to do so; the registry finds one by its type tag, without regard to case. A scripted
backend answers from a table of responses keyed by the node's `objeto`, so a flow runs without
a network.
-/

namespace IntegrationFlow

/-- What a backend answered, and how many milliseconds it took. -/
structure BackendReply where
  outcome : Except BackendError String
  delayMs : Nat := 0

/-- A backend for servers of one type. -/
structure BackendExecutor where
  serverType : String
  answer : NodeSpec → Members → ServerConfig → BackendReply

/-- Backends by lowercase type tag; a later registration replaces an earlier one. -/
abbrev BackendRegistry := List (String × BackendExecutor)

namespace BackendRegistry

def registerAs (r : BackendRegistry) (tag : String) (b : BackendExecutor) : BackendRegistry :=
  let t := Text.toLower tag
  r.filter (·.1 != t) ++ [(t, b)]

def register (r : BackendRegistry) (b : BackendExecutor) : BackendRegistry := r.registerAs b.serverType b

def get (r : BackendRegistry) (serverType : String) : Except NodeError BackendExecutor :=
  match r.lookup (Text.toLower serverType) with
  | some b => .ok b
  | none => .error (.unsupportedServerType serverType)

def tags (r : BackendRegistry) : List String := (r.map Prod.fst).mergeSort (· ≤ ·)

end BackendRegistry

/-- A call made to a backend: the node, the object it names, the server and the context
the backend saw. -/
structure BackendCall where
  node : String
  object : String
  server : String
  context : Members
  deriving Inhabited

def NodeSpec.objectName (n : NodeSpec) : String := ((n.data.get? "objeto").map Json.plain).getD ""

def BackendReply.scripted : Json → BackendReply
  | .str s => { outcome := .ok s }
  | .obj kvs =>
    let m : Members := kvs
    let delayMs := match m.get? "delay_ms" with
      | some (.num (.int n)) => n.toNat
      | some (.num (.float f)) => if f > 0 then f.toUInt64.toNat else 0
      | _ => 0
    let text (k : String) : String := ((m.get? k).map Json.plain).getD ""
    let outcome : Except BackendError String :=
      if m.contains "raw" then .ok (text "raw")
      else if m.contains "json" then .ok ((m.get? "json").getD .null).render
      else if m.contains "status" then
        match m.get? "status" with
        | some (.num (.int n)) => .error (.status n.toNat (text "body"))
        | _ => .error (.status 500 (text "body"))
      else if m.contains "fault" then .error (.fault (text "fault") (text "message") (text "body"))
      else if m.contains "request_error" then .error (.request (text "request_error"))
      else if m.contains "config_error" then .error (.configuration (text "config_error"))
      else .ok (Json.obj m).render
    { outcome, delayMs }
  | j => { outcome := .ok j.render }

/-- A backend that answers from scripted responses by the node's object name; an object
without a response fails with status 500. -/
def BackendExecutor.scripted (serverType : String) (responses : Members) : BackendExecutor :=
  { serverType,
    answer := fun node _ _ =>
      match responses.get? node.objectName with
      | some j => BackendReply.scripted j
      | none => { outcome := .error (.status 500 "boom") } }

end IntegrationFlow
