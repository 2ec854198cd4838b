import IntegrationFlow.Flow.Definition
import IntegrationFlow.Flow.Table
import IntegrationFlow.Json.Lenient

/-!
What the engine keeps between runs: flows stored as records holding their definition as
text, the connection settings of servers, and lookup tables. A flow's text is read when a
run starts, so a node written back during a run is seen by later runs of that flow.
-/

namespace IntegrationFlow

/-- A stored flow: its id, its name, and its definition as text. -/
structure FlowRecord where
  id : String
  name : String := ""
  text : String
  deriving Inhabited

/-- The connection settings of a server that process nodes call. -/
structure ServerConfig where
  id : String := ""
  code : String := ""
  name : String := ""
  /-- The tag of the backend that serves it, matched without regard to case. -/
  serverType : String
  host : String
  port : Option Nat := none
  user : String := ""
  password : String := ""
  extras : Members := []
  deriving Inhabited

namespace ServerConfig

/-- Decodes server settings; `tipo` and `host` are required, and texts may be `null`. -/
def decode : Decoder ServerConfig :=
  Decoder.record "struct ServerConfig"
    [ { name := "id", store := fun s j => (fun v => { s with id := v }) <$> Decoder.string j },
      { name := "codigo", store := fun s j => (fun v => { s with code := v }) <$> Decoder.textOrEmpty j },
      { name := "nombre", store := fun s j => (fun v => { s with name := v }) <$> Decoder.textOrEmpty j },
      { name := "tipo", hasDefault := false,
        store := fun s j => (fun v => { s with serverType := v }) <$> Decoder.string j },
      { name := "host", hasDefault := false,
        store := fun s j => (fun v => { s with host := v }) <$> Decoder.string j },
      { name := "puerto",
        store := fun s j => (fun v => { s with port := v }) <$> Decoder.optional (Decoder.unsigned 16 "u16") j },
      { name := "usuario", store := fun s j => (fun v => { s with user := v }) <$> Decoder.textOrEmpty j },
      { name := "clave", store := fun s j => (fun v => { s with password := v }) <$> Decoder.textOrEmpty j },
      { name := "extras",
        store := fun s j => (fun v => { s with extras := v }) <$> Decoder.orDefault [] Decoder.members j } ]
    { serverType := "", host := "" }

end ServerConfig

/-- The flows, servers and tables the engine reads. Of two entries with one id, the later
one counts. -/
structure Store where
  flows : List FlowRecord := []
  servers : List ServerConfig := []
  tables : Tables := []
  deriving Inhabited

namespace Store

def loadFlow (s : Store) (id : String) : Except StoreError FlowRecord :=
  match s.flows.reverse.find? (·.id == id) with
  | some r => .ok r
  | none => .error (.notFound "flow" id)

def loadServer (s : Store) (id : String) : Except StoreError ServerConfig :=
  match s.servers.reverse.find? (·.id == id) with
  | some r => .ok r
  | none => .error (.notFound "server" id)

def insertFlow (s : Store) (r : FlowRecord) : Store :=
  if s.flows.any (·.id == r.id) then
    { s with flows := s.flows.map fun f => if f.id == r.id then r else f }
  else { s with flows := s.flows ++ [r] }

def definition (s : Store) (processId : String) : Except StoreError FlowDefinition := do
  let r ← s.loadFlow processId
  match FlowDefinition.parse r.text with
  | .ok d => pure d
  | .error e => throw (.invalid (e.message))

/-- Replaces the first node with the id of `node` in the stored definition of a flow, and
stores the definition's text again. -/
def updateNode (s : Store) (processId : String) (node : NodeSpec) : Except StoreError Store := do
  let r ← s.loadFlow processId
  let d ← match FlowDefinition.parse r.text with
    | .ok d => pure d
    | .error e => throw (.invalid (e.message))
  match d.nodes.findIdx? (·.id == node.id) with
  | none => throw (.notFound "node" node.id)
  | some i =>
    let d := { d with nodes := d.nodes.set i node }
    return s.insertFlow { r with text := d.text }

end Store

end IntegrationFlow
