import IntegrationFlow.Json.TextRecord
import IntegrationFlow.Flow.Node
import IntegrationFlow.Flow.Error

/-!
A flow as stored: an identity, a name, nodes and edges between node ids. An edge is followed
on success of its source, or on failure when its type is exactly `error`. A flow is read from
its text as a record, and written with its fields in declaration order and its `data` members
in key order.
-/

namespace IntegrationFlow

/-- A place in the visual editor, in single precision. -/
structure Position where
  x : Float32
  y : Float32
  deriving Inhabited

/-- A node as stored. -/
structure NodeSpec where
  id : String
  type : String
  data : Members := []
  position : Option Position := none
  deriving Inhabited

/-- An edge as stored. -/
structure EdgeSpec where
  id : String := ""
  source : String
  target : String
  /-- Followed when its source failed, instead of when it succeeded. -/
  onError : Bool := false
  handle : Option String := none
  deriving Inhabited

/-- A flow as stored. -/
structure FlowDefinition where
  id : String := ""
  name : String := ""
  nodes : List NodeSpec := []
  edges : List EdgeSpec := []
  deriving Inhabited

namespace NodeSpec

def kind (n : NodeSpec) : NodeKind := NodeKind.ofTag n.type

/-- The label shown for a node: `data.label` when it is a text that is not blank, else the
id. -/
def label (n : NodeSpec) : String :=
  match n.data.get? "label" with
  | some (.str l) => if Text.isBlankText l then n.id else l
  | _ => n.id

end NodeSpec

namespace EdgeSpec

def follows (e : EdgeSpec) (errored : Bool) : Bool := e.onError == errored

def typeTag (e : EdgeSpec) : String := if e.onError then "error" else "normal"

end EdgeSpec

/-! ### Reading from text -/

namespace FlowDefinition

open TextDecoder

def readPosition : TextDecoder Position :=
  record "struct Position"
    [ { name := "x", hasDefault := false,
        read := fun p fuel depth r => (single fuel depth r).map fun (v, r) => ({ p with x := v }, r) },
      { name := "y", hasDefault := false,
        read := fun p fuel depth r => (single fuel depth r).map fun (v, r) => ({ p with y := v }, r) } ]
    ⟨0, 0⟩

def readNode : TextDecoder NodeSpec :=
  record "struct NodeSpec"
    [ { name := "id", hasDefault := false,
        read := fun n fuel depth r => (string fuel depth r).map fun (v, r) => ({ n with id := v }, r) },
      { name := "type", hasDefault := false,
        read := fun n fuel depth r => (string fuel depth r).map fun (v, r) => ({ n with type := v }, r) },
      { name := "data",
        read := fun n fuel depth r => (members fuel depth r).map fun (v, r) => ({ n with data := v }, r) },
      { name := "position",
        read := fun n fuel depth r =>
          (optional readPosition fuel depth r).map fun (v, r) => ({ n with position := v }, r) } ]
    { id := "", type := "" }

/-- Reads an edge; its type is `error` only when written exactly so, any other text or
`null` is a normal edge. -/
def readEdge : TextDecoder EdgeSpec :=
  record "struct EdgeSpec"
    [ { name := "id",
        read := fun e fuel depth r => (string fuel depth r).map fun (v, r) => ({ e with id := v }, r) },
      { name := "source", hasDefault := false,
        read := fun e fuel depth r => (string fuel depth r).map fun (v, r) => ({ e with source := v }, r) },
      { name := "target", hasDefault := false,
        read := fun e fuel depth r => (string fuel depth r).map fun (v, r) => ({ e with target := v }, r) },
      { name := "type",
        read := fun e fuel depth r =>
          (optional string fuel depth r).map fun (v, r) => ({ e with onError := v == some "error" }, r) },
      { name := "sourceHandle",
        read := fun e fuel depth r => (optional string fuel depth r).map fun (v, r) => ({ e with handle := v }, r) } ]
    { source := "", target := "" }

def readFlow : TextDecoder FlowDefinition :=
  record "struct FlowDefinition"
    [ { name := "id",
        read := fun d fuel depth r => (string fuel depth r).map fun (v, r) => ({ d with id := v }, r) },
      { name := "name", aliases := ["nombre"],
        read := fun d fuel depth r => (string fuel depth r).map fun (v, r) => ({ d with name := v }, r) },
      { name := "nodes",
        read := fun d fuel depth r => (list readNode fuel depth r).map fun (v, r) => ({ d with nodes := v }, r) },
      { name := "edges",
        read := fun d fuel depth r => (list readEdge fuel depth r).map fun (v, r) => ({ d with edges := v }, r) } ]
    {}

def parse (text : String) : Except FlowError FlowDefinition :=
  match TextDecoder.run readFlow text with
  | .ok d => .ok d
  | .error e => .error (.malformed e.message)

end FlowDefinition

/-! ### Writing as text -/

/-- The text of a record: its fields, already written, in the order given. -/
def recordText (fields : List (String × String)) : String :=
  "\x7b" ++ ",".intercalate (fields.map fun (k, v) => quote false k ++ ":" ++ v) ++ "\x7d"

/-- The text of a single-precision number; `null` when it is not finite. -/
def Position.coordText (v : Float32) : String := (renderFloat32? v).getD "null"

def Position.text (p : Position) : String :=
  recordText [("x", Position.coordText p.x), ("y", Position.coordText p.y)]

def NodeSpec.text (n : NodeSpec) : String :=
  recordText ([("id", quote false n.id), ("type", quote false n.type), ("data", (Json.obj n.data).render)] ++
    match n.position with
    | some p => [("position", p.text)]
    | none => [])

def EdgeSpec.text (e : EdgeSpec) : String :=
  recordText ([("id", quote false e.id), ("source", quote false e.source), ("target", quote false e.target),
    ("type", quote false e.typeTag)] ++
    match e.handle with
    | some h => [("sourceHandle", quote false h)]
    | none => [])

def FlowDefinition.text (d : FlowDefinition) : String :=
  recordText [("id", quote false d.id), ("name", quote false d.name),
    ("nodes", "[" ++ ",".intercalate (d.nodes.map NodeSpec.text) ++ "]"),
    ("edges", "[" ++ ",".intercalate (d.edges.map EdgeSpec.text) ++ "]")]

end IntegrationFlow
