import IntegrationFlow.Flow.Definition

/-!
A flow indexed as a graph: its nodes in declaration order with their decoded configuration,
the edges whose both ends exist, the entry node, and the issues found on the way, per node, then
per edge, then the lack of an entry. A node id names the last node declared with it.
-/

namespace IntegrationFlow

/-- A node of a graph with its kind and its configuration, or why that did not decode. -/
structure GraphNode where
  spec : NodeSpec
  kind : NodeKind
  config : Except String NodeConfig
  deriving Inhabited

/-- An edge between two node indices. -/
structure Link where
  source : Nat
  target : Nat
  edge : EdgeSpec
  deriving Inhabited

/-- A flow indexed as a graph. -/
structure FlowGraph where
  id : String
  name : String
  nodes : List GraphNode
  links : List Link
  entry : Option Nat
  issues : List String
  deriving Inhabited

def GraphNode.ofSpec (spec : NodeSpec) : GraphNode :=
  { spec, kind := spec.kind, config := (NodeConfig.decode spec.kind spec.data).mapError (·.message) }

def GraphNode.ownIssues (n : GraphNode) : List String :=
  (match n.config with
    | .error msg => ["node '" ++ n.spec.id ++ "' has invalid data: " ++ msg]
    | .ok _ => []) ++
  (match n.kind with
    | .unknown raw => ["node '" ++ n.spec.id ++ "' has unknown type '" ++ raw ++ "'"]
    | _ => [])

namespace FlowGraph

def lastIndexOf (nodes : List GraphNode) (id : String) : Option Nat :=
  (nodes.zipIdx.filter fun (n, _) => n.spec.id == id).getLast?.map Prod.snd

/-- What is known after indexing some nodes: the nodes, the entry and the issues so far. -/
structure NodeIndex where
  nodes : List GraphNode := []
  entry : Option Nat := none
  issues : List String := []

def NodeIndex.add (ix : NodeIndex) (spec : NodeSpec) : NodeIndex :=
  let n := GraphNode.ofSpec spec
  let i := ix.nodes.length
  let dup := if (lastIndexOf ix.nodes spec.id).isSome then ["duplicate node id '" ++ spec.id ++ "'"] else []
  let (entry, extra) : Option Nat × List String :=
    if n.kind == .entry then
      match ix.entry with
      | none => (some i, [])
      | some e => (some e, ["extra entry node '" ++ spec.id ++ "' is ignored"])
    else (ix.entry, [])
  { nodes := ix.nodes ++ [n], entry, issues := ix.issues ++ n.ownIssues ++ dup ++ extra }

/-- Files the next edge: a link when both its ends name nodes, else an issue, and the edge is
dropped. -/
def fileEdge (nodes : List GraphNode) (acc : List Link × List String) (e : EdgeSpec) :
    List Link × List String :=
  match lastIndexOf nodes e.source, lastIndexOf nodes e.target with
  | some s, some t => (acc.1 ++ [⟨s, t, e⟩], acc.2)
  | _, _ => (acc.1, acc.2 ++ ["edge '" ++ e.id ++ "' references unknown node (" ++ e.source ++ " -> " ++ e.target ++ ")"])

def build (d : FlowDefinition) : FlowGraph :=
  let ix := d.nodes.foldl NodeIndex.add {}
  let (links, edgeIssues) := d.edges.foldl (fileEdge ix.nodes) ([], [])
  let noEntry := if ix.entry.isNone then ["flow has no entry node"] else []
  { id := d.id, name := d.name, nodes := ix.nodes, links, entry := ix.entry,
    issues := ix.issues ++ edgeIssues ++ noEntry }

def node? (g : FlowGraph) (i : Nat) : Option GraphNode := g.nodes[i]?

def outgoing (g : FlowGraph) (i : Nat) : List Link := g.links.filter (·.source == i)

/-- What validating a stored flow concludes from its graph: a flow without issues is valid; one
with issues is listed with them as warnings, and refused only when it has no entry node. -/
def validate (flowId : String) (g : FlowGraph) : Except String (List String) :=
  if g.issues.isEmpty then .ok []
  else if g.entry.isNone then .error ("flow " ++ flowId ++ " cannot run: no entry node")
  else .ok g.issues

end FlowGraph

end IntegrationFlow
