import IntegrationFlow.Engine.Steps
import IntegrationFlow.Engine.Backend
import IntegrationFlow.Engine.Result
import IntegrationFlow.Engine.Invocation
import IntegrationFlow.Splitter.Split
import IntegrationFlow.Splitter.Codecs
import IntegrationFlow.Expr.Eval

/-!
Running a stored flow. The entry node builds the first context; the loop then runs the lowest
pending node, each node at most once, and routes on by its outcome (`Traversal.route`), until
nothing is pending or an output answered. Every node and every run writes an audit record;
backends take time on the run's clock, a nested run still busy when its time is up is stopped
there, and the loop stops as soon as it takes a node once the caller cancelled the token.
-/

namespace IntegrationFlow

/-- Settings of the engine. -/
structure RuntimeConfig where
  maxSubprocessDepth : Nat := 10
  defaultSubprocessTimeoutMs : Nat := 60000
  /-- Keep running pending nodes after an output node answered; the last answer wins. -/
  drainAfterOutput : Bool := false
  auditBufferSize : Nat := 1000
  defaultUser : String := "sistema"
  defaultRole : String := ""
  deriving Inhabited

def RuntimeConfig.decode : Decoder RuntimeConfig :=
  Decoder.record "struct RuntimeConfig"
    [ { name := "max_subprocess_depth",
        store := fun c j => (fun v => { c with maxSubprocessDepth := v }) <$> Decoder.unsigned 64 "usize" j },
      { name := "default_subprocess_timeout_ms",
        store := fun c j => (fun v => { c with defaultSubprocessTimeoutMs := v }) <$> Decoder.unsigned 64 "u64" j },
      { name := "drain_after_output",
        store := fun c j => (fun v => { c with drainAfterOutput := v }) <$> Decoder.bool j },
      { name := "audit_buffer_size",
        store := fun c j => (fun v => { c with auditBufferSize := v }) <$> Decoder.unsigned 64 "usize" j },
      { name := "default_user", store := fun c j => (fun v => { c with defaultUser := v }) <$> Decoder.string j },
      { name := "default_role", store := fun c j => (fun v => { c with defaultRole := v }) <$> Decoder.string j } ]
    {}

def RuntimeConfig.toJson (c : RuntimeConfig) : Json :=
  .obj [("audit_buffer_size", Json.int c.auditBufferSize), ("default_role", .str c.defaultRole),
    ("default_subprocess_timeout_ms", Json.int c.defaultSubprocessTimeoutMs),
    ("default_user", .str c.defaultUser), ("drain_after_output", .bool c.drainAfterOutput),
    ("max_subprocess_depth", Json.int c.maxSubprocessDepth)]

/-- What every run of an engine shares and does not change. Conditions run on the script
engine `scripts`, and splitters decode pieces with `codecs`. A nested run is spawned as a task of the async runtime, which reports a task
that panicked with a text of its own (naming the task by an id it keeps); `panickedTask` is
that text. -/
structure Services where
  functions : FunctionRegistry := .standard
  scripts : Expr.ScriptEngine := .interpreter
  codecs : Splitter.Codecs := .standard
  backends : BackendRegistry := []
  config : RuntimeConfig := {}
  ambient : Ambient := {}
  panickedTask : Panic → String := fun p => "task panicked with message \"" ++ p.message ++ "\""

/-- What runs change and leave behind: the store (schemas are written back into it), the
audit records and backend calls so far, in order, the clock in milliseconds, and the nodes
started so far, in order, each as the id of its flow and its own id. -/
structure World where
  store : Store
  audit : List LogEntry := []
  calls : List BackendCall := []
  clock : Nat := 0
  executed : List (String × String) := []
  deriving Inhabited

/-- Why a run stopped before it finished: a fault of the run, the time of the nested run at a
depth being up, or a panic unwinding it. -/
inductive Halt where
  | fault (e : FlowError)
  | deadline (depth : Nat)
  | panic (p : Panic)

/-- The engine: reads the services, may halt, and changes the world even when it halts. -/
abbrev Engine := ReaderT Services (ExceptT Halt (StateM World))

/-- Runs the engine against services and a world: the value or the halt, and the world
afterwards. -/
def Engine.exec (m : Engine α) (svc : Services) (w : World) : Except Halt α × World :=
  ((m.run svc).run).run w

/-- A request to run one stored flow. -/
structure Request where
  processId : String
  input : Members
  channel : String := "api"
  trigger : String := "manual"
  /-- The id every audit record of a chain of runs carries: drawn at random when the chain's
  first run starts, and handed on to the runs it starts. -/
  traceId : String := ""
  deriving Inhabited

/-- Where a run stands in a chain of nested runs: its invocation, who started the chain,
the earliest time at which a run of the chain is stopped, with that run's depth, and the time
at which the caller of the chain cancels the token every run of the chain watches (`none`:
never). -/
structure Frame where
  invocation : Invocation
  user : String
  role : String
  deadline : Option (Nat × Nat) := none
  cancelAt : Option Nat := none

/-- Whether the chain's token is cancelled at time `clock`. -/
def Frame.cancelled (frame : Frame) (clock : Nat) : Bool := frame.cancelAt.any (· ≤ clock)

/-- How a node wants the traversal to go on. -/
inductive Route where
  /-- Follow the edges of the node's outcome. -/
  | routed (errored : Bool)
  /-- Follow the `true` or `false` handle. -/
  | branch (met : Bool)
  /-- Follow edges by target kind, then by outcome. -/
  | nested (errored : Bool)
  /-- The node answered the run. -/
  | answer (data : Members)

/-- What running one node gave: how to go on, the context afterwards, the values it reports
and, for a failure recorded on the node, its detail. -/
structure NodeReport where
  route : Route
  context : Members
  applied : Members
  error : Option String := none

namespace Engine

def ofExcept (r : Except FlowError α) : Engine α :=
  match r with
  | .ok a => pure a
  | .error e => throw (.fault e)

def record (e : LogEntry) : Engine Unit :=
  modify fun w => { w with audit := w.audit ++ [e] }

/-- A failure recorded on the node: nothing reported, the detail kept. -/
def softFailure (route : Route) (ctx : Members) (detail : String) : NodeReport :=
  { route, context := ctx, applied := [], error := some detail }

def scope (ctx : Members) : Engine CallScope := do
  return { context := ctx, tables := (← get).store.tables, ambient := (← read).ambient }

/-- Calls a backend: the call is logged and the clock advances by the time the backend
takes; a call that would end after the run's deadline stops the run there. -/
def callBackend (frame : Frame) (b : BackendExecutor) (spec : NodeSpec) (ctx : Members)
    (server : ServerConfig) : Engine (Except BackendError String) := do
  let reply := b.answer spec ctx server
  modify fun w => { w with calls := w.calls ++ [⟨spec.id, spec.objectName, server.id, ctx⟩] }
  let finish := (← get).clock + reply.delayMs
  match frame.deadline with
  | some (t, depth) =>
    if finish > t then
      modify fun w => { w with clock := t }
      throw (.deadline depth)
    else modify fun w => { w with clock := finish }
  | none => modify fun w => { w with clock := finish }
  return reply.outcome

/-- Derives the schema of an answer and writes it back onto the stored node, which stops
asking for it; keeps the declared fields when no schema can be derived. -/
def discoverFields (processId raw : String) (spec : NodeSpec) (c : ProcessConfig) : Engine (List FieldDef) := do
  match Schema.discover raw c.responseType c.parentTag with
  | .ok [] => return c.outputParams
  | .error _ => return c.outputParams
  | .ok fields =>
    let updated := { spec with
      data := (spec.data.insert "parametrosSalida" (.arr (FieldDef.listToJson fields))).insert
        "parsearFullOutput" (.bool false) }
    modify fun w => match w.store.updateNode processId updated with
      | .ok s => { w with store := s }
      | .error _ => w
    return fields

/-- Runs a process node: checks its server, resolves its assignments into the context,
calls the backend, stores the raw answer, and copies the declared (or derived) fields of the
answer into the context. Gives the context, also after a failure, and the values produced. -/
def processCall (req : Request) (frame : Frame) (spec : NodeSpec) (c : ProcessConfig) (ctx : Members) :
    Engine (Members × Except NodeError Members) := do
  let svc ← read
  if Text.isBlankText c.serverId then return (ctx, .error (.configuration "servidorId is not set"))
  match (← get).store.loadServer c.serverId with
  | .error e => return (ctx, .error (.server c.serverId e))
  | .ok server =>
    match c.assignments.resolve svc.functions (← scope ctx) .propagate with
    | .error e => return (ctx, .error (.resolve e))
    | .ok applied =>
      let ctx := ctx.extend applied
      match svc.backends.get server.serverType with
      | .error e => return (ctx, .error e)
      | .ok backend =>
        let reply ← callBackend frame backend spec ctx server
        let raw? := match reply with
          | .ok t => some t
          | .error e => e.rawOutput?
        let (ctx, parsed) := match raw? with
          | some t => ctx.storeFullOutput spec.id t
          | none => (ctx, .null)
        match reply with
        | .error e => return (ctx, .error (.backend e))
        | .ok raw =>
          let fields ← if c.parseFullOutput then discoverFields req.processId raw spec c
            else pure c.outputParams
          let extracted := Schema.extract parsed fields c.parentTag
          return (ctx.extend extracted, .ok (applied.extend extracted))

/-- Runs a node that runs another flow, through `nested`. The guard failing or the time
running out is a fault of the node; a nested run that fails outright, reaches no output, or
fails on a node is recorded in the error fields and routes as a failure; a nested answer is
merged into the context and routes as a failure when it carries an error code. -/
def invoke (nested : Request → Frame → Engine ExecutionResult) (req : Request) (frame : Frame)
    (spec : NodeSpec) (c : SubprocessConfig) (ctx : Members) :
    Engine (Except SubprocessError (Bool × Members × Members)) := do
  let svc ← read
  match Invocation.check spec.id c.processId frame.invocation svc.config.maxSubprocessDepth with
  | .error e => return .error e
  | .ok () =>
    let timeoutMs := c.timeoutMs.getD svc.config.defaultSubprocessTimeoutMs
    let child := frame.invocation.child c.processId
    let own := ((← get).clock + timeoutMs, child.depth)
    let deadline := match frame.deadline with
      | some d => if d.1 ≤ own.1 then d else own
      | none => own
    let childReq : Request :=
      { processId := c.processId, input := c.assignments.passedOn ctx, channel := req.channel,
        trigger := "subproceso", traceId := req.traceId }
    let outcome ← tryCatch (Except.ok <$> nested childReq { frame with invocation := child, deadline })
      fun h => pure (Except.error h)
    match outcome with
    | .error (.deadline depth) =>
      if depth == child.depth then return .error (.timeout c.processId timeoutMs)
      else throw (.deadline depth)
    | .error (.panic p) => return .error (.failed c.processId (svc.panickedTask p))
    | .error (.fault e) => return .ok (true, ctx.setError "SUB_ERROR" "Error en subproceso" e.message, [])
    | .ok result =>
      match result.status with
      | .completed =>
        let data := result.data.getD []
        return .ok (result.errorCode.isSome, ctx.extend data, data)
      | .incomplete =>
        return .ok (true, ctx.setError "98" result.message
          ("subprocess " ++ c.processId ++ " did not reach an output node"), [])
      | .failed =>
        let fields := result.data.getD []
        let ctx := ["codigoError", "mensajeError", "detalleError"].foldl
          (fun ctx k => ctx.insert k ((fields.get? k).getD (.str ""))) ctx
        return .ok (true, ctx, fields)

/-- Undecodable node data: a failure of the node for process, splitter and nested-run
nodes, a fault of the run for the others. -/
def invalidConfig (node : GraphNode) (msg : String) (ctx : Members) : Engine NodeReport :=
  let detail := "invalid node data: " ++ msg
  match node.kind with
  | .process => return softFailure (.routed true) (ctx.setError "99" "Error en ejecución" detail) detail
  | .splitter => return softFailure (.routed true) (ctx.setError "SPLITTER_ERROR" "Error en splitter" detail) detail
  | .subprocess => return softFailure (.nested true) (ctx.setError "SUB_ERROR" "Error en subproceso" detail) detail
  | _ => throw (.fault (.invalidNode node.spec.id msg))

/-- Who runs a condition and in which flow, with the time of the run. -/
def conditionIdentity (svc : Services) (req : Request) (frame : Frame) (flowName : String) :
    ConditionIdentity :=
  let a := svc.ambient
  { user := frame.user, role := frame.role, processName := flowName, flowId := req.processId,
    date := toString a.year ++ "-" ++ twoDigits a.month ++ "-" ++ twoDigits a.day ++ "T" ++
      twoDigits a.hour ++ ":" ++ twoDigits a.minute ++ ":" ++ twoDigits a.second ++ "+00:00" }

def runNode (nested : Request → Frame → Engine ExecutionResult) (req : Request) (frame : Frame)
    (flowName : String) (node : GraphNode) (ctx : Members) : Engine NodeReport := do
  let svc ← read
  match node.config with
  | .error msg => invalidConfig node msg ctx
  | .ok (.process c) =>
    match ← processCall req frame node.spec c ctx with
    | (ctx, .ok applied) => return { route := .routed false, context := ctx, applied }
    | (ctx, .error e) => return softFailure (.routed true) (ctx.setError "99" "Error en ejecución" e.message) e.message
  | .ok (.condition c) =>
    match c.expression with
    | none => throw (.fault (.invalidNode node.spec.id "condition node has no expression"))
    | some expression =>
      if Text.isBlankText expression then
        throw (.fault (.invalidNode node.spec.id "condition node has no expression"))
      else
        let o := c.decide svc.scripts svc.functions (← get).store.tables node.spec.id expression ctx
          (conditionIdentity svc req frame flowName)
        return { route := .branch o.met, context := o.context, applied := o.applied, error := o.error }
  | .ok (.splitter c) =>
    match Splitter.apply svc.codecs svc.functions (← scope ctx) c with
    | .ok (ctx, .ok produced) => return { route := .routed false, context := ctx, applied := produced }
    | .ok (ctx, .error e) =>
      return softFailure (.routed true) (ctx.setError "SPLITTER_ERROR" "Error en splitter" e.message) e.message
    | .error p => throw (.panic p)
  | .ok (.subprocess c) =>
    match ← invoke nested req frame node.spec c ctx with
    | .ok (errored, ctx, applied) => return { route := .nested errored, context := ctx, applied }
    | .error e => return softFailure (.nested true) (ctx.setError "SUB_ERROR" "Error en subproceso" e.message) e.message
  | .ok (.output g) =>
    let data := g.answer svc.functions (← scope ctx)
    return { route := .answer data, context := ctx, applied := data }
  | .ok (.errorOutput ps) =>
    let data := errorAnswer ps ctx
    return { route := .answer data, context := ctx, applied := data }
  | .ok (.entry _) | .ok .unknown => return { route := .routed false, context := ctx, applied := [] }

/-- The audit record of a node: what it saw, what it reported and, for a process node, the
raw and read answers in the context. -/
def nodeRecord (req : Request) (flowName : String) (node : GraphNode) (before : Json)
    (applied ctx : Members) (error : Option String) : LogEntry :=
  let base : LogEntry :=
    { traceId := req.traceId, processId := req.processId, processName := flowName, channel := req.channel,
      objectType := node.kind.tag, objectName := node.spec.label, parameters := before,
      result := .obj applied, assignments := .obj applied }
  let base := if node.kind == .process then
      { base with fullOutput := (ctx.get? "FullOutput").getD .null, result := (ctx.get? "fullOutput").getD .null }
    else base
  match error with
  | some d => { base with status := .error, errorDetail := some d }
  | none => base

end Engine

def insertSorted (i : Nat) : List Nat → List Nat
  | [] => [i]
  | j :: js => if i < j then i :: j :: js else if i = j then j :: js else j :: insertSorted i js

/-- Where a traversal stands: the context, everything reported so far, the nodes run and
pending, the answer if one was given, and whether a failure found no edge to follow. -/
structure Traversal where
  context : Members
  applied : Members
  visited : List Nat
  pending : List Nat
  answer : Option Members := none
  unrouted : Bool := false

namespace Traversal

/-- The edges leaving `source` that `follow` accepts, given each edge and its target node. -/
def taken (g : FlowGraph) (source : Nat) (follow : EdgeSpec → GraphNode → Bool) : List Link :=
  (g.outgoing source).filter fun l =>
    match g.node? l.target with
    | some target => follow l.edge target
    | none => false

/-- Adds the targets of the edges leaving `source` that `follow` accepts to the pending
nodes, unless already run; gives how many edges were accepted. -/
def enqueue (g : FlowGraph) (source : Nat) (follow : EdgeSpec → GraphNode → Bool) (t : Traversal) :
    Traversal × Nat :=
  let links := taken g source follow
  ({ t with
    pending := links.foldl (fun p l => if t.visited.contains l.target then p else insertSorted l.target p)
      t.pending },
    links.length)

/-- Routes on from a node by its outcome. A node that failed with no edge to follow leaves
the traversal unrouted, which fails the run unless an output answers later. -/
def route (g : FlowGraph) (source : Nat) (t : Traversal) : Route → Traversal
  | .routed errored =>
    let (t, taken) := t.enqueue g source fun e _ => e.follows errored
    { t with unrouted := t.unrouted || (errored && taken == 0) }
  | .branch met =>
    (t.enqueue g source fun e _ => e.handle == some (toString met)).1
  | .nested errored =>
    let (t, taken) := t.enqueue g source fun e target =>
      match target.kind with
      | .output => !errored
      | .errorOutput => errored
      | _ => e.follows errored
    { t with unrouted := t.unrouted || (errored && taken == 0) }
  | .answer data => { t with answer := some data }

/-- The traversal once node `i`, the lowest pending one, ran with report `r`: `i` is run, its
context and values are taken over, and the traversal routes on by its outcome. -/
def visit (g : FlowGraph) (i : Nat) (r : NodeReport) (t : Traversal) : Traversal :=
  let ran : Traversal := { t with
    pending := t.pending.tail, visited := i :: t.visited, context := r.context,
    applied := t.applied.extend r.applied }
  ran.route g i r.route

/-- Where a traversal starts: the entry node has run with context `ctx`, and its normal edges
are followed. -/
def initial (g : FlowGraph) (ctx : Members) : Traversal :=
  let entryIdx := g.entry.getD 0
  (enqueue g entryIdx (fun e _ => !e.onError)
    { context := ctx, applied := ctx, visited := [entryIdx], pending := [] }).1

/-- The result of a run whose traversal ended at `t`: the answer if one was given, else a
failure if a failed node had no edge to follow, else no output reached. -/
def result (req : Request) (t : Traversal) : ExecutionResult :=
  match t.answer with
  | some data => ExecutionResult.completed req.processId req.trigger data
  | none =>
    if t.unrouted then
      ExecutionResult.failed req.processId req.trigger
        ("node execution error: " ++ t.context.text "mensajeError") t.context.errorFields
    else ExecutionResult.incomplete req.processId req.trigger

end Traversal

/-- What a run has once its entry node ran: the stored flow, its graph, the entry node and the
first context. -/
structure Start where
  record : FlowRecord
  graph : FlowGraph
  entry : GraphNode
  context : Members

namespace Start

/-- The stored record of a flow: a missing one is not found, any other fault is the store's. -/
def record? (store : Store) (processId : String) : Except FlowError FlowRecord :=
  match store.loadFlow processId with
  | .ok r => .ok r
  | .error (.notFound ..) => .error (.notFound processId)
  | .error e => .error (.store e)

def entry? (g : FlowGraph) : Except FlowError GraphNode :=
  match g.entry.bind g.node? with
  | some n => .ok n
  | none => .error .noEntryNode

def fields? (entry : GraphNode) : Except FlowError EntryConfig :=
  match entry.config with
  | .ok (.entry c) => .ok c
  | .ok _ => .error .noEntryNode
  | .error msg => .error (.invalidNode entry.spec.id msg)

/-- Reads the stored flow of a request, indexes it, and builds the first context from the
input by the entry node; the store is only read. -/
def load (svc : Services) (store : Store) (req : Request) : Except FlowError Start := do
  let r ← record? store req.processId
  let d ← FlowDefinition.parse r.text
  let g := FlowGraph.build d
  let entry ← entry? g
  let c ← fields? entry
  let ctx ← c.resolve svc.functions store.tables svc.ambient req.input
  return { record := r, graph := g, entry, context := ctx }

end Start

/-- The name a run goes by: the stored record's, else the definition's. -/
def Start.flowName (s : Start) : String := if s.record.name.isEmpty then s.graph.name else s.record.name

namespace Engine

/-- The audit record of a run whose traversal ended at `t`: its input, its result and every
value reported. -/
def runRecord (req : Request) (flowName : String) (t : Traversal) : LogEntry :=
  let result := t.result req
  { traceId := req.traceId, processId := req.processId, processName := flowName, channel := req.channel,
    objectType := "flujo", objectName := flowName, parameters := .obj req.input,
    result := result.toJson, assignments := .obj t.applied, status := result.status.logStatus }

def noteExecuting (req : Request) (node : GraphNode) : Engine Unit :=
  modify fun w => { w with executed := w.executed ++ [(req.processId, node.spec.id)] }

def runAudited (nested : Request → Frame → Engine ExecutionResult) (req : Request) (frame : Frame)
    (flowName : String) (node : GraphNode) (ctx : Members) : Engine NodeReport := do
  noteExecuting req node
  let report ← runNode nested req frame flowName node ctx
  record (nodeRecord req flowName node (.obj ctx) report.applied report.context report.error)
  return report

/-- Runs pending nodes, lowest index first, until none is left or an output answered (with
draining, until none is left), and stops the run as soon as it takes a node once the chain's
token is cancelled. Each step takes one pending node, so `fuel` above the number of nodes is
enough. -/
def traverse (nested : Request → Frame → Engine ExecutionResult) (req : Request) (frame : Frame)
    (flowName : String) (g : FlowGraph) : Nat → Traversal → Engine Traversal
  | 0, t => pure t
  | fuel + 1, t =>
    match t.pending with
    | [] => pure t
    | i :: rest => do
      if frame.cancelled (← get).clock then throw (.fault .cancelled)
      else if t.visited.contains i then traverse nested req frame flowName g fuel { t with pending := rest }
      else
        match g.node? i with
        | none => traverse nested req frame flowName g fuel { t with pending := rest, visited := i :: t.visited }
        | some node => do
          let report ← runAudited nested req frame flowName node t.context
          let t := t.visit g i report
          match report.route with
          | .answer _ =>
            if (← read).config.drainAfterOutput then traverse nested req frame flowName g fuel t
            else pure t
          | _ => traverse nested req frame flowName g fuel t

def runWith (nested : Request → Frame → Engine ExecutionResult) (req : Request) (frame : Frame) :
    Engine ExecutionResult := do
  let s ← ofExcept (Start.load (← read) (← get).store req)
  let g := s.graph
  let flowName := s.flowName
  noteExecuting req s.entry
  record (nodeRecord req flowName s.entry (.obj req.input) s.context s.context none)
  let t ← traverse nested req frame flowName g (g.nodes.length + 1) (Traversal.initial g s.context)
  record (runRecord req flowName t)
  return t.result req

/-- A run with room for `fuel` levels of nesting. -/
def runFlow : Nat → Request → Frame → Engine ExecutionResult
  | 0, _, _ => throw (.fault .cancelled)
  | fuel + 1, req, frame => runWith (runFlow fuel) req frame

end Engine

/-- Where a new chain of runs starts: the user and role come from the input's `Usuario` and
`Rol`, or the settings, no deadline is set, and the token is a fresh one nobody cancels. -/
def Frame.root (svc : Services) (req : Request) : Frame :=
  { invocation := Invocation.root req.processId,
    user := ((req.input.get? "Usuario").map Json.plain).getD svc.config.defaultUser,
    role := ((req.input.get? "Rol").map Json.plain).getD svc.config.defaultRole }

/-- The frame of a new chain whose caller cancels the chain's token at `cancelAt`. -/
def Frame.ofCaller (svc : Services) (req : Request) (cancelAt : Option Nat) : Frame :=
  { Frame.root svc req with cancelAt }

/-- How a run ends for its caller: it returns a result, fails with a fault, or panics. -/
inductive RunOutcome where
  | ok (result : ExecutionResult)
  | error (e : FlowError)
  | panicked (p : Panic)

def RunOutcome.toOption : RunOutcome → Option ExecutionResult
  | .ok r => some r
  | _ => none

/-- Runs a stored flow as a new chain whose caller cancels the chain's token at `cancelAt`.
Gives how it ended, and the world afterwards. -/
def executeWith (svc : Services) (world : World) (req : Request) (cancelAt : Option Nat) : RunOutcome × World :=
  let (r, w) := (Engine.runFlow (svc.config.maxSubprocessDepth + 1) req (Frame.ofCaller svc req cancelAt)).exec svc world
  match r with
  | .ok res => (.ok res, w)
  | .error (.fault e) => (.error e, w)
  | .error (.deadline _) => (.error .cancelled, w)
  | .error (.panic p) => (.panicked p, w)

/-- Runs a stored flow as a new chain with a fresh token, as the runtime does. -/
def execute (svc : Services) (world : World) (req : Request) : RunOutcome × World :=
  executeWith svc world req none

end IntegrationFlow
