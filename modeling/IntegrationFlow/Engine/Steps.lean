import IntegrationFlow.Flow.Graph
import IntegrationFlow.Expr.Script
import IntegrationFlow.Json.View

/-!
What the nodes of a flow do to the context of a run, where no backend or nested run is
involved: the entry node builds the first context from the input, a condition evaluates its
expression and records the verdict, an output node builds the answer, and a node that runs
another flow chooses what to pass on. Failures are recorded in three reserved fields of the
context: a code, a message and a detail.
-/

namespace IntegrationFlow

namespace Members

def setError (ctx : Members) (code message detail : String) : Members :=
  ((ctx.insert "codigoError" (.str code)).insert "mensajeError" (.str message)).insert "detalleError" (.str detail)

def errorFields (ctx : Members) : Members :=
  ["codigoError", "detalleError", "mensajeError"].map fun k => (k, (ctx.get? k).getD (.str ""))

def text (ctx : Members) (k : String) : String := ((ctx.get? k).map Json.plain).getD ""

/-- Stores the raw answer of a node's backend (`FullOutput`) and its reading as a document
(`fullOutput` and `fullOutput_<node>`): an object or array, anything else an empty object.
Gives the context and the reading. -/
def storeFullOutput (ctx : Members) (nodeId raw : String) : Members × Json :=
  let parsed : Json := match Json.parse raw with
    | .ok (.obj m) => .obj m
    | .ok (.arr xs) => .arr xs
    | _ => .obj []
  (((ctx.insert "FullOutput" (.str raw)).insert ("fullOutput_" ++ nodeId) parsed).insert "fullOutput" parsed,
    parsed)

end Members

/-- The largest order a field can have; fields without an order sort as this. -/
def EntryField.lastOrder : Int := 9223372036854775807

/-- The fields of an entry node in the order they resolve: ascending `orden`, fields
without one last, ties in declaration order. -/
def EntryConfig.ordered (c : EntryConfig) : List EntryField :=
  c.fields.mergeSort fun a b => a.order.getD EntryField.lastOrder ≤ b.order.getD EntryField.lastOrder

/-- Builds the first context of a run from its input. A field with an assignment resolves
it against the input and the fields resolved before it; a field without one takes the
input's value of its name, and is required. -/
def EntryConfig.resolve (reg : FunctionRegistry) (tables : Tables) (ambient : Ambient)
    (input : Members) (c : EntryConfig) : Except FlowError Members := do
  let step (acc : Members × Members) (f : EntryField) : Except FlowError (Members × Members) := do
    let (scope, ctx) := acc
    let v ← match f.assignment with
      | some a =>
        match a.resolve reg { context := scope, tables, ambient } with
        | .ok v => pure v
        | .error e => throw (.entryField f.name e)
      | none =>
        match input.get? f.name with
        | some v => pure v
        | none => throw (.missingRequiredField f.name)
    return (scope.insert f.name v, ctx.insert f.name v)
  let (_, ctx) ← c.ordered.foldlM step (input, [])
  return ctx

/-- Who runs a flow and which flow, as a condition sees them. -/
structure ConditionIdentity where
  user : String
  role : String
  processName : String
  flowId : String
  date : String

/-- What a condition node did: its verdict, the context afterwards, the values it reports
and, when the expression failed, why. -/
structure ConditionOutcome where
  met : Bool
  context : Members
  applied : Members
  error : Option String

/-- The bindings a condition is evaluated against: the context, the identity under the
reserved `__` keys, and the declared input parameters converted to their types. -/
def ConditionConfig.bindings (c : ConditionConfig) (ctx : Members) (id : ConditionIdentity) : Members :=
  let b := ctx.insert "__fecha" (.str id.date) |>.insert "__usuario" (.str id.user)
    |>.insert "__rol" (.str id.role) |>.insert "__nombreProceso" (.str (c.label.getD id.processName))
    |>.insert "__idFlujo" (.str id.flowId)
  c.inputParams.foldl (fun b p =>
    match b.get? p.name with
    | some v => b.insert p.name (v.coerce p.kind)
    | none => b) b

/-- Evaluates a condition node's expression. A failure is recorded as error `99` and counts
as not met; a verdict is stored under `cumple`, `resultado` and `resultado_<node>`, and a
verdict of false is recorded as error `66`. -/
def ConditionConfig.decide (engine : Expr.ScriptEngine) (reg : FunctionRegistry) (tables : Tables)
    (nodeId expression : String) (c : ConditionConfig) (ctx : Members) (id : ConditionIdentity) : ConditionOutcome :=
  match Expr.evaluateCondition engine reg { context := c.bindings ctx id, tables } expression with
  | .error e =>
    { met := false, context := ctx.setError "99" "Error al evaluar condición" e.message, applied := [],
      error := some e.message }
  | .ok met =>
    let verdict : Members := [("cumple", .bool met)]
    let ctx := ((((ctx.insert "cumple" (.bool met)).insert "resultado" (.bool met)).insert
      ("resultado_" ++ nodeId) (.bool met)).insert "fullOutput" (.obj verdict))
    let (ctx, applied) := c.outputParams.foldl (fun (acc : Members × Members) p =>
      match verdict.get? p.name with
      | some v => (acc.1.insert p.name v, acc.2.insert p.name v)
      | none => acc) (ctx, verdict)
    if met then { met, context := ctx, applied, error := none }
    else
      let ctx := ctx.setError "66" "La condición no se cumple" "cumple=false"
      let applied := c.errorParams.foldl (fun acc p =>
        match ctx.get? p.name with
        | some v => acc.insert p.name v
        | none => acc) applied
      { met, context := ctx, applied, error := none }

/-- The answer of an output node: its assignments resolved against the context; a missing
field is left out and any other failure gives `null`. -/
def AssignmentGroups.answer (reg : FunctionRegistry) (scope : CallScope) (g : AssignmentGroups) : Members :=
  match g.resolve reg scope .storeNull with
  | .ok m => m
  | .error _ => []

/-- The answer of an error output node: the declared parameters present in the context. -/
def errorAnswer (params : List FieldDef) (ctx : Members) : Members :=
  params.foldl (fun acc p =>
    if Text.isBlankText p.name then acc
    else match ctx.get? p.name with
      | some v => acc.insert p.name v
      | none => acc) []

/-- The input of a nested run: the field copies (when the field is in the context) and the
literals among the assignments, by destination. -/
def AssignmentGroups.passedOn (g : AssignmentGroups) (ctx : Members) : Members :=
  g.flatten.foldl (fun vars a =>
    if Text.isBlankText a.destination then vars
    else match a.kind with
      | .field =>
        match ctx.get? a.valueText with
        | some v => vars.insert a.destination v
        | none => vars
      | .literal => vars.insert a.destination a.value
      | _ => vars) []

end IntegrationFlow
