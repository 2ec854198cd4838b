import IntegrationFlow.Flow.Schema
import IntegrationFlow.Splitter.Config

/-!
The kinds of nodes of a flow and the configuration each kind reads from its `data` document.
A kind is known by its exact tag; any other tag is kept as it was written. Configurations
are lenient where the editor is: lists and texts may be `null`, counts may be numeric
strings, identifiers may be numbers.
-/

namespace IntegrationFlow

/-- The kind of a node, by its type tag. -/
inductive NodeKind where
  | entry
  | process
  | condition
  | splitter
  | subprocess
  | output
  | errorOutput
  | unknown (tag : String)
  deriving Inhabited, BEq

namespace NodeKind

def ofTag : String → NodeKind
  | "entrada" => .entry
  | "proceso" => .process
  | "condicion" => .condition
  | "splitter" => .splitter
  | "subproceso" => .subprocess
  | "salida" => .output
  | "salidaError" => .errorOutput
  | tag => .unknown tag

def tag : NodeKind → String
  | .entry => "entrada"
  | .process => "proceso"
  | .condition => "condicion"
  | .splitter => "splitter"
  | .subprocess => "subproceso"
  | .output => "salida"
  | .errorOutput => "salidaError"
  | .unknown t => t

def isOutput : NodeKind → Bool
  | .output | .errorOutput => true
  | _ => false

def isKnown : NodeKind → Bool
  | .unknown _ => false
  | _ => true

theorem tag_ofTag (t : String) : (ofTag t).tag = t := by
  unfold ofTag
  split <;> rfl

end NodeKind

/-- A field of the input of a flow: its name and type, how its value is produced when the
input lacks it, and its place in the order of fields. -/
structure EntryField where
  name : String
  kind : String := ""
  assignment : Option Assignment := none
  order : Option Int := none
  deriving Inhabited

namespace EntryField

/-- Decodes an input field; `nombre` is required and `orden` is lenient. -/
def decode : Decoder EntryField :=
  Decoder.record "struct EntryField"
    [ { name := "nombre", hasDefault := false,
        store := fun f j => (fun v => { f with name := v }) <$> Decoder.string j },
      { name := "tipo", store := fun f j => (fun v => { f with kind := v }) <$> Decoder.textOrEmpty j },
      { name := "asignacion",
        store := fun f j => (fun v => { f with assignment := v }) <$> Decoder.optional Assignment.decode j },
      { name := "orden", store := fun f j => (fun v => { f with order := v }) <$> Decoder.lenientSigned j } ]
    { name := "" }

def toJson (f : EntryField) : Json :=
  .obj [("asignacion", match f.assignment with | some a => a.toJson | none => .null),
    ("nombre", .str f.name), ("orden", match f.order with | some n => Json.int n | none => .null),
    ("tipo", .str f.kind)]

end EntryField

/-- The configuration of an entry node: the fields of the input. -/
structure EntryConfig where
  fields : List EntryField := []
  deriving Inhabited

/-- The configuration of a process node: the server and object it calls, how, with which
parameters, and how the answer is read. -/
structure ProcessConfig where
  label : Option String := none
  serverId : String := ""
  objectType : String := ""
  object : String := ""
  httpMethod : Option String := none
  inputParams : List FieldDef := []
  outputParams : List FieldDef := []
  assignments : AssignmentGroups := []
  parseFullOutput : Bool := false
  responseType : Option String := none
  parentTag : Option String := none
  deriving Inhabited

/-- The configuration of a condition node. -/
structure ConditionConfig where
  label : Option String := none
  expression : Option String := none
  inputParams : List FieldDef := []
  outputParams : List FieldDef := []
  errorParams : List FieldDef := []
  deriving Inhabited

/-- The configuration of a node that runs another flow. -/
structure SubprocessConfig where
  processId : String := ""
  assignments : AssignmentGroups := []
  timeoutMs : Option Nat := none
  deriving Inhabited

/-- The typed configuration of a node. -/
inductive NodeConfig where
  | entry (c : EntryConfig)
  | process (c : ProcessConfig)
  | condition (c : ConditionConfig)
  | splitter (c : SplitterConfig)
  | subprocess (c : SubprocessConfig)
  | output (assignments : AssignmentGroups)
  | errorOutput (params : List FieldDef)
  | unknown
  deriving Inhabited

namespace NodeConfig

def flag : Decoder Bool := Decoder.orDefault false Decoder.bool

def decodeEntry : Decoder EntryConfig :=
  Decoder.record "struct EntryConfig"
    [ { name := "campos",
        store := fun _ j => (fun v => { fields := v }) <$> Decoder.orDefault [] (Decoder.list EntryField.decode) j } ]
    {}

def decodeProcess : Decoder ProcessConfig :=
  Decoder.record "struct ProcessConfig"
    [ { name := "label", store := fun c j => (fun v => { c with label := v }) <$> Decoder.optString j },
      { name := "servidorId", store := fun c j => (fun v => { c with serverId := v }) <$> Decoder.lenientText j },
      { name := "tipoObjeto", store := fun c j => (fun v => { c with objectType := v }) <$> Decoder.textOrEmpty j },
      { name := "objeto", store := fun c j => (fun v => { c with object := v }) <$> Decoder.textOrEmpty j },
      { name := "metodoHttp", store := fun c j => (fun v => { c with httpMethod := v }) <$> Decoder.optString j },
      { name := "parametrosEntrada",
        store := fun c j => (fun v => { c with inputParams := v }) <$> FieldDef.decodeList j },
      { name := "parametrosSalida",
        store := fun c j => (fun v => { c with outputParams := v }) <$> FieldDef.decodeList j },
      { name := "asignaciones",
        store := fun c j => (fun v => { c with assignments := v }) <$> AssignmentGroups.decode j },
      { name := "parsearFullOutput", store := fun c j => (fun v => { c with parseFullOutput := v }) <$> flag j },
      { name := "tipoRespuesta", store := fun c j => (fun v => { c with responseType := v }) <$> Decoder.optString j },
      { name := "tagPadre", store := fun c j => (fun v => { c with parentTag := v }) <$> Decoder.optString j } ]
    {}

def decodeCondition : Decoder ConditionConfig :=
  Decoder.record "struct ConditionConfig"
    [ { name := "label", store := fun c j => (fun v => { c with label := v }) <$> Decoder.optString j },
      { name := "condicion", store := fun c j => (fun v => { c with expression := v }) <$> Decoder.optString j },
      { name := "parametrosEntrada",
        store := fun c j => (fun v => { c with inputParams := v }) <$> FieldDef.decodeList j },
      { name := "parametrosSalida",
        store := fun c j => (fun v => { c with outputParams := v }) <$> FieldDef.decodeList j },
      { name := "parametrosError",
        store := fun c j => (fun v => { c with errorParams := v }) <$> FieldDef.decodeList j } ]
    {}

def decodeSubprocess : Decoder SubprocessConfig :=
  Decoder.record "struct SubprocessConfig"
    [ { name := "procesoId", store := fun c j => (fun v => { c with processId := v }) <$> Decoder.lenientText j },
      { name := "asignaciones",
        store := fun c j => (fun v => { c with assignments := v }) <$> AssignmentGroups.decode j },
      { name := "timeoutMs", store := fun c j => (fun v => { c with timeoutMs := v }) <$> Decoder.lenientCount j } ]
    {}

def decodeOutput : Decoder AssignmentGroups :=
  Decoder.record "struct OutputConfig"
    [ { name := "asignaciones", store := fun _ j => AssignmentGroups.decode j } ]
    []

def decodeErrorOutput : Decoder (List FieldDef) :=
  Decoder.record "struct ErrorOutputConfig"
    [ { name := "parametrosEntrada", store := fun _ j => FieldDef.decodeList j } ]
    []

/-- Decodes the `data` of a node of a kind; unknown kinds have no configuration. -/
def decode (kind : NodeKind) (data : Members) : Except DataError NodeConfig :=
  let j := Json.obj data
  match kind with
  | .entry => entry <$> decodeEntry j
  | .process => process <$> decodeProcess j
  | .condition => condition <$> decodeCondition j
  | .splitter => splitter <$> SplitterConfig.decode j
  | .subprocess => subprocess <$> decodeSubprocess j
  | .output => output <$> decodeOutput j
  | .errorOutput => errorOutput <$> decodeErrorOutput j
  | .unknown _ => .ok unknown

def paramsJson (ps : List FieldDef) : Json := .arr (FieldDef.listToJson ps)

/-- The configuration as a document, every field present; `null` for unknown kinds. -/
def toJson : NodeConfig → Json
  | .entry c => .obj [("campos", .arr (c.fields.map EntryField.toJson))]
  | .process c =>
    .obj [("asignaciones", c.assignments.toJson), ("label", .ofOptString c.label),
      ("metodoHttp", .ofOptString c.httpMethod), ("objeto", .str c.object),
      ("parametrosEntrada", paramsJson c.inputParams), ("parametrosSalida", paramsJson c.outputParams),
      ("parsearFullOutput", .bool c.parseFullOutput), ("servidorId", .str c.serverId),
      ("tagPadre", .ofOptString c.parentTag), ("tipoObjeto", .str c.objectType),
      ("tipoRespuesta", .ofOptString c.responseType)]
  | .condition c =>
    .obj [("condicion", .ofOptString c.expression), ("label", .ofOptString c.label),
      ("parametrosEntrada", paramsJson c.inputParams), ("parametrosError", paramsJson c.errorParams),
      ("parametrosSalida", paramsJson c.outputParams)]
  | .splitter c => c.toJson
  | .subprocess c =>
    .obj [("asignaciones", c.assignments.toJson), ("procesoId", .str c.processId),
      ("timeoutMs", .ofOptNat c.timeoutMs)]
  | .output g => .obj [("asignaciones", g.toJson)]
  | .errorOutput ps => .obj [("parametrosEntrada", paramsJson ps)]
  | .unknown => .null

end NodeConfig

end IntegrationFlow
