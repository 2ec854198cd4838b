import IntegrationFlow.Splitter.Segment
import IntegrationFlow.Flow.Assignment

/-!
The configuration of a splitter node: whether it splits a text into fields or joins
fields into a text, how the text is laid out (fixed positions, repeated blocks or
delimiters), and the segments involved.
-/

namespace IntegrationFlow

/-- The layout of repeated blocks: their fields and the names the result is stored under. -/
structure BlockConfig where
  subfields : List Segment := []
  arrayName : Option String := none
  objectName : Option String := none
  deriving Inhabited

namespace BlockConfig

def decode : Decoder BlockConfig :=
  Decoder.record "struct BlockConfig"
    [ { name := "subcampos",
        store := fun b j => (fun v => { b with subfields := v }) <$> Decoder.orDefault [] (Decoder.list Segment.decode) j },
      { name := "nombreArray", store := fun b j => (fun v => { b with arrayName := v }) <$> Decoder.optString j },
      { name := "nombreObjeto", store := fun b j => (fun v => { b with objectName := v }) <$> Decoder.optString j } ]
    {}

def toJson (b : BlockConfig) : Json :=
  .obj [("nombreArray", .ofOptString b.arrayName), ("nombreObjeto", .ofOptString b.objectName),
    ("subcampos", .arr (b.subfields.map Segment.toJson))]

end BlockConfig

/-- The configuration of a splitter node. -/
structure SplitterConfig where
  mode : Option String := none
  analysis : Option String := none
  parseMode : Option String := none
  inputField : Option String := none
  outputField : Option String := none
  segments : List Segment := []
  outputFields : List Segment := []
  outputParams : List Segment := []
  blockLength : Option Nat := none
  recordLength : Option Nat := none
  block : Option BlockConfig := none
  delimiter : Option String := none
  joinFields : List String := []
  assignments : AssignmentGroups := []
  deriving Inhabited

namespace SplitterConfig

def segmentList : Decoder (List Segment) := Decoder.orDefault [] (Decoder.list Segment.decode)

def decode : Decoder SplitterConfig :=
  Decoder.record "struct SplitterConfig"
    [ { name := "modoOperacion", store := fun c j => (fun v => { c with mode := v }) <$> Decoder.optString j },
      { name := "tipoAnalisis", store := fun c j => (fun v => { c with analysis := v }) <$> Decoder.optString j },
      { name := "modoParseo", store := fun c j => (fun v => { c with parseMode := v }) <$> Decoder.optString j },
      { name := "campoEntrada", store := fun c j => (fun v => { c with inputField := v }) <$> Decoder.optString j },
      { name := "campoSalida", store := fun c j => (fun v => { c with outputField := v }) <$> Decoder.optString j },
      { name := "segmentosFijos", store := fun c j => (fun v => { c with segments := v }) <$> segmentList j },
      { name := "camposSalida", store := fun c j => (fun v => { c with outputFields := v }) <$> segmentList j },
      { name := "parametrosSalida", store := fun c j => (fun v => { c with outputParams := v }) <$> segmentList j },
      { name := "longitudBloque",
        store := fun c j => (fun v => { c with blockLength := v }) <$> Decoder.lenientCount j },
      { name := "longitudRegistro",
        store := fun c j => (fun v => { c with recordLength := v }) <$> Decoder.lenientCount j },
      { name := "campoMultiple",
        store := fun c j => (fun v => { c with block := v }) <$> Decoder.optional BlockConfig.decode j },
      { name := "delimitadorPrincipal",
        store := fun c j => (fun v => { c with delimiter := v }) <$> Decoder.optString j },
      { name := "camposUnir",
        store := fun c j => (fun v => { c with joinFields := v }) <$> Decoder.orDefault [] (Decoder.list Decoder.string) j },
      { name := "asignaciones",
        store := fun c j => (fun v => { c with assignments := v }) <$> AssignmentGroups.decode j } ]
    {}

def toJson (c : SplitterConfig) : Json :=
  .obj [("asignaciones", c.assignments.toJson), ("campoEntrada", .ofOptString c.inputField),
    ("campoMultiple", match c.block with | some b => b.toJson | none => .null),
    ("campoSalida", .ofOptString c.outputField),
    ("camposSalida", .arr (c.outputFields.map Segment.toJson)),
    ("camposUnir", .arr (c.joinFields.map Json.str)),
    ("delimitadorPrincipal", .ofOptString c.delimiter),
    ("longitudBloque", .ofOptNat c.blockLength), ("longitudRegistro", .ofOptNat c.recordLength),
    ("modoOperacion", .ofOptString c.mode), ("modoParseo", .ofOptString c.parseMode),
    ("parametrosSalida", .arr (c.outputParams.map Segment.toJson)),
    ("segmentosFijos", .arr (c.segments.map Segment.toJson)),
    ("tipoAnalisis", .ofOptString c.analysis)]

end SplitterConfig

end IntegrationFlow
