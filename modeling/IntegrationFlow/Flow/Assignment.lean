import IntegrationFlow.Flow.Function

/-!
Assignments: declarative rules that produce one value from a literal, a context field, a
system function call or a table cell, and store it under a destination. Groups of them
resolve in group-name order, then in list order, all against one context.
-/

namespace IntegrationFlow

/-- How an assignment produces its value. -/
inductive AssignmentKind where
  | literal
  | field
  | function
  | table
  | unsupported (raw : String)
  deriving Inhabited

namespace AssignmentKind

/-- Reads a kind, trimmed and without regard to ASCII case: `literal` or `valor`, `campo`,
`funcion` or `sistema`, `tabla`; anything else is kept as given. -/
def ofString (raw : String) : AssignmentKind :=
  match (Text.trim raw).toLower with
  | "literal" | "valor" => .literal
  | "campo" => .field
  | "funcion" | "sistema" => .function
  | "tabla" => .table
  | _ => .unsupported raw

def toString : AssignmentKind → String
  | .literal => "literal"
  | .field => "campo"
  | .function => "funcion"
  | .table => "tabla"
  | .unsupported raw => raw

end AssignmentKind

/-- A rule producing one value. -/
structure Assignment where
  kind : AssignmentKind
  value : Json := .null
  destination : String := ""
  table : String := ""
  key : String := ""
  field : String := ""
  keyIsVariable : Bool := false
  deriving Inhabited

abbrev AssignmentGroups := List (String × List Assignment)

/-- What to do when an assignment other than a missing field fails within a group. -/
inductive OnFailure where
  | propagate
  | storeNull
  | skip

namespace Assignment

def valueText (a : Assignment) : String := a.value.plain

def textOrEmpty : Decoder String := Decoder.orDefault "" Decoder.string

def decode : Decoder Assignment :=
  Decoder.record "struct Assignment"
    [ { name := "tipo", hasDefault := false,
        store := fun a j => (fun s => { a with kind := .ofString s }) <$> Decoder.string j },
      { name := "valor", store := fun a j => pure { a with value := j } },
      { name := "destino", store := fun a j => (fun s => { a with destination := s }) <$> textOrEmpty j },
      { name := "tabla", store := fun a j => (fun s => { a with table := s }) <$> textOrEmpty j },
      { name := "clave", store := fun a j => (fun s => { a with key := s }) <$> textOrEmpty j },
      { name := "campo", store := fun a j => (fun s => { a with field := s }) <$> textOrEmpty j },
      { name := "esClaveVariable",
        store := fun a j => (fun b => { a with keyIsVariable := b }) <$> Decoder.orDefault false Decoder.bool j } ]
    { kind := .literal }

def toJson (a : Assignment) : Json :=
  .obj [("campo", .str a.field), ("clave", .str a.key), ("destino", .str a.destination),
    ("esClaveVariable", .bool a.keyIsVariable), ("tabla", .str a.table),
    ("tipo", .str a.kind.toString), ("valor", a.value)]

def resolve (reg : FunctionRegistry) (scope : CallScope) (a : Assignment) : Except ResolveError Json :=
  match a.kind with
  | .literal => .ok a.value
  | .field =>
    match scope.context.get? a.valueText with
    | some v => .ok v
    | none => .error (.fieldNotFound a.valueText)
  | .function => reg.invoke a.valueText scope
  | .table => do
    if Text.isBlankText a.table || Text.isBlankText a.field then
      throw (.invalidAssignment "table assignments need both tabla and campo")
    let declared := if Text.isBlankText a.key then a.valueText else a.key
    let key ← if a.keyIsVariable then
        match scope.context.get? declared with
        | some v => pure v.plain
        | none => throw (.fieldNotFound declared)
      else pure declared
    scope.tables.lookup a.table key a.field
  | .unsupported raw => .error (.unsupportedAssignmentType raw)

end Assignment

namespace AssignmentGroups

/-- Decodes groups: an object of lists of assignments; `null` is no groups. -/
def decode : Decoder AssignmentGroups :=
  Decoder.orDefault [] (Decoder.map (Decoder.list Assignment.decode))

def toJson (g : AssignmentGroups) : Json :=
  .obj (g.map fun (k, xs) => (k, .arr (xs.map Assignment.toJson)))

def flatten (g : AssignmentGroups) : List Assignment := g.flatMap (·.2)

/-- Resolves every assignment with a destination into `destination ↦ value`. A missing
context field skips the assignment; other faults follow `onFailure`. -/
def resolve (reg : FunctionRegistry) (scope : CallScope) (g : AssignmentGroups)
    (onFailure : OnFailure) : Except ResolveError Members :=
  let step (acc : Members) (a : Assignment) : Except ResolveError Members :=
    if Text.isBlankText a.destination then pure acc
    else match a.resolve reg scope with
      | .ok v => pure (acc.insert a.destination v)
      | .error (.fieldNotFound _) => pure acc
      | .error e => match onFailure with
        | .propagate => throw e
        | .storeNull => pure (acc.insert a.destination .null)
        | .skip => pure acc
  g.flatten.foldlM step []

end AssignmentGroups

end IntegrationFlow
