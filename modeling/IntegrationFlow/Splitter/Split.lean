import IntegrationFlow.Splitter.Config

/-!
Splitting a text into named fields and joining fields into a text. Positions and lengths
count characters. Splitting reads the input from a context field and decodes the pieces
with the byte decoders it is given; joining writes the result back under an output field.
Either way the produced fields are merged into the context.
-/

namespace IntegrationFlow

namespace Splitter

variable (codecs : Codecs)

def nonBlank : Option String → Option String
  | some s => if Text.isBlankText s then none else some s
  | none => none

/-- Characters `[start, start + length)` of a text, cut at its end. -/
def slice (cs : List Char) (start length : Nat) : String :=
  String.ofList ((cs.drop start).take length)

/-- The fields tried, in order, when the default input field is missing. -/
def inputFallbacks : List String := ["Fila", "StringFijo", "Data", "Contenido", "Valor"]

/-- The text to split: the input field (`CampoIN` by default, with its fallbacks). -/
def inputText (c : SplitterConfig) (ctx : Members) : Except NodeError String :=
  let field := (nonBlank c.inputField).getD "CampoIN"
  match ctx.get? field with
  | some v => .ok v.plain
  | none =>
    let alt := if field = "CampoIN" then inputFallbacks.findSome? ctx.get? else none
    match alt with
    | some v => .ok v.plain
    | none => .error (.splitter ("input field '" ++ field ++ "' not found in context"))

/-- The segments of the output: the first non-empty list of fixed segments, output fields
and output parameters. -/
def outputSegments (c : SplitterConfig) : List Segment :=
  [c.segments, c.outputFields, c.outputParams].find? (!·.isEmpty) |>.getD []

def addClamped (a b : Nat) : Nat := min (a + b) 18446744073709551615

/-- Repetition `i` of a segment: at or past the end of the text reading stops; otherwise the
piece at the cursor becomes an array item (newest first) or a field numbered `i + 1` (named
plainly when the segment does not repeat), and the cursor moves past it. -/
def pieceStep (cs : List Char) (s : Segment) (length reps : Nat) (asArray : Bool)
    (acc : List Json × Members × Nat × Bool) (i : Nat) : List Json × Members × Nat × Bool :=
  let (items, fields, pos, stopped) := acc
  if stopped || pos ≥ cs.length then (items, fields, pos, true)
  else
    let piece := slice cs pos length
    let next := addClamped pos length
    if asArray then (.str (decodePiece codecs (Text.trim piece) s.encoding) :: items, fields, next, false)
    else
      let name := if reps > 1 then s.name ++ toString (i + 1) else s.name
      (items, fields.insert name (.str (decodePiece codecs (unpad piece s.padding) s.encoding)), next, false)

/-- The pieces of one segment, from `start`: as a list when it repeats into an array, else
as numbered fields. Returns where reading stopped. -/
def segmentPieces (cs : List Char) (s : Segment) (length : Nat) (start : Nat) :
    Members × Nat :=
  let reps := max (s.repetitions.getD 1) 1
  let asArray := reps > 1 && s.structure_ == some "array"
  let (items, fields, pos, _) :=
    (List.range (min reps (cs.length + 1))).foldl (pieceStep codecs cs s length reps asArray) ([], [], start, false)
  if asArray then ([(s.name, .arr items.reverse)], pos) else (fields, pos)

/-- Reads one segment at fixed positions, given the fields so far and the cursor: a segment
without a length, of length zero or with a blank name is skipped; else its pieces are read
from its start (the cursor by default), and the cursor moves past them. -/
def fixedStep (cs : List Char) (acc : Members × Nat) (s : Segment) : Members × Nat :=
  let (fields, position) := acc
  match s.length with
  | some len =>
    if len = 0 || Text.isBlankText s.name then acc
    else
      let (got, pos) := segmentPieces codecs cs s len (s.start.getD position)
      (fields.extend got, pos)
  | none => acc

def decomposeFixed (c : SplitterConfig) (input : String) : Except NodeError Members := do
  let segs := outputSegments c
  if segs.isEmpty then throw (.splitter "no fixed segments configured")
  return (segs.foldl (fixedStep codecs input.toList) ([], 0)).1

/-- Reads the next subfield of a block, given the fields so far and the offset: a subfield
with a length of at least one starts at its own start or at the offset, and the offset moves
past it (saturating); it gives its piece, trimmed and decoded, when its name is not blank and
it starts inside the block. -/
def subfieldStep (blk : List Char) (acc : Members × Nat) (f : Segment) : Members × Nat :=
  let (m, offset) := acc
  match f.length with
  | some len =>
    if len = 0 then acc
    else
      let start := f.start.getD offset
      let offset := addClamped start len
      if Text.isBlankText f.name || start ≥ blk.length then (m, offset)
      else (m.insert f.name (.str (decodePiece codecs (Text.trim (slice blk start len)) f.encoding)), offset)
  | none => acc

/-- The fields of one block, read subfield by subfield from offset zero. -/
def blockItem (subfields : List Segment) (blk : List Char) : Members :=
  (subfields.foldl (subfieldStep codecs blk) ([], 0)).1

/-- Splits repeated blocks: at most twenty, stopping at a blank block or one whose fields
are all blank. -/
def decomposeBlocks (c : SplitterConfig) (input : String) : Except NodeError Members := do
  let blockLength ← match c.blockLength <|> c.recordLength with
    | some n => if n > 0 then pure n else throw (.splitter "longitudBloque must be set for repeated blocks")
    | none => throw (.splitter "longitudBloque must be set for repeated blocks")
  let sub := match c.block with
    | some b => if b.subfields.isEmpty then none else some b.subfields
    | none => none
  let subfields ← match sub <|> [c.outputFields, c.outputParams].find? (!·.isEmpty) with
    | some fs => pure fs
    | none => throw (.splitter "no block subfields configured")
  let arrayName := (nonBlank (c.block.bind (·.arrayName))).getD "items"
  let objectName := (nonBlank (c.block.bind (·.objectName))).getD "Items"
  let cs := input.toList
  let item := blockItem codecs subfields
  let rec go : Nat → Nat → List Json → List Json
    | 0, _, acc => acc.reverse
    | fuel + 1, pos, acc =>
      if pos ≥ cs.length then acc.reverse
      else
        let stop := min (addClamped pos blockLength) cs.length
        let blk := (cs.drop pos).take (stop - pos)
        if blk.all Text.isWhiteSpace then acc.reverse
        else
          let it := item blk
          if it.all (·.2.isBlank) then acc.reverse
          else go fuel stop (.obj it :: acc)
  let items := go 20 0 []
  return [(objectName, .obj [(arrayName, .arr items)])]

/-- The pieces of a text between occurrences of a non-empty separator, read left to right. -/
def splitText (sep : List Char) (cs : List Char) (cur : List Char := []) : List String :=
  match _h : cs with
  | [] => [String.ofList cur.reverse]
  | c :: rest =>
    if _hs : sep ≠ [] ∧ sep.isPrefixOf cs then
      String.ofList cur.reverse :: splitText sep (cs.drop sep.length) []
    else splitText sep rest (c :: cur)
termination_by cs.length
decreasing_by
  all_goals simp_all
  all_goals
    have : sep.length ≠ 0 := by simpa using _hs.1
    omega

/-- Stores the `i`-th piece of a delimited text, trimmed: under the name of the `i`-th segment
and decoded by it when that name is not blank, else as `campo<i+1>`. -/
def delimitedField (segs : List Segment) (m : Members) : String × Nat → Members
  | (piece, i) =>
    match segs[i]? with
    | some s =>
      if Text.isBlankText s.name then m.insert ("campo" ++ toString (i + 1)) (.str (Text.trim piece))
      else m.insert s.name (.str (decodePiece codecs (Text.trim piece) s.encoding))
    | none => m.insert ("campo" ++ toString (i + 1)) (.str (Text.trim piece))

/-- Splits on a delimiter: the i-th piece takes the name of the i-th output segment when
that name is not blank, else `campo<i+1>`. -/
def decomposeDelimited (c : SplitterConfig) (input : String) : Members :=
  let delim := (nonBlank c.delimiter).getD ","
  let pieces := splitText delim.toList input.toList
  pieces.zipIdx.foldl (delimitedField codecs (outputSegments c)) []

def decompose (c : SplitterConfig) (ctx : Members) : Except NodeError Members := do
  let input ← inputText c ctx
  let dflt := if c.segments.isEmpty then "delimitado" else "posicionfija"
  let analysis := Text.toLower ((nonBlank c.analysis <|> nonBlank c.parseMode).getD dflt)
  match analysis with
  | "posicionfija" | "posicion_fija" | "plano" => decomposeFixed codecs c input
  | "bloquesrepetidos" | "bloques_repetidos" => decomposeBlocks codecs c input
  | "delimitado" | "plantilla" => pure (decomposeDelimited codecs c input)
  | other => throw (.splitter ("unsupported analysis type '" ++ other ++ "'"))

/-- One segment of a fixed-width join: a segment with a length and a name that is not blank has
its field's text padded and appended, and either may panic. -/
def joinStep (ctx : Members) (joined : String) (s : Segment) : Except Panic String :=
  match s.length with
  | some len =>
    if Text.isBlankText s.name then pure joined
    else do
      appendText joined (← pad ((ctx.get? s.name).map Json.plain |>.getD "") len (s.padding.getD "espacios"))
  | none => pure joined

/-- Joins context fields into one text: the text or the fault, unless a fixed-width join
panics. -/
def join (c : SplitterConfig) (ctx : Members) : Except Panic (Except NodeError String) := do
  let mode := Text.toLower ((nonBlank c.parseMode <|> nonBlank c.analysis).getD "plano")
  match mode with
  | "plano" | "posicionfija" | "posicion_fija" =>
    if c.segments.isEmpty then return .error (.splitter "segmentosFijos must be set to join fixed-width fields")
    return .ok (← c.segments.foldlM (joinStep ctx) "")
  | "delimitado" =>
    let delim := (nonBlank c.delimiter).getD ","
    let values := if c.joinFields.isEmpty then ctx.map (·.2.plain)
      else c.joinFields.map fun f => (ctx.get? f).map Json.plain |>.getD ""
    return .ok (delim.intercalate values)
  | other => return .error (.splitter ("unsupported join mode '" ++ other ++ "'"))

/-- Runs a splitter against a context: splits (the default) or joins. Gives the context
afterwards, and the produced fields or the fault; when a join fails, the values its
assignments produced stay in the context. A join that panics unwinds the whole call. -/
def apply (reg : FunctionRegistry) (scope : CallScope) (c : SplitterConfig) :
    Except Panic (Members × Except NodeError Members) :=
  let ctx := scope.context
  match Text.toLower ((nonBlank c.mode).getD "descomponer") with
  | "descomponer" =>
    match decompose codecs c ctx with
    | .ok produced => .ok (ctx.extend produced, .ok produced)
    | .error e => .ok (ctx, .error e)
  | "unir" =>
    match c.assignments.resolve reg scope .skip with
    | .error e => .ok (ctx, .error (.resolve e))
    | .ok produced =>
      let ctx := ctx.extend produced
      (join c ctx).map fun
        | .error e => (ctx, .error e)
        | .ok joined =>
          let output := (nonBlank c.outputField).getD "StringUnido"
          (ctx.insert output (.str joined), .ok (produced.insert output (.str joined)))
  | other => .ok (ctx, .error (.splitter ("unsupported operation mode '" ++ other ++ "'")))

/-- Runs a splitter: the produced fields and the context they were merged into, or the fault;
a panic unwinds past both. -/
def execute (reg : FunctionRegistry) (scope : CallScope) (c : SplitterConfig) :
    Except Panic (Except NodeError (Members × Members)) :=
  (apply codecs reg scope c).map fun
    | (ctx, .ok produced) => .ok (produced, ctx)
    | (_, .error e) => .error e

end Splitter

end IntegrationFlow
