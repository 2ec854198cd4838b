import IntegrationFlow.Flow.Table
import IntegrationFlow.Text.Case

/-!
The catalog of system functions that assignments and conditions may call, and the reading
of a textual call such as `SubTexto(nombre, 0, 3)`: the name, then arguments that are
quoted texts, booleans, numbers or names of context fields.
-/

namespace IntegrationFlow

/-- What the clock and the random source read during a run. -/
structure Ambient where
  day : Nat := 1
  month : Nat := 1
  year : Nat := 2025
  hour : Nat := 0
  minute : Nat := 0
  second : Nat := 0
  /-- Monday is 1, Sunday 7. -/
  weekday : Nat := 3
  random : Float := 0.5
  uuid : String := "00000000-0000-4000-8000-000000000000"
  deriving Inhabited

/-- What a system function can see while it runs. -/
structure CallScope where
  context : Members
  tables : Tables
  ambient : Ambient := {}

/-- A named function of fixed arity. -/
structure SystemFunction where
  name : String
  arity : Nat
  description : String
  run : CallScope → List Json → Except ResolveError Json

namespace SystemFunction

def call (f : SystemFunction) (scope : CallScope) (args : List Json) : Except ResolveError Json :=
  if args.length ≠ f.arity then
    .error (.invalidArguments f.name
      ("expected " ++ toString f.arity ++ " argument(s), got " ++ toString args.length))
  else f.run scope args

end SystemFunction

def twoDigits (n : Nat) : String := if n < 10 then "0" ++ toString n else toString n

def contextText (ctx : Members) (k : String) : Json := .str ((ctx.get? k).map Json.plain |>.getD "")

def argAt (args : List Json) (i : Nat) : Json := args.getD i .null

def sliceChars (s : String) (start len : Nat) : String := String.ofList ((s.toList.drop start).take len)

/-- A dotted key names a context member: the whole key is tried first, then its last
segment; anything else is the key itself. -/
def keyFromContext (ctx : Members) (key : String) : String :=
  if !key.contains '.' then key
  else
    let last := (key.splitOn ".").getLast?.getD key
    match ctx.get? key with
    | some v => v.plain
    | none => match ctx.get? last with
      | some v => v.plain
      | none => key

def textPair (args : List Json) : Option (String × String) :=
  match argAt args 0, argAt args 1 with
  | .str a, .str b => some (a, b)
  | _, _ => none

def occursIn (b : List Char) : List Char → Bool
  | [] => b.isEmpty
  | c :: cs => b.isPrefixOf (c :: cs) || occursIn b cs

def containsText (a b : String) : Bool := occursIn b.toList a.toList

def standardCatalog : List SystemFunction :=
  [ ⟨"Ahora", 0, "Current local date and time (DD/MM/YYYY HH:MM:SS)", fun s _ =>
      let a := s.ambient
      .ok (.str (twoDigits a.day ++ "/" ++ twoDigits a.month ++ "/" ++ toString a.year ++ " " ++
        twoDigits a.hour ++ ":" ++ twoDigits a.minute ++ ":" ++ twoDigits a.second))⟩,
    ⟨"AnoActual", 0, "Current year", fun s _ => .ok (Json.int s.ambient.year)⟩,
    ⟨"DiaSemana", 0, "Day of the week, Monday=1 .. Sunday=7", fun s _ => .ok (Json.int s.ambient.weekday)⟩,
    ⟨"Hoy", 0, "Current local date (DD/MM/YYYY)", fun s _ =>
      let a := s.ambient
      .ok (.str (twoDigits a.day ++ "/" ++ twoDigits a.month ++ "/" ++ toString a.year))⟩,
    ⟨"IDFlujo", 0, "Id of the running flow", fun s _ => .ok (contextText s.context "__idFlujo")⟩,
    ⟨"Longitud", 1, "Number of characters of a text", fun _ args =>
      .ok (Json.int (argAt args 0).plain.length)⟩,
    ⟨"MesActual", 0, "Current month number", fun s _ => .ok (Json.int s.ambient.month)⟩,
    ⟨"NombreProceso", 0, "Name of the running process", fun s _ =>
      .ok (contextText s.context "__nombreProceso")⟩,
    ⟨"Random", 0, "Random number in [0, 1)", fun s _ => .ok (Json.float s.ambient.random)⟩,
    ⟨"RolActual", 0, "Role of the user running the flow", fun s _ => .ok (contextText s.context "__rol")⟩,
    ⟨"SubTexto", 3, "Substring by character position and length", fun _ args => do
      let text := (argAt args 0).plain
      let some start := (argAt args 1).lenientFloat?
        | .error (.invalidArguments "SubTexto" "start must be a number")
      let some len := (argAt args 2).lenientFloat?
        | .error (.invalidArguments "SubTexto" "length must be a number")
      if start < 0 || len < 0 || start + len > text.length.toFloat then return .str ""
      return .str (sliceChars text start.toUInt64.toNat len.toUInt64.toNat)⟩,
    ⟨"TablaValor", 3, "Lookup-table cell: TablaValor(tabla, clave, campo)", fun s args => do
      let text (i : Nat) (what : String) : Except ResolveError String :=
        match argAt args i with
        | .str t => .ok t
        | _ => .error (.invalidArguments "TablaValor" (what ++ " must be a string"))
      let table ← text 0 "table"
      let key := keyFromContext s.context (← text 1 "key")
      let field ← text 2 "field"
      s.tables.lookup table key field⟩,
    ⟨"TextoEnMayusculas", 1, "Text in upper case", fun _ args =>
      .ok (.str (Text.toUpper (argAt args 0).plain))⟩,
    ⟨"UUID", 0, "Random UUID v4", fun s _ => .ok (.str s.ambient.uuid)⟩,
    ⟨"UsuarioActual", 0, "User running the flow", fun s _ => .ok (contextText s.context "__usuario")⟩,
    ⟨"empiezaCon", 2, "Whether the first text starts with the second", fun _ args =>
      .ok (.bool ((textPair args).map (fun (a, b) => a.startsWith b) |>.getD false))⟩,
    ⟨"incluye", 2, "Whether the first text contains the second", fun _ args =>
      .ok (.bool ((textPair args).map (fun (a, b) => containsText a b) |>.getD false))⟩,
    ⟨"terminaCon", 2, "Whether the first text ends with the second", fun _ args =>
      .ok (.bool ((textPair args).map (fun (a, b) => a.endsWith b) |>.getD false))⟩ ]

/-- A catalog of system functions, keyed by name. -/
structure FunctionRegistry where
  functions : List SystemFunction

namespace FunctionRegistry

def standard : FunctionRegistry := ⟨standardCatalog⟩

def get? (r : FunctionRegistry) (name : String) : Option SystemFunction :=
  r.functions.find? (·.name == name)

def call (r : FunctionRegistry) (name : String) (args : List Json) (scope : CallScope) :
    Except ResolveError Json :=
  match r.get? name with
  | some f => f.call scope args
  | none => .error (.unknownSystemFunction name)

/-- One character of argument text. The state is the arguments read so far and the one being
read, both reversed, and the quote that is open: inside quotes every character is kept and the
matching quote closes; outside, a quote opens, a comma ends the argument, anything else is
kept. -/
def splitStep (st : List String × List Char × Option Char) (c : Char) :
    List String × List Char × Option Char :=
  let (args, cur, quote) := st
  match quote with
  | some q => (args, c :: cur, if c = q then none else some q)
  | none =>
    if c = '\'' ∨ c = '"' then (args, c :: cur, some c)
    else if c = ',' then (String.ofList cur.reverse :: args, [], none)
    else (args, c :: cur, none)

/-- Splits argument text on commas outside quotes; a last empty piece counts only after a
comma. Every piece is trimmed. -/
def splitArguments (text : String) : List String :=
  let (args, cur, _) := text.toList.foldl splitStep ([], [], none)
  let last := String.ofList cur.reverse
  let args := if !Text.isBlankText last || !args.isEmpty then last :: args else args
  args.reverse.map Text.trim

/-- One argument: a quoted text, a boolean, a whole number, a double or a context field. -/
def parseArgument (raw : String) (ctx : Members) : Except ResolveError Json :=
  let quoted (q : Char) := raw.utf8ByteSize ≥ 2 && raw.startsWith q.toString && raw.endsWith q.toString
  if quoted '\'' || quoted '"' then .ok (.str (String.ofList ((raw.toList.drop 1).dropLast)))
  else if raw = "true" then .ok (.bool true)
  else if raw = "false" then .ok (.bool false)
  else match Decimal.parseInt64? raw with
    | some n => .ok (Json.int n)
    | none => match Decimal.parseFloat? raw with
      | some f => .ok (if f.isNaN || f.isInf then .null else .float f)
      | none => match ctx.get? raw with
        | some v => .ok v
        | none => .error (.fieldNotFound raw)

/-- The name and the argument text of a call: with an opening parenthesis and a closing one
at the end, the name is the trimmed text before the first `(` and the arguments are what lies
between; otherwise the whole text is the name. -/
def callParts (call : String) : String × String :=
  let cs := call.toList
  match cs.idxOf? '(' with
  | some i =>
    if call.endsWith ")" then
      (Text.trim (String.ofList (cs.take i)), String.ofList ((cs.drop (i + 1)).dropLast))
    else (call, "")
  | none => (call, "")

def invoke (r : FunctionRegistry) (call : String) (scope : CallScope) : Except ResolveError Json := do
  let (name, argText) := callParts (Text.trim call)
  if (r.get? name).isNone then throw (.unknownSystemFunction name)
  let args ← (splitArguments argText).mapM (parseArgument · scope.context)
  r.call name args scope

end FunctionRegistry

end IntegrationFlow
