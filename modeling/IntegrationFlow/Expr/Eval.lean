import IntegrationFlow.Expr.Parser
import IntegrationFlow.Expr.Builtin
import IntegrationFlow.Expr.Script

/-!
An interpreter of the script language, the engine conditions run on unless the services give
another (`ScriptEngine.interpreter`). Calls go first to the host's functions, then to the
library; faults carry the position of the part of the script that caused them. Anonymous
functions keep the variables in scope, so evaluation carries fuel.
-/
namespace IntegrationFlow.Expr

/-- An evaluation fault with the position it refers to. -/
structure EvalError where
  fault : EvalFault
  pos : Option SrcPos := none
  deriving Inhabited

def EvalError.message (e : EvalError) : String :=
  e.fault.message ++ (match e.pos with
    | some p => " (" ++ p.render ++ ")"
    | none => "")

/-- What a condition is evaluated against: the variables, the host functions, and the
anonymous functions written in the condition. -/
structure Env where
  vars : List (String × Value)
  host : ScriptHost
  closures : List (String × List String × Ast) := []

def faultAt (f : EvalFault) (p : SrcPos) : Except EvalError α := .error ⟨f, some p⟩

/-- Calls a function by name: `type_of` and `is_def_var` first, then the host functions of
that name and number of arguments, then the library. -/
def callFunction (env : Env) (name : String) (args : List Value) (p : SrcPos) : Except EvalError Value :=
  let library : Except EvalError Value :=
    match libraryCall name args with
    | some (.ok v) => .ok v
    | some (.error f) => faultAt f p
    | none => faultAt (.functionNotFound (signature name args)) p
  match name, args with
  | "type_of", [v] => .ok (.str v.typeName)
  | "is_def_var", [.str s] => .ok (.bool (env.vars.lookup s).isSome)
  | _, _ =>
    if env.host.functions.contains (name, args.length) then
      match env.host.call name (args.map Value.toJson) with
      | .ok j => .ok (Value.ofJson j)
      | .error msg => faultAt (.runtime msg) p
    else library

def applyOp (name : String) (args : List Value) (p : SrcPos) : Except EvalError Value :=
  let outcome := match args with
    | [a] => unaryOp name a
    | [a, b] => binaryOp name a b
    | _ => none
  match outcome with
  | some (.ok v) => .ok v
  | some (.error f) => faultAt f p
  | none => faultAt (.functionNotFound (signature name args)) p

/-- The library functions of one argument that can also be read as properties. -/
def getters : List String :=
  ["len", "is_empty", "bytes", "is_zero", "is_odd", "is_even", "floor", "ceiling", "round", "int",
    "fraction", "is_nan", "is_finite", "is_infinite"]

/-- A property of a value: a map entry (unit when absent), or a function of the library
that reads as a property, such as the length of a string or array. -/
def getProp (obj : Value) (name : String) (p : SrcPos) : Except EvalError Value :=
  let unknown : Except EvalError Value := faultAt (.dotExpr ("Unknown property '" ++ name ++
      "' - a getter is not registered for type '" ++ obj.typeName ++ "'")) p
  match obj with
  | .map m => .ok ((m.lookup name).getD .unit)
  | v =>
    if getters.contains name then
      match libraryCall name [v] with
      | some (.ok r) => .ok r
      | some (.error f) => faultAt f p
      | none => unknown
    else unknown

/-- Indexing a value: arrays and strings by position (negative counts from the end), maps by
key, whole numbers by bit. -/
def getIndex (obj idx : Value) (p : SrcPos) : Except EvalError Value :=
  match obj, idx with
  | .array xs, .int i =>
    if i ≥ 0 then
      match xs[i.toNat]? with
      | some v => .ok v
      | none => faultAt (.arrayBounds xs.length i) p
    else
      let j := xs.length - min i.natAbs xs.length
      match xs[j]? with
      | some v => .ok v
      | none => faultAt (.arrayBounds xs.length i) p
  | .array _, v => faultAt (.mismatchDataType "i64" v.typeName) p
  | .map m, .str k => .ok ((m.lookup k).getD .unit)
  | .map _, v => faultAt (.mismatchDataType "string" v.typeName) p
  | .str s, .int i =>
    let cs := s.toList
    let j? : Option Nat := if i ≥ 0 then some i.toNat
      else if i.natAbs > cs.length then none else some (cs.length - i.natAbs)
    match j?.bind fun j => cs[j]? with
    | some c => .ok (.char c)
    | none => faultAt (.stringBounds cs.length i) p
  | .str _, v => faultAt (.mismatchDataType "i64" v.typeName) p
  | .int x, .int b =>
    let bit? : Option Nat := if b ≥ 0 then (if b < 64 then some b.toNat else none)
      else if b.natAbs > 64 then none else some (64 - b.natAbs)
    match bit? with
    | some k => .ok (.bool ((Int64.ofInt x >>> Int64.ofNat k) &&& 1 == 1))
    | none => faultAt (.bitFieldBounds 64 b) p
  | .int _, v => faultAt (.mismatchDataType "i64" v.typeName) p
  | v, i => faultAt (.indexingType (v.typeName ++ " [" ++ i.typeName ++ "]")) p

def CasePattern.exact (v : Value) : CasePattern → Bool
  | .value w => Value.same v w
  | .range .. => false

def CasePattern.covers (v : Value) : CasePattern → Bool
  | .range lo hi inc =>
    match v with
    | .int n => lo ≤ n && (if inc then n ≤ hi else n < hi)
    | _ => false
  | .value _ => false

def Ast.armMatches (v : Value) : Ast → Bool
  | .arm pats _ _ => pats.any (CasePattern.exact v)
  | _ => false

def Value.matchable : Value → Bool
  | .fnPtr .. => false
  | _ => true

/-- The boolean of a condition part, or a type fault at its position. -/
def expectBool (v : Value) (p : SrcPos) : Except EvalError Bool :=
  match v with
  | .bool b => .ok b
  | v => faultAt (.mismatchDataType "bool" v.typeName) p

/-- The library functions that take a function and call it on the items of an array. -/
def higherOrder : List String := ["map", "filter", "some", "all", "find", "index_of", "reduce"]

def Value.holds : Value → Bool
  | .bool b => b
  | _ => false

mutual

/-- The value of an expression. Each step of evaluation takes one unit of `fuel`; running
out is a stack overflow. -/
def eval (env : Env) : Nat → Ast → Except EvalError Value
  | 0, e => faultAt .stackOverflow e.pos
  | fuel + 1, e =>
    match e with
    | .unit _ => .ok .unit
    | .bool b _ => .ok (.bool b)
    | .int n _ => .ok (.int n)
    | .float f _ => .ok (.float f)
    | .str s _ => .ok (.str s)
    | .char c _ => .ok (.char c)
    | .interp parts _ => do
      let vs ← evalList env fuel parts
      return .str (String.join (vs.map Value.display))
    | .var name p =>
      match env.vars.lookup name with
      | some v => .ok v
      | none => faultAt (.variableNotFound name) p
    | .array items _ => .array <$> evalList env fuel items
    | .map entries _ => do
      let es ← evalEntries env fuel entries
      return .map (es.foldl (fun m (k, v) => insertEntry k v m) [])
    | .call name args p => do
      let vs ← evalList env fuel args
      callValue env fuel name vs p
    | .op name args p => do
      let vs ← evalList env fuel args
      applyOp name vs p
    | .method obj name args guarded _ np => do
      let o ← eval env fuel obj
      if guarded && o matches .unit then return .unit
      let vs ← evalList env fuel args
      callValue env fuel name (o :: vs) np
    | .prop obj name guarded _ np => do
      let o ← eval env fuel obj
      if guarded && o matches .unit then return .unit
      getProp o name np
    | .index obj idx guarded _ => do
      let o ← eval env fuel obj
      if guarded && o matches .unit then return .unit
      let i ← eval env fuel idx
      getIndex o i idx.startPos
    | .and l r _ => do
      if ← expectBool (← eval env fuel l) l.pos then .bool <$> (expectBool (← eval env fuel r) r.pos)
      else return .bool false
    | .or l r _ => do
      if ← expectBool (← eval env fuel l) l.pos then return .bool true
      else .bool <$> (expectBool (← eval env fuel r) r.pos)
    | .coalesce l r _ => do
      match ← eval env fuel l with
      | .unit => eval env fuel r
      | v => return v
    | .block stmts _ => evalBlock env fuel stmts
    | .ifElse c yes no _ => do
      if ← expectBool (← eval env fuel c) c.pos then eval env fuel yes else eval env fuel no
    | .switch subject arms dflt _ => do
      let v ← eval env fuel subject
      let chosen ← if !v.matchable then pure none
        else evalArms env fuel v (arms.any (Ast.armMatches v)) arms
      match chosen with
      | some r => return r
      | none =>
        match dflt with
        | some d => eval env fuel d
        | none => return .unit
    | .arm _ _ action => eval env fuel action
    | .closure _ _ p => .ok (.fnPtr (Ast.closureName p) env.vars)

def evalList (env : Env) : Nat → List Ast → Except EvalError (List Value)
  | _, [] => .ok []
  | 0, e :: _ => faultAt .stackOverflow e.pos
  | fuel + 1, e :: es => do
    let v ← eval env fuel e
    let vs ← evalList env fuel es
    return v :: vs

def evalEntries (env : Env) : Nat → List (String × Ast) → Except EvalError (List (String × Value))
  | _, [] => .ok []
  | 0, (_, e) :: _ => faultAt .stackOverflow e.pos
  | fuel + 1, (k, e) :: es => do
    let v ← eval env fuel e
    let vs ← evalEntries env fuel es
    return (k, v) :: vs

def evalBlock (env : Env) : Nat → List Ast → Except EvalError Value
  | _, [] => .ok .unit
  | 0, e :: _ => faultAt .stackOverflow e.pos
  | fuel + 1, [e] => eval env fuel e
  | fuel + 1, e :: es => do
    let _ ← eval env fuel e
    evalBlock env fuel es

/-- The result of the first arm whose pattern matches (exactly, or by range) and whose
guard holds. -/
def evalArms (env : Env) : Nat → Value → Bool → List Ast → Except EvalError (Option Value)
  | _, _, _, [] => .ok none
  | 0, _, _, e :: _ => faultAt .stackOverflow e.pos
  | fuel + 1, v, exact, .arm pats guard action :: rest => do
    let hit := if exact then pats.any (CasePattern.exact v) else pats.any (CasePattern.covers v)
    if !hit then evalArms env fuel v exact rest
    else if ← expectBool (← eval env fuel guard) guard.pos then some <$> eval env fuel action
    else evalArms env fuel v exact rest
  | fuel + 1, v, exact, _ :: rest => evalArms env fuel v exact rest

/-- Calls a function by name on evaluated arguments: calling a function pointer, making
one with `Fn`, the array functions that take a function, then the other functions. -/
def callValue (env : Env) : Nat → String → List Value → SrcPos → Except EvalError Value
  | 0, _, _, p => faultAt .stackOverflow p
  | fuel + 1, name, args, p =>
    match name, args with
    | "call", (.fnPtr f captured) :: rest => applyFn env fuel f captured rest p
    | "Fn", [.str f] => .ok (.fnPtr f [])
    | _, [.array xs, .fnPtr f captured] =>
      if higherOrder.contains name then eachItem env fuel name f captured xs 0 .unit p
      else callFunction env name args p
    | "reduce", [.array xs, .fnPtr f captured, init] => eachItem env fuel name f captured xs 0 init p
    | _, _ => callFunction env name args p

/-- Calls the function a pointer names: an anonymous function of the condition runs its
body with its parameters bound over the variables it captured, and a fault inside it is
reported as a fault of the call; any other name is called as a function. -/
def applyFn (env : Env) : Nat → String → List (String × Value) → List Value → SrcPos →
    Except EvalError Value
  | 0, _, _, _, p => faultAt .stackOverflow p
  | fuel + 1, f, captured, args, p =>
    match env.closures.lookup f with
    | some (params, body) =>
      if params.length != args.length then faultAt (.functionNotFound (signature f args)) p
      else
        match eval { env with vars := params.zip args ++ captured } fuel body with
        | .ok v => .ok v
        | .error e =>
          match e.fault with
          | .stackOverflow => .error e
          | _ => faultAt (.inClosure e.message) p
    | none => callValue env fuel f args p

/-- Runs an array function that takes a function over the items from index `i` on; `acc`
is the running value of `reduce`. A callback of two parameters also gets the index. -/
def eachItem (env : Env) : Nat → String → String → List (String × Value) → List Value → Nat →
    Value → SrcPos → Except EvalError Value
  | 0, _, _, _, _, _, _, p => faultAt .stackOverflow p
  | _ + 1, name, _, _, [], _, acc, _ =>
    .ok (if name == "some" then .bool false
      else if name == "all" then .bool true
      else if name == "find" then .unit
      else if name == "index_of" then .int (-1)
      else if name == "reduce" then acc
      else if name == "map" || name == "filter" then
        match acc with
        | .array ys => .array ys.reverse
        | _ => .array []
      else acc)
  | fuel + 1, name, f, captured, x :: xs, i, acc, p => do
    let withIndex := match env.closures.lookup f with
      | some (params, _) => params.length == 2 && name != "reduce" || params.length == 3
      | none => false
    let args := if name == "reduce" then acc :: x :: (if withIndex then [.int i] else [])
      else x :: (if withIndex then [.int i] else [])
    let r ← applyFn env fuel f captured args p
    let prior := match acc with
      | .array ys => ys
      | _ => []
    if name == "map" then eachItem env fuel name f captured xs (i + 1) (.array (r :: prior)) p
    else if name == "filter" then
      eachItem env fuel name f captured xs (i + 1) (.array (if r.holds then x :: prior else prior)) p
    else if name == "some" then (if r.holds then .ok (.bool true) else eachItem env fuel name f captured xs (i + 1) acc p)
    else if name == "all" then (if r.holds then eachItem env fuel name f captured xs (i + 1) acc p else .ok (.bool false))
    else if name == "find" then (if r.holds then .ok x else eachItem env fuel name f captured xs (i + 1) acc p)
    else if name == "index_of" then (if r.holds then .ok (.int i) else eachItem env fuel name f captured xs (i + 1) acc p)
    else eachItem env fuel name f captured xs (i + 1) r p

end

/-- The depth of evaluation a script is allowed: ample for its own nesting, and room for calls
of its functions nested sixty-four deep. -/
def evalFuel (script : String) : Nat := 64 * (script.length + 2)

/-- The interpreter of the script language this library ships, the engine conditions run on
unless another is given. -/
def ScriptEngine.interpreter : ScriptEngine where
  eval host vars script :=
    match parseCondition script with
    | .error e => .error (EvalError.message ⟨.parsing e.fault, some e.pos⟩)
    | .ok ast =>
      let env : Env := { vars := vars.map fun (k, v) => (k, Value.ofJson v), host, closures := ast.closures }
      match Expr.eval env (evalFuel script) ast with
      | .error e => .error e.message
      | .ok (.bool b) => .ok (.bool b)
      | .ok v => .ok (.other v.fullTypeName)

end IntegrationFlow.Expr
