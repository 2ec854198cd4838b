import IntegrationFlow.Flow.Function
import IntegrationFlow.Expr.Normalize

/-!
Conditions run on an embedded script engine, a library of its own: it is handed the
normalized condition, the bindings whose keys are plain names as variables, and the system
functions of at most three arguments as host functions. The engine is a parameter; what is
modelled is how a condition is handed to it and how its answer is read.
-/

namespace IntegrationFlow.Expr

/-- What a script evaluated to: a boolean, or a value of another type, by the name the engine
gives that type. -/
inductive ScriptValue where
  | bool (b : Bool)
  | other (typeName : String)

/-- What a script may call on the host: the functions registered, by name and number of
arguments, and how a call runs, giving a document or the text of its fault. -/
structure ScriptHost where
  functions : List (String × Nat)
  call : String → List Json → Except String Json

/-- An embedded script engine: evaluates an expression with host functions and variables,
giving its value or the text of its fault. -/
structure ScriptEngine where
  eval : ScriptHost → Members → String → Except String ScriptValue

/-- Whether a binding key becomes a variable: ASCII letters, digits and underscores, not
starting with a digit, with at least one letter. -/
def isBindingName (k : String) : Bool :=
  match k.toList with
  | c :: _ => (c.isAlpha || c == '_') && k.toList.all (fun c => c.isAlphanum || c == '_') && k.toList.any Char.isAlpha
  | [] => false

def bindingVars (bindings : Members) : Members := bindings.filter fun (k, _) => isBindingName k

/-- The system functions as host functions: those of at most three arguments are registered,
and a call runs in the registry with the scope of the condition. -/
def systemHost (registry : FunctionRegistry) (scope : CallScope) : ScriptHost where
  functions := (registry.functions.filter (·.arity ≤ 3)).map fun f => (f.name, f.arity)
  call name args := (registry.call name args scope).mapError ResolveError.message

/-- Evaluates a condition against bindings. The condition is first normalized; faults are
reported with its original text, a result other than a boolean as a type fault. -/
def evaluateCondition (engine : ScriptEngine) (registry : FunctionRegistry) (scope : CallScope)
    (expression : String) : Except ResolveError Bool :=
  match engine.eval (systemHost registry scope) (bindingVars scope.context) (normalize expression) with
  | .error msg => .error (.expression (msg ++ " in `" ++ expression ++ "`"))
  | .ok (.bool b) => .ok b
  | .ok (.other t) => .error (.expressionTypeError t)

end IntegrationFlow.Expr
