/-!
The causes of failure of the engine, one type per layer: the store, resolving a value, a
nested flow, a backend, a node, and a whole run, each with its wording in `message` and its
name in `kind`; and the one panic the program can reach, which unwinds instead of returning.
-/

namespace IntegrationFlow

/-- Faults of the store of flows, servers and tables. -/
inductive StoreError where
  | notFound (what id : String)
  | invalid (msg : String)
  | backend (msg : String)

def StoreError.message : StoreError → String
  | .notFound what id => what ++ " not found: " ++ id
  | .invalid msg => "Invalid stored data: " ++ msg
  | .backend msg => "Storage backend error: " ++ msg

def StoreError.kind : StoreError → String
  | .notFound .. => "NotFound"
  | .invalid _ => "Invalid"
  | .backend _ => "Backend"

/-- Faults of turning an assignment, a call or a condition into a value. -/
inductive ResolveError where
  | fieldNotFound (name : String)
  | invalidAssignment (msg : String)
  | unsupportedAssignmentType (raw : String)
  | unknownSystemFunction (name : String)
  | invalidArguments (function msg : String)
  | tableNotFound (table : String)
  | tableEmpty (table : String)
  | keyNotFound (table key field : String)
  | tableUnreadable (table msg : String)
  | expression (msg : String)
  | expressionTypeError (typeName : String)

def ResolveError.message : ResolveError → String
  | .fieldNotFound n => "Field not found in context: " ++ n
  | .invalidAssignment m => "Invalid assignment: " ++ m
  | .unsupportedAssignmentType r => "Unsupported assignment type: " ++ r
  | .unknownSystemFunction n => "Unknown system function: " ++ n
  | .invalidArguments f m => "Invalid arguments for " ++ f ++ ": " ++ m
  | .tableNotFound t => "Table not found: " ++ t
  | .tableEmpty t => "Table '" ++ t ++ "' has no data"
  | .keyNotFound t k f => "Key '" ++ k ++ "' with field '" ++ f ++ "' not found in table '" ++ t ++ "'"
  | .tableUnreadable t m => "Table '" ++ t ++ "' could not be read: " ++ m
  | .expression m => "Expression error: " ++ m
  | .expressionTypeError ty => "Expression did not produce a boolean (got " ++ ty ++ ")"

def ResolveError.kind : ResolveError → String
  | .fieldNotFound _ => "FieldNotFound"
  | .invalidAssignment _ => "InvalidAssignment"
  | .unsupportedAssignmentType _ => "UnsupportedAssignmentType"
  | .unknownSystemFunction _ => "UnknownSystemFunction"
  | .invalidArguments .. => "InvalidArguments"
  | .tableNotFound _ => "TableNotFound"
  | .tableEmpty _ => "TableEmpty"
  | .keyNotFound .. => "KeyNotFound"
  | .tableUnreadable .. => "TableUnreadable"
  | .expression _ => "Expression"
  | .expressionTypeError _ => "ExpressionTypeError"

/-- Faults of calling one flow from another. -/
inductive SubprocessError where
  | missingId (node : String)
  | maxDepthExceeded (depth max : Nat)
  | recursionDetected (processId stack : String)
  | timeout (processId : String) (ms : Nat)
  | failed (processId msg : String)

def SubprocessError.message : SubprocessError → String
  | .missingId n => "Subprocess node '" ++ n ++ "' has no procesoId"
  | .maxDepthExceeded d m => "Maximum subprocess depth exceeded (" ++ toString d ++ " >= " ++ toString m ++ ")"
  | .recursionDetected p s => "Recursion detected: " ++ p ++ " is already in the call stack [" ++ s ++ "]"
  | .timeout p ms => "Subprocess " ++ p ++ " timed out after " ++ toString ms ++ "ms"
  | .failed p m => "Subprocess " ++ p ++ " failed: " ++ m

def SubprocessError.kind : SubprocessError → String
  | .missingId _ => "MissingSubprocessId"
  | .maxDepthExceeded .. => "MaxDepthExceeded"
  | .recursionDetected .. => "RecursionDetected"
  | .timeout .. => "Timeout"
  | .failed .. => "Failed"

/-- Faults reported by a backend. -/
inductive BackendError where
  | configuration (msg : String)
  | request (msg : String)
  | status (code : Nat) (body : String)
  | fault (code msg body : String)
  | cancelled

def BackendError.message : BackendError → String
  | .configuration m => "Configuration error: " ++ m
  | .request m => "Request failed: " ++ m
  | .status c _ => "Backend returned status " ++ toString c
  | .fault c m _ => "SOAP fault " ++ c ++ ": " ++ m
  | .cancelled => "Cancelled"

def BackendError.rawOutput? : BackendError → Option String
  | .status _ b => some b
  | .fault _ _ b => some b
  | _ => none

/-- Faults of one node; the engine records them and routes on. -/
inductive NodeError where
  | configuration (msg : String)
  | server (server : String) (e : StoreError)
  | unsupportedServerType (t : String)
  | backend (e : BackendError)
  | resolve (e : ResolveError)
  | splitter (msg : String)
  | subprocess (e : SubprocessError)

def NodeError.message : NodeError → String
  | .configuration m => "Configuration error: " ++ m
  | .server s e => "Server '" ++ s ++ "' could not be loaded: " ++ e.message
  | .unsupportedServerType t => "Unsupported server type: " ++ t
  | .backend e => "Backend error: " ++ e.message
  | .resolve e => e.message
  | .splitter m => "Splitter error: " ++ m
  | .subprocess e => e.message

def NodeError.kind : NodeError → String
  | .configuration _ => "Configuration"
  | .server .. => "Server"
  | .unsupportedServerType _ => "UnsupportedServerType"
  | .backend _ => "Backend"
  | .resolve _ => "Resolve"
  | .splitter _ => "Splitter"
  | .subprocess _ => "Subprocess"

/-- Faults that end a run outright. -/
inductive FlowError where
  | notFound (id : String)
  | store (e : StoreError)
  | malformed (msg : String)
  | noEntryNode
  | missingRequiredField (name : String)
  | entryField (field : String) (e : ResolveError)
  | invalidNode (node msg : String)
  | cancelled

def FlowError.message : FlowError → String
  | .notFound id => "Flow not found: " ++ id
  | .store e => "Store error: " ++ e.message
  | .malformed m => "Malformed flow: " ++ m
  | .noEntryNode => "Flow has no entry node"
  | .missingRequiredField n => "Missing required field: " ++ n
  | .entryField f e => "Entry field '" ++ f ++ "' could not be resolved: " ++ e.message
  | .invalidNode n m => "Invalid configuration in node '" ++ n ++ "': " ++ m
  | .cancelled => "Execution cancelled"

def FlowError.kind : FlowError → String
  | .notFound _ => "NotFound"
  | .store _ => "Store"
  | .malformed _ => "Malformed"
  | .noEntryNode => "NoEntryNode"
  | .missingRequiredField _ => "MissingRequiredField"
  | .entryField .. => "EntryField"
  | .invalidNode .. => "InvalidNode"
  | .cancelled => "Cancelled"

/-- The panics the program can reach: the allocator's, when a text would need more than
`isize::MAX` bytes. A panic unwinds the call instead of returning a value or an error. -/
inductive Panic where
  | capacityOverflow
  deriving DecidableEq

def Panic.message : Panic → String
  | .capacityOverflow => "capacity overflow"

end IntegrationFlow
