import IntegrationFlow.Flow.Error
import IntegrationFlow.Text.WhiteSpace

/-!
One run of a flow inside a chain of nested runs: which flow runs, which runs called it, and
the guard that keeps a chain finite and free of cycles before a nested run starts.
-/

namespace IntegrationFlow

/-- A run in a chain of nested runs: its flow, the run that called it, how many runs are above
it, and those runs. -/
structure Invocation where
  processId : String
  parentProcessId : Option String := none
  depth : Nat := 0
  /-- The runs above this one, outermost first. -/
  callStack : List String := []
  deriving Inhabited

namespace Invocation

def root (processId : String) : Invocation := { processId }

def child (parent : Invocation) (processId : String) : Invocation :=
  { processId, parentProcessId := some parent.processId, depth := parent.depth + 1,
    callStack := parent.callStack ++ [parent.processId] }

def isActive (i : Invocation) (processId : String) : Bool :=
  i.processId == processId || i.callStack.contains processId

def chain (i : Invocation) : String := " -> ".intercalate (i.callStack ++ [i.processId])

/-- The chain built from a list of flow ids: the first is the root, each next one its child. -/
def ofChain : List String → Invocation
  | [] => root ""
  | first :: rest => rest.foldl child (root first)

/-- Whether node `node` of the run `parent` may start a nested run of `target`: the target is
named, the chain stays within `maxDepth` and the target is not already running. -/
def check (node target : String) (parent : Invocation) (maxDepth : Nat) : Except SubprocessError Unit :=
  if Text.isBlankText target then .error (.missingId node)
  else if parent.depth ≥ maxDepth then .error (.maxDepthExceeded (parent.depth + 1) maxDepth)
  else if parent.isActive target then .error (.recursionDetected target parent.chain)
  else .ok ()

end Invocation

end IntegrationFlow
