import IntegrationFlow.Json.Basic
import IntegrationFlow.Json.Render
import IntegrationFlow.Json.Error
import IntegrationFlow.Json.Reader
import IntegrationFlow.Json.Decode
import IntegrationFlow.Json.View
import IntegrationFlow.Decimal.Shortest
import IntegrationFlow.Decimal.Parse
import IntegrationFlow.Text.WhiteSpace
import IntegrationFlow.Text.Alphanumeric
import IntegrationFlow.Text.Case
import IntegrationFlow.Flow.Error
import IntegrationFlow.Flow.Table
import IntegrationFlow.Flow.Function
import IntegrationFlow.Flow.Assignment
import IntegrationFlow.Json.Lenient
import IntegrationFlow.Splitter.Segment
import IntegrationFlow.Splitter.Config
import IntegrationFlow.Splitter.Split
import IntegrationFlow.Splitter.Codecs
import IntegrationFlow.Backend.Duration
import IntegrationFlow.Backend.Soap
import IntegrationFlow.Flow.Schema
import IntegrationFlow.Engine.Invocation
import IntegrationFlow.Expr.Normalize
import IntegrationFlow.Expr.Lexer
import IntegrationFlow.Expr.Value
import IntegrationFlow.Expr.Tree
import IntegrationFlow.Expr.Parser
import IntegrationFlow.Expr.Builtin
import IntegrationFlow.Expr.Script
import IntegrationFlow.Expr.Eval
import IntegrationFlow.Json.TextRecord
import IntegrationFlow.Flow.Node
import IntegrationFlow.Flow.Definition
import IntegrationFlow.Flow.Graph
import IntegrationFlow.Engine.Result
import IntegrationFlow.Engine.Store
import IntegrationFlow.Engine.Backend
import IntegrationFlow.Engine.Steps
import IntegrationFlow.Engine.Run
import IntegrationFlow.Proofs.Traversal
import IntegrationFlow.Proofs.Execution
import IntegrationFlow.Proofs.Nodes
import IntegrationFlow.Proofs.Routing
import IntegrationFlow.Proofs.Result
import IntegrationFlow.Proofs.Faults
import IntegrationFlow.Proofs.ReadWritten
import IntegrationFlow.Proofs.ReadRecords
import IntegrationFlow.Proofs.FlowText
import IntegrationFlow.Proofs.Executions
import IntegrationFlow.Proofs.Chains
import IntegrationFlow.Proofs.SplitJoin
import IntegrationFlow.Proofs.Draining
import IntegrationFlow.Proofs.Calls
import IntegrationFlow.Proofs.EntryFields
import IntegrationFlow.Proofs.Audit
import IntegrationFlow.Proofs.SortedRead
import IntegrationFlow.Proofs.RecordUpdate
import IntegrationFlow.Proofs.Schema
import IntegrationFlow.Proofs.QuotedLiterals
import IntegrationFlow.Proofs.GroupResolution
import IntegrationFlow.Proofs.TableLookup
import IntegrationFlow.Proofs.NestedOutcome
import IntegrationFlow.Proofs.FixedWidth
import IntegrationFlow.Proofs.NodeEffects
import IntegrationFlow.Proofs.ConditionTokens
import IntegrationFlow.Proofs.GraphIssues
import IntegrationFlow.Proofs.PieceLayout
import IntegrationFlow.Proofs.SoapFaults
import IntegrationFlow.Proofs.Coercion
import IntegrationFlow.Proofs.NodeWrites
import IntegrationFlow.Proofs.SchemaNextRun
import IntegrationFlow.Proofs.DurationParts
import IntegrationFlow.Proofs.EnvelopeFields
