import ScriptFlow.Client.Basic
import ScriptFlow.Data.Basic
import ScriptFlow.Data.Decode
import ScriptFlow.Data.Fault
import ScriptFlow.Data.Instant
import ScriptFlow.Data.Notation
import ScriptFlow.Data.Payload
import ScriptFlow.Data.Span
import ScriptFlow.Data.Text
import ScriptFlow.Decimal.Read
import ScriptFlow.Decimal.Shortest
import ScriptFlow.Decimal.Text
import ScriptFlow.Digest
import ScriptFlow.Durable.Activation
import ScriptFlow.Durable.CallOptions
import ScriptFlow.Durable.Command
import ScriptFlow.Durable.Entry
import ScriptFlow.Durable.Execution
import ScriptFlow.Durable.Failure
import ScriptFlow.Durable.Headers
import ScriptFlow.Durable.Primitives
import ScriptFlow.Durable.Wire
import ScriptFlow.Flow.Basic
import ScriptFlow.Flow.Kernel
import ScriptFlow.Flow.Loop
import ScriptFlow.Flow.Scope
import ScriptFlow.Flow.ScopeTrace
import ScriptFlow.Json.Reader
import ScriptFlow.Json.Writer
import ScriptFlow.Main
import ScriptFlow.Options.Basic
import ScriptFlow.Options.Model
import ScriptFlow.Plugin.Basic
import ScriptFlow.Plugin.Bundled
import ScriptFlow.Plugin.Cad
import ScriptFlow.Plugin.Catalogue
import ScriptFlow.Plugin.Module
import ScriptFlow.Program.Run
import ScriptFlow.Program.Step
import ScriptFlow.Proofs.Data.JsonText
import ScriptFlow.Proofs.Data.Keys
import ScriptFlow.Proofs.Data.NumberText
import ScriptFlow.Proofs.Data.Payload
import ScriptFlow.Proofs.Data.Unchanged
import ScriptFlow.Proofs.Decimal.Comparison
import ScriptFlow.Proofs.Decimal.Digits
import ScriptFlow.Proofs.Decimal.Rounding
import ScriptFlow.Proofs.Durable.Boundary
import ScriptFlow.Proofs.Durable.Closures
import ScriptFlow.Proofs.Durable.Crossing
import ScriptFlow.Proofs.Durable.Headers
import ScriptFlow.Proofs.Durable.Nesting
import ScriptFlow.Proofs.Durable.Pending
import ScriptFlow.Proofs.Durable.Reporting
import ScriptFlow.Proofs.Durable.SideEffects
import ScriptFlow.Proofs.Durable.Waits
import ScriptFlow.Proofs.Durable.Wire
import ScriptFlow.Proofs.Loop.Calls
import ScriptFlow.Proofs.Loop.Cancelling
import ScriptFlow.Proofs.Loop.Disconnected
import ScriptFlow.Proofs.Loop.Futures
import ScriptFlow.Proofs.Loop.Links
import ScriptFlow.Proofs.Loop.Moves
import ScriptFlow.Proofs.Loop.Owners
import ScriptFlow.Proofs.Loop.Protocol
import ScriptFlow.Proofs.Loop.Readers
import ScriptFlow.Proofs.Loop.Reading
import ScriptFlow.Proofs.Loop.References
import ScriptFlow.Proofs.Loop.Registrations
import ScriptFlow.Proofs.Loop.Serving
import ScriptFlow.Proofs.Loop.Settling
import ScriptFlow.Proofs.Loop.Shielding
import ScriptFlow.Proofs.Loop.Sleeping
import ScriptFlow.Proofs.Loop.Sound
import ScriptFlow.Proofs.Loop.Turns
import ScriptFlow.Proofs.Loop.Waiting
import ScriptFlow.Proofs.Loop.Yielding
import ScriptFlow.Proofs.Plugin.Calling
import ScriptFlow.Proofs.Plugin.Isolation
import ScriptFlow.Proofs.Plugin.Json
import ScriptFlow.Proofs.Plugin.Refusal
import ScriptFlow.Proofs.Plugin.Sets
import ScriptFlow.Proofs.Scope.Callbacks
import ScriptFlow.Proofs.Scope.Cancellation
import ScriptFlow.Proofs.Scope.Cascade
import ScriptFlow.Proofs.Scope.Failing
import ScriptFlow.Proofs.Scope.Forest
import ScriptFlow.Proofs.Scope.Operations
import ScriptFlow.Proofs.Scope.Sweep
import ScriptFlow.Proofs.Scope.Trace
import ScriptFlow.Proofs.Scope.Unregistering
import ScriptFlow.Proofs.Script.Confined
import ScriptFlow.Proofs.Script.ConfinedLibrary
import ScriptFlow.Proofs.Script.Construction
import ScriptFlow.Proofs.Script.Conversion
import ScriptFlow.Proofs.Script.Globals
import ScriptFlow.Proofs.Script.Iteration
import ScriptFlow.Proofs.Script.Keys
import ScriptFlow.Proofs.Script.Loader
import ScriptFlow.Proofs.Script.Loading
import ScriptFlow.Proofs.Script.Names
import ScriptFlow.Proofs.Script.Options
import ScriptFlow.Proofs.Script.Orderly
import ScriptFlow.Proofs.Script.OrderlyLibrary
import ScriptFlow.Proofs.Script.Outcomes
import ScriptFlow.Proofs.Script.Paths
import ScriptFlow.Proofs.Script.Pruning
import ScriptFlow.Proofs.Script.ReadOnly
import ScriptFlow.Proofs.Script.RoundTrip
import ScriptFlow.Proofs.Script.Sealed
import ScriptFlow.Proofs.Script.SealedMachine
import ScriptFlow.Proofs.Script.Sequences
import ScriptFlow.Proofs.Script.Showing
import ScriptFlow.Proofs.Service.Conduct
import ScriptFlow.Proofs.Service.Failures
import ScriptFlow.Proofs.Simulation.Acts
import ScriptFlow.Proofs.Simulation.Candidates
import ScriptFlow.Proofs.Simulation.Clock
import ScriptFlow.Proofs.Simulation.Families
import ScriptFlow.Proofs.Simulation.Handlers
import ScriptFlow.Proofs.Simulation.Kinship
import ScriptFlow.Proofs.Simulation.Ledger
import ScriptFlow.Proofs.Simulation.Progress
import ScriptFlow.Proofs.Simulation.Registrations
import ScriptFlow.Proofs.Simulation.Reports
import ScriptFlow.Proofs.Simulation.Signals
import ScriptFlow.Proofs.Simulation.Timely
import ScriptFlow.Proofs.Simulation.Waking
import ScriptFlow.Proofs.Worker.Activities
import ScriptFlow.Proofs.Worker.Addressing
import ScriptFlow.Proofs.Worker.Configuration
import ScriptFlow.Proofs.Worker.Errors
import ScriptFlow.Proofs.Worker.Life
import ScriptFlow.Proofs.Worker.Location
import ScriptFlow.Proofs.Worker.Registration
import ScriptFlow.Proofs.Workflow.Cancellation
import ScriptFlow.Registration.Callable
import ScriptFlow.Registration.Table
import ScriptFlow.Sample.Functions
import ScriptFlow.Script.Act
import ScriptFlow.Script.Convert
import ScriptFlow.Script.Environment
import ScriptFlow.Script.Evaluation
import ScriptFlow.Script.Library.Arguments
import ScriptFlow.Script.Library.Base
import ScriptFlow.Script.Library.Format
import ScriptFlow.Script.Library.Modules
import ScriptFlow.Script.Library.Numbers
import ScriptFlow.Script.Library.Pattern
import ScriptFlow.Script.Library.Strings
import ScriptFlow.Script.Library.Tables
import ScriptFlow.Script.Machine
import ScriptFlow.Script.Number
import ScriptFlow.Script.Operation
import ScriptFlow.Script.Sources
import ScriptFlow.Script.Store
import ScriptFlow.Script.Syntax
import ScriptFlow.Script.Syntax.Parser
import ScriptFlow.Script.Table
import ScriptFlow.Script.Token.Lexer
import ScriptFlow.Script.Value
import ScriptFlow.Service.ScriptService
import ScriptFlow.Service.Session
import ScriptFlow.Simulation.Engine
import ScriptFlow.Simulation.Expectation
import ScriptFlow.Simulation.Harness
import ScriptFlow.Simulation.Primitives
import ScriptFlow.Text.Case
import ScriptFlow.Text.Identifier
import ScriptFlow.Text.Quoted
import ScriptFlow.Text.Ranges
import ScriptFlow.Text.Uri
import ScriptFlow.Text.Utf8
import ScriptFlow.Trial.Clients
import ScriptFlow.Trial.Executions
import ScriptFlow.Trial.Headers
import ScriptFlow.Trial.Lives
import ScriptFlow.Trial.Plugins
import ScriptFlow.Trial.Programs
import ScriptFlow.Trial.Registrations
import ScriptFlow.Trial.Scenarios
import ScriptFlow.Trial.Scripts
import ScriptFlow.Trial.Workers
import ScriptFlow.Worker.Adapter
import ScriptFlow.Worker.Basic
import ScriptFlow.Worker.CommandLine
import ScriptFlow.Worker.Config
import ScriptFlow.Worker.Connection
import ScriptFlow.Worker.Life
import ScriptFlow.Worker.Location
import ScriptFlow.Worker.Process
import ScriptFlow.Workflow.Primitives
import ScriptFlow.Workflow.World
import ScriptFlow.Yaml.Node
import ScriptFlow.Yaml.Tag
import ScriptFlow.Yaml.Token
import ScriptFlow.Yaml.Token.Lexer
import ScriptFlow.Yaml.Token.Scalar
import ScriptFlow.Yaml.Value
