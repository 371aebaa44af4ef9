import SimEngine.Capability
import SimEngine.Cast.Behavior
import SimEngine.Cast.Conduct
import SimEngine.Cast.Data
import SimEngine.Cast.Enlist
import SimEngine.Cast.Interpreter
import SimEngine.Cast.Memory
import SimEngine.Cast.Motion
import SimEngine.Cast.Scene
import SimEngine.Cast.Script
import SimEngine.Cast.Timing
import SimEngine.CommandLine
import SimEngine.Component
import SimEngine.Config
import SimEngine.Duration
import SimEngine.Engine.Environment
import SimEngine.Engine.Event
import SimEngine.Engine.Guest
import SimEngine.Engine.Handle
import SimEngine.Engine.Inspect
import SimEngine.Engine.Instance
import SimEngine.Engine.Loader
import SimEngine.Engine.Notice
import SimEngine.Engine.QueryList
import SimEngine.Engine.Scheduler
import SimEngine.Engine.TickLoop
import SimEngine.Entity
import SimEngine.Failure
import SimEngine.Json.Basic
import SimEngine.Json.Decode
import SimEngine.Json.Draft
import SimEngine.Json.Exact
import SimEngine.Json.Fault
import SimEngine.Json.Lexer
import SimEngine.Json.Parser
import SimEngine.Json.Pointer
import SimEngine.Json.Printer
import SimEngine.Main
import SimEngine.Number.Decimal
import SimEngine.Number.Literal
import SimEngine.OrderedMap
import SimEngine.Parameters
import SimEngine.Payload
import SimEngine.PluginSpec
import SimEngine.Proofs.Batches
import SimEngine.Proofs.BuiltinLoops
import SimEngine.Proofs.Calls
import SimEngine.Proofs.Channels
import SimEngine.Proofs.Chronicles
import SimEngine.Proofs.Conducts
import SimEngine.Proofs.Configurations
import SimEngine.Proofs.Counterparts
import SimEngine.Proofs.Counts
import SimEngine.Proofs.Custody
import SimEngine.Proofs.Deliveries
import SimEngine.Proofs.Departures
import SimEngine.Proofs.Histories
import SimEngine.Proofs.HonestCast
import SimEngine.Proofs.Interiors
import SimEngine.Proofs.Isolation
import SimEngine.Proofs.Laws
import SimEngine.Proofs.LoadRequests
import SimEngine.Proofs.LoopCourses
import SimEngine.Proofs.Maps
import SimEngine.Proofs.Membership
import SimEngine.Proofs.ModestRuns
import SimEngine.Proofs.Notifications
import SimEngine.Proofs.Puppets
import SimEngine.Proofs.QueryLists
import SimEngine.Proofs.Queues
import SimEngine.Proofs.Reachable
import SimEngine.Proofs.Recasts
import SimEngine.Proofs.Redraws
import SimEngine.Proofs.RenderStates
import SimEngine.Proofs.RenderedTicks
import SimEngine.Proofs.Rendering
import SimEngine.Proofs.Rolls
import SimEngine.Proofs.Rosters
import SimEngine.Proofs.Runs
import SimEngine.Proofs.Signals
import SimEngine.Proofs.Steps
import SimEngine.Proofs.GuestRuns
import SimEngine.Proofs.TickTimes
import SimEngine.Proofs.Turns
import SimEngine.Proofs.Worlds
import SimEngine.Session.Basic
import SimEngine.Session.Events
import SimEngine.Session.Stepping
import SimEngine.Session.Systems
import SimEngine.Signature
import SimEngine.StepInfo
import SimEngine.Store
import SimEngine.Text.Printable
import SimEngine.Text.Quoted
import SimEngine.Vector
import SimEngine.World
import SimEngine.Proofs.ParameterHistories
import SimEngine.Proofs.Doubles
import SimEngine.Proofs.Onlookers
import SimEngine.Proofs.PausedRuns
import SimEngine.Proofs.Pauses
import SimEngine.Proofs.Periods
import SimEngine.Proofs.BuiltinSetups
import SimEngine.Proofs.LoopBeginnings
import SimEngine.Proofs.Lifetimes
import SimEngine.Proofs.Subscriptions
import SimEngine.Proofs.Bystanders
import SimEngine.Proofs.Postings
import SimEngine.Proofs.StepFrames
import SimEngine.Proofs.Holdings
import SimEngine.Proofs.Removals
import SimEngine.Proofs.PauseCalls
import SimEngine.Proofs.CallbackCounts
import SimEngine.Proofs.Standings
import SimEngine.Proofs.Faults
import SimEngine.Proofs.Degradations
import SimEngine.Proofs.LoopEnds
import SimEngine.Proofs.RefusedTicks
import SimEngine.Proofs.Launches
import SimEngine.Proofs.Gains
import SimEngine.Proofs.MemoryRelations
import SimEngine.Proofs.ParallelEngines
import SimEngine.Proofs.HiddenSelections
import SimEngine.Proofs.Fleets
import SimEngine.Proofs.LaunchOrders
import SimEngine.Proofs.Clocks
import SimEngine.Proofs.Adjustments
import SimEngine.Proofs.Arrivals
import SimEngine.Proofs.ClockActs
import SimEngine.Proofs.ClockRuns
import SimEngine.Proofs.Signatures
import SimEngine.Proofs.TypeHashes
import SimEngine.Proofs.Queries
import SimEngine.Proofs.VelocityLogs
