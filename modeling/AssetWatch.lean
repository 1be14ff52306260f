import AssetWatch.Cli.Arguments
import AssetWatch.Cli.Help
import AssetWatch.Cli.Project
import AssetWatch.Cli.Run
import AssetWatch.Config.Decode
import AssetWatch.Config.Encode
import AssetWatch.Config.Load
import AssetWatch.Config.Record
import AssetWatch.Config.Schema
import AssetWatch.Config.Validation
import AssetWatch.Data.Indented
import AssetWatch.Data.Value
import AssetWatch.Environment
import AssetWatch.Host.Action
import AssetWatch.Host.Call
import AssetWatch.Host.Change
import AssetWatch.Host.Executable
import AssetWatch.Host.Fault
import AssetWatch.Host.Kernel
import AssetWatch.Host.Machine
import AssetWatch.Host.Scheduler
import AssetWatch.Host.Signal
import AssetWatch.Host.State
import AssetWatch.Host.Tree
import AssetWatch.Main
import AssetWatch.Metrics
import AssetWatch.Order.Sorted
import AssetWatch.Path
import AssetWatch.Plan.Encode
import AssetWatch.Plan.Strategy
import AssetWatch.Plan.Template
import AssetWatch.Power
import AssetWatch.Proofs.Cli.Build
import AssetWatch.Proofs.Cli.Check
import AssetWatch.Proofs.Config.Faults
import AssetWatch.Proofs.Config.Loading
import AssetWatch.Proofs.Config.Validity
import AssetWatch.Proofs.Host.Places
import AssetWatch.Proofs.Host.Spellings
import AssetWatch.Proofs.Order.Members
import AssetWatch.Proofs.Path.Components
import AssetWatch.Proofs.Plan.Sharing
import AssetWatch.Proofs.Run.Agreement
import AssetWatch.Proofs.Run.Counts
import AssetWatch.Proofs.Run.FanOut
import AssetWatch.Proofs.Run.Launches
import AssetWatch.Proofs.Run.Recording
import AssetWatch.Proofs.Run.Report
import AssetWatch.Proofs.Session.Accounts
import AssetWatch.Proofs.Session.Admission
import AssetWatch.Proofs.Session.Closure
import AssetWatch.Proofs.Session.Coherence
import AssetWatch.Proofs.Session.Conservation
import AssetWatch.Proofs.Session.Planning
import AssetWatch.Proofs.Session.Refinement
import AssetWatch.Proofs.Session.Reload
import AssetWatch.Proofs.Session.Runs
import AssetWatch.Proofs.Session.Snapshot
import AssetWatch.Proofs.Session.Startup
import AssetWatch.Proofs.Session.Tally
import AssetWatch.Proofs.Session.Turns
import AssetWatch.Proofs.Targets.Attribution
import AssetWatch.Proofs.Targets.Discovery
import AssetWatch.Proofs.Targets.Roots
import AssetWatch.Proofs.Targets.Watched
import AssetWatch.Proofs.Watch.Batches
import AssetWatch.Proofs.Watch.Bursts
import AssetWatch.Proofs.Watch.Deliveries
import AssetWatch.Run.Child
import AssetWatch.Run.Encode
import AssetWatch.Run.FanOut
import AssetWatch.Run.Ledger
import AssetWatch.Run.Outcome
import AssetWatch.Run.Program
import AssetWatch.Run.Runner
import AssetWatch.Run.Setup
import AssetWatch.Session.Build
import AssetWatch.Session.Loop
import AssetWatch.Session.Plan
import AssetWatch.Session.Reading
import AssetWatch.Session.Watching
import AssetWatch.Shell.Arithmetic
import AssetWatch.Shell.Builtin.Basic
import AssetWatch.Shell.Builtin.Control
import AssetWatch.Shell.Builtin.Directory
import AssetWatch.Shell.Builtin.Names
import AssetWatch.Shell.Builtin.Output
import AssetWatch.Shell.Builtin.Processes
import AssetWatch.Shell.Builtin.Variables
import AssetWatch.Shell.Engine
import AssetWatch.Shell.Evaluation
import AssetWatch.Shell.Expansion
import AssetWatch.Shell.Field
import AssetWatch.Shell.Grammar
import AssetWatch.Shell.Lexer
import AssetWatch.Shell.Main
import AssetWatch.Shell.Pattern
import AssetWatch.Shell.Search
import AssetWatch.Shell.State
import AssetWatch.Shell.Syntax
import AssetWatch.Shutdown
import AssetWatch.Startup
import AssetWatch.Targets.Discovery
import AssetWatch.Targets.Entrypoint
import AssetWatch.Targets.Matcher
import AssetWatch.Text.Binary
import AssetWatch.Text.Blank
import AssetWatch.Text.Decimal
import AssetWatch.Text.Octets
import AssetWatch.Text.Printable
import AssetWatch.Text.Quoted
import AssetWatch.Text.Terminal
import AssetWatch.Toml.Document
import AssetWatch.Toml.Moment
import AssetWatch.Toml.Number
import AssetWatch.Toml.Scanner
import AssetWatch.Toml.Statement
import AssetWatch.Toml.Text
import AssetWatch.Toml.Value
import AssetWatch.Utility.Calendar
import AssetWatch.Utility.Columns
import AssetWatch.Utility.Condition
import AssetWatch.Utility.Copying
import AssetWatch.Utility.Edit.Run
import AssetWatch.Utility.Edit.Script
import AssetWatch.Utility.Escape
import AssetWatch.Utility.Finding
import AssetWatch.Utility.Format
import AssetWatch.Utility.Input
import AssetWatch.Utility.Launching
import AssetWatch.Utility.Listing
import AssetWatch.Utility.Mode
import AssetWatch.Utility.Naming
import AssetWatch.Utility.Ordering
import AssetWatch.Utility.Places
import AssetWatch.Utility.Reading
import AssetWatch.Utility.Regex
import AssetWatch.Utility.Removing
import AssetWatch.Utility.Search
import AssetWatch.Utility.Surroundings
import AssetWatch.Utility.Table
import AssetWatch.Utility.Tool
import AssetWatch.Utility.Translation
import AssetWatch.Utility.Values
import AssetWatch.Watch.Batch
import AssetWatch.Watch.Debounce
import AssetWatch.Watch.Event
import AssetWatch.Watch.Observation
import AssetWatch.Proofs.Order.Unions
import AssetWatch.Proofs.Path.Joins
import AssetWatch.Proofs.Watch.Grouping
import AssetWatch.Proofs.Session.Rebuilding
import AssetWatch.Proofs.Run.Slots
import AssetWatch.Proofs.Session.Stopping
import AssetWatch.Proofs.Config.Encoding
import AssetWatch.Proofs.Session.Listening
import AssetWatch.Proofs.Session.Survival
import AssetWatch.Proofs.Run.FailFast
import AssetWatch.Proofs.Session.Distribution
import AssetWatch.Proofs.Targets.Cover
import AssetWatch.Proofs.Targets.Exactness
import AssetWatch.Proofs.Text.Octets
import AssetWatch.Proofs.Host.Programs
import AssetWatch.Proofs.Run.Programs
