import StudySession.CommandLine.Arguments
import StudySession.CommandLine.Options
import StudySession.CommandLine.Run
import StudySession.Dict
import StudySession.Files.Path
import StudySession.Files.Tree
import StudySession.Gateway.Exchange
import StudySession.Gateway.Fault
import StudySession.Gateway.Host
import StudySession.Gateway.Url
import StudySession.Json
import StudySession.Json.Parser
import StudySession.Json.Printer
import StudySession.Json.Record
import StudySession.Logging.Config
import StudySession.Logging.Directive
import StudySession.Logging.Setup
import StudySession.Main
import StudySession.Number.Decimal
import StudySession.Number.Double
import StudySession.Number.Duration
import StudySession.Number.Reading
import StudySession.Proofs.CommandLine.DryRuns
import StudySession.Proofs.Dict
import StudySession.Proofs.Files.Names
import StudySession.Proofs.Gateway.Addresses
import StudySession.Proofs.Gateway.Targets
import StudySession.Proofs.Json.Equality
import StudySession.Proofs.Json.WellFormed
import StudySession.Proofs.MapM
import StudySession.Proofs.Number.Rounding
import StudySession.Proofs.Random.Draw
import StudySession.Proofs.Random.Weighted
import StudySession.Proofs.Recorder.Courses
import StudySession.Proofs.Recorder.Founding
import StudySession.Proofs.Recorder.Fronts
import StudySession.Proofs.Recorder.Grammar
import StudySession.Proofs.Recorder.Leftovers
import StudySession.Proofs.Recorder.Places
import StudySession.Proofs.Recorder.Pumps
import StudySession.Proofs.Recorder.Recordings
import StudySession.Proofs.Recorder.Refusals
import StudySession.Proofs.Recorder.Runs
import StudySession.Proofs.Recorder.Scenes
import StudySession.Proofs.Recorder.Sessions
import StudySession.Proofs.Recorder.Settling
import StudySession.Proofs.Recorder.Starts
import StudySession.Proofs.Recorder.Streams
import StudySession.Proofs.Recorder.Usage
import StudySession.Proofs.Recorder.Waits
import StudySession.Proofs.Settings.Equality
import StudySession.Proofs.Settings.Layering
import StudySession.Proofs.Settings.Overlays
import StudySession.Proofs.Settings.Readings
import StudySession.Proofs.Settings.Stacks
import StudySession.Proofs.Study.Brackets
import StudySession.Proofs.Study.Completion
import StudySession.Proofs.Study.Conditions
import StudySession.Proofs.Study.Counterbalance
import StudySession.Proofs.Study.Depth
import StudySession.Proofs.Study.Entries
import StudySession.Proofs.Study.Flattening
import StudySession.Proofs.Study.FrameIds
import StudySession.Proofs.Study.History
import StudySession.Proofs.Study.Indices
import StudySession.Proofs.Study.Invocations
import StudySession.Proofs.Study.Journal
import StudySession.Proofs.Study.Lexical
import StudySession.Proofs.Study.Literals
import StudySession.Proofs.Study.Moduli
import StudySession.Proofs.Study.Orders
import StudySession.Proofs.Study.ParameterSets
import StudySession.Proofs.Study.Persistence
import StudySession.Proofs.Study.Policy
import StudySession.Proofs.Study.Positions
import StudySession.Proofs.Study.Records
import StudySession.Proofs.Study.Regroup
import StudySession.Proofs.Study.Replay
import StudySession.Proofs.Study.Rounds
import StudySession.Proofs.Study.Samplers
import StudySession.Proofs.Study.Steps
import StudySession.Proofs.Study.Successors
import StudySession.Proofs.Study.Visits
import StudySession.Proofs.Study.Weights
import StudySession.Proofs.Text.Numeral
import StudySession.Proofs.Text.Percent
import StudySession.Proofs.Text.Pieces
import StudySession.Proofs.Upload.Accounts
import StudySession.Proofs.Upload.Assembly
import StudySession.Proofs.Upload.Attempts
import StudySession.Proofs.Upload.Books
import StudySession.Proofs.Upload.Buffering
import StudySession.Proofs.Upload.Cargo
import StudySession.Proofs.Upload.Clients
import StudySession.Proofs.Upload.Deposits
import StudySession.Proofs.Upload.Discards
import StudySession.Proofs.Upload.Ending
import StudySession.Proofs.Upload.Exchanges
import StudySession.Proofs.Upload.Fleets
import StudySession.Proofs.Upload.Gathering
import StudySession.Proofs.Upload.Identity
import StudySession.Proofs.Upload.Integrity
import StudySession.Proofs.Upload.Ledger
import StudySession.Proofs.Upload.Losses
import StudySession.Proofs.Upload.Pieces
import StudySession.Proofs.Upload.Plans
import StudySession.Proofs.Upload.Postings
import StudySession.Proofs.Upload.Progress
import StudySession.Proofs.Upload.Reactions
import StudySession.Proofs.Upload.Recall
import StudySession.Proofs.Upload.Retrying
import StudySession.Proofs.Upload.Schedules
import StudySession.Proofs.Upload.Sparing
import StudySession.Proofs.Upload.Stages
import StudySession.Proofs.Upload.Standing
import StudySession.Proofs.Upload.Streaming
import StudySession.Proofs.Upload.Timelines
import StudySession.Proofs.Upload.Traffic
import StudySession.Proofs.Upload.Transfer
import StudySession.Proofs.Upload.Tries
import StudySession.Proofs.Upload.Workload
import StudySession.Random.Draw
import StudySession.Random.Generator
import StudySession.Recorder.Capture
import StudySession.Recorder.Clock
import StudySession.Recorder.Config
import StudySession.Recorder.Devices
import StudySession.Recorder.Event
import StudySession.Recorder.Recorder
import StudySession.Recorder.Timestamp
import StudySession.Settings.Layers
import StudySession.Settings.Load
import StudySession.Settings.Player
import StudySession.Settings.Toml
import StudySession.Settings.Value
import StudySession.Study.Error
import StudySession.Study.Node
import StudySession.Study.Pass
import StudySession.Study.Placeholder
import StudySession.Study.Registry
import StudySession.Study.Report
import StudySession.Study.Resolution
import StudySession.Study.Resolver
import StudySession.Study.Sampler
import StudySession.Study.Sampler.Counterbalance
import StudySession.Study.Sampler.Options
import StudySession.Study.Sampler.ParameterSet
import StudySession.Study.Session
import StudySession.Text.Alphanumeric
import StudySession.Text.Blank
import StudySession.Text.Percent
import StudySession.Text.Quoted
import StudySession.Text.Unprintable
import StudySession.Upload.Config
import StudySession.Upload.Error
import StudySession.Upload.MemoryStore
import StudySession.Upload.Retry
import StudySession.Upload.Session
import StudySession.Upload.Stream
import StudySession.Upload.Tag
import StudySession.Upload.Timeline
