import Alerting.Aggregation
import Alerting.Aggregator.Basic
import Alerting.CommandLine.Basic
import Alerting.CommandLine.Help
import Alerting.Daemon
import Alerting.Digest.Sha256
import Alerting.Dispatcher.Basic
import Alerting.Dispatcher.Channel
import Alerting.Dispatcher.Session
import Alerting.Event.Basic
import Alerting.Event.Batch
import Alerting.Fingerprint.Codec
import Alerting.Json.Fault
import Alerting.Json.Numeral
import Alerting.Json.Parser
import Alerting.Json.Printer
import Alerting.Json.Quoted
import Alerting.Json.Reader
import Alerting.Json.Shape
import Alerting.Json.Shape.Reader
import Alerting.Json.Value
import Alerting.Log.Entry
import Alerting.Log.Filter
import Alerting.Log.Printer
import Alerting.Main
import Alerting.Pattern.Compiled
import Alerting.Pattern.Expr
import Alerting.Pattern.Flags
import Alerting.Pattern.Lexis
import Alerting.Pattern.Parser
import Alerting.Pattern.Regex
import Alerting.Pattern.Search
import Alerting.Pattern.Size
import Alerting.Proofs.Aggregator.Balance
import Alerting.Proofs.Aggregator.Batching
import Alerting.Proofs.Aggregator.Calls
import Alerting.Proofs.Aggregator.Counting
import Alerting.Proofs.Aggregator.Deadlines
import Alerting.Proofs.Aggregator.Eviction
import Alerting.Proofs.Aggregator.Firsts
import Alerting.Proofs.Aggregator.Gauge
import Alerting.Proofs.Aggregator.Graces
import Alerting.Proofs.Aggregator.Grouping
import Alerting.Proofs.Aggregator.History
import Alerting.Proofs.Aggregator.Independence
import Alerting.Proofs.Aggregator.Lifetime
import Alerting.Proofs.Aggregator.Logging
import Alerting.Proofs.Aggregator.Membership
import Alerting.Proofs.Aggregator.Ownership
import Alerting.Proofs.Aggregator.QuietPeriod
import Alerting.Proofs.Aggregator.Rejecting
import Alerting.Proofs.Aggregator.Rules
import Alerting.Proofs.Aggregator.Summaries
import Alerting.Proofs.Aggregator.Sweeping
import Alerting.Proofs.Aggregator.Table
import Alerting.Proofs.Aggregator.Voices
import Alerting.Proofs.Aggregator.WellFormed
import Alerting.Proofs.Basic
import Alerting.Proofs.CommandLine.Options
import Alerting.Proofs.CommandLine.Precedence
import Alerting.Proofs.Daemon.Basic
import Alerting.Proofs.Daemon.Notifications
import Alerting.Proofs.Daemon.Schedule
import Alerting.Proofs.Dispatcher.Abandoning
import Alerting.Proofs.Dispatcher.Books
import Alerting.Proofs.Dispatcher.Callers
import Alerting.Proofs.Dispatcher.Closing
import Alerting.Proofs.Dispatcher.Course
import Alerting.Proofs.Dispatcher.Dropping
import Alerting.Proofs.Dispatcher.Ledger
import Alerting.Proofs.Dispatcher.Loss
import Alerting.Proofs.Dispatcher.Order
import Alerting.Proofs.Dispatcher.Orderly
import Alerting.Proofs.Dispatcher.Relabelling
import Alerting.Proofs.Dispatcher.Services
import Alerting.Proofs.Dispatcher.Starting
import Alerting.Proofs.Dispatcher.Steps
import Alerting.Proofs.Event.Codec
import Alerting.Proofs.Event.Grammar
import Alerting.Proofs.Event.Objects
import Alerting.Proofs.Fingerprint.Preimage
import Alerting.Proofs.Json.Agreement
import Alerting.Proofs.Json.Fitting
import Alerting.Proofs.Json.Outcome
import Alerting.Proofs.Json.Printed
import Alerting.Proofs.Json.Quoted
import Alerting.Proofs.Json.Reading
import Alerting.Proofs.Json.Scalars
import Alerting.Proofs.Json.Shape
import Alerting.Proofs.Json.Skipping
import Alerting.Proofs.Pattern.Agreement
import Alerting.Proofs.Pattern.Anchored
import Alerting.Proofs.Pattern.Bounds
import Alerting.Proofs.Pattern.Classes
import Alerting.Proofs.Pattern.Escapes
import Alerting.Proofs.Pattern.Groups
import Alerting.Proofs.Pattern.Names
import Alerting.Proofs.Pattern.Openings
import Alerting.Proofs.Pattern.Settling
import Alerting.Proofs.Pattern.Spans
import Alerting.Proofs.Pattern.Suffix
import Alerting.Proofs.Pattern.Whole
import Alerting.Proofs.Rule.Matching
import Alerting.Proofs.RulesFile.Codec
import Alerting.Proofs.Text.Basic
import Alerting.Proofs.Text.Map
import Alerting.Proofs.Time.Calendar
import Alerting.Proofs.Time.Deadline
import Alerting.Proofs.Time.Instant
import Alerting.Proofs.Time.Sum
import Alerting.Receiver
import Alerting.Report
import Alerting.Rule.Basic
import Alerting.Rule.Filter
import Alerting.RulesFile.Basic
import Alerting.RulesFile.Toml
import Alerting.Text.Basic
import Alerting.TextMap
import Alerting.Time.Calendar
import Alerting.Time.Codec
import Alerting.Time.Instant
import Alerting.Toml.Parser
import Alerting.Toml.Scalar
import Alerting.Toml.Table
import Alerting.Unicode.CharSet
import Alerting.Unicode.Property
import Alerting.Unicode.Tables.Ages
import Alerting.Unicode.Tables.Breaks
import Alerting.Unicode.Tables.CaseFolding
import Alerting.Unicode.Tables.Categories
import Alerting.Unicode.Tables.Properties
import Alerting.Unicode.Tables.Scripts
