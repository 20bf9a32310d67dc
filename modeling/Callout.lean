import Callout.Call
import Callout.Certificate
import Callout.Certificate.Armor
import Callout.Certificate.Base64
import Callout.Certificate.Der
import Callout.Certificate.PublicKey
import Callout.Cluster.Discovery
import Callout.Cluster.Error
import Callout.Cluster.Feed
import Callout.Cluster.Inquiry
import Callout.Cluster.Object
import Callout.Cluster.Page
import Callout.Cluster.Request
import Callout.Cluster.Rules
import Callout.Cluster.Secrets
import Callout.Cluster.Watch
import Callout.CommandLine.Basic
import Callout.CommandLine.Help
import Callout.CommandLine.Reader
import Callout.Credentials
import Callout.Credentials.Error
import Callout.Decimal.Double
import Callout.Decimal.Shortest
import Callout.Dict
import Callout.Engine.Arming
import Callout.Engine.Delivery
import Callout.Engine.Demand
import Callout.Engine.Dispatch
import Callout.Engine.IntervalRun
import Callout.Engine.Opening
import Callout.Engine.Reconciler
import Callout.Engine.Recording
import Callout.Engine.Registry
import Callout.Engine.Settings
import Callout.Engine.Ticker
import Callout.Engine.Token
import Callout.Engine.WatchRun
import Callout.Executors
import Callout.Fault
import Callout.Http.Client
import Callout.Http.Exchange
import Callout.Http.Message
import Callout.Http.Preparation
import Callout.Json.Basic
import Callout.Json.Reader
import Callout.Json.Record
import Callout.Json.Token
import Callout.Json.Unfinished
import Callout.Json.Writer
import Callout.Lifecycle
import Callout.Log.Filter
import Callout.Log.Record
import Callout.Main
import Callout.Manifest.Layout
import Callout.Manifest.Rule
import Callout.Manifest.Schema
import Callout.Operation
import Callout.Pattern.Bracket
import Callout.Pattern.Error
import Callout.Pattern.Escape
import Callout.Pattern.Parser
import Callout.Pattern.Property
import Callout.Pattern.Search
import Callout.Pattern.Syntax
import Callout.Patterns
import Callout.Power
import Callout.Proofs.Archive
import Callout.Proofs.Arming
import Callout.Proofs.AtMostOnce
import Callout.Proofs.Attempts
import Callout.Proofs.Backoff
import Callout.Proofs.Basic
import Callout.Proofs.Bookkeeping
import Callout.Proofs.Cadence
import Callout.Proofs.Calendar
import Callout.Proofs.Completion
import Callout.Proofs.Contention
import Callout.Proofs.Dispatch
import Callout.Proofs.Dispatching
import Callout.Proofs.Effect
import Callout.Proofs.Enrollment
import Callout.Proofs.Execution
import Callout.Proofs.Generation
import Callout.Proofs.HeaderValues
import Callout.Proofs.Independence
import Callout.Proofs.Isolation
import Callout.Proofs.Ledger
import Callout.Proofs.Lineage
import Callout.Proofs.Occupancy
import Callout.Proofs.Outside
import Callout.Proofs.Parking
import Callout.Proofs.Preparation
import Callout.Proofs.Rearming
import Callout.Proofs.Reconciliation
import Callout.Proofs.Recreation
import Callout.Proofs.Relay
import Callout.Proofs.Relist
import Callout.Proofs.Replay
import Callout.Proofs.Reporting
import Callout.Proofs.Requirements
import Callout.Proofs.SecureClient
import Callout.Proofs.Sessions
import Callout.Proofs.Shutdown
import Callout.Proofs.Sightings
import Callout.Proofs.StatusHistory
import Callout.Proofs.StatusWrites
import Callout.Proofs.StoredRule
import Callout.Proofs.Survival
import Callout.Proofs.TaskSet
import Callout.Proofs.Teardown
import Callout.Proofs.TimeText
import Callout.Proofs.Timeless
import Callout.Proofs.Token
import Callout.Proofs.Transitions
import Callout.Proofs.WireFormat
import Callout.Proofs.World
import Callout.Proofs.WriteBudget
import Callout.Rehearsal.Activity
import Callout.Rehearsal.Remote
import Callout.Rehearsal.Run
import Callout.Rehearsal.Server
import Callout.Rehearsal.Shelf
import Callout.Rehearsal.Surroundings
import Callout.ResourceType
import Callout.Retry
import Callout.Rule
import Callout.Rule.Condition
import Callout.Rule.Matching
import Callout.Rule.Metadata
import Callout.Rule.Spec
import Callout.Rule.Status
import Callout.Secret
import Callout.Snapshot
import Callout.SocketAddress
import Callout.Span.Basic
import Callout.Span.Reader
import Callout.Template.Argument
import Callout.Template.Error
import Callout.Template.Filter
import Callout.Template.Operation
import Callout.Template.Parser
import Callout.Template.Rendering
import Callout.Template.Syntax
import Callout.Template.Test
import Callout.Template.Token
import Callout.Template.Value
import Callout.Text.Blank
import Callout.Text.Quoted
import Callout.Timestamp
import Callout.Tracking
import Callout.Unicode.Casing
import Callout.Unicode.Category
import Callout.Unicode.CodeMap
import Callout.Unicode.CodeSet
import Callout.Unicode.Direction
import Callout.Unicode.Folding
import Callout.Unicode.HostCharacter
import Callout.Unicode.Joining
import Callout.Unicode.Script
import Callout.Unicode.Trait
import Callout.Url.Basic
import Callout.Url.Domain
import Callout.Url.Error
import Callout.Url.Host
import Callout.Url.Percent
import Callout.Url.Punycode
import Callout.Url.Reader
