import ScrapeFleet.Api
import ScrapeFleet.Api.Form
import ScrapeFleet.Api.Route
import ScrapeFleet.Cluster
import ScrapeFleet.Collection
import ScrapeFleet.CommandLine
import ScrapeFleet.CommandLine.Arguments
import ScrapeFleet.Config
import ScrapeFleet.Config.Loaded
import ScrapeFleet.Config.Wire
import ScrapeFleet.Coordinator
import ScrapeFleet.Data.SortedMap
import ScrapeFleet.Data.Tree
import ScrapeFleet.Data.Word
import ScrapeFleet.Decimal.Binary64
import ScrapeFleet.Decimal.Literal
import ScrapeFleet.Digest.Sha256
import ScrapeFleet.Discovery
import ScrapeFleet.Duration
import ScrapeFleet.Explore.Explorer
import ScrapeFleet.Explore.Schedule
import ScrapeFleet.Explore.Scrape
import ScrapeFleet.Exposition
import ScrapeFleet.Fleet
import ScrapeFleet.Json.Reader
import ScrapeFleet.Json.Writer
import ScrapeFleet.Main
import ScrapeFleet.Net.Http
import ScrapeFleet.Net.SocketAddress
import ScrapeFleet.Net.Uri
import ScrapeFleet.Plan
import ScrapeFleet.Plan.Assignment
import ScrapeFleet.Plan.Cleanup
import ScrapeFleet.Plan.Draws
import ScrapeFleet.Plan.GlobalStatus
import ScrapeFleet.Plan.Placement
import ScrapeFleet.Plan.Pool
import ScrapeFleet.Plan.Scaling
import ScrapeFleet.Plan.Shedding
import ScrapeFleet.Plan.Tier
import ScrapeFleet.Policy
import ScrapeFleet.Proofs.Config.Conditions
import ScrapeFleet.Proofs.Config.Validity
import ScrapeFleet.Proofs.Coordinator.Convergence
import ScrapeFleet.Proofs.Coordinator.Reload
import ScrapeFleet.Proofs.Coordinator.Runs
import ScrapeFleet.Proofs.Coordinator.Starting
import ScrapeFleet.Proofs.Decimal.Digits
import ScrapeFleet.Proofs.Decimal.Rounding
import ScrapeFleet.Proofs.Discovery.Fingerprint
import ScrapeFleet.Proofs.Discovery.Partition
import ScrapeFleet.Proofs.Duration.Reading
import ScrapeFleet.Proofs.Explore.Actions
import ScrapeFleet.Proofs.Explore.Estimates
import ScrapeFleet.Proofs.Explore.Progress
import ScrapeFleet.Proofs.Explore.Sampling
import ScrapeFleet.Proofs.Explore.Updates
import ScrapeFleet.Proofs.Exposition.Counting
import ScrapeFleet.Proofs.Exposition.Grammar
import ScrapeFleet.Proofs.Exposition.Labels
import ScrapeFleet.Proofs.Exposition.Samples
import ScrapeFleet.Proofs.Exposition.Written
import ScrapeFleet.Proofs.Fleet.Collecting
import ScrapeFleet.Proofs.Fleet.Lagging
import ScrapeFleet.Proofs.Fleet.Shards
import ScrapeFleet.Proofs.Fleet.Sizes
import ScrapeFleet.Proofs.Fleet.Soundness
import ScrapeFleet.Proofs.Json.RoundTrip
import ScrapeFleet.Proofs.Plan.Admission
import ScrapeFleet.Proofs.Plan.Assignments
import ScrapeFleet.Proofs.Plan.Capacity
import ScrapeFleet.Proofs.Plan.Cleanup
import ScrapeFleet.Proofs.Plan.Cycle
import ScrapeFleet.Proofs.Plan.Demand
import ScrapeFleet.Proofs.Plan.Draining
import ScrapeFleet.Proofs.Plan.Duplicates
import ScrapeFleet.Proofs.Plan.Fairness
import ScrapeFleet.Proofs.Plan.Growth
import ScrapeFleet.Proofs.Plan.Handover
import ScrapeFleet.Proofs.Plan.Idempotence
import ScrapeFleet.Proofs.Plan.Isolation
import ScrapeFleet.Proofs.Plan.Load
import ScrapeFleet.Proofs.Plan.Memory
import ScrapeFleet.Proofs.Plan.Overload
import ScrapeFleet.Proofs.Plan.Ownership
import ScrapeFleet.Proofs.Plan.Placement
import ScrapeFleet.Proofs.Plan.Receipts
import ScrapeFleet.Proofs.Plan.Reports
import ScrapeFleet.Proofs.Plan.Resizing
import ScrapeFleet.Proofs.Plan.Shedding
import ScrapeFleet.Proofs.Plan.Shrinking
import ScrapeFleet.Proofs.Plan.Step
import ScrapeFleet.Proofs.Plan.Transfers
import ScrapeFleet.Proofs.Plan.Vacating
import ScrapeFleet.Proofs.Plan.Wrapping
import ScrapeFleet.Proofs.Pool.Copies
import ScrapeFleet.Proofs.Regex.Brackets
import ScrapeFleet.Proofs.Regex.Grouping
import ScrapeFleet.Proofs.Regex.Language
import ScrapeFleet.Proofs.Regex.Readers
import ScrapeFleet.Proofs.Regex.Sequence
import ScrapeFleet.Proofs.Regex.Tokens
import ScrapeFleet.Proofs.Relabel.Anchoring
import ScrapeFleet.Proofs.Replica.Answers
import ScrapeFleet.Proofs.Replica.Cache
import ScrapeFleet.Proofs.Replica.Elision
import ScrapeFleet.Proofs.Replica.FanOut
import ScrapeFleet.Proofs.Replica.Holdings
import ScrapeFleet.Proofs.Replica.Records
import ScrapeFleet.Proofs.Replica.Requests
import ScrapeFleet.Proofs.Replica.States
import ScrapeFleet.Proofs.Report.Readback
import ScrapeFleet.Proofs.Text.Lines
import ScrapeFleet.Proofs.Text.Utf8
import ScrapeFleet.Proofs.Wire.RoundTrip
import ScrapeFleet.Regex.Bracket
import ScrapeFleet.Regex.Class
import ScrapeFleet.Regex.Escape
import ScrapeFleet.Regex.Expr
import ScrapeFleet.Regex.Footprint
import ScrapeFleet.Regex.Form
import ScrapeFleet.Regex.Match
import ScrapeFleet.Regex.Pattern
import ScrapeFleet.Relabel
import ScrapeFleet.Replica.Endpoint
import ScrapeFleet.Replica.Group
import ScrapeFleet.Replica.InMemory
import ScrapeFleet.Replica.Keys
import ScrapeFleet.Replica.Remote
import ScrapeFleet.Replica.Rpc
import ScrapeFleet.Replica.Shard
import ScrapeFleet.Report.Listing
import ScrapeFleet.Report.Metrics
import ScrapeFleet.Report.Snapshot
import ScrapeFleet.Status
import ScrapeFleet.Target
import ScrapeFleet.Text.Blank
import ScrapeFleet.Text.Hex
import ScrapeFleet.Text.Quoted
import ScrapeFleet.Text.Utf8
import ScrapeFleet.Text.Utf8Range
import ScrapeFleet.Toml.Node
import ScrapeFleet.Toml.Number
import ScrapeFleet.Toml.Reader
import ScrapeFleet.Toml.Text
import ScrapeFleet.Unicode.Age
import ScrapeFleet.Unicode.CaseFold
import ScrapeFleet.Unicode.Category
import ScrapeFleet.Unicode.CodeSet
import ScrapeFleet.Unicode.Property
import ScrapeFleet.Unicode.Recent
import ScrapeFleet.Unicode.Script
import ScrapeFleet.Unicode.ScriptExtension
import ScrapeFleet.Unicode.Segment
import ScrapeFleet.Wire
