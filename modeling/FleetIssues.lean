import FleetIssues.App
import FleetIssues.Auth.Gateway
import FleetIssues.Caller
import FleetIssues.Cli.Fault
import FleetIssues.Cli.Grammar
import FleetIssues.Cli.Layout
import FleetIssues.Cli.Program
import FleetIssues.Cli.Run
import FleetIssues.Cli.Scan
import FleetIssues.Cli.Workspace
import FleetIssues.Config.Basic
import FleetIssues.Config.Load
import FleetIssues.Decimal.Parse
import FleetIssues.Decimal.Shortest
import FleetIssues.Fleet.Codec
import FleetIssues.Fleet.Event
import FleetIssues.Fleet.Index
import FleetIssues.Fleet.Ingest
import FleetIssues.Fleet.Relations
import FleetIssues.Issue.Basic
import FleetIssues.Issue.Controller
import FleetIssues.Issue.Service
import FleetIssues.Issue.Table
import FleetIssues.Json.Cursor
import FleetIssues.Json.FromValue
import FleetIssues.Json.Number
import FleetIssues.Json.Parse
import FleetIssues.Json.Typed
import FleetIssues.Json.Value
import FleetIssues.Main
import FleetIssues.Proofs.Access
import FleetIssues.Proofs.Commutation
import FleetIssues.Proofs.CompactText
import FleetIssues.Proofs.Counters
import FleetIssues.Proofs.Displacement
import FleetIssues.Proofs.EventCodec
import FleetIssues.Proofs.Filing
import FleetIssues.Proofs.Footprint
import FleetIssues.Proofs.Forwarding
import FleetIssues.Proofs.Ingestion
import FleetIssues.Proofs.Ledger
import FleetIssues.Proofs.Occupancy
import FleetIssues.Proofs.Outbox
import FleetIssues.Proofs.ReadBounds
import FleetIssues.Proofs.Redelivery
import FleetIssues.Proofs.Resolution
import FleetIssues.Proofs.Revision
import FleetIssues.Proofs.RoleNormalForm
import FleetIssues.Proofs.SortedMembers
import FleetIssues.Proofs.Streaming
import FleetIssues.Proofs.SubtreeRule
import FleetIssues.Proofs.Unassignment
import FleetIssues.Route.Pattern
import FleetIssues.Schema.Shape
import FleetIssues.Text.Basic
import FleetIssues.Text.Utf8
import FleetIssues.Yaml.Document
import FleetIssues.Yaml.Fetch
import FleetIssues.Yaml.Parser
import FleetIssues.Yaml.Read
import FleetIssues.Yaml.Resolve
import FleetIssues.Yaml.Scalar
import FleetIssues.Yaml.Scanner
import FleetIssues.Yaml.Token
