import LiveTabs.Time
import LiveTabs.Clock
import LiveTabs.Outcome
import LiveTabs.Roster
import LiveTabs.Text.Blank
import LiveTabs.Text.Digits
import LiveTabs.Text.Utf8
import LiveTabs.Text.Width
import LiveTabs.Json.Printer
import LiveTabs.Json.Field
import LiveTabs.Url
import LiveTabs.Config
import LiveTabs.Config.Settings
import LiveTabs.Issue
import LiveTabs.Issue.Wire
import LiveTabs.EventStream.Decoder
import LiveTabs.Storage.Memory
import LiveTabs.Storage.Watched
import LiveTabs.Feed
import LiveTabs.Lease
import LiveTabs.Lease.Candidate
import LiveTabs.Lease.Election
import LiveTabs.Stream.Dial
import LiveTabs.Stream.Subscription
import LiveTabs.Relay
import LiveTabs.Tab
import LiveTabs.TabGroup
import LiveTabs.Browser
import LiveTabs.Terminal.Printout
import LiveTabs.Command.Watch
import LiveTabs.Main
import LiveTabs.Proofs.RosterView
import LiveTabs.Proofs.Time.WholeMilliseconds
import LiveTabs.Proofs.Json.WrittenInteger
import LiveTabs.Proofs.Json.WrittenText
import LiveTabs.Proofs.Text.Utf8
import LiveTabs.Proofs.EventStream.Lines
import LiveTabs.Proofs.EventStream.Chunks
import LiveTabs.Proofs.EventStream.Rendered
import LiveTabs.Proofs.EventStream.LineEnds
import LiveTabs.Proofs.EventStream.HeldData
import LiveTabs.Proofs.Storage.SingleText
import LiveTabs.Proofs.Storage.Notices
import LiveTabs.Proofs.Storage.Faults
import LiveTabs.Proofs.Lease.StoredLease
import LiveTabs.Proofs.Lease.Deadlines
import LiveTabs.Proofs.Lease.Response
import LiveTabs.Proofs.Lease.Settling
import LiveTabs.Proofs.Lease.Race
import LiveTabs.Proofs.Lease.FreshLease
import LiveTabs.Proofs.Lease.Ownership
import LiveTabs.Proofs.Lease.Scene
import LiveTabs.Proofs.Lease.PunctualLeader
import LiveTabs.Proofs.Lease.RenewalDeadline
import LiveTabs.Proofs.Lease.Recovery
import LiveTabs.Proofs.Lease.CrossingClaims
import LiveTabs.Proofs.Lease.EvaluationRound
import LiveTabs.Proofs.Stream.WindowPositions
import LiveTabs.Proofs.Stream.Moves
import LiveTabs.Proofs.Stream.Connections
import LiveTabs.Proofs.Lease.ReportedRole
import LiveTabs.Proofs.Stream.Activity
import LiveTabs.Proofs.Tab.Response
import LiveTabs.Proofs.Tab.Connection
import LiveTabs.Proofs.TabGroup.Deeds
import LiveTabs.Proofs.TabGroup.Connections
import LiveTabs.Proofs.Tab.Relayed
import LiveTabs.Proofs.Stream.Reports
import LiveTabs.Proofs.Tab.InStep
import LiveTabs.Proofs.TabGroup.Mirror
import LiveTabs.Proofs.Stream.StatePath
import LiveTabs.Proofs.Stream.Gathering
import LiveTabs.Proofs.Stream.Tidings
import LiveTabs.Proofs.Stream.Delivery
import LiveTabs.Proofs.Tab.ShownState
import LiveTabs.Proofs.Lease.Polling
import LiveTabs.Proofs.Lease.CleanRelease
import LiveTabs.Proofs.Lease.Succession
import LiveTabs.Proofs.Stream.Polling
import LiveTabs.Proofs.Stream.Upkeep
import LiveTabs.Proofs.Tab.Polling
import LiveTabs.Proofs.Tab.Silence
import LiveTabs.Proofs.Stream.Restart
import LiveTabs.Proofs.Lease.OneInstant
import LiveTabs.Proofs.Json.Members
import LiveTabs.Proofs.Json.WrittenValue
import LiveTabs.Proofs.Json.WrittenRecord
import LiveTabs.Proofs.Issue.WrittenIssue
import LiveTabs.Proofs.Relay.SentMessage
import LiveTabs.Proofs.EventStream.Blocks
import LiveTabs.Proofs.Storage.KeptLeases
import LiveTabs.Proofs.Lease.ForeignLease
import LiveTabs.Proofs.Toml.QuotedText
import LiveTabs.Proofs.Toml.WrittenTables
import LiveTabs.Proofs.Toml.FittingIntegers
import LiveTabs.Proofs.Config.PrintedSettings
import LiveTabs.Proofs.Stream.GrowingDelay
import LiveTabs.Proofs.Stream.Incidents
import LiveTabs.Proofs.Stream.RetryDelays
import LiveTabs.Proofs.Stream.Outages
import LiveTabs.Proofs.Stream.WindowHistory
import LiveTabs.Proofs.Issue.Payload
import LiveTabs.Proofs.Json.Nesting
import LiveTabs.Proofs.Storage.ForeignChanges
import LiveTabs.Proofs.Tab.ToldRoles
import LiveTabs.Proofs.TabGroup.Deliveries
import LiveTabs.Proofs.EventStream.Search
import LiveTabs.Proofs.Text.TableRows
import LiveTabs.Proofs.Text.MeasuredText
import LiveTabs.Proofs.Text.Truncation
import LiveTabs.Proofs.Time.DeadlinesAndAges
