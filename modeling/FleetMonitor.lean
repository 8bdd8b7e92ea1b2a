import FleetMonitor.Client.Happenings
import FleetMonitor.Client.Location
import FleetMonitor.Client.Logging
import FleetMonitor.Client.Turns
import FleetMonitor.Proofs.Addresses
import FleetMonitor.Proofs.Arrivals
import FleetMonitor.Proofs.Batches
import FleetMonitor.Proofs.Cadence
import FleetMonitor.Proofs.Changes
import FleetMonitor.Proofs.Closing
import FleetMonitor.Proofs.Consistency
import FleetMonitor.Proofs.Counters
import FleetMonitor.Proofs.Course
import FleetMonitor.Proofs.Dates
import FleetMonitor.Proofs.Declines
import FleetMonitor.Proofs.Delays
import FleetMonitor.Proofs.Deliveries
import FleetMonitor.Proofs.Directory
import FleetMonitor.Proofs.Errands
import FleetMonitor.Proofs.Events
import FleetMonitor.Proofs.Fallback
import FleetMonitor.Proofs.Feeds
import FleetMonitor.Proofs.Following
import FleetMonitor.Proofs.Frames
import FleetMonitor.Proofs.Gaps
import FleetMonitor.Proofs.Holdings
import FleetMonitor.Proofs.Isolation
import FleetMonitor.Proofs.Jitter
import FleetMonitor.Proofs.Layouts
import FleetMonitor.Proofs.Loaders
import FleetMonitor.Proofs.Loops
import FleetMonitor.Proofs.Marks
import FleetMonitor.Proofs.Members
import FleetMonitor.Proofs.Mirrors
import FleetMonitor.Proofs.Moves
import FleetMonitor.Proofs.Numerals
import FleetMonitor.Proofs.Outages
import FleetMonitor.Proofs.Parameters
import FleetMonitor.Proofs.Passes
import FleetMonitor.Proofs.Paths
import FleetMonitor.Proofs.Phases
import FleetMonitor.Proofs.PollLoops
import FleetMonitor.Proofs.Printing
import FleetMonitor.Proofs.Refusals
import FleetMonitor.Proofs.Registry
import FleetMonitor.Proofs.Replies
import FleetMonitor.Proofs.Reports
import FleetMonitor.Proofs.Requests
import FleetMonitor.Proofs.Retries
import FleetMonitor.Proofs.Rhythm
import FleetMonitor.Proofs.Samples
import FleetMonitor.Proofs.Screens
import FleetMonitor.Proofs.Spans
import FleetMonitor.Proofs.Spellings
import FleetMonitor.Proofs.Tabs
import FleetMonitor.Proofs.Teardown
import FleetMonitor.Proofs.Texts
import FleetMonitor.Proofs.Tickets
import FleetMonitor.Proofs.Timers
import FleetMonitor.Proofs.Tokens
import FleetMonitor.Proofs.Transports
import FleetMonitor.Proofs.Twins
import FleetMonitor.Proofs.Unrouted
import FleetMonitor.Proofs.Waits
import FleetMonitor.Proofs.Windows
