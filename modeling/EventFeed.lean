import EventFeed.Error.Location
import EventFeed.Files.Tree
import EventFeed.Main
import EventFeed.Manager.Shared
import EventFeed.Proofs.Interleaving.Pool
import EventFeed.Proofs.Interleaving.Session
import EventFeed.Proofs.Interleaving.Step
import EventFeed.Proofs.Interleaving.Views
import EventFeed.Proofs.Interleaving.Moves
import EventFeed.Proofs.Interleaving.Queue
import EventFeed.Proofs.Manager.Epochs
import EventFeed.Proofs.Manager.Edges
import EventFeed.Proofs.Interleaving.Shelter
import EventFeed.Proofs.Manager.Ownership
import EventFeed.Proofs.Manager.Delivery
import EventFeed.Proofs.Reconnection.Timeline
import EventFeed.Proofs.Reconnection.Course
import EventFeed.Proofs.Reconnection.Ahead
import EventFeed.Proofs.Reconnection.Enactment
import EventFeed.Proofs.Reconnection.Punctual
import EventFeed.Proofs.Reconnection.Retries
import EventFeed.Proofs.Reconnection.Setbacks
import EventFeed.Proofs.Manager.Attempts
import EventFeed.Proofs.Interleaving.Holdings
import EventFeed.Proofs.Dispatch.History
import EventFeed.Proofs.Dispatch.Subscriptions
import EventFeed.Proofs.Interleaving.Frames
import EventFeed.Proofs.Dispatch.Invocation
import EventFeed.Proofs.Dispatch.Termination
import EventFeed.Proofs.Dispatch.Deliveries
import EventFeed.Proofs.Dispatch.Subscribers
import EventFeed.Proofs.Serving.Inbox
import EventFeed.Proofs.Serving.Events
import EventFeed.Proofs.Serving.Outgoing
import EventFeed.Proofs.Serving.Custody
import EventFeed.Proofs.Serving.Conduct
import EventFeed.Proofs.Serving.Remainder
import EventFeed.Proofs.Serving.Superseded
import EventFeed.Proofs.Json.Strings
import EventFeed.Proofs.Json.Numbers
import EventFeed.Proofs.Json.Values
import EventFeed.Proofs.Json.RoundTrip
import EventFeed.Proofs.Event.RoundTrip
import EventFeed.Proofs.Watch.Notices
import EventFeed.Proofs.Watch.Hearing
import EventFeed.Proofs.Watch.Notifications
import EventFeed.Proofs.Isolation.Essence
import EventFeed.Proofs.Isolation.Sessions
import EventFeed.Proofs.Isolation.Turns
import EventFeed.Proofs.Isolation.Inputs
import EventFeed.Proofs.Isolation.Schedules
import EventFeed.Proofs.Manager.Reports
import EventFeed.Proofs.Serving.Heartbeats
import EventFeed.Proofs.Unicode.Ascii
import EventFeed.Proofs.Url.Domains
import EventFeed.Proofs.Url.Authorities
import EventFeed.Proofs.Config.Validity
import EventFeed.Proofs.Manager.Timers
import EventFeed.Proofs.Environment.Adoption
import EventFeed.Proofs.Toml.Members
import EventFeed.Proofs.Config.Fields
import EventFeed.Proofs.Startup.Precedence
import EventFeed.Proofs.Reconnection.Policy
import EventFeed.Proofs.Serving.Silence
import EventFeed.Proofs.Event.Frames
import EventFeed.Proofs.Config.Overrides
import EventFeed.Proofs.Config.DataText
import EventFeed.Proofs.Watch.Wiring
import EventFeed.Proofs.Json.Lines
import EventFeed.Proofs.Watch.EventLines
import EventFeed.Proofs.Logging.Installation
import EventFeed.Proofs.Logging.Admission
import EventFeed.Proofs.Environment.Lines
import EventFeed.Proofs.Environment.Contributions
import EventFeed.Proofs.Manager.Sharing
import EventFeed.Proofs.Serving.Messages
