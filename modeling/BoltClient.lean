import BoltClient.Value.Display
import BoltClient.Typed.Shape
import BoltClient.Entity.Graph
import BoltClient.Entity.Point
import BoltClient.Entity.Temporal
import BoltClient.Session.Call
import BoltClient.Scripted.Stage
import BoltClient.Scripted.Lending
import BoltClient.Proofs.Codec.RoundTrip
import BoltClient.Proofs.Codec.Acceptance
import BoltClient.Proofs.Codec.Truncation
import BoltClient.Proofs.Codec.Shortest
import BoltClient.Proofs.Codec.Appending
import BoltClient.Proofs.Codec.Announcement
import BoltClient.Proofs.Wire.Frames
import BoltClient.Proofs.Wire.Reading
import BoltClient.Proofs.Connection.Replies
import BoltClient.Proofs.Connection.Pairing
import BoltClient.Proofs.Connection.FailStop
import BoltClient.Proofs.Connection.Authentication
import BoltClient.Proofs.Connection.OpenResults
import BoltClient.Proofs.Connection.HangUp
import BoltClient.Proofs.Connection.Negotiation
import BoltClient.Proofs.Pool.Turns
import BoltClient.Proofs.Pool.Ownership
import BoltClient.Proofs.Pool.Timers
import BoltClient.Proofs.Pool.Abandonment
import BoltClient.Proofs.Pool.Foreign
import BoltClient.Proofs.Pool.Shutdown
import BoltClient.Proofs.Session.Statements
import BoltClient.Proofs.Session.Readiness
import BoltClient.Proofs.Entity.RoundTrip
import BoltClient.Proofs.Entity.TimeOfDay
import BoltClient.Proofs.Entity.Duration
import BoltClient.Proofs.Entity.Hops
import BoltClient.Proofs.Json.Exchange
import BoltClient.Proofs.Message.Metadata
import BoltClient.Proofs.Connection.Delivery
import BoltClient.Proofs.Message.Assembly
import BoltClient.Proofs.Session.Verdict
import BoltClient.Proofs.Session.Fetching
import BoltClient.Proofs.Typed.RoundTrip
