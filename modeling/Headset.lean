import Headset.Main
import Headset.Simulator.Timer
import Headset.Proofs.Footing
import Headset.Proofs.Operations
import Headset.Proofs.Run
import Headset.Proofs.Coherence
import Headset.Proofs.Resource
import Headset.Proofs.Ledger
import Headset.Proofs.Discipline
import Headset.Proofs.Stages
import Headset.Proofs.Replay
import Headset.Proofs.Atomicity
import Headset.Proofs.Since
import Headset.Proofs.Windows
import Headset.Proofs.Newest
import Headset.Proofs.Frames
import Headset.Proofs.Starts
import Headset.Proofs.Queue
import Headset.Proofs.Poses
import Headset.Proofs.Shutdown
import Headset.Proofs.Cadence
import Headset.Proofs.Packing
import Headset.Proofs.Offset
import Headset.Proofs.Division
import Headset.Proofs.Endurance
import Headset.Proofs.Status
import Headset.Proofs.Tally
import Headset.Proofs.Escapes
import Headset.Proofs.Layout
import Headset.Proofs.Documents
import Headset.Proofs.Records
import Headset.Proofs.Defaults
import Headset.Proofs.RoundTrip
import Headset.Proofs.Queries
import Headset.Proofs.Publication
import Headset.Proofs.Freshness
import Headset.Proofs.Building
import Headset.Proofs.Exits
import Headset.Proofs.Updates
import Headset.Proofs.Relay
import Headset.Proofs.Geometry
import Headset.Proofs.Responses
import Headset.Proofs.Inquiries
import Headset.Proofs.Keyframes
import Headset.Proofs.Reordering
import Headset.Proofs.Outlines
import Headset.Proofs.Exchange
import Headset.Proofs.Payloads
import Headset.Proofs.Refusals
import Headset.Proofs.Deliveries
import Headset.Proofs.Offers
import Headset.Proofs.Sessions
import Headset.Proofs.Outcome
