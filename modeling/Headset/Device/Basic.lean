import Headset.Capability
import Headset.Device.Pacer
import Headset.Counters

/-!
# Devices

The state of a device, how it is built from a configuration, and what can be read off it.  Calls
return an `Outcome`: the device afterwards, the calls on collaborators in order, and an answer.
-/

namespace Headset

/-- The collaborators that outlive an activation, apart from the pose history and the client. -/
structure Relays where
  /-- The controller registered for each hand. -/
  controllers : PerHand (Option Nat)
  /-- Whether a tracker follows the device. -/
  tracker : Bool
  deriving DecidableEq, Repr, Inhabited

/-- What a device is built with, beside its configuration. -/
structure Equipment where
  relays : Relays
  /-- The name of the backend for direct mode. -/
  render : Option String
  /-- What its build makes of full counts of the latencies. -/
  overflow : Overflow
  deriving DecidableEq, Repr, Inhabited

/-- A tracked device that streams its picture to a client. -/
structure Device where
  config : Config
  /-- The name of the backend for direct mode. -/
  render : Option String
  /-- Dropped on shutdown. -/
  relays : Option Relays
  display : Display
  /-- The adapter, once it is known. -/
  adapter : Option Adapter
  state : ActivationState
  deviceIndex : Option UInt32
  /-- Microseconds added to the time of a pose query. -/
  poseOffset : Int
  /-- The last answer that rested on a sample. -/
  lastPose : Option DevicePose
  /-- Whether the client asked for the stream before it could start. -/
  pendingStart : Bool
  isShutDown : Bool
  pipeline : Option Pacer
  /-- The pacers of earlier activations, which a timer may still tick. -/
  retired : List Pacer
  vsync : Option Nat
  /-- Whether the backend for direct mode is initialised. -/
  renderReady : Bool
  counters : Counters
  latency : Latency
  /-- A line that tells the situation to people. -/
  status : String
  deriving Inhabited

/-- What a call on a device leads to. -/
structure Outcome (α : Type) where
  device : Device
  log : List Effect
  answer : α

namespace Status

/-- The line before any device has been activated. -/
def idle : String := "Driver: idle (no device activated)"

def line (serial situation : String) : String := "Driver: " ++ serial ++ " " ++ situation

end Status

namespace Device

/-- Microseconds of an offset in milliseconds, toward zero. -/
def offsetMicros (ms : Float32) : Int := (Exact.of32 (ms * 1000)).truncate

/-- A device that was never activated. -/
def initial (config : Config) (equipment : Equipment) (latency : Latency) : Device where
  config
  render := equipment.render
  relays := some equipment.relays
  display := .ofConfig config.display
  adapter := none
  state := .inactive
  deviceIndex := none
  poseOffset := offsetMicros config.tracking.poseOffset
  lastPose := none
  pendingStart := false
  isShutDown := false
  pipeline := none
  retired := []
  vsync := none
  renderReady := false
  counters := {}
  latency
  status := Status.idle

/-- Builds a device.  A configuration that is not valid is refused; there is no device (`none`) if
the refresh interval has no span, or the latencies have no room. -/
def build? (config : Config) (equipment : Equipment) : Option (Except ConfigError Device) :=
  match config.fault? with
  | some e => some (.error e)
  | none => do
    let interval ← Span.ofSeconds? (1 / config.display.refreshRate)
    let latency ← Latency.allocate? config.tracking.latencyHistory.toNat interval
      config.tracking.hostPipelineFrames equipment.overflow
    return .ok (initial config equipment latency)

def serial (d : Device) : String := d.config.identity.serial

def identity (d : Device) : Identity := d.config.deviceIdentity

/-- Changes the line that tells the situation. -/
def withStatus (d : Device) (situation : String) : Device :=
  { d with status := Status.line d.serial situation }

/-- Whether frames go to the client. -/
def isStreaming (d : Device) : Bool := d.pipeline.any (·.streaming)

/-- The offset of a pose query in milliseconds. -/
def poseOffsetMillis (d : Device) : Float32 := Float32.ofInt d.poseOffset / 1000

/-- The capability of a name.  Direct mode needs a backend, and is gone after shutdown. -/
def capability? (d : Device) (name : String) : Option Capability :=
  match Capability.Kind.ofName? name with
  | none => none
  | some .display => some .display
  | some .directMode => if d.isShutDown then none else d.render.map .directMode

end Device

end Headset
