import Headset.Identity
import Headset.Number.Shortest
import Headset.Stream

/-!
# Configuration

What a device is built from, in four sections.  `Config.validate` names the first value that is out
of range; a configuration without one is the only kind a device is built from.
-/

namespace Headset

/-- Who the device is. -/
structure IdentityConfig where
  serial : String := "WAVRY-HMD-0001"
  deviceClass : DeviceClass := .headset
  /-- The adapter to ask for; none lets the system choose. -/
  adapter : Option String := none
  deriving DecidableEq, Repr, Inhabited

/-- What the display looks like to the host. -/
structure DisplayConfig where
  /-- Width of both eyes side by side. -/
  width : UInt32 := 4128
  height : UInt32 := 2208
  windowX : Int32 := 0
  windowY : Int32 := 0
  refreshRate : Float32 := 90
  deriving Inhabited

/-- How poses are predicted. -/
structure TrackingConfig where
  /-- Milliseconds added to the time of a pose query; a negative value looks into the past. -/
  poseOffset : Float32 := 0
  /-- Milliseconds by which a sample is extrapolated at most. -/
  maxPrediction : Float32 := 100
  /-- Whether the offset follows the client's reports. -/
  adaptiveOffset : Bool := true
  /-- Frames that the host predicts ahead by itself. -/
  hostPipelineFrames : Float32 := 2
  /-- Frames kept for the averages. -/
  latencyHistory : UInt64 := 256
  deriving Inhabited

/-- How the stream begins. -/
structure StreamingConfig where
  /-- Whether to stream as soon as the client is ready. -/
  startOnClientReady : Bool := true
  codec : VideoCodec := .hevc
  deriving DecidableEq, Repr, Inhabited

/-- The configuration of a device. -/
structure Config where
  identity : IdentityConfig := {}
  display : DisplayConfig := {}
  tracking : TrackingConfig := {}
  streaming : StreamingConfig := {}
  deriving Inhabited

/-- Fixed properties under which the host registers the display. -/
structure DisplayProperties where
  width : UInt32
  height : UInt32
  refreshRate : Float32
  /-- Seconds from a refresh to the light. -/
  secondsToPhotons : Float32
  deriving Inhabited

/-- Why a configuration is refused. -/
inductive ConfigError where
  | unreadable (path : String) (reason : String)
  /-- The text is no document, or not one of a configuration. -/
  | malformed
  | width (value : UInt32)
  | height
  | refreshRate (value : Float32)
  | poseOffset (value : Float32)
  | maxPrediction (value : Float32)
  | hostPipelineFrames (value : Float32)
  | latencyHistory
  /-- A reason that is given by its text. -/
  | other (text : String)
  deriving Inhabited

def ConfigError.message : ConfigError → String
  | .unreadable path reason => path ++ ": " ++ reason
  | .malformed => "malformed document"
  | .width value => "render_width must be a positive even number, got " ++ toString value.toNat
  | .height => "render_height must be positive"
  | .refreshRate value => "refresh_rate_hz out of range: " ++ floatMessage value
  | .poseOffset value => "pose_time_offset_ms must be within +/-1000, got " ++ floatMessage value
  | .maxPrediction value => "max_prediction_ms must be in [0, 1000], got " ++ floatMessage value
  | .hostPipelineFrames value => "host_pipeline_frames out of range: " ++ floatMessage value
  | .latencyHistory => "latency_history must be positive"
  | .other text => text

/-- Milliseconds that bound the prediction and the pose offset. -/
def maxOffset : Float32 := 1000

namespace DisplayConfig

def eyeWidth (c : DisplayConfig) : UInt32 := c.width / 2

/-- What the host is told about the display; light is taken to follow a refresh by one frame. -/
def properties (c : DisplayConfig) : DisplayProperties :=
  ⟨c.width, c.height, c.refreshRate, 1 / c.refreshRate⟩

end DisplayConfig

/-- The bound on extrapolation.  It is empty for a value that is not positive, and the longest span
for one that has no span. -/
def TrackingConfig.maxPredictionSpan (c : TrackingConfig) : Span :=
  let ms := if 0 < c.maxPrediction then c.maxPrediction else 0
  (Span.ofSeconds? (ms / 1000)).getD .longest

namespace Config

/-- The first value out of range, if there is one.  A comparison with a value that is not a number
fails, so such a value is out of every range. -/
def fault? (c : Config) : Option ConfigError :=
  let d := c.display
  let t := c.tracking
  if d.width = 0 ∨ d.width % 2 ≠ 0 then some (.width d.width)
  else if d.height = 0 then some .height
  else if ¬ (0 < d.refreshRate ∧ d.refreshRate ≤ 1000) then some (.refreshRate d.refreshRate)
  else if ¬ t.poseOffset.abs ≤ maxOffset then some (.poseOffset t.poseOffset)
  else if ¬ (0 ≤ t.maxPrediction ∧ t.maxPrediction ≤ maxOffset) then
    some (.maxPrediction t.maxPrediction)
  else if ¬ (0 ≤ t.hostPipelineFrames ∧ t.hostPipelineFrames ≤ 10) then
    some (.hostPipelineFrames t.hostPipelineFrames)
  else if t.latencyHistory = 0 then some .latencyHistory
  else none

/-- Behind a check that passes the others are left. -/
theorem ite_some_eq_none_iff {α : Type} {p : Prop} [Decidable p] {a : α} {o : Option α} :
    (if p then some a else o) = none ↔ ¬ p ∧ o = none := by
  split <;> simp [*]

theorem fault?_eq_none_iff {c : Config} : c.fault? = none ↔
    (c.display.width ≠ 0 ∧ c.display.width % 2 = 0) ∧ c.display.height ≠ 0 ∧
      (0 < c.display.refreshRate ∧ c.display.refreshRate ≤ 1000) ∧
      c.tracking.poseOffset.abs ≤ maxOffset ∧
      (0 ≤ c.tracking.maxPrediction ∧ c.tracking.maxPrediction ≤ maxOffset) ∧
      (0 ≤ c.tracking.hostPipelineFrames ∧ c.tracking.hostPipelineFrames ≤ 10) ∧
      c.tracking.latencyHistory ≠ 0 := by
  simp only [fault?, ite_some_eq_none_iff, not_or, Decidable.not_not, ne_eq, and_true]

/-- The configuration, if all its values are in range. -/
def validate (c : Config) : Except ConfigError Config :=
  match c.fault? with
  | some e => .error e
  | none => .ok c

theorem validate_eq_error_iff {c : Config} {e : ConfigError} :
    c.validate = .error e ↔ c.fault? = some e := by
  unfold validate
  cases c.fault? <;> simp

theorem validate_eq_ok_iff {c : Config} : c.validate = .ok c ↔ c.fault? = none := by
  unfold validate
  cases c.fault? <;> simp

/-- What the client is told about the stream. -/
def stream (c : Config) : StreamConfig :=
  ⟨c.streaming.codec, c.display.width, c.display.height, c.display.refreshRate⟩

/-- Who the device is. -/
def deviceIdentity (c : Config) : Identity := ⟨c.identity.serial, c.identity.deviceClass⟩

end Config

end Headset
