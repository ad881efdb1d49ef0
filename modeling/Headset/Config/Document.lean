import Headset.Config
import Headset.Json.Codec

/-!
# Configuration documents

A configuration is written with all its fields, and read from a document in which any of them may
be missing: a missing field keeps its default.  `Config.read` also refuses values out of range.
-/

namespace Headset

open Json

namespace IdentityConfig

def toJson (c : IdentityConfig) : Json :=
  record [("serial_number", ofString c.serial), ("device_class", ofString c.deviceClass.name),
    ("adapter_name", ofOption ofString c.adapter)]

def ofJson? (j : Json) : Option IdentityConfig := do
  let fields ← fields? false ["serial_number", "device_class", "adapter_name"] j
  let d : IdentityConfig := {}
  return {
    serial := ← optional d.serial toString? fields "serial_number"
    deviceClass := ← optional d.deviceClass (toName? DeviceClass.names) fields "device_class"
    adapter := ← optional d.adapter (toOption? toString?) fields "adapter_name" }

end IdentityConfig

namespace DisplayConfig

def toJson (c : DisplayConfig) : Json :=
  record [("render_width", ofNat c.width.toNat), ("render_height", ofNat c.height.toNat),
    ("window_x", ofInt c.windowX.toInt), ("window_y", ofInt c.windowY.toInt),
    ("refresh_rate_hz", ofSingle c.refreshRate)]

def ofJson? (j : Json) : Option DisplayConfig := do
  let fields ← fields? false
    ["render_width", "render_height", "window_x", "window_y", "refresh_rate_hz"] j
  let d : DisplayConfig := {}
  return {
    width := ← optional d.width toUInt32? fields "render_width"
    height := ← optional d.height toUInt32? fields "render_height"
    windowX := ← optional d.windowX toInt32? fields "window_x"
    windowY := ← optional d.windowY toInt32? fields "window_y"
    refreshRate := ← optional d.refreshRate toSingle? fields "refresh_rate_hz" }

end DisplayConfig

namespace TrackingConfig

def toJson (c : TrackingConfig) : Json :=
  record [("pose_time_offset_ms", ofSingle c.poseOffset),
    ("max_prediction_ms", ofSingle c.maxPrediction),
    ("adaptive_pose_offset", .bool c.adaptiveOffset),
    ("host_pipeline_frames", ofSingle c.hostPipelineFrames),
    ("latency_history", ofNat c.latencyHistory.toNat)]

def ofJson? (j : Json) : Option TrackingConfig := do
  let fields ← fields? false ["pose_time_offset_ms", "max_prediction_ms", "adaptive_pose_offset",
    "host_pipeline_frames", "latency_history"] j
  let d : TrackingConfig := {}
  return {
    poseOffset := ← optional d.poseOffset toSingle? fields "pose_time_offset_ms"
    maxPrediction := ← optional d.maxPrediction toSingle? fields "max_prediction_ms"
    adaptiveOffset := ← optional d.adaptiveOffset toBool? fields "adaptive_pose_offset"
    hostPipelineFrames := ← optional d.hostPipelineFrames toSingle? fields "host_pipeline_frames"
    latencyHistory := ← optional d.latencyHistory toUInt64? fields "latency_history" }

end TrackingConfig

namespace StreamingConfig

def toJson (c : StreamingConfig) : Json :=
  record [("start_on_client_ready", .bool c.startOnClientReady), ("codec", ofString c.codec.name)]

def ofJson? (j : Json) : Option StreamingConfig := do
  let fields ← fields? false ["start_on_client_ready", "codec"] j
  let d : StreamingConfig := {}
  return {
    startOnClientReady := ← optional d.startOnClientReady toBool? fields "start_on_client_ready"
    codec := ← optional d.codec (toName? VideoCodec.names) fields "codec" }

end StreamingConfig

namespace Config

def toJson (c : Config) : Json :=
  record [("identity", c.identity.toJson), ("display", c.display.toJson),
    ("tracking", c.tracking.toJson), ("streaming", c.streaming.toJson)]

def ofJson? (j : Json) : Option Config := do
  let fields ← fields? false ["identity", "display", "tracking", "streaming"] j
  return {
    identity := ← optional {} IdentityConfig.ofJson? fields "identity"
    display := ← optional {} DisplayConfig.ofJson? fields "display"
    tracking := ← optional {} TrackingConfig.ofJson? fields "tracking"
    streaming := ← optional {} StreamingConfig.ofJson? fields "streaming" }

def render (c : Config) : String := c.toJson.render

/-- The configuration of a text, if it is one and all its values are in range. -/
def read (text : String) : Except ConfigError Config :=
  match (Json.parse? text).bind ofJson? with
  | none => .error .malformed
  | some c => c.validate

end Config

end Headset
