import Headset.Config
import Headset.Json.Codec
import Headset.Motion
import Headset.Views

/-!
# Wire documents

How the types that cross the border to the client and the host are written, and how those that come
in are read.  A field of an incoming record must be there; members of other names are left out.
-/

namespace Headset

open Json

namespace Span

/-- Whole seconds and the nanoseconds past them. -/
def toJson (s : Span) : Json := record [("secs", ofNat s.secs), ("nanos", ofNat s.subsecNanos)]

/-- Both fields and no others; nanoseconds past a second are carried. -/
def ofJson? (j : Json) : Option Span := do
  let fields ← fields? true ["secs", "nanos"] j
  let secs ← required (Json.toNat? 0x10000000000000000) fields "secs"
  let nanos ← required (Json.toNat? 0x100000000) fields "nanos"
  ofNanos? (secs * 1000000000 + nanos)

end Span

namespace Vector3

/-- An array of three numbers. -/
def toJson (v : Vector3) : Json := .array (v.toList.map ofSingle)

@[inherit_doc toJson]
def ofJson? : Json → Option Vector3
  | .array [x, y, z] => return ⟨← x.toSingle?, ← y.toSingle?, ← z.toSingle?⟩
  | _ => none

end Vector3

namespace Rotation

/-- An array of four numbers, the real part last. -/
def toJson (q : Rotation) : Json := .array (q.toList.map ofSingle)

@[inherit_doc toJson]
def ofJson? : Json → Option Rotation
  | .array [x, y, z, w] =>
    return ⟨← x.toSingle?, ← y.toSingle?, ← z.toSingle?, ← w.toSingle?⟩
  | _ => none

end Rotation

namespace Pose

def toJson (p : Pose) : Json :=
  record [("position", p.position.toJson), ("orientation", p.orientation.toJson)]

def ofJson? (j : Json) : Option Pose := do
  let fields ← fields? false ["position", "orientation"] j
  return {
    position := ← required Vector3.ofJson? fields "position"
    orientation := ← required Rotation.ofJson? fields "orientation" }

end Pose

namespace Velocity

def toJson (v : Velocity) : Json :=
  record [("linear", v.linear.toJson), ("angular", v.angular.toJson)]

def ofJson? (j : Json) : Option Velocity := do
  let fields ← fields? false ["linear", "angular"] j
  return {
    linear := ← required Vector3.ofJson? fields "linear"
    angular := ← required Vector3.ofJson? fields "angular" }

end Velocity

namespace Motion

def toJson (m : Motion) : Json :=
  record [("pose", m.pose.toJson), ("velocity", m.velocity.toJson)]

def ofJson? (j : Json) : Option Motion := do
  let fields ← fields? false ["pose", "velocity"] j
  return {
    pose := ← required Pose.ofJson? fields "pose"
    velocity := ← required Velocity.ofJson? fields "velocity" }

end Motion

namespace TrackingResult

def name : TrackingResult → String
  | .uninitialized => "uninitialized"
  | .runningOk => "running_ok"

def names : List (String × TrackingResult) :=
  [TrackingResult.uninitialized, .runningOk].map fun r => (r.name, r)

end TrackingResult

def DevicePose.toJson (p : DevicePose) : Json :=
  record [("pose", p.pose.toJson), ("velocity", p.velocity.toJson),
    ("pose_is_valid", .bool p.valid), ("device_is_connected", .bool p.connected),
    ("tracking_result", ofString p.result.name)]

namespace StreamConfig

def toJson (c : StreamConfig) : Json :=
  record [("codec", ofString c.codec.name), ("width", ofNat c.width.toNat),
    ("height", ofNat c.height.toNat), ("refresh_rate_hz", ofSingle c.refreshRate)]

def ofJson? (j : Json) : Option StreamConfig := do
  let fields ← fields? false ["codec", "width", "height", "refresh_rate_hz"] j
  return {
    codec := ← required (toName? VideoCodec.names) fields "codec"
    width := ← required toUInt32? fields "width"
    height := ← required toUInt32? fields "height"
    refreshRate := ← required toSingle? fields "refresh_rate_hz" }

end StreamConfig

namespace ClientReport

def toJson (r : ClientReport) : Json :=
  record [("target_timestamp", r.target.toJson), ("total_pipeline_latency", r.total.toJson),
    ("video_decode", r.decode.toJson), ("video_decoder_queue", r.decoderQueue.toJson),
    ("rendering", r.rendering.toJson), ("vsync_queue", r.vsyncQueue.toJson),
    ("frames_dropped", ofNat r.dropped.toNat)]

def ofJson? (j : Json) : Option ClientReport := do
  let fields ← fields? false ["target_timestamp", "total_pipeline_latency", "video_decode",
    "video_decoder_queue", "rendering", "vsync_queue", "frames_dropped"] j
  return {
    target := ← required Span.ofJson? fields "target_timestamp"
    total := ← required Span.ofJson? fields "total_pipeline_latency"
    decode := ← required Span.ofJson? fields "video_decode"
    decoderQueue := ← required Span.ofJson? fields "video_decoder_queue"
    rendering := ← required Span.ofJson? fields "rendering"
    vsyncQueue := ← required Span.ofJson? fields "vsync_queue"
    dropped := ← required toUInt32? fields "frames_dropped" }

end ClientReport

namespace Fov

def toJson (f : Fov) : Json :=
  record [("left", ofSingle f.left), ("right", ofSingle f.right), ("up", ofSingle f.up),
    ("down", ofSingle f.down)]

def ofJson? (j : Json) : Option Fov := do
  let fields ← fields? false ["left", "right", "up", "down"] j
  return {
    left := ← required toSingle? fields "left"
    right := ← required toSingle? fields "right"
    up := ← required toSingle? fields "up"
    down := ← required toSingle? fields "down" }

end Fov

def Projection.toJson (p : Projection) : Json :=
  record [("left", ofSingle p.left), ("right", ofSingle p.right), ("top", ofSingle p.top),
    ("bottom", ofSingle p.bottom)]

namespace Transform

/-- A row as an array of four numbers. -/
def Row.toJson (r : Row) : Json := .array (r.toList.map ofSingle)

@[inherit_doc Row.toJson]
def Row.ofJson? : Json → Option Row
  | .array [a, b, c, d] => return ⟨← a.toSingle?, ← b.toSingle?, ← c.toSingle?, ← d.toSingle?⟩
  | _ => none

/-- The transform as an array of its three rows. -/
def toJson (t : Transform) : Json := .array [t.x.toJson, t.y.toJson, t.z.toJson]

@[inherit_doc toJson]
def ofJson? : Json → Option Transform
  | .array [x, y, z] => return ⟨← Row.ofJson? x, ← Row.ofJson? y, ← Row.ofJson? z⟩
  | _ => none

end Transform

namespace PerEye

/-- Both values as an array, the left one first. -/
def toJson {α : Type} (f : α → Json) (p : PerEye α) : Json := .array [f p.left, f p.right]

@[inherit_doc toJson]
def ofJson? {α : Type} (f : Json → Option α) : Json → Option (PerEye α)
  | .array [l, r] => return ⟨← f l, ← f r⟩
  | _ => none

end PerEye

namespace Views

def toJson (v : Views) : Json :=
  record [("eye_to_head", v.eyeToHead.toJson Transform.toJson), ("fov", v.fov.toJson Fov.toJson)]

def ofJson? (j : Json) : Option Views := do
  let fields ← fields? false ["eye_to_head", "fov"] j
  return {
    eyeToHead := ← required (PerEye.ofJson? Transform.ofJson?) fields "eye_to_head"
    fov := ← required (PerEye.ofJson? Fov.ofJson?) fields "fov" }

end Views

namespace Eye

def name : Eye → String
  | .left => "left"
  | .right => "right"

def names : List (String × Eye) := [Eye.left, .right].map fun e => (e.name, e)

end Eye

def Adapter.toJson (a : Adapter) : Json :=
  record [("name", ofString a.name), ("luid", ofNat a.luid.toNat)]

def DisplayProperties.toJson (p : DisplayProperties) : Json :=
  record [("render_width", ofNat p.width.toNat), ("render_height", ofNat p.height.toNat),
    ("refresh_rate_hz", ofSingle p.refreshRate),
    ("seconds_from_vsync_to_photons", ofSingle p.secondsToPhotons)]

end Headset
