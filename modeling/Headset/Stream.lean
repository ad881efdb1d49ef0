import Headset.Time

/-!
# Streams and frames

What is agreed with the client about the video, what the encoder is told about each frame, and what
the client reports about it afterwards.
-/

namespace Headset

inductive VideoCodec where
  | h264
  | hevc
  | av1
  deriving DecidableEq, Repr, Inhabited

def VideoCodec.name : VideoCodec → String
  | .h264 => "h264"
  | .hevc => "hevc"
  | .av1 => "av1"

def VideoCodec.names : List (String × VideoCodec) :=
  [VideoCodec.h264, .hevc, .av1].map fun c => (c.name, c)

/-- What the client is told before the first frame. -/
structure StreamConfig where
  codec : VideoCodec
  width : UInt32
  height : UInt32
  refreshRate : Float32
  deriving Inhabited

/-- The order for one frame. -/
structure FrameTiming where
  /-- Frames of the activation before this one, in 64 bits. -/
  index : UInt64
  /-- The clock at the refresh. -/
  vsyncTime : Span
  /-- Whether a pose came in since the frame before. -/
  freshPose : Bool
  /-- The time of the newest sample, if there is one. -/
  poseTime : Option Span
  deriving Inhabited

/-- The client's report on the frame made from the sample of time `target`. -/
structure ClientReport where
  target : Span
  /-- From the sample to the light, as the client measured it. -/
  total : Span
  decode : Span
  decoderQueue : Span
  rendering : Span
  vsyncQueue : Span
  dropped : UInt32
  deriving Inhabited

/-- An encoded frame on its way to the client. -/
structure VideoFrame where
  /-- Low 64 bits of the microseconds of the refresh. -/
  micros : UInt64
  index : UInt64
  keyframe : Bool
  size : Nat
  deriving DecidableEq, Repr, Inhabited

end Headset
