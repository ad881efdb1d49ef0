import Headset.Json.Codec

/-!
# Counters

What a device has done so far.
-/

namespace Headset

/-- Counts of what happened since the device was built, in 64 bits.  A count that is full starts
again from zero. -/
structure Counters where
  activations : UInt64 := 0
  deactivations : UInt64 := 0
  framesPresented : UInt64 := 0
  hostFrames : UInt64 := 0
  keyframeRequests : UInt64 := 0
  packetLossEvents : UInt64 := 0
  poseQueries : UInt64 := 0
  poseFallbacks : UInt64 := 0
  controllerUpdates : UInt64 := 0
  viewsUpdates : UInt64 := 0
  deriving DecidableEq, Repr, Inhabited

def Counters.toJson (s : Counters) : Json :=
  let count (n : UInt64) : Json := .ofNat n.toNat
  Json.record [("activations", count s.activations), ("deactivations", count s.deactivations),
    ("frames_presented", count s.framesPresented), ("host_frames", count s.hostFrames),
    ("keyframe_requests", count s.keyframeRequests),
    ("packet_loss_events", count s.packetLossEvents), ("pose_queries", count s.poseQueries),
    ("pose_fallbacks", count s.poseFallbacks),
    ("controller_updates", count s.controllerUpdates), ("views_updates", count s.viewsUpdates)]

end Headset
