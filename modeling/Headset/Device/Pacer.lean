import Headset.Device.Effect
import Headset.Latency

/-!
# Frame pacer

The pacer of an activation turns ticks of the timer into frames for its encoder.  It forwards
nothing once it is released, and frames only while it streams.
-/

namespace Headset

/-- The frame pipeline of one activation. -/
structure Pacer where
  encoder : Nat
  streaming : Bool
  released : Bool
  /-- Whether a pose came in since the last frame. -/
  freshPose : Bool
  /-- The time of the newest sample when the last pose came in. -/
  poseTime : Option Span
  /-- Counted in 64 bits, and from zero again after those. -/
  nextFrame : UInt64
  deriving Inhabited

namespace Pacer

/-- A pacer that has not begun to stream. -/
def ofEncoder (encoder : Nat) : Pacer := ⟨encoder, false, false, false, none, 0⟩

/-- What becomes of a sample's time in the 64 bits of nanoseconds that hold it.  Later times are
held as the last but one value; the last one stands for no time. -/
def hold? (time : Span) : Option Span :=
  if h : time.nanos < 0xffffffffffffffff then some ⟨time.nanos, by omega⟩
  else if time.nanos = 0xffffffffffffffff then none
  else some ⟨0xfffffffffffffffe, by decide⟩

/-- A pose came in while `newest` was the time of the newest sample. -/
def markFresh (p : Pacer) (newest : Option Span) : Pacer :=
  { p with freshPose := true, poseTime := newest.bind hold? }

/-- Nothing more is forwarded. -/
def release (p : Pacer) : Pacer := { p with released := true, streaming := false }

def makesFrames (p : Pacer) : Bool := !p.released && p.streaming

/-- The next frame at a refresh. -/
def timing (p : Pacer) (now : Span) : FrameTiming := ⟨p.nextFrame, now, p.freshPose, p.poseTime⟩

def advance (p : Pacer) : Pacer := { p with nextFrame := p.nextFrame + 1, freshPose := false }

end Pacer

/-- The frame of the newest sample is presented, if its pose is new. -/
def Latency.framePresented (l : Latency) (t : FrameTiming) : Latency :=
  match t.freshPose, t.poseTime with
  | true, some target => l.presented target t.vsyncTime
  | _, _ => l

end Headset
