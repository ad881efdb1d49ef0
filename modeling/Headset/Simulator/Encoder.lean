import Headset.Simulator.Client

/-!
# Synthetic encoder

An encoder whose frames have a size but no content.  Requests for a keyframe are one request until
the next frame, and a stream opens with a keyframe.
-/

namespace Headset.Simulator

/-- An encoder that makes frames of two sizes. -/
structure Encoder where
  /-- Whether it was started on a client and not stopped since. -/
  started : Bool := false
  keyframePending : Bool := false
  deriving DecidableEq, Repr, Inhabited

namespace Encoder

def keyframeSize : Nat := 32 * 1024

/-- Bytes of any other frame. -/
def deltaSize : Nat := 2 * 1024

/-- Starts to send, with a keyframe first. -/
def start (_ : Encoder) : Encoder := ⟨true, true⟩

def stop (e : Encoder) : Encoder := { e with started := false }

def requestKeyframe (e : Encoder) : Encoder := { e with keyframePending := true }

/-- The end of an encoder is a stop. -/
def shutDown (e : Encoder) : Encoder := e.stop

/-- Makes a frame, if it is started.  The request for a keyframe is used up, whether or not the
frame will arrive. -/
def present (e : Encoder) (t : FrameTiming) : Encoder × Option VideoFrame :=
  if e.started then
    ({ e with keyframePending := false }, some
      { micros := UInt64.ofNat t.vsyncTime.micros
        index := t.index
        keyframe := e.keyframePending
        size := if e.keyframePending then keyframeSize else deltaSize })
  else (e, none)

end Encoder

/-- A client with the encoder that sends to it. -/
structure Link where
  client : Client := {}
  encoder : Encoder := {}
  deriving Inhabited

namespace Link

/-- Has a frame made and sent; a frame that the client does not take is lost. -/
def present (l : Link) (t : FrameTiming) : Link × Option VideoFrame :=
  let (encoder, frame) := l.encoder.present t
  match frame with
  | none => ({ l with encoder }, none)
  | some f =>
    let client := match l.client.receive f with
      | .ok client => client
      | .error _ => l.client
    (⟨client, encoder⟩, some f)

end Link

end Headset.Simulator
