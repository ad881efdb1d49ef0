import Headset.Fault
import Headset.Stream

/-!
# Loopback client

The client's end of a simulated stream.  It counts the frames that reach it once it is connected.
-/

namespace Headset.Simulator

/-- A client that only counts, in 64 bits, and from zero again after those. -/
structure Client where
  connected : Bool := false
  frames : UInt64 := 0
  keyframes : UInt64 := 0
  bytes : UInt64 := 0
  /-- What it was told last about the stream. -/
  stream : Option StreamConfig := none
  deriving Inhabited

namespace Client

/-- The client comes up; it stays. -/
def connect (c : Client) : Client := { c with connected := true }

/-- Takes what it is told about the stream, connected or not. -/
def configure (c : Client) (stream : StreamConfig) : Client := { c with stream := some stream }

def receive (c : Client) (f : VideoFrame) : Except Fault Client :=
  if c.connected then
    .ok { c with
      frames := c.frames + 1
      keyframes := if f.keyframe then c.keyframes + 1 else c.keyframes
      bytes := c.bytes + .ofNat f.size }
  else .error ⟨.transport, "client disconnected"⟩

end Client

end Headset.Simulator
