import Headset.Device.Rig
import Headset.Simulator.Encoder
import Headset.Simulator.Timer

/-!
# Test bench

The simulated surroundings of a device: a factory with one adapter, a host that counts, a client
with its encoder, and controllers that count.  `Bench.feel` is what one call of the device does to
them.
-/

namespace Headset.Simulator

/-- The state of the simulated collaborators, which count in 64 bits. -/
structure Bench where
  link : Link := {}
  /-- Poses the host was told. -/
  poses : UInt64 := 0
  /-- Refreshes the host was told. -/
  vsyncs : UInt64 := 0
  /-- Updates of each controller. -/
  updates : List UInt64 := []
  deriving Inhabited

/-- The adapter of the simulation, under the name that is asked for. -/
def adapter (preferred : Option String) : Adapter := ⟨preferred.getD "sim-gpu", 1⟩

namespace Bench

/-- The bench after one call on a collaborator, with the frame that it sent. -/
def feel (b : Bench) : Effect → Bench × Option VideoFrame
  | .createEncoder _ _ (.ok _) => ({ b with link := { b.link with encoder := {} } }, none)
  | .encoderStart _ none =>
    ({ b with link := { b.link with encoder := b.link.encoder.start } }, none)
  | .encoderStop _ => ({ b with link := { b.link with encoder := b.link.encoder.stop } }, none)
  | .encoderShutdown _ =>
    ({ b with link := { b.link with encoder := b.link.encoder.shutDown } }, none)
  | .requestKeyframe _ =>
    ({ b with link := { b.link with encoder := b.link.encoder.requestKeyframe } }, none)
  | .presentFrame _ t =>
    let (link, frame) := b.link.present t
    ({ b with link }, frame)
  | .sendStreamConfig s none =>
    ({ b with link := { b.link with client := b.link.client.configure s } }, none)
  | .poseUpdated _ _ => ({ b with poses := b.poses + 1 }, none)
  | .vsyncEvent => ({ b with vsyncs := b.vsyncs + 1 }, none)
  | .controllerUpdate id _ _ => ({ b with updates := b.updates.modify id (· + 1) }, none)
  | _ => (b, none)

def feelAll (b : Bench) (log : List Effect) : Bench := log.foldl (fun b e => (b.feel e).1) b

/-- What the bench answers to a device of this configuration, in a call during which new encoders
and timers are numbered `ticket` and the clock is read as `arrival` and `now`.  `timer` is what
comes of a new timer. -/
def answers (b : Bench) (config : Config) (timer : Except Fault Span) (ticket : Nat)
    (arrival now : Span) : Answers where
  arrival
  now
  connected := b.link.client.connected
  adapter := .ok (Simulator.adapter config.identity.adapter)
  display := none
  render := none
  encoder := .ok ticket
  vsync := timer.map fun _ => ticket
  vsyncStart := none
  streamConfig := none
  encoderStart := none
  controllerActive _ := true

/-- The same of a timer for the configured refresh rate.  None if its interval has no span. -/
def answers? (b : Bench) (config : Config) (ticket : Nat) (arrival now : Span) : Option Answers :=
  (Timer.interval? config.display.refreshRate).map fun timer =>
    b.answers config timer ticket arrival now

end Bench

end Headset.Simulator
