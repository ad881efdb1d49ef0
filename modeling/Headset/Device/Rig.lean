import Headset.Inquiry
import Headset.Device.Activation
import Headset.Device.Tracking
import Headset.Wire

/-!
# Rigs

A device with the pose history it shares with others and the timer that may still tick it.
`Rig.step` is one thing that happens to them: a call on the device, a tick, or a change of the
history by someone else.  A run is a left fold of steps.
-/

namespace Headset

inductive Call where
  | activate (index : UInt32)
  | deactivate
  | enterStandby
  | resume
  | shutDown
  | startStreaming
  | stopStreaming
  | streamStart
  | packetLoss
  | requestKeyframe
  | runFrame
  | getPose
  | poseUpdated
  | setPoseOffset (ms : Float32)
  | tracking (packet : TrackingPacket)
  | updateControllers (packet : TrackingPacket)
  | frameEncoded (target : Span) (bytes : Nat) (keyframe : Bool)
  | clientReport (report : ClientReport)
  | setViews (views : Views)
  | debug (request : String) (buffer : List UInt8)

inductive Reply where
  | none
  | result (r : Except DriverError Unit)
  | pose (p : DevicePose)
  /-- Bytes written before the closing zero, and the buffer afterwards. -/
  | response (size : Nat) (buffer : List UInt8)

/-- One thing that happens to a rig. -/
inductive Step where
  | call (c : Call)
  /-- The timer ticks, if it runs. -/
  | tick
  /-- A tick arrives late, on whatever the timer was started on last. -/
  | lateTick
  /-- A tick arrives even later, on a pacer that has left the device. -/
  | strayTick (age : Nat)
  | pushHistory (sample : Sample)
  | clearHistory

/-- A device with its surroundings. -/
structure Rig where
  device : Device
  history : History
  /-- Whether a timer was ever started on a pacer. -/
  timerStarted : Bool
  deriving Inhabited

namespace Device

/-- The text that answers a debug command; none if an average leaves its range. -/
def debugAnswer? (d : Device) : Option Inquiry → Option String
  | some .status => some (d.status ++ " state=" ++ d.state.title ++ " streaming=" ++
      if d.isStreaming then "true" else "false")
  | some .counters => some d.counters.toJson.render
  | some .views => some d.display.views.toJson.render
  | some .latency => d.latency.snapshot?.map fun s => s.toJson.render
  | some .keyframe => some "ok"
  | none => some unknownRequest

/-- Answers a debug request into a buffer.  A request for a keyframe is passed on. -/
def debug? (d : Device) (request : String) (buffer : List UInt8) :
    Option (Outcome (Nat × List UInt8)) :=
  let command := Inquiry.parse? request
  (d.debugAnswer? command).map fun text =>
    let o : Outcome Unit := if command = some .keyframe then d.requestKeyframe else ⟨d, [], ()⟩
    ⟨o.device, o.log, Response.write buffer text⟩

end Device

def Effect.isTimerStart : Effect → Bool
  | .vsyncStart .. => true
  | _ => false

namespace Rig

/-- A rig around a device that has just been built. -/
def ofDevice (device : Device) (historyCapacity : Nat) : Rig :=
  ⟨device, .empty historyCapacity, false⟩

/-- The rig after an outcome. -/
def settle {α : Type} (r : Rig) (o : Outcome α) (reply : α → Reply) : Rig × List Effect × Reply :=
  ({ r with device := o.device, timerStarted := r.timerStarted || o.log.any Effect.isTimerStart },
    o.log, reply o.answer)

/-- Makes a call on the device; none if times leave their range. -/
def call? (r : Rig) (c : Call) (a : Answers) : Option (Rig × List Effect × Reply) :=
  let d := r.device
  match c with
  | .activate index => some (r.settle (d.activate index a) .result)
  | .deactivate => some (r.settle d.deactivate fun _ => .none)
  | .enterStandby => some (r.settle d.enterStandby .result)
  | .resume => some (r.settle (d.resume a) .result)
  | .shutDown => some (r.settle d.shutDown fun _ => .none)
  | .startStreaming => some (r.settle (d.startStreaming a) .result)
  | .stopStreaming => some (r.settle d.stopStreaming fun _ => .none)
  | .streamStart => some (r.settle (d.streamStart a) .result)
  | .packetLoss => some (r.settle d.packetLoss fun _ => .none)
  | .requestKeyframe => some (r.settle d.requestKeyframe fun _ => .none)
  | .runFrame => some (r.settle d.runFrame fun _ => .none)
  | .getPose => (d.getPose? r.history a).map fun o => r.settle o .pose
  | .poseUpdated => (d.poseUpdated? r.history a).map fun o => r.settle o fun _ => .none
  | .setPoseOffset ms => some ({ r with device := d.setPoseOffset ms }, [], .none)
  | .tracking packet =>
    (d.tracking? r.history packet a).map fun (history, o) =>
      { r with history }.settle o fun _ => .none
  | .updateControllers packet => some (r.settle (d.updateControllers packet a) fun _ => .none)
  | .frameEncoded target bytes keyframe =>
    some ({ r with device := d.frameEncoded target bytes keyframe a }, [], .none)
  | .clientReport report =>
    (d.clientReport? report).map fun device => ({ r with device }, [], .none)
  | .setViews views => some (r.settle (d.setViews views) fun _ => .none)
  | .debug request buffer =>
    (d.debug? request buffer).map fun o => r.settle o fun (size, buffer) => .response size buffer

/-- One step; none if times leave their range. -/
def step? (r : Rig) (s : Step) (a : Answers) : Option (Rig × List Effect × Reply) :=
  match s with
  | .call c => r.call? c a
  | .tick =>
    if r.device.vsync.isSome then some (r.settle (r.device.tick a) fun _ => .none)
    else some (r, [], .none)
  | .lateTick =>
    if r.timerStarted then
      let o := if r.device.pipeline.isSome then r.device.tick a else r.device.strayTick 0 a
      some (r.settle o fun _ => .none)
    else some (r, [], .none)
  | .strayTick age =>
    if r.timerStarted then some (r.settle (r.device.strayTick age a) fun _ => .none)
    else some (r, [], .none)
  | .pushHistory sample => some ({ r with history := r.history.push sample }, [], .none)
  | .clearHistory => some ({ r with history := r.history.clear }, [], .none)

/-- A run of steps, each with the answers given during it; with the log of all of them. -/
def run? (r : Rig) (steps : List (Step × Answers)) : Option (Rig × List Effect) :=
  steps.foldlM (fun (r, log) (s, a) => (r.step? s a).map fun (r, l, _) => (r, log ++ l)) (r, [])

end Rig

end Headset
