import Headset.Controller
import Headset.Display
import Headset.Fault

/-!
# Effects and answers

A device works with collaborators: the factory of its encoder and its timer, the host, the render
backend, the client, the pose history, the controllers and the tracker.  `Effect` lists the calls
it makes on them, each with the answer it got, and `Answers` holds what they would answer during
one call on the device.
-/

namespace Headset

/-- One call on a collaborator, with its answer.  Encoders, timers and controllers are told apart by
number. -/
inductive Effect where
  | resolveAdapter (preferred : Option String) (answer : Except Fault Adapter)
  | registerDisplay (index : UInt32) (properties : DisplayProperties) (fault : Option Fault)
  | renderInitialize (adapter : Adapter) (fault : Option Fault)
  | renderShutdown
  | createEncoder (adapter : Adapter) (stream : StreamConfig) (answer : Except Fault Nat)
  | createVsync (refreshRate : Float32) (answer : Except Fault Nat)
  /-- The timer starts to tick the pacer of the encoder. -/
  | vsyncStart (timer encoder : Nat) (fault : Option Fault)
  | vsyncStop (timer : Nat)
  | vsyncEvent
  | isConnected (answer : Bool)
  | sendStreamConfig (stream : StreamConfig) (fault : Option Fault)
  /-- The encoder starts to send to the client. -/
  | encoderStart (encoder : Nat) (fault : Option Fault)
  | encoderStop (encoder : Nat)
  | presentFrame (encoder : Nat) (timing : FrameTiming)
  | hostFrame (encoder : Nat) (ordinal : UInt64)
  | requestKeyframe (encoder : Nat)
  | encoderShutdown (encoder : Nat)
  | historyPush (sample : Sample)
  | historySampleAt (time : Span)
  | historyLatest
  | poseUpdated (index : UInt32) (pose : DevicePose)
  | eyeGeometryChanged (index : UInt32) (views : Views)
  | trackerUpdate (motion : Motion)
  | controllerIsActive (controller : Nat) (answer : Bool)
  | controllerUpdate (controller : Nat) (tracking : ControllerTracking) (target : Span)

/-- What the collaborators answer during one call.  A fault that is there is what the collaborator
fails with. -/
structure Answers where
  /-- The clock at the arrival of a tracking packet. -/
  arrival : Span
  /-- The clock at any other reading. -/
  now : Span
  connected : Bool
  /-- What the client says when it is asked a second time. -/
  stillConnected : Bool := connected
  adapter : Except Fault Adapter
  display : Option Fault
  render : Option Fault
  encoder : Except Fault Nat
  vsync : Except Fault Nat
  vsyncStart : Option Fault
  streamConfig : Option Fault
  encoderStart : Option Fault
  controllerActive : Nat → Bool

end Headset
