import Headset.Device.Streaming

/-!
# Activation

An activation goes through five stages: adapter, display, render backend, encoder, timer.  A stage
that fails undoes what the earlier ones allocated, apart from the adapter, which stays known.
`teardown` releases the timer first, so that no tick meets an encoder that is stopping.
-/

namespace Headset.Device

/-- The adapter, asked for once. -/
def resolveAdapter (d : Device) (a : Answers) : Outcome (Except Fault Adapter) :=
  match d.adapter with
  | some adapter => ⟨d, [], .ok adapter⟩
  | none =>
    let log := [.resolveAdapter d.config.identity.adapter a.adapter]
    match a.adapter with
    | .error f => ⟨d, log, .error f⟩
    | .ok adapter => ⟨{ d with adapter := some adapter }, log, .ok adapter⟩

def releaseRender (d : Device) : Outcome Unit :=
  if d.renderReady then
    ⟨{ d with renderReady := false }, if d.render.isSome then [.renderShutdown] else [], ()⟩
  else ⟨d, [], ()⟩

/-- The third stage: initialises the render backend, if there is one. -/
def initializeRender (d : Device) (adapter : Adapter) (a : Answers) :
    Outcome (Except DriverError Unit) :=
  match d.render with
  | none => ⟨d, [], .ok ()⟩
  | some _ =>
    let log := [.renderInitialize adapter a.render]
    match a.render with
    | some f => ⟨d, log, .error (.initialization .renderBackend f)⟩
    | none => ⟨{ d with renderReady := true }, log, .ok ()⟩

/-- The last stage: creates the timer and starts it on the encoder's pacer. -/
def startTimer (d : Device) (encoder : Nat) (a : Answers) : Outcome (Except Fault Unit) :=
  let log := [.createVsync d.config.display.refreshRate a.vsync]
  match a.vsync with
  | .error f => ⟨d, log, .error f⟩
  | .ok timer =>
    let log := log ++ [.vsyncStart timer encoder a.vsyncStart]
    match a.vsyncStart with
    | some f => ⟨d, log, .error f⟩
    | none => ⟨{ d with vsync := some timer }, log, .ok ()⟩

/-- The last two stages.  A failure shuts down what they and the render stage allocated. -/
def allocateEncoder (d : Device) (adapter : Adapter) (a : Answers) :
    Outcome (Except DriverError Pacer) :=
  let log := [.createEncoder adapter d.config.stream a.encoder]
  match a.encoder with
  | .error f =>
    let r := d.releaseRender
    ⟨r.device, log ++ r.log, .error (.initialization .encoder f)⟩
  | .ok encoder =>
    let t := d.startTimer encoder a
    match t.answer with
    | .error f =>
      let r := t.device.releaseRender
      ⟨r.device, log ++ t.log ++ .encoderShutdown encoder :: r.log,
        .error (.initialization .vsync f)⟩
    | .ok () => ⟨t.device, log ++ t.log, .ok (.ofEncoder encoder)⟩

/-- All five stages. -/
def allocate (d : Device) (index : UInt32) (a : Answers) : Outcome (Except DriverError Pacer) :=
  let r := d.resolveAdapter a
  match r.answer with
  | .error f => ⟨r.device, r.log, .error (.initialization .adapter f)⟩
  | .ok adapter =>
    let log := r.log ++ [.registerDisplay index d.config.display.properties a.display]
    match a.display with
    | some f => ⟨r.device, log, .error (.initialization .display f)⟩
    | none =>
      let i := r.device.initializeRender adapter a
      match i.answer with
      | .error e => ⟨i.device, log ++ i.log, .error e⟩
      | .ok () =>
        let e := i.device.allocateEncoder adapter a
        ⟨e.device, log ++ i.log ++ e.log, e.answer⟩

/-- The index under which the host knows the device; the largest one stands for none. -/
def indexOf? (index : UInt32) : Option UInt32 := if index = 0xffffffff then none else some index

/-- Puts the device into use.  A queued start of the stream is made up for. -/
def activate (d : Device) (index : UInt32) (a : Answers) : Outcome (Except DriverError Unit) :=
  if d.isShutDown then ⟨d, [], .error .shutDown⟩
  else match transition d.state .activate with
  | none => ⟨d, [], .error (.invalidState .activate d.state)⟩
  | some _ =>
    let o := { d with state := .activating }.allocate index a
    match o.answer with
    | .error e =>
      ⟨{ o.device with state := .inactive }.withStatus "failed to activate", o.log, .error e⟩
    | .ok pacer =>
      let d := { o.device with
        pipeline := some pacer
        deviceIndex := indexOf? index
        state := .active
        counters :=
          { o.device.counters with activations := o.device.counters.activations + 1 } }
      let s := (d.withStatus "active").startPending a
      ⟨s.device, o.log ++ s.log, .ok ()⟩

/-- Releases what the activation allocated: the timer, the stream, the encoder, the backend. -/
def teardown (d : Device) : Outcome Unit :=
  let stopTimer := match d.vsync with
    | some timer => [.vsyncStop timer]
    | none => []
  let h := { d with vsync := none }.haltStream
  let release := match h.device.pipeline with
    | some p => [.encoderShutdown p.encoder]
    | none => []
  let retired := (h.device.pipeline.map Pacer.release).toList ++ h.device.retired
  let r := { h.device with pipeline := none, retired }.releaseRender
  let d := { r.device with
    pendingStart := false
    deviceIndex := none
    state := .inactive
    counters :=
      { r.device.counters with deactivations := r.device.counters.deactivations + 1 } }
  ⟨d.withStatus "inactive", stopTimer ++ h.log ++ release ++ r.log, ()⟩

/-- Takes the device out of use; nothing happens on one that is not in use. -/
def deactivate (d : Device) : Outcome Unit :=
  if d.state = .inactive ∧ d.pipeline.isNone then ⟨d, [], ()⟩ else d.teardown

/-- Stops the stream but keeps encoder and timer. -/
def enterStandby (d : Device) : Outcome (Except DriverError Unit) :=
  match transition d.state .enterStandby with
  | none => ⟨d, [], .error (.invalidState .enterStandby d.state)⟩
  | some next =>
    let h := d.haltStream
    ⟨{ h.device with state := next }.withStatus "standby", h.log, .ok ()⟩

/-- Returns from standby.  A queued start of the stream is made up for. -/
def resume (d : Device) (a : Answers) : Outcome (Except DriverError Unit) :=
  match d.leaveStandby with
  | .error e => ⟨d, [], .error e⟩
  | .ok d =>
    let s := d.startPending a
    ⟨s.device, s.log, .ok ()⟩

/-- The driver goes away: everything is released for good. -/
def shutDown (d : Device) : Outcome Unit :=
  let d := { d with isShutDown := true }
  let t : Outcome Unit :=
    if d.state ≠ .inactive ∨ d.pipeline.isSome then d.teardown else ⟨d, [], ()⟩
  ⟨{ t.device with relays := none, lastPose := none }.withStatus "shut down", t.log, ()⟩

/-- The owner lets go of the device: what is still allocated is released. -/
def drop (d : Device) : Outcome Unit :=
  if d.vsync.isSome ∨ d.pipeline.isSome then d.teardown else ⟨d, [], ()⟩

end Headset.Device
