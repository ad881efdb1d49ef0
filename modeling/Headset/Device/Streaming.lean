import Headset.Device.Basic

/-!
# Streaming

A stream starts when the device is active, the client is connected, and both the client and the
encoder take it up.  A client that is ready too early has its start queued.
-/

namespace Headset.Device

/-- Starts the stream.  On any error the device is as before. -/
def startStreaming (d : Device) (a : Answers) : Outcome (Except DriverError Unit) :=
  if d.isShutDown then ⟨d, [], .error .shutDown⟩
  else if d.state ≠ .active then ⟨d, [], .error (.invalidState .startStreaming d.state)⟩
  else match d.pipeline with
  | none => ⟨d, [], .error (.invalidState .startStreaming d.state)⟩
  | some p =>
    if p.streaming then ⟨d, [], .ok ()⟩
    else if d.relays.isNone then ⟨d, [], .error .shutDown⟩
    else if !a.connected then ⟨d, [.isConnected false], .error .clientNotConnected⟩
    else
      let log := [.isConnected true, .sendStreamConfig d.config.stream a.streamConfig]
      match a.streamConfig with
      | some f => ⟨d, log, .error (.stream f)⟩
      | none =>
        let log := log ++ [.encoderStart p.encoder a.encoderStart]
        match a.encoderStart with
        | some f => ⟨d, log, .error (.stream f)⟩
        | none =>
          let d := { d with pipeline := some { p with streaming := true }, pendingStart := false }
          ⟨d.withStatus "streaming", log, .ok ()⟩

def haltStream (d : Device) : Outcome Unit :=
  match d.pipeline with
  | none => ⟨d, [], ()⟩
  | some p =>
    if p.streaming then
      ⟨{ d with pipeline := some { p with streaming := false } }, [.encoderStop p.encoder], ()⟩
    else ⟨d, [], ()⟩

/-- Stops the stream and drops a queued start. -/
def stopStreaming (d : Device) : Outcome Unit := { d with pendingStart := false }.haltStream

/-- Starts the stream that the client asked for earlier, if it is connected now; the start asks it
once more.  A start that fails stays queued. -/
def startPending (d : Device) (a : Answers) : Outcome Unit :=
  if !d.config.streaming.startOnClientReady || !d.pendingStart || d.relays.isNone then ⟨d, [], ()⟩
  else if !a.connected then ⟨d, [.isConnected false], ()⟩
  else
    let o := d.startStreaming { a with connected := a.stillConnected }
    ⟨o.device, .isConnected true :: o.log, ()⟩

/-- Leaves standby; nothing is allocated anew. -/
def leaveStandby (d : Device) : Except DriverError Device :=
  match transition d.state .resume with
  | none => .error (.invalidState .resume d.state)
  | some next => .ok ({ d with state := next }.withStatus "active")

/-- Takes the client's word that it is ready, on a device that is active. -/
def clientReady (d : Device) (a : Answers) : Outcome (Except DriverError Unit) :=
  if d.config.streaming.startOnClientReady then d.startStreaming a
  else ⟨{ d with pendingStart := true }, [], .ok ()⟩

/-- The client is ready for the stream.  A device in standby is resumed; the start is queued on one
that is not active. -/
def streamStart (d : Device) (a : Answers) : Outcome (Except DriverError Unit) :=
  if d.isShutDown then ⟨d, [], .error .shutDown⟩
  else match d.state with
  | .active => d.clientReady a
  | .standby =>
    match d.leaveStandby with
    | .error e => ⟨d, [], .error e⟩
    | .ok d => d.clientReady a
  | .inactive => ⟨{ d with pendingStart := true }, [], .ok ()⟩
  | .activating => ⟨{ d with pendingStart := true }, [], .ok ()⟩

/-- Asks the encoder for a keyframe, if there is an encoder. -/
def requestKeyframe (d : Device) : Outcome Unit :=
  match d.pipeline with
  | none => ⟨d, [], ()⟩
  | some p =>
    if p.released then ⟨d, [], ()⟩
    else
      let counters := { d.counters with keyframeRequests := d.counters.keyframeRequests + 1 }
      ⟨{ d with counters }, [.requestKeyframe p.encoder], ()⟩

/-- Frames were lost on the way: the stream goes on with a keyframe. -/
def packetLoss (d : Device) : Outcome Unit :=
  { d with
    counters :=
      { d.counters with packetLossEvents := d.counters.packetLossEvents + 1 } }.requestKeyframe

/-- The host finished a frame. -/
def runFrame (d : Device) : Outcome Unit :=
  let ordinal := d.counters.hostFrames + 1
  let log := match d.pipeline with
    | some p => if p.makesFrames then [.hostFrame p.encoder ordinal] else []
    | none => []
  ⟨{ d with counters := { d.counters with hostFrames := ordinal } }, log, ()⟩

/-- A tick reaches a pacer.  The host hears of every tick; a pacer that streams has a frame made. -/
def refresh (d : Device) (p : Pacer) (a : Answers) : Outcome Pacer :=
  if p.makesFrames then
    let t := p.timing a.now
    let d := { d with
      latency := d.latency.framePresented t
      counters := { d.counters with framesPresented := d.counters.framesPresented + 1 } }
    ⟨d, [.vsyncEvent, .presentFrame p.encoder t], p.advance⟩
  else ⟨d, [.vsyncEvent], p⟩

/-- The timer ticks. -/
def tick (d : Device) (a : Answers) : Outcome Unit :=
  match d.pipeline with
  | none => ⟨d, [.vsyncEvent], ()⟩
  | some p =>
    let o := d.refresh p a
    ⟨{ o.device with pipeline := some o.answer }, o.log, ()⟩

/-- A timer of an earlier activation ticks its pacer.  Behind the last pacer are those whose timer
could not be started: they never streamed. -/
def strayTick (d : Device) (age : Nat) (a : Answers) : Outcome Unit :=
  match d.retired[age]? with
  | none => ⟨d, [.vsyncEvent], ()⟩
  | some p =>
    let o := d.refresh p a
    ⟨{ o.device with retired := o.device.retired.set age o.answer }, o.log, ()⟩

end Headset.Device
