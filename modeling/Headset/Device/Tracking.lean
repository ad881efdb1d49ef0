import Headset.Device.Streaming
import Headset.History
import Headset.Prediction

/-!
# Poses, reports and packets

How a device answers for a pose, and what it does with tracking packets, encoded frames, reports of
the client and views.  The pose history is shared with others, so it is an argument.  A call has no
outcome (`none`) where times leave their range.
-/

namespace Headset.Device

/-- The time for which a pose is asked: now plus the offset, not before the start of the clock. -/
def poseTarget? (d : Device) (now : Span) : Option Span :=
  match d.poseOffset with
  | .ofNat micros => (Span.ofMicros? micros).bind now.add?
  | .negSucc micros => (Span.ofMicros? (micros + 1)).map (now - ·)

/-- The answer without a sample: the last one that had one. -/
def fallbackPose (d : Device) : Outcome DevicePose :=
  ⟨{ d with counters := { d.counters with poseFallbacks := d.counters.poseFallbacks + 1 } }, [],
    d.lastPose.getD .untracked⟩

/-- The sample that answers for a time: the newest at or before it, else the newest of all. -/
def chooseSample (h : History) (target : Span) : Option Sample × List Effect :=
  match h.sampleAt target with
  | some s => (some s, [.historySampleAt target])
  | none => (h.latest, [.historySampleAt target, .historyLatest])

/-- The pose for now plus the offset. -/
def getPose? (d : Device) (h : History) (a : Answers) : Option (Outcome DevicePose) :=
  let d := { d with counters := { d.counters with poseQueries := d.counters.poseQueries + 1 } }
  if d.relays.isNone then some d.fallbackPose
  else (d.poseTarget? a.now).map fun target =>
    match chooseSample h target with
    | (none, log) =>
      let o := d.fallbackPose
      ⟨o.device, log ++ o.log, o.answer⟩
    | (some s, log) =>
      let pose := DevicePose.tracked (s.predict target d.config.tracking.maxPredictionSpan)
      ⟨{ d with lastPose := some pose }, log, pose⟩

/-- Tells the pacer, if there is one, that a pose came in. -/
def markFresh (d : Device) (h : History) : Outcome Unit :=
  match d.pipeline with
  | none => ⟨d, [], ()⟩
  | some p =>
    match d.relays with
    | none => ⟨{ d with pipeline := some (p.markFresh none) }, [], ()⟩
    | some _ =>
      ⟨{ d with pipeline := some (p.markFresh (h.latest.map (·.time))) }, [.historyLatest], ()⟩

/-- A sample came into the history: the host, the tracker and the pacer hear of it. -/
def poseUpdated? (d : Device) (h : History) (a : Answers) : Option (Outcome Unit) :=
  (d.getPose? h a).map fun o =>
    let d := o.device
    let toHost := match d.deviceIndex with
      | some index => [.poseUpdated index o.answer]
      | none => []
    let toTracker := match d.relays with
      | some relays =>
        if o.answer.valid && relays.tracker then [.trackerUpdate o.answer.motion] else []
      | none => []
    let m := d.markFresh h
    ⟨m.device, o.log ++ toHost ++ toTracker ++ m.log, ()⟩

/-- Changes the offset of pose queries; a value out of range is left out. -/
def setPoseOffset (d : Device) (ms : Float32) : Device :=
  if ms.abs ≤ maxOffset then { d with poseOffset := offsetMicros ms } else d

/-- Passes what is new about one hand to its controller, if that is active. -/
def updateHand (d : Device) (relays : Relays) (packet : TrackingPacket) (hand : Hand)
    (a : Answers) : Outcome Unit :=
  match packet.controllers.get hand, relays.controllers.get hand with
  | some tracking, some controller =>
    if a.controllerActive controller then
      let counters := { d.counters with controllerUpdates := d.counters.controllerUpdates + 1 }
      ⟨{ d with counters }, [.controllerIsActive controller true,
        .controllerUpdate controller tracking packet.target], ()⟩
    else ⟨d, [.controllerIsActive controller false], ()⟩
  | _, _ => ⟨d, [], ()⟩

/-- Passes what is new about the hands to the controllers, the left one first. -/
def updateControllers (d : Device) (packet : TrackingPacket) (a : Answers) : Outcome Unit :=
  match d.relays with
  | none => ⟨d, [], ()⟩
  | some relays =>
    let l := d.updateHand relays packet .left a
    let r := l.device.updateHand relays packet .right a
    ⟨r.device, l.log ++ r.log, ()⟩

/-- A tracking packet came in: the head goes into the history and on from there, then the hands to
the controllers.  The history afterwards comes with the outcome. -/
def tracking? (d : Device) (h : History) (packet : TrackingPacket) (a : Answers) :
    Option (History × Outcome Unit) :=
  match packet.head with
  | none => some (h, d.updateControllers packet a)
  | some head =>
    if d.relays.isNone then some (h, ⟨d, [], ()⟩)
    else
      let sample : Sample := ⟨packet.target, head⟩
      let h := h.push sample
      let d := { d with latency := d.latency.received packet.target a.arrival }
      (d.poseUpdated? h a).map fun o =>
        let c := o.device.updateControllers packet a
        (h, ⟨c.device, .historyPush sample :: o.log ++ c.log, ()⟩)

/-- The encoder finished the frame of a sample. -/
def frameEncoded (d : Device) (target : Span) (bytes : Nat) (keyframe : Bool) (a : Answers) :
    Device :=
  { d with latency := d.latency.encoded target a.now bytes keyframe }

/-- Microseconds of a span in 64 bits with a sign; later ones are held at the largest. -/
def holdMicros (s : Span) : Int :=
  if s.micros < 0x8000000000000000 then s.micros else 0x7fffffffffffffff

/-- The client reported on a frame.  The offset follows the averages, if it is adaptive and the
frame is known. -/
def clientReport? (d : Device) (r : ClientReport) : Option Device := do
  let (latency, network) ← d.latency.reported? r
  let d := { d with latency }
  if network.isSome && d.config.tracking.adaptiveOffset then
    let offset ← latency.poseOffset?
    return { d with poseOffset := holdMicros offset }
  else return d

/-- The client published views; views that are not valid are left out. -/
def setViews (d : Device) (views : Views) : Outcome Unit :=
  match d.display.publish? views with
  | none => ⟨d, [], ()⟩
  | some display =>
    let counters := { d.counters with viewsUpdates := d.counters.viewsUpdates + 1 }
    let log := match d.deviceIndex with
      | some index => [.eyeGeometryChanged index views]
      | none => []
    ⟨{ d with display, counters }, log, ()⟩

end Headset.Device
