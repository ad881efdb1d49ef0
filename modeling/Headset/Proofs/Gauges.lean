import Headset.Proofs.Pacing

/-!
# Latencies and the offset along a run

The latencies, the offset and the last pose outlast activations: the lifecycle and the stream leave
them alone (`Rig.lasting_of_step?`).  What any step does to the latencies and the offset is said by
`Device.Gauged`: it gives the latencies notices, each with a time of the step or with its report,
and it may set the offset or fit it to the latencies (`Rig.gauged_of_step?`).
-/

namespace Headset

/-- What of a device outlasts activations. -/
structure Device.Lasting where
  config : Config
  related : Bool
  poseOffset : Int
  lastPose : Option DevicePose
  latency : Latency

/-- Whether a step concerns what outlasts activations. -/
def Step.concernsLasting : Step → Bool
  | .call .shutDown => true
  | .call .getPose => true
  | .call .poseUpdated => true
  | .call (.setPoseOffset _) => true
  | .call (.tracking _) => true
  | .call (.frameEncoded _ _ _) => true
  | .call (.clientReport _) => true
  | .call _ => false
  | _ => true

/-- A notice that a step can give: its time is one of the answers, or it is the step's report. -/
def Notice.Of (s : Step) (a : Answers) : Notice → Prop
  | .received _ now => now = a.arrival
  | .presented _ now => now = a.now
  | .encoded _ now _ _ => now = a.now
  | .reported r => s = .call (.clientReport r)

/-- What a step does to the latencies and the offset of a device. -/
inductive Device.Gauged (s : Step) (a : Answers) (d e : Device) : Prop
  /-- The latencies are given notices. -/
  | told (notices : List Notice) (of : ∀ n ∈ notices, n.Of s a)
    (latency : e.latency = d.latency.follow notices) (offset : e.poseOffset = d.poseOffset)
  /-- The offset is set to a value in range. -/
  | set (ms : Float32) (inRange : ms.abs ≤ maxOffset) (latency : e.latency = d.latency)
    (offset : e.poseOffset = offsetMicros ms)
  /-- The offset is fitted to the averages after a report. -/
  | fitted (r : ClientReport) (hs : s = .call (.clientReport r)) (span : Span)
    (adaptive : d.config.tracking.adaptiveOffset = true)
    (latency : e.latency = d.latency.notice (.reported r))
    (found : e.latency.poseOffset? = some span) (offset : e.poseOffset = holdMicros span)

namespace Device

def lasting (d : Device) : Lasting where
  config := d.config
  related := d.relays.isSome
  poseOffset := d.poseOffset
  lastPose := d.lastPose
  latency := d.latency

variable {d e : Device} {s : Step} {a : Answers} {h h' : History}

/-- What of a device that has just been built outlasts activations. -/
theorem lasting_of_build? {config : Config} {equipment : Equipment}
    (built : build? config equipment = some (.ok d)) :
    config.fault? = none ∧
      ∃ interval, Span.ofSeconds? (1 / config.display.refreshRate) = some interval ∧
        d.lasting = {
          config
          related := true
          poseOffset := offsetMicros config.tracking.poseOffset
          lastPose := none
          latency := .empty config.tracking.latencyHistory.toNat interval
            config.tracking.hostPipelineFrames equipment.overflow } := by
  obtain ⟨valid, interval, hi, latency, room, rfl⟩ := build?_eq_ok_iff.1 built
  obtain ⟨-, rfl⟩ := Latency.allocate?_eq_some_iff.1 room
  exact ⟨valid, interval, hi, rfl⟩

theorem latency_of_build? {config : Config} {equipment : Equipment}
    (built : build? config equipment = some (.ok d)) :
    ∃ interval, d.latency = .empty config.tracking.latencyHistory.toNat interval
      config.tracking.hostPipelineFrames equipment.overflow := by
  obtain ⟨-, interval, -, start⟩ := lasting_of_build? built
  exact ⟨interval, congrArg Lasting.latency start⟩

theorem poseOffset_of_build? {config : Config} {equipment : Equipment}
    (built : build? config equipment = some (.ok d)) :
    d.poseOffset = offsetMicros config.tracking.poseOffset := by
  obtain ⟨-, interval, -, start⟩ := lasting_of_build? built
  exact congrArg Lasting.poseOffset start

/-! ## The lifecycle and the stream -/

theorem aside_lasting : Aside lasting := fun _ _ _ _ _ => rfl

theorem lasting_teardown (d : Device) : d.teardown.device.lasting = d.lasting := by
  rw [teardown_device]
  rfl

theorem Activation.lasting {index : UInt32} {o : Outcome (Except DriverError Unit)}
    (k : d.Activation index a o) : o.device.lasting = d.lasting := by
  cases k with
  | shutDown down => rfl
  | refused up hs => rfl
  | failed up hs ho he => cases ho <;> rfl
  | done up hs ho hp =>
    rw [aside_lasting.startPending]
    cases ho <;> rfl

theorem lasting_deactivate (d : Device) : d.deactivate.device.lasting = d.lasting := by
  unfold deactivate
  split
  · rfl
  · exact d.lasting_teardown

theorem lasting_requestKeyframe (d : Device) : d.requestKeyframe.device.lasting = d.lasting := by
  unfold requestKeyframe
  split
  · rfl
  · split <;> rfl

theorem lasting_updateHand (d : Device) (relays : Relays) (packet : TrackingPacket) (hand : Hand)
    (a : Answers) : (d.updateHand relays packet hand a).device.lasting = d.lasting := by
  unfold updateHand
  split
  · split <;> rfl
  · rfl

theorem lasting_updateControllers (d : Device) (packet : TrackingPacket) (a : Answers) :
    (d.updateControllers packet a).device.lasting = d.lasting := by
  unfold updateControllers
  split
  · rfl
  · exact (lasting_updateHand ..).trans (lasting_updateHand ..)

theorem lasting_setViews (d : Device) (views : Views) :
    (d.setViews views).device.lasting = d.lasting := by
  unfold setViews
  split <;> rfl

theorem lasting_debug? {request : String} {buffer : List UInt8} {o : Outcome (Nat × List UInt8)}
    (ho : d.debug? request buffer = some o) : o.device.lasting = d.lasting := by
  obtain ⟨text, -, rfl⟩ := Option.map_eq_some_iff.1 ho
  dsimp only
  split
  · exact d.lasting_requestKeyframe
  · rfl

/-! ## Notices and the offset -/

theorem lasting_getPose? {o : Outcome DevicePose} (ho : d.getPose? h a = some o) :
    o.device.lasting = { d.lasting with lastPose := o.device.lastPose } := by
  unfold getPose? at ho
  dsimp only at ho
  split at ho
  · cases ho
    rfl
  · obtain ⟨target, -, rfl⟩ := Option.map_eq_some_iff.1 ho
    split <;> rfl

theorem lasting_markFresh (d : Device) (h : History) :
    (d.markFresh h).device.lasting = d.lasting := by
  unfold markFresh
  split
  · rfl
  · split <;> rfl

theorem lasting_poseUpdated? {o : Outcome Unit} (ho : d.poseUpdated? h a = some o) :
    ∃ pose, o.device.lasting = { d.lasting with lastPose := pose } := by
  obtain ⟨p, hp, rfl⟩ := Option.map_eq_some_iff.1 ho
  exact ⟨_, (lasting_markFresh ..).trans (lasting_getPose? hp)⟩

theorem lasting_tracking? {packet : TrackingPacket} {head : Motion} {o : Outcome Unit}
    (found : packet.head = some head) (there : d.relays.isSome)
    (ho : d.tracking? h packet a = some (h', o)) :
    ∃ pose, o.device.lasting = { d.lasting with
      lastPose := pose, latency := d.latency.received packet.target a.arrival } := by
  cases tracking?_cases ho with
  | headless headless => simp [found] at headless
  | lost headed gone => simp [gone] at there
  | @relayed _ p headed _ hp =>
    obtain ⟨pose, same⟩ := lasting_poseUpdated? hp
    exact ⟨pose, (p.device.lasting_updateControllers packet a).trans same⟩

namespace Gauged

theorem of_lasting (same : e.lasting = d.lasting) : Gauged s a d e :=
  .told [] (by simp) (congrArg Lasting.latency same) (congrArg Lasting.poseOffset same)

theorem of_lastPose {pose : Option DevicePose}
    (same : e.lasting = { d.lasting with lastPose := pose }) : Gauged s a d e :=
  .told [] (by simp) (congrArg Lasting.latency same) (congrArg Lasting.poseOffset same)

theorem congr {f : Device} (k : Gauged s a d e) (latency : f.latency = e.latency)
    (offset : f.poseOffset = e.poseOffset) : Gauged s a d f := by
  cases k with
  | told notices of told same => exact .told notices of (latency.trans told) (offset.trans same)
  | set ms inRange same set => exact .set ms inRange (latency.trans same) (offset.trans set)
  | fitted r hs span adaptive told found fitted =>
    exact .fitted r hs span adaptive (latency.trans told) (latency ▸ found) (offset.trans fitted)

theorem shutDown (d : Device) : Gauged s a d d.shutDown.device := by
  unfold Device.shutDown
  dsimp only
  split
  · have same := lasting_teardown { d with isShutDown := true }
    exact .told [] (by simp) (congrArg Lasting.latency same) (congrArg Lasting.poseOffset same)
  · exact .told [] (by simp) rfl rfl

theorem setPoseOffset (d : Device) (ms : Float32) : Gauged s a d (d.setPoseOffset ms) := by
  unfold Device.setPoseOffset
  split
  · next inRange => exact .set ms inRange rfl rfl
  · exact .of_lasting rfl

theorem tracking? {packet : TrackingPacket} {o : Outcome Unit}
    (ho : d.tracking? h packet a = some (h', o)) : Gauged s a d o.device := by
  cases tracking?_cases ho with
  | headless => exact .of_lasting (d.lasting_updateControllers packet a)
  | lost => exact .of_lasting rfl
  | relayed headed there =>
    obtain ⟨pose, same⟩ := lasting_tracking? headed there ho
    exact .told [.received packet.target a.arrival] (by simp [Notice.Of])
      (congrArg Lasting.latency same) (congrArg Lasting.poseOffset same)

theorem clientReport? {r : ClientReport} (he : d.clientReport? r = some e) :
    Gauged (.call (.clientReport r)) a d e := by
  obtain ⟨⟨latency, network⟩, hl, he⟩ := Option.bind_eq_some_iff.1 he
  have reported : latency = d.latency.notice (.reported r) := by simp [Latency.notice, hl]
  dsimp only at he
  split at he
  · next adapts =>
    obtain ⟨span, found, he⟩ := Option.bind_eq_some_iff.1 he
    cases he
    exact .fitted r rfl span (Bool.and_eq_true_iff.1 adapts).2 reported found rfl
  · cases he
    exact .told [.reported r] (by simp [Notice.Of]) reported rfl

theorem refresh (d : Device) (p : Pacer) (a : Answers) :
    Gauged s a d (d.refresh p a).device := by
  unfold Device.refresh
  split
  · refine .told _ ?_ (d.latency.framePresented_eq_follow _) rfl
    intro n hn
    obtain ⟨target, -, rfl⟩ : ∃ target, p.poseTime = some target ∧
        .presented target a.now = n := by
      cases hp : p.freshPose <;> simp_all [FrameTiming.presentation?, Pacer.timing]
    rfl
  · exact .of_lasting rfl

theorem ticks {log : List Effect} (k : d.Ticks a e log) : Gauged s a d e := by
  cases k with
  | unheard => exact .of_lasting rfl
  | inTime =>
    unfold tick
    split
    · exact .of_lasting rfl
    · exact (refresh d _ a).congr rfl rfl
  | stray age =>
    unfold strayTick
    split
    · exact .of_lasting rfl
    · exact (refresh d _ a).congr rfl rfl

/-- Whatever a step does to the offset, it gives the latencies notices. -/
theorem follows (k : Gauged s a d e) :
    ∃ notices, e.latency = d.latency.follow notices ∧ ∀ n ∈ notices, n.Of s a := by
  cases k with
  | told notices of latency offset => exact ⟨notices, latency, of⟩
  | set ms inRange latency offset => exact ⟨[], latency, by simp⟩
  | fitted r hs span adaptive latency found offset =>
    exact ⟨[.reported r], latency, by simp [Notice.Of, hs]⟩

end Gauged

end Device

namespace Rig

variable {r r' : Rig} {s : Step} {a : Answers} {l : List Effect} {reply : Reply}

theorem lasting_of_step? (h : r.device.Coherent) (hs : s.concernsLasting = false)
    (step : r.step? s a = some (r', l, reply)) :
    r'.device.lasting = r.device.lasting ∧ r'.history = r.history := by
  cases s with
  | call c =>
    cases c with
    | activate index =>
      cases step
      exact ⟨(Device.activate_cases h.in_use_of_renderReady index a).lasting, rfl⟩
    | deactivate => cases step; exact ⟨Device.lasting_deactivate _, rfl⟩
    | enterStandby => cases step; exact ⟨Device.aside_lasting.enterStandby _, rfl⟩
    | resume => cases step; exact ⟨Device.aside_lasting.resume .., rfl⟩
    | startStreaming => cases step; exact ⟨Device.aside_lasting.startStreaming .., rfl⟩
    | stopStreaming => cases step; exact ⟨Device.aside_lasting.stopStreaming _, rfl⟩
    | streamStart => cases step; exact ⟨Device.aside_lasting.streamStart .., rfl⟩
    | packetLoss | requestKeyframe =>
      cases step
      exact ⟨Device.lasting_requestKeyframe _, rfl⟩
    | runFrame => cases step; exact ⟨rfl, rfl⟩
    | updateControllers packet => cases step; exact ⟨Device.lasting_updateControllers .., rfl⟩
    | setViews views => cases step; exact ⟨Device.lasting_setViews .., rfl⟩
    | debug request buffer =>
      obtain ⟨o, ho, step⟩ := Option.map_eq_some_iff.1 step
      cases step
      exact ⟨Device.lasting_debug? ho, rfl⟩
    | shutDown | getPose | poseUpdated | setPoseOffset | tracking | frameEncoded | clientReport =>
      cases hs
  | tick | lateTick | strayTick | pushHistory | clearHistory => cases hs

open Device in
theorem gauged_of_step? (h : r.device.Coherent) (step : r.step? s a = some (r', l, reply)) :
    Gauged s a r.device r'.device := by
  cases hs : s.concernsLasting with
  | false => exact .of_lasting (lasting_of_step? h hs step).1
  | true =>
    cases s with
    | call c =>
      cases c with
      | shutDown => cases step; exact .shutDown _
      | getPose =>
        obtain ⟨o, ho, step⟩ := Option.map_eq_some_iff.1 step
        cases step
        exact .of_lastPose (lasting_getPose? ho)
      | poseUpdated =>
        obtain ⟨o, ho, step⟩ := Option.map_eq_some_iff.1 step
        cases step
        obtain ⟨pose, same⟩ := lasting_poseUpdated? ho
        exact .of_lastPose same
      | setPoseOffset ms => cases step; exact .setPoseOffset _ ms
      | tracking packet =>
        obtain ⟨⟨history, o⟩, ho, step⟩ := Option.map_eq_some_iff.1 step
        cases step
        exact .tracking? ho
      | frameEncoded target bytes keyframe =>
        cases step
        exact .told [.encoded target a.now bytes keyframe] (by simp [Notice.Of]) rfl rfl
      | clientReport report =>
        obtain ⟨e, he, step⟩ := Option.map_eq_some_iff.1 step
        cases step
        exact .clientReport? he
      | _ => cases hs
    | tick | lateTick | strayTick => exact .ticks (ticks_of_step? rfl step).1
    | pushHistory | clearHistory => cases step; exact .of_lasting rfl

end Rig

end Headset
