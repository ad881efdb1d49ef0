import Headset.Device.Rig

/-!
# Calls that leave a device on its footing

Most calls on a device have nothing to do with its activation: queries for poses, packets, reports,
views, ticks.  They change counters, times and poses, and their calls on collaborators neither
acquire nor release anything.  `Device.Stays d e log` says that of a call that leads from `d` to
`e` with `log`, and `Rig.takes_of_step?` splits the steps of a rig into the eight that may do more
and the rest, which stay.
-/

namespace Headset

/-- What of a pacer is not changed by its frames: its encoder, and whether it streams or is
released. -/
def Pacer.footing (p : Pacer) : Nat × Bool × Bool := (p.encoder, p.streaming, p.released)

namespace Device

def encoder? (d : Device) : Option Nat := d.pipeline.map (·.encoder)

/-- The encoder of the activation, if it streams. -/
def stream? (d : Device) : Option Nat := (d.pipeline.filter (·.streaming)).map (·.encoder)

/-- Calls that a device makes without acquiring or releasing anything.  Frames go only to an encoder
that streams, a request for a keyframe to one that is there, and a start that fails to one that does
not stream. -/
@[simp]
def MayPass (d : Device) : Effect → Prop
  | .presentFrame n _ => d.stream? = some n
  | .hostFrame n _ => d.stream? = some n
  | .requestKeyframe n => d.encoder? = some n
  | .encoderStart n (some _) => d.encoder? = some n ∧ d.stream? = none
  | .isConnected _ => True
  | .sendStreamConfig _ _ => True
  | .vsyncEvent => True
  | .historyPush _ => True
  | .historySampleAt _ => True
  | .historyLatest => True
  | .poseUpdated _ _ => True
  | .eyeGeometryChanged _ _ => True
  | .trackerUpdate _ => True
  | .controllerIsActive _ _ => True
  | .controllerUpdate _ _ _ => True
  | _ => False

end Device

/-- What of a device only its lifecycle and its stream change. -/
structure Footing where
  config : Config
  render : Option String
  relays : Option Relays
  adapter : Option Adapter
  state : ActivationState
  deviceIndex : Option UInt32
  pendingStart : Bool
  isShutDown : Bool
  pipeline : Option (Nat × Bool × Bool)
  retired : List Pacer
  vsync : Option Nat
  renderReady : Bool
  status : String

namespace Device

def footing (d : Device) : Footing where
  config := d.config
  render := d.render
  relays := d.relays
  adapter := d.adapter
  state := d.state
  deviceIndex := d.deviceIndex
  pendingStart := d.pendingStart
  isShutDown := d.isShutDown
  pipeline := d.pipeline.map Pacer.footing
  retired := d.retired
  vsync := d.vsync
  renderReady := d.renderReady
  status := d.status

/-- Two devices that differ at most in what a call without a part in the lifecycle changes.  A pose
is remembered only while the relays are there. -/
structure SameFooting (d e : Device) : Prop where
  footing : e.footing = d.footing
  lastPose : d.relays = none → e.lastPose = d.lastPose

namespace SameFooting

variable {d e f : Device}

theorem refl (d : Device) : d.SameFooting d := ⟨rfl, fun _ => rfl⟩

theorem config (h : d.SameFooting e) : e.config = d.config := congrArg Footing.config h.footing

theorem render (h : d.SameFooting e) : e.render = d.render := congrArg Footing.render h.footing

theorem relays (h : d.SameFooting e) : e.relays = d.relays := congrArg Footing.relays h.footing

theorem adapter (h : d.SameFooting e) : e.adapter = d.adapter := congrArg Footing.adapter h.footing

theorem state (h : d.SameFooting e) : e.state = d.state := congrArg Footing.state h.footing

theorem deviceIndex (h : d.SameFooting e) : e.deviceIndex = d.deviceIndex :=
  congrArg Footing.deviceIndex h.footing

theorem pendingStart (h : d.SameFooting e) : e.pendingStart = d.pendingStart :=
  congrArg Footing.pendingStart h.footing

theorem isShutDown (h : d.SameFooting e) : e.isShutDown = d.isShutDown :=
  congrArg Footing.isShutDown h.footing

theorem pipeline (h : d.SameFooting e) :
    e.pipeline.map Pacer.footing = d.pipeline.map Pacer.footing :=
  congrArg Footing.pipeline h.footing

theorem retired (h : d.SameFooting e) : e.retired = d.retired := congrArg Footing.retired h.footing

theorem vsync (h : d.SameFooting e) : e.vsync = d.vsync := congrArg Footing.vsync h.footing

theorem renderReady (h : d.SameFooting e) : e.renderReady = d.renderReady :=
  congrArg Footing.renderReady h.footing

theorem trans (h : d.SameFooting e) (k : e.SameFooting f) : d.SameFooting f where
  footing := k.footing.trans h.footing
  lastPose hr := (k.lastPose (h.relays.trans hr)).trans (h.lastPose hr)

/-- A pacer afterwards was there before, up to its frames. -/
theorem exists_pacer (h : d.SameFooting e) {p : Pacer} (hp : e.pipeline = some p) :
    ∃ q, d.pipeline = some q ∧ q.footing = p.footing := by
  have hf := h.pipeline
  rw [hp] at hf
  exact Option.map_eq_some_iff.1 hf.symm

theorem pipeline_isSome (h : d.SameFooting e) : e.pipeline.isSome = d.pipeline.isSome := by
  simpa using congrArg Option.isSome h.pipeline

theorem encoder? (h : d.SameFooting e) : e.encoder? = d.encoder? := by
  have hf := congrArg (Option.map Prod.fst) h.pipeline
  simpa [Pacer.footing, Device.encoder?, Function.comp_def] using hf

theorem stream? (h : d.SameFooting e) : e.stream? = d.stream? := by
  have hf := congrArg (fun o => (o.filter (·.2.1)).map Prod.fst) h.pipeline
  simpa [Pacer.footing, Device.stream?, Option.filter_map, Function.comp_def] using hf

theorem isStreaming (h : d.SameFooting e) : e.isStreaming = d.isStreaming := by
  have hf := congrArg (Option.any (·.2.1)) h.pipeline
  simpa [Pacer.footing, Device.isStreaming, Option.any_map, Function.comp_def] using hf

theorem mayPass_iff (h : d.SameFooting e) (x : Effect) : e.MayPass x ↔ d.MayPass x := by
  unfold MayPass
  rw [h.encoder?, h.stream?]

end SameFooting

/-- A call leads from `d` to `e` with `log` and leaves the device on its footing. -/
structure Stays (d e : Device) (log : List Effect) : Prop where
  footing : d.SameFooting e
  passes : ∀ x ∈ log, d.MayPass x

namespace Stays

variable {d e f : Device} {l m : List Effect}

theorem refl (d : Device) : d.Stays d [] := ⟨.refl d, by simp⟩

/-- A change within the footing, without any calls. -/
theorem silent (h : d.SameFooting e) : d.Stays e [] := ⟨h, by simp⟩

theorem trans (h : d.Stays e l) (k : e.Stays f m) : d.Stays f (l ++ m) where
  footing := h.footing.trans k.footing
  passes x hx := by
    rcases List.mem_append.1 hx with hx | hx
    · exact h.passes x hx
    · exact (h.footing.mayPass_iff x).1 (k.passes x hx)

end Stays

/-! ## Frames and keyframes -/

theorem encoder?_of_pipeline {d : Device} {p : Pacer} (hp : d.pipeline = some p) :
    d.encoder? = some p.encoder := by
  simp [encoder?, hp]

theorem isStreaming_iff {d : Device} :
    d.isStreaming = true ↔ ∃ p, d.pipeline = some p ∧ p.streaming = true := by
  cases hp : d.pipeline <;> simp [isStreaming, hp]

theorem stream?_eq_none_iff {d : Device} : d.stream? = none ↔ d.isStreaming = false := by
  cases hp : d.pipeline <;> simp [stream?, isStreaming, hp, Option.filter]

theorem stream?_of_makesFrames {d : Device} {p : Pacer} (hp : d.pipeline = some p)
    (hf : p.makesFrames) : d.stream? = some p.encoder := by
  simp only [Pacer.makesFrames, Bool.and_eq_true] at hf
  simp [stream?, hp, Option.filter, hf.2]

theorem stays_requestKeyframe (d : Device) :
    d.Stays d.requestKeyframe.device d.requestKeyframe.log := by
  unfold requestKeyframe
  split
  · exact .refl d
  · next p hp =>
    split
    · exact .refl d
    · exact ⟨⟨rfl, fun _ => rfl⟩, by simp [encoder?_of_pipeline hp]⟩

theorem stays_packetLoss (d : Device) : d.Stays d.packetLoss.device d.packetLoss.log := by
  have counted : ∀ counters, d.Stays { d with counters } [] := fun _ =>
    .silent ⟨rfl, fun _ => rfl⟩
  exact (counted _).trans (stays_requestKeyframe _)

theorem stays_runFrame (d : Device) : d.Stays d.runFrame.device d.runFrame.log := by
  refine ⟨⟨rfl, fun _ => rfl⟩, ?_⟩
  unfold runFrame
  cases hp : d.pipeline with
  | none => simp
  | some p =>
    by_cases hf : p.makesFrames
    · simp [hf, stream?_of_makesFrames hp hf]
    · simp [hf]

theorem stays_tick (d : Device) (a : Answers) : d.Stays (d.tick a).device (d.tick a).log := by
  unfold tick
  split
  · exact ⟨.refl d, by simp⟩
  · next p hp =>
    by_cases hf : p.makesFrames
    · rw [refresh, if_pos hf]
      refine ⟨⟨by simp [footing, hp, Pacer.footing, Pacer.advance], fun _ => rfl⟩, ?_⟩
      simp [stream?_of_makesFrames hp hf]
    · rw [refresh, if_neg hf]
      exact ⟨⟨by simp [footing, hp], fun _ => rfl⟩, by simp⟩

/-- A late tick makes no frame, since the pacers that have left the device make none. -/
theorem stays_strayTick {d : Device} (quiet : ∀ p ∈ d.retired, p.makesFrames = false) (age : Nat)
    (a : Answers) : d.Stays (d.strayTick age a).device (d.strayTick age a).log := by
  unfold strayTick
  split
  · exact ⟨.refl d, by simp⟩
  · next p hp =>
    have idle : ¬ p.makesFrames := by simp [quiet p (List.mem_of_getElem? hp)]
    have same : d.retired.set age p = d.retired := by
      obtain ⟨there, rfl⟩ := List.getElem?_eq_some_iff.1 hp
      exact List.set_getElem_self there
    rw [refresh, if_neg idle]
    exact ⟨⟨by simp [footing, same], fun _ => rfl⟩, by simp⟩

/-! ## Poses, reports and packets -/

theorem stays_getPose? {d : Device} {h : History} {a : Answers} {o : Outcome DevicePose}
    (ho : d.getPose? h a = some o) : d.Stays o.device o.log := by
  unfold getPose? at ho
  dsimp only at ho
  split at ho
  · cases ho
    exact .silent ⟨rfl, fun _ => rfl⟩
  · next hr =>
    obtain ⟨target, -, rfl⟩ := Option.map_eq_some_iff.1 ho
    have hc : ∀ x ∈ (chooseSample h target).2, d.MayPass x := by
      unfold chooseSample
      split <;> simp
    split
    · next log hs =>
      refine ⟨⟨rfl, fun _ => rfl⟩, ?_⟩
      simpa [fallbackPose, hs] using hc
    · next s log hs =>
      -- an answer that rests on a sample is remembered only while the relays are there
      refine ⟨⟨rfl, fun hn => absurd hn (by simpa using hr)⟩, ?_⟩
      simpa [hs] using hc

theorem stays_markFresh (d : Device) (h : History) :
    d.Stays (d.markFresh h).device (d.markFresh h).log := by
  unfold markFresh
  split
  · exact .refl d
  · next p hp =>
    have hf : ∀ t, d.SameFooting { d with pipeline := some (p.markFresh t) } := fun t =>
      ⟨by simp [footing, hp, Pacer.footing, Pacer.markFresh], fun _ => rfl⟩
    split
    · exact .silent (hf _)
    · exact ⟨hf _, by simp⟩

theorem stays_poseUpdated? {d : Device} {h : History} {a : Answers} {o : Outcome Unit}
    (ho : d.poseUpdated? h a = some o) : d.Stays o.device o.log := by
  obtain ⟨q, hq, rfl⟩ := Option.map_eq_some_iff.1 ho
  have asked := stays_getPose? hq
  have marked := stays_markFresh q.device h
  refine ⟨asked.footing.trans marked.footing, fun x hx => ?_⟩
  simp only [List.mem_append] at hx
  rcases hx with ((hx | hx) | hx) | hx
  · exact asked.passes x hx
  · split at hx <;> simp_all
  · split at hx
    · split at hx <;> simp_all
    · simp at hx
  · exact (asked.footing.mayPass_iff x).1 (marked.passes x hx)

theorem stays_setPoseOffset (d : Device) (ms : Float32) : d.Stays (d.setPoseOffset ms) [] := by
  unfold setPoseOffset
  split
  · exact .silent ⟨rfl, fun _ => rfl⟩
  · exact .refl d

theorem stays_updateHand (d : Device) (relays : Relays) (packet : TrackingPacket) (hand : Hand)
    (a : Answers) :
    d.Stays (d.updateHand relays packet hand a).device (d.updateHand relays packet hand a).log := by
  unfold updateHand
  split
  · split
    · exact ⟨⟨rfl, fun _ => rfl⟩, by simp⟩
    · exact ⟨.refl d, by simp⟩
  · exact .refl d

theorem stays_updateControllers (d : Device) (packet : TrackingPacket) (a : Answers) :
    d.Stays (d.updateControllers packet a).device (d.updateControllers packet a).log := by
  unfold updateControllers
  split
  · exact .refl d
  · exact (stays_updateHand ..).trans (stays_updateHand ..)

/-- The ways of a packet: without a head only its hands matter, a head is lost on a device that is
gone, and any other is pushed and passed on. -/
inductive Tracking (d : Device) (h : History) (packet : TrackingPacket) (a : Answers) :
    History → Outcome Unit → Prop
  | headless (headless : packet.head = none) :
    d.Tracking h packet a h (d.updateControllers packet a)
  | lost {head : Motion} (headed : packet.head = some head) (gone : d.relays = none) :
    d.Tracking h packet a h ⟨d, [], ()⟩
  | relayed {head : Motion} {o : Outcome Unit} (headed : packet.head = some head)
    (there : d.relays.isSome)
    (ho : { d with latency := d.latency.received packet.target a.arrival }.poseUpdated?
      (h.push ⟨packet.target, head⟩) a = some o) :
    d.Tracking h packet a (h.push ⟨packet.target, head⟩)
      ⟨(o.device.updateControllers packet a).device, .historyPush ⟨packet.target, head⟩ ::
        o.log ++ (o.device.updateControllers packet a).log, ()⟩

theorem tracking?_cases {d : Device} {h h' : History} {packet : TrackingPacket} {a : Answers}
    {o : Outcome Unit} (ho : d.tracking? h packet a = some (h', o)) :
    d.Tracking h packet a h' o := by
  unfold tracking? at ho
  split at ho
  · next headless =>
    cases ho
    exact .headless headless
  next head headed =>
  split at ho
  · next gone =>
    cases ho
    exact .lost headed (by simpa using gone)
  next there =>
  obtain ⟨q, hq, hc⟩ := Option.map_eq_some_iff.1 ho
  cases hc
  exact .relayed headed (by simpa [Option.isSome_iff_ne_none] using there) hq

theorem stays_tracking? {d : Device} {h h' : History} {packet : TrackingPacket} {a : Answers}
    {o : Outcome Unit} (ho : d.tracking? h packet a = some (h', o)) : d.Stays o.device o.log := by
  cases tracking?_cases ho with
  | headless => exact stays_updateControllers ..
  | lost => exact .refl d
  | @relayed head _ headed there hq =>
    have pushed : d.Stays { d with latency := d.latency.received packet.target a.arrival }
        [.historyPush ⟨packet.target, head⟩] := ⟨⟨rfl, fun _ => rfl⟩, by simp⟩
    exact (pushed.trans (stays_poseUpdated? hq)).trans (stays_updateControllers ..)

/-- A report changes the latencies and the offset at most. -/
theorem clientReport?_eq {d e : Device} {r : ClientReport} (he : d.clientReport? r = some e) :
    ∃ latency poseOffset, e = { d with latency, poseOffset } := by
  obtain ⟨⟨latency, network⟩, -, he⟩ := Option.bind_eq_some_iff.1 he
  dsimp only at he
  split at he
  · obtain ⟨offset, -, he⟩ := Option.bind_eq_some_iff.1 he
    cases he
    exact ⟨_, _, rfl⟩
  · cases he
    exact ⟨_, _, rfl⟩

theorem stays_clientReport? {d e : Device} {r : ClientReport} (he : d.clientReport? r = some e) :
    d.Stays e [] := by
  obtain ⟨latency, poseOffset, rfl⟩ := clientReport?_eq he
  exact .silent ⟨rfl, fun _ => rfl⟩

theorem stays_setViews (d : Device) (views : Views) :
    d.Stays (d.setViews views).device (d.setViews views).log := by
  unfold setViews
  split
  · exact .refl d
  · refine ⟨⟨rfl, fun _ => rfl⟩, ?_⟩
    dsimp only
    split <;> simp

theorem stays_debug? {d : Device} {request : String} {buffer : List UInt8}
    {o : Outcome (Nat × List UInt8)} (ho : d.debug? request buffer = some o) :
    d.Stays o.device o.log := by
  obtain ⟨text, -, rfl⟩ := Option.map_eq_some_iff.1 ho
  dsimp only
  split
  · exact stays_requestKeyframe d
  · exact .refl d

end Device

/-! ## Steps of a rig -/

/-- Whether a step is a call of the lifecycle or of the stream. -/
def Step.steers : Step → Bool
  | .call (.activate _) => true
  | .call .deactivate => true
  | .call .enterStandby => true
  | .call .resume => true
  | .call .shutDown => true
  | .call .startStreaming => true
  | .call .stopStreaming => true
  | .call .streamStart => true
  | _ => false

/-- Whether a step is a tick, in time or late. -/
def Step.ticks : Step → Bool
  | .tick => true
  | .lateTick => true
  | .strayTick _ => true
  | _ => false

/-- What a tick leads to: nothing, or it reaches the pacer of the device or one that has left it. -/
inductive Device.Ticks (d : Device) (a : Answers) : Device → List Effect → Prop
  | unheard : d.Ticks a d []
  | inTime : d.Ticks a (d.tick a).device (d.tick a).log
  | stray (age : Nat) : d.Ticks a (d.strayTick age a).device (d.strayTick age a).log

theorem Device.Ticks.stays {d e : Device} {a : Answers} {log : List Effect} (h : d.Ticks a e log)
    (quiet : ∀ p ∈ d.retired, p.makesFrames = false) : d.Stays e log := by
  cases h with
  | unheard => exact .refl d
  | inTime => exact stays_tick d a
  | stray age => exact stays_strayTick quiet age a

theorem Rig.ticks_of_step? {r r' : Rig} {s : Step} {a : Answers} {log : List Effect} {reply : Reply}
    (hs : s.ticks = true) (h : r.step? s a = some (r', log, reply)) :
    r.device.Ticks a r'.device log ∧ r'.history = r.history := by
  cases s with
  | tick =>
    by_cases hv : r.device.vsync.isSome
    · rw [step?, if_pos hv] at h
      cases h
      exact ⟨.inTime, rfl⟩
    · rw [step?, if_neg hv] at h
      cases h
      exact ⟨.unheard, rfl⟩
  | lateTick =>
    by_cases ht : r.timerStarted
    · rw [step?, if_pos ht] at h
      cases h
      refine ⟨?_, rfl⟩
      dsimp only [settle]
      split
      · exact .inTime
      · exact .stray 0
    · rw [step?, if_neg ht] at h
      cases h
      exact ⟨.unheard, rfl⟩
  | strayTick age =>
    by_cases ht : r.timerStarted
    · rw [step?, if_pos ht] at h
      cases h
      exact ⟨.stray age, rfl⟩
    · rw [step?, if_neg ht] at h
      cases h
      exact ⟨.unheard, rfl⟩
  | call | pushHistory | clearHistory => cases hs

/-- What a step of a rig does to its device, and with which calls on collaborators. -/
inductive Device.Takes (d : Device) (a : Answers) : Step → Device → List Effect → Prop
  | activate (index : UInt32) :
    d.Takes a (.call (.activate index)) (d.activate index a).device (d.activate index a).log
  | deactivate : d.Takes a (.call .deactivate) d.deactivate.device d.deactivate.log
  | enterStandby : d.Takes a (.call .enterStandby) d.enterStandby.device d.enterStandby.log
  | resume : d.Takes a (.call .resume) (d.resume a).device (d.resume a).log
  | shutDown : d.Takes a (.call .shutDown) d.shutDown.device d.shutDown.log
  | startStreaming :
    d.Takes a (.call .startStreaming) (d.startStreaming a).device (d.startStreaming a).log
  | stopStreaming : d.Takes a (.call .stopStreaming) d.stopStreaming.device d.stopStreaming.log
  | streamStart : d.Takes a (.call .streamStart) (d.streamStart a).device (d.streamStart a).log
  | other {s : Step} {e : Device} {log : List Effect} (hs : s.steers = false)
    (stays : d.Stays e log) : d.Takes a s e log

open Device in
/-- Each step is one of the eight that steer, or leaves the device on its footing, as long as the
pacers that have left it make no frames. -/
theorem Rig.takes_of_step? {r r' : Rig} {s : Step} {a : Answers} {log : List Effect} {reply : Reply}
    (quiet : ∀ p ∈ r.device.retired, p.makesFrames = false)
    (h : r.step? s a = some (r', log, reply)) : r.device.Takes a s r'.device log := by
  cases s with
  | call c =>
    cases c with
    | activate index => cases h; exact .activate index
    | deactivate => cases h; exact .deactivate
    | enterStandby => cases h; exact .enterStandby
    | resume => cases h; exact .resume
    | shutDown => cases h; exact .shutDown
    | startStreaming => cases h; exact .startStreaming
    | stopStreaming => cases h; exact .stopStreaming
    | streamStart => cases h; exact .streamStart
    | packetLoss => cases h; exact .other rfl (stays_packetLoss _)
    | requestKeyframe => cases h; exact .other rfl (stays_requestKeyframe _)
    | runFrame => cases h; exact .other rfl (stays_runFrame _)
    | getPose =>
      obtain ⟨o, ho, h⟩ := Option.map_eq_some_iff.1 h
      cases h
      exact .other rfl (stays_getPose? ho)
    | poseUpdated =>
      obtain ⟨o, ho, h⟩ := Option.map_eq_some_iff.1 h
      cases h
      exact .other rfl (stays_poseUpdated? ho)
    | setPoseOffset ms => cases h; exact .other rfl (stays_setPoseOffset _ ms)
    | tracking packet =>
      obtain ⟨⟨history, o⟩, ho, h⟩ := Option.map_eq_some_iff.1 h
      cases h
      exact .other rfl (stays_tracking? ho)
    | updateControllers packet => cases h; exact .other rfl (stays_updateControllers ..)
    | frameEncoded target bytes keyframe => cases h; exact .other rfl (.silent ⟨rfl, fun _ => rfl⟩)
    | clientReport report =>
      obtain ⟨e, he, h⟩ := Option.map_eq_some_iff.1 h
      cases h
      exact .other rfl (stays_clientReport? he)
    | setViews views => cases h; exact .other rfl (stays_setViews ..)
    | debug request buffer =>
      obtain ⟨o, ho, h⟩ := Option.map_eq_some_iff.1 h
      cases h
      exact .other rfl (stays_debug? ho)
  | tick | lateTick | strayTick =>
    exact .other rfl ((ticks_of_step? rfl h).1.stays quiet)
  | pushHistory sample => cases h; exact .other rfl (.refl _)
  | clearHistory => cases h; exact .other rfl (.refl _)

end Headset
