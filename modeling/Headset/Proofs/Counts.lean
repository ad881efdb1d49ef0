import Headset.Proofs.Queue
import Headset.Proofs.Shutdown
import Mathlib.Tactic.Abel

/-!
# What a call counts

A call adds to the counters of its device what it is, and what the calls in its log come to: frames
and keyframes of encoders, updates of controllers (`Counters.ofLog`).  `Device.Counts` says so of
one call, and how many of these it may come to at most; it is carried on from call to call, and
there is a rule for each of them.
-/

namespace Headset

namespace Effect

def isFrame : Effect → Bool
  | .presentFrame .. => true
  | _ => false

def isKeyframeRequest : Effect → Bool
  | .requestKeyframe _ => true
  | _ => false

def isControllerUpdate : Effect → Bool
  | .controllerUpdate .. => true
  | _ => false

def isHostFrame : Effect → Bool
  | .hostFrame .. => true
  | _ => false

/-- An encoder is to make a frame, or a keyframe of the next one. -/
def isOrder (x : Effect) : Bool := x.isFrame || x.isKeyframeRequest

/-- Calls that make a difference to the counters, or carry one. -/
def isCounted (x : Effect) : Bool := x.isOrder || x.isControllerUpdate || x.isHostFrame

/-- In a log of calls that make no difference there is none of a kind that does. -/
theorem countP_eq_zero {log : List Effect} (silent : log.countP isCounted = 0) {p : Effect → Bool}
    (counted : ∀ x, p x = true → x.isCounted = true) : log.countP p = 0 := by
  rw [List.countP_eq_zero] at silent ⊢
  exact fun x hx holds => silent x hx (counted x holds)

end Effect

namespace Counters

/-- What the calls in a log come to. -/
def ofLog (log : List Effect) : Counters where
  framesPresented := .ofNat (log.countP Effect.isFrame)
  keyframeRequests := .ofNat (log.countP Effect.isKeyframeRequest)
  controllerUpdates := .ofNat (log.countP Effect.isControllerUpdate)

instance : Zero Counters := ⟨{}⟩

instance : Add Counters where
  add c e := {
    activations := c.activations + e.activations
    deactivations := c.deactivations + e.deactivations
    framesPresented := c.framesPresented + e.framesPresented
    hostFrames := c.hostFrames + e.hostFrames
    keyframeRequests := c.keyframeRequests + e.keyframeRequests
    packetLossEvents := c.packetLossEvents + e.packetLossEvents
    poseQueries := c.poseQueries + e.poseQueries
    poseFallbacks := c.poseFallbacks + e.poseFallbacks
    controllerUpdates := c.controllerUpdates + e.controllerUpdates
    viewsUpdates := c.viewsUpdates + e.viewsUpdates }

theorem zero_def : (0 : Counters) = {} := rfl

theorem add_def (c e : Counters) : c + e = ⟨c.activations + e.activations,
    c.deactivations + e.deactivations, c.framesPresented + e.framesPresented,
    c.hostFrames + e.hostFrames, c.keyframeRequests + e.keyframeRequests,
    c.packetLossEvents + e.packetLossEvents, c.poseQueries + e.poseQueries,
    c.poseFallbacks + e.poseFallbacks, c.controllerUpdates + e.controllerUpdates,
    c.viewsUpdates + e.viewsUpdates⟩ := rfl

instance : AddCommMonoid Counters where
  add_assoc a b c := by simp only [add_def, UInt64.add_assoc]
  zero_add c := by simp only [add_def, zero_def, UInt64.zero_add]
  add_zero c := by simp only [add_def, zero_def, UInt64.add_zero]
  add_comm a b := by simp only [add_def, UInt64.add_comm]
  nsmul := nsmulRec

theorem ofLog_append (l m : List Effect) : ofLog (l ++ m) = ofLog l + ofLog m := by
  simp [ofLog, add_def, UInt64.ofNat_add]

theorem ofLog_eq_zero {log : List Effect} (silent : log.countP Effect.isCounted = 0) :
    ofLog log = 0 := by
  have none {p : Effect → Bool} := Effect.countP_eq_zero silent (p := p)
  rw [ofLog, none fun x hx => by simp [Effect.isCounted, Effect.isOrder, hx],
    none fun x hx => by simp [Effect.isCounted, Effect.isOrder, hx],
    none fun x hx => by simp [Effect.isCounted, hx]]
  rfl

end Counters

namespace Device

variable {d e f : Device} {l m : List Effect} {x y : Counters} {a : Answers} {h : History}

/-- Whether the device is there for the host. -/
def isInUse (d : Device) : Bool := decide (d.state ≠ .inactive)

/-- A call leads from `d` to `e` with `log`; it comes to `own` by what it is, and besides to what
its log comes to.  It gives encoders so many orders at most, and controllers so many updates, and
tells no encoder that the host finished a frame. -/
structure Counts (d e : Device) (log : List Effect) (own : Counters) (orders : Nat := 0)
    (updates : Nat := 0) : Prop where
  counters : e.counters = d.counters + own + .ofLog log
  hostFrames : log.countP Effect.isHostFrame = 0
  orders : log.countP Effect.isOrder ≤ orders
  updates : log.countP Effect.isControllerUpdate ≤ updates

namespace Counts

variable {i i' j j' : Nat}

/-- A call with nothing in its log that is counted. -/
theorem silent (own : e.counters = d.counters + x) (silent : l.countP Effect.isCounted = 0) :
    d.Counts e l x := by
  have orders : l.countP Effect.isOrder = 0 :=
    Effect.countP_eq_zero silent fun x hx => by simp [Effect.isCounted, hx]
  have hostFrames : l.countP Effect.isHostFrame = 0 :=
    Effect.countP_eq_zero silent fun x hx => by simp [Effect.isCounted, hx]
  have updates : l.countP Effect.isControllerUpdate = 0 :=
    Effect.countP_eq_zero silent fun x hx => by simp [Effect.isCounted, hx]
  exact ⟨by rw [own, Counters.ofLog_eq_zero silent, add_zero], hostFrames, Nat.le_of_eq orders,
    Nat.le_of_eq updates⟩

/-- A call that comes to nothing. -/
theorem still (same : e.counters = d.counters) (silent : l.countP Effect.isCounted = 0) :
    d.Counts e l 0 :=
  .silent (by rw [same, add_zero]) silent

theorem refl (d : Device) : d.Counts d [] 0 := .still rfl rfl

theorem trans (h : d.Counts e l x i i') (k : e.Counts f m y j j') :
    d.Counts f (l ++ m) (x + y) (i + j) (i' + j') where
  counters := by
    rw [k.counters, h.counters, Counters.ofLog_append]
    abel
  hostFrames := by rw [List.countP_append, h.hostFrames, k.hostFrames]
  orders := by
    rw [List.countP_append]
    exact Nat.add_le_add h.orders k.orders
  updates := by
    rw [List.countP_append]
    exact Nat.add_le_add h.updates k.updates

/-- A second call that comes to nothing by what it is. -/
theorem and_then (h : d.Counts e l x i i') (k : e.Counts f m 0) : d.Counts f (l ++ m) x i i' := by
  simpa using h.trans k

theorem mono (h : d.Counts e l x i i') (fewer : i ≤ j) (fewer' : i' ≤ j') :
    d.Counts e l x j j' :=
  { h with
    orders := le_trans h.orders fewer
    updates := le_trans h.updates fewer' }

/-- Of the devices only the counters matter. -/
theorem congr {d' e' : Device} (h : d.Counts e l x i i') (begins : d'.counters = d.counters)
    (ends : e'.counters = e.counters) : d'.Counts e' l x i i' :=
  { h with counters := by rw [ends, h.counters, begins] }

end Counts

/-! ## The stream and the lifecycle -/

theorem counts_requestKeyframe (d : Device) :
    d.Counts d.requestKeyframe.device d.requestKeyframe.log 0 1 := by
  have none : d.Counts d [] 0 1 := (Counts.refl d).mono (Nat.zero_le 1) le_rfl
  unfold requestKeyframe
  split
  · exact none
  · split
    · exact none
    · refine ⟨?_, rfl, le_rfl, le_rfl⟩
      show _ = d.counters + 0 + ({ keyframeRequests := 1 } : Counters)
      simp [Counters.add_def]

theorem counts_packetLoss (d : Device) :
    d.Counts d.packetLoss.device d.packetLoss.log { packetLossEvents := 1 } 1 := by
  have counted : d.Counts { d with
      counters := { d.counters with packetLossEvents := d.counters.packetLossEvents + 1 } } []
      { packetLossEvents := 1 } := .silent (by simp [Counters.add_def]) rfl
  have asked := counted.trans (counts_requestKeyframe _)
  rw [List.nil_append, add_zero] at asked
  exact asked

theorem counts_haltStream (d : Device) : d.Counts d.haltStream.device d.haltStream.log 0 := by
  rw [haltStream_device, haltStream_log]
  cases d.stream? <;> exact .still rfl rfl

theorem counts_startStreaming (d : Device) (a : Answers) :
    d.Counts (d.startStreaming a).device (d.startStreaming a).log 0 := by
  unfold startStreaming
  dsimp only
  repeat' split
  all_goals exact .still rfl rfl

theorem counts_startPending (d : Device) (a : Answers) :
    d.Counts (d.startPending a).device (d.startPending a).log 0 := by
  unfold startPending
  split
  · exact .refl d
  split
  · exact .still rfl rfl
  · have asked : d.Counts d [.isConnected true] 0 := .still rfl rfl
    exact asked.and_then (counts_startStreaming d _)

theorem counts_resumed (d : Device) : d.Counts d.resumed [] 0 := .still rfl rfl

theorem counts_enterStandby (d : Device) :
    d.Counts d.enterStandby.device d.enterStandby.log 0 := by
  unfold enterStandby
  split
  · exact .refl d
  · exact (counts_haltStream d).congr rfl rfl

theorem counts_resume (d : Device) (a : Answers) :
    d.Counts (d.resume a).device (d.resume a).log 0 := by
  by_cases hs : d.state = .standby
  · simp only [resume, leaveStandby_eq, if_pos hs]
    exact (counts_resumed d).and_then (counts_startPending _ a)
  · simp only [resume, leaveStandby_eq, if_neg hs]
    exact .refl d

theorem counts_stopStreaming (d : Device) :
    d.Counts d.stopStreaming.device d.stopStreaming.log 0 :=
  (counts_haltStream { d with pendingStart := false }).congr rfl rfl

theorem counts_clientReady (d : Device) (a : Answers) :
    d.Counts (d.clientReady a).device (d.clientReady a).log 0 := by
  unfold clientReady
  split
  · exact counts_startStreaming d a
  · exact .still rfl rfl

theorem counts_streamStart (d : Device) (a : Answers) :
    d.Counts (d.streamStart a).device (d.streamStart a).log 0 := by
  unfold streamStart
  split
  · exact .refl d
  split
  · exact counts_clientReady d a
  · next hs =>
    rw [leaveStandby_eq, if_pos hs]
    exact (counts_resumed d).and_then (counts_clientReady _ a)
  · exact .still rfl rfl
  · exact .still rfl rfl

theorem counts_teardown (d : Device) :
    d.Counts d.teardown.device d.teardown.log { deactivations := 1 } := by
  rw [teardown_device, teardown_log]
  cases d.vsync <;> cases d.stream? <;> cases d.encoder? <;>
    cases d.renderReady && d.render.isSome <;> exact .silent (by simp [Counters.add_def]) rfl

theorem Allocation.counts {index : UInt32} {o : Outcome (Except DriverError Pacer)}
    (h : d.Allocation index a o) : d.Counts o.device o.log 0 := by
  refine .still (by cases h <;> rfl) (List.countP_eq_zero.2 fun x hx => ?_)
  have staged := h.isStaged x hx
  cases x <;> first | exact Bool.false_ne_true | exact staged.elim

theorem Activation.counts {index : UInt32} {o : Outcome (Except DriverError Unit)}
    (h : d.Activation index a o) :
    d.Counts o.device o.log { activations := .ofNat o.answer.isOk.toNat } := by
  cases h with
  | shutDown down => exact .refl d
  | refused up hs => exact .refl d
  | failed up hs ho he => exact ho.counts.congr rfl rfl
  | @done o p up hs ho hp =>
    have counted : o.device.Counts (o.device.activated index p) [] { activations := 1 } :=
      .silent (by simp [Counters.add_def, activated, withStatus]) rfl
    have allocated : d.Counts o.device o.log 0 := ho.counts.congr rfl rfl
    have started := (allocated.trans counted).and_then (counts_startPending _ a)
    rwa [List.append_nil, zero_add] at started

theorem isInUse_toNat (d : Device) : d.isInUse.toNat = if d.state = .inactive then 0 else 1 := by
  unfold isInUse
  split <;> simp [*]

theorem Coherent.counts_deactivate (h : d.Coherent) :
    d.Counts d.deactivate.device d.deactivate.log { deactivations := .ofNat d.isInUse.toNat } := by
  rw [isInUse_toNat]
  by_cases hs : d.state = .inactive
  · rw [if_pos hs, h.deactivate_of_inactive hs]
    exact .refl d
  · have used : d.deactivate = d.teardown := by simp [deactivate, hs]
    rw [if_neg hs, used]
    exact d.counts_teardown

theorem Coherent.counts_shutDown (h : d.Coherent) :
    d.Counts d.shutDown.device d.shutDown.log { deactivations := .ofNat d.isInUse.toNat } := by
  rw [isInUse_toNat]
  unfold shutDown
  dsimp only
  split
  · next used =>
    have used : d.state ≠ .inactive := used.elim id h.pipeline_isSome_iff.1
    rw [if_neg used]
    exact (counts_teardown { d with isShutDown := true }).congr rfl rfl
  · next unused =>
    have idle : d.state = .inactive := by simpa using (not_or.1 unused).1
    rw [if_pos idle]
    exact .still rfl rfl

/-! ## Frames, poses, packets and views -/

theorem counts_refresh (d : Device) (p : Pacer) (a : Answers) :
    d.Counts (d.refresh p a).device (d.refresh p a).log 0 1 := by
  unfold refresh
  split
  · refine ⟨?_, rfl, le_rfl, le_rfl⟩
    show _ = d.counters + 0 + ({ framesPresented := 1 } : Counters)
    simp [Counters.add_def]
  · exact (Counts.still rfl rfl).mono (Nat.zero_le 1) le_rfl

theorem counts_tick (d : Device) (a : Answers) :
    d.Counts (d.tick a).device (d.tick a).log 0 1 := by
  unfold tick
  split
  · exact (Counts.still rfl rfl).mono (Nat.zero_le 1) le_rfl
  · next p hp => exact (d.counts_refresh p a).congr rfl rfl

theorem counts_strayTick (d : Device) (age : Nat) (a : Answers) :
    d.Counts (d.strayTick age a).device (d.strayTick age a).log 0 1 := by
  unfold strayTick
  split
  · exact (Counts.still rfl rfl).mono (Nat.zero_le 1) le_rfl
  · next p hp => exact (d.counts_refresh p a).congr rfl rfl

theorem Ticks.counts (h : d.Ticks a e l) : d.Counts e l 0 1 := by
  cases h with
  | unheard => exact (Counts.refl d).mono (Nat.zero_le 1) le_rfl
  | inTime => exact d.counts_tick a
  | stray age => exact d.counts_strayTick age a

/-- No sample is chosen exactly if there is none. -/
theorem chooseSample_eq_none_iff (h : History) (target : Span) :
    (chooseSample h target).1 = none ↔ h.isEmpty = true := by
  unfold chooseSample History.isEmpty
  split
  · next s hs =>
    have there : h.samples ≠ [] := by
      intro empty
      simp [History.sampleAt, empty] at hs
    simp [there]
  · simp [History.latest]

/-- A query is counted; and so is the answer, if no sample is behind it. -/
theorem counts_getPose? {o : Outcome DevicePose} (ho : d.getPose? h a = some o) :
    d.Counts o.device o.log
      { poseQueries := 1, poseFallbacks := .ofNat (d.relays.isNone || h.isEmpty).toNat } := by
  unfold getPose? at ho
  dsimp only at ho
  split at ho
  · next gone =>
    cases ho
    rw [gone]
    exact .silent (by simp [Counters.add_def, fallbackPose]) rfl
  · next there =>
    obtain ⟨target, -, rfl⟩ := Option.map_eq_some_iff.1 ho
    have silent : (chooseSample h target).2.countP Effect.isCounted = 0 := by
      unfold chooseSample
      split <;> rfl
    have there : d.relays.isNone = false := Bool.eq_false_iff.2 there
    have empty := chooseSample_eq_none_iff h target
    rw [there, Bool.false_or]
    split
    · next log hs =>
      rw [hs] at silent empty
      simp only [fallbackPose, List.append_nil, empty.1 rfl]
      exact .silent (by simp [Counters.add_def]) silent
    · next s log hs =>
      rw [hs] at silent empty
      have found : h.isEmpty = false := by simpa using empty
      simp only [found]
      exact .silent (by simp [Counters.add_def]) silent

theorem counts_markFresh (d : Device) (h : History) :
    d.Counts (d.markFresh h).device (d.markFresh h).log 0 := by
  unfold markFresh
  repeat' split
  all_goals exact .still rfl rfl

theorem counts_poseUpdated? {o : Outcome Unit} (ho : d.poseUpdated? h a = some o) :
    d.Counts o.device o.log
      { poseQueries := 1, poseFallbacks := .ofNat (d.relays.isNone || h.isEmpty).toNat } := by
  obtain ⟨q, hq, rfl⟩ := Option.map_eq_some_iff.1 ho
  refine Counts.and_then (e := q.device) (.and_then (e := q.device) (counts_getPose? hq) ?_) ?_
    |>.and_then (counts_markFresh ..)
  · split <;> exact .still rfl rfl
  · repeat' split
    all_goals exact .still rfl rfl

theorem counts_updateHand (d : Device) (relays : Relays) (packet : TrackingPacket) (hand : Hand)
    (a : Answers) :
    d.Counts (d.updateHand relays packet hand a).device (d.updateHand relays packet hand a).log
      0 0 1 := by
  unfold updateHand
  split
  · split
    · refine ⟨?_, rfl, le_rfl, le_rfl⟩
      show _ = d.counters + 0 + ({ controllerUpdates := 1 } : Counters)
      simp [Counters.add_def]
    · exact (Counts.still rfl rfl).mono le_rfl (Nat.zero_le 1)
  · exact (Counts.refl d).mono le_rfl (Nat.zero_le 1)

/-- Each hand may bring an update. -/
theorem counts_updateControllers (d : Device) (packet : TrackingPacket) (a : Answers) :
    d.Counts (d.updateControllers packet a).device (d.updateControllers packet a).log 0 0 2 := by
  unfold updateControllers
  split
  · exact (Counts.refl d).mono le_rfl (Nat.zero_le 2)
  · exact (counts_updateHand ..).trans (counts_updateHand ..)

/-- A packet with a head asks for the pose, unless the device is gone. -/
theorem counts_tracking? {h' : History} {packet : TrackingPacket} {o : Outcome Unit}
    (ho : d.tracking? h packet a = some (h', o)) :
    d.Counts o.device o.log
      { poseQueries := .ofNat (packet.head.isSome && d.relays.isSome).toNat
        poseFallbacks :=
          .ofNat (packet.head.isSome && d.relays.isSome && h'.isEmpty).toNat } 0 2 := by
  cases tracking?_cases ho with
  | headless headless =>
    rw [headless]
    exact counts_updateControllers d packet a
  | lost headed gone =>
    rw [headed, gone]
    exact (Counts.refl d).mono le_rfl (Nat.zero_le 2)
  | @relayed head q headed there hq =>
    have pushed : d.Counts { d with latency := d.latency.received packet.target a.arrival }
        [.historyPush ⟨packet.target, head⟩] 0 := .still rfl rfl
    have counted := (pushed.trans (counts_poseUpdated? hq)).trans
      (counts_updateControllers _ packet a)
    have related : d.relays.isNone = false := by simpa using there
    simpa [headed, there, related] using counted

theorem counts_setPoseOffset (d : Device) (ms : Float32) :
    d.Counts (d.setPoseOffset ms) [] 0 := by
  unfold setPoseOffset
  split <;> exact .still rfl rfl

theorem counts_frameEncoded (d : Device) (target : Span) (bytes : Nat) (keyframe : Bool)
    (a : Answers) : d.Counts (d.frameEncoded target bytes keyframe a) [] 0 := .still rfl rfl

theorem counts_clientReport? {r : ClientReport} (he : d.clientReport? r = some e) :
    d.Counts e [] 0 :=
  .still (counters_clientReport? he) rfl

theorem counts_setViews (d : Device) (views : Views) :
    d.Counts (d.setViews views).device (d.setViews views).log
      { viewsUpdates := .ofNat views.isValid.toNat } := by
  unfold setViews Display.publish?
  cases views.isValid with
  | false => exact .refl d
  | true => cases d.deviceIndex <;> exact .silent (by simp [Counters.add_def]) rfl

theorem counts_debug? {request : String} {buffer : List UInt8} {o : Outcome (Nat × List UInt8)}
    (ho : d.debug? request buffer = some o) : d.Counts o.device o.log 0 1 := by
  obtain ⟨text, -, rfl⟩ := Option.map_eq_some_iff.1 ho
  dsimp only
  split
  · exact counts_requestKeyframe d
  · exact (Counts.refl d).mono (Nat.zero_le 1) le_rfl

end Device

end Headset
