import Headset.Proofs.Queries
import Headset.Proofs.Updates

/-!
# The relay of tracking packets

A packet with a head goes the same way on every device that is not shut down: into the history, to
the latencies, to the host, to the tracker, to the pacer, and its hands to the controllers.  Its own
sample may be older than all that a full history keeps, but the history has a sample afterwards, so
the pose that is passed on is valid.  Each receiver is there or not; what each of them gets, in
which order, and what becomes of the device is settled for all of them at once (`relay_of_run`).
-/

namespace Headset

/-- A call that asks for something and passes nothing on. -/
def Effect.looks : Effect → Bool
  | .historySampleAt _ => true
  | .historyLatest => true
  | .controllerIsActive _ _ => true
  | _ => false

/-- The calls of a log that pass something on. -/
def passedOn (log : List Effect) : List Effect := log.filter fun x => !x.looks

namespace TrackingPacket

/-- What the controller of a hand gets from a packet: what is new about the hand, if there is
something, and if the controller is registered and active. -/
def handover? (packet : TrackingPacket) (relays : Relays) (a : Answers) (hand : Hand) :
    Option Effect :=
  (packet.controllers.get hand).bind fun tracking =>
    ((relays.controllers.get hand).filter a.controllerActive).map
      (.controllerUpdate · tracking packet.target)

/-- What the controllers get, the left one first. -/
def handovers (packet : TrackingPacket) (relays : Relays) (a : Answers) : List Effect :=
  (packet.handover? relays a .left).toList ++ (packet.handover? relays a .right).toList

end TrackingPacket

/-! ## The history -/

namespace History

theorem insert_ne_nil (s : Sample) (l : List Sample) : insert s l ≠ [] := by
  cases l with
  | nil => simp [insert]
  | cons t l =>
    unfold insert
    split
    · simp
    · split <;> simp

/-- After a push there is a sample, also if the one that was pushed is dropped at once. -/
theorem isEmpty_push {h : History} (room : h.capacity ≠ 0) (s : Sample) :
    (h.push s).isEmpty = false := by
  have some := List.length_pos_iff.2 (insert_ne_nil s h.samples)
  have size := length_keep h.capacity (insert s h.samples)
  rw [isEmpty, List.isEmpty_eq_false_iff, samples_push, ← List.length_pos_iff]
  omega

end History

namespace Rig

variable {start r : Rig} {steps : List (Step × Answers)} {log : List Effect}

theorem capacity_of_run? (ran : start.run? steps = some (r, log)) :
    r.history.capacity = start.history.capacity := by
  refine run?_induction (motive := fun _ r _ => r.history.capacity = start.history.capacity) rfl ?_
    ran
  intro steps m before s a r l reply _ ih step
  rcases history_of_step? step with same | ⟨sample, pushed⟩ | cleared
  · rw [same, ih]
  · rw [pushed]
    exact ih
  · rw [cleared]
    exact ih

/-- There is room for a frame at any time. -/
theorem latency_room_of_run? {config : Config} {equipment : Equipment} {d : Device} {capacity : Nat}
    (built : Device.build? config equipment = some (.ok d))
    (ran : (ofDevice d capacity).run? steps = some (r, log)) : 0 < r.device.latency.capacity := by
  obtain ⟨interval, empty⟩ := Device.latency_of_build? built
  have told : d.latency.follow? _ = _ := latency_of_run? (Device.fresh_of_build? built).coherent ran
  have new : d.latency.frames = [] := by
    rw [empty]
    rfl
  rw [← Latency.follow_of_follow? told, (Latency.targets_follow new _).1, empty]
  show 0 < max config.tracking.latencyHistory.toNat 1
  omega

/-- A device keeps the relays it was built with until it is shut down. -/
theorem relays_of_run? (h : start.device.Coherent) (ran : start.run? steps = some (r, log))
    (up : r.device.isShutDown = false) : r.device.relays = start.device.relays := by
  have kept : r.device.relays = none ∨ r.device.relays = start.device.relays := by
    refine preserve_of_run?
      (motive := fun d => d.relays = none ∨ d.relays = start.device.relays) ?_ h ran (.inr rfl)
    intro d e l hd part
    cases part with
    | stays h =>
      rw [h.footing.relays]
      exact hd
    | begins h =>
      cases h
      exact hd
    | halts =>
      rw [Device.haltStream_device]
      exact hd
    | tearsDown used =>
      rw [Device.teardown_device]
      exact hd
    | fails up hs ho he => cases ho <;> exact hd
    | activates up hs ho hp => cases ho <;> exact hd
    | leaves hs => exact .inl rfl
    | queues | forgets | resumes | rests => exact hd
  rcases kept with none | same
  · have there := (coherent_of_run? h ran).relays_isSome_iff.2 up
    simp [none] at there
  · exact same

end Rig

/-! ## One packet -/

theorem passedOn_append (l m : List Effect) : passedOn (l ++ m) = passedOn l ++ passedOn m :=
  List.filter_append ..

theorem passedOn_eq_nil {l : List Effect} (h : ∀ x ∈ l, x.looks = true) : passedOn l = [] := by
  rw [passedOn, List.filter_eq_nil_iff]
  intro x hx
  simp [h x hx]

namespace Device

/-- The device after a query that found a sample and is answered with `p`. -/
def answered (d : Device) (p : DevicePose) : Device :=
  { d with
    counters := { d.counters with poseQueries := d.counters.poseQueries + 1 }
    lastPose := some p }

/-- The device after its pacer, if there is one, heard of a pose. -/
def marked (d : Device) (newest : Option Span) : Device :=
  { d with pipeline := d.pipeline.map (·.markFresh newest) }

/-- The device after so many updates of controllers. -/
def handed (d : Device) (updates : Nat) : Device :=
  { d with
    counters := { d.counters with
      controllerUpdates := d.counters.controllerUpdates + .ofNat updates } }

theorem handed_zero (d : Device) : d.handed 0 = d := by
  simp [handed]

theorem handed_handed (d : Device) (m n : Nat) : (d.handed m).handed n = d.handed (m + n) := by
  simp [handed, UInt64.ofNat_add, UInt64.add_assoc]

theorem isStreaming_marked (d : Device) (newest : Option Span) :
    (d.marked newest).isStreaming = d.isStreaming := by
  unfold isStreaming marked
  cases d.pipeline <;> rfl

/-- What the host and the tracker get of a pose. -/
def announcements (d : Device) (relays : Relays) (p : DevicePose) : List Effect :=
  (d.deviceIndex.map (.poseUpdated · p)).toList ++
    if relays.tracker then [.trackerUpdate p.motion] else []

variable {d : Device} {h : History} {a : Answers} {target : Span} {s : Sample} {p : DevicePose}
  {relays : Relays} {packet : TrackingPacket}

/-- A query that finds a sample is answered from it, and the answer is remembered. -/
theorem getPose?_of_chosen (related : d.relays = some relays)
    (asked : d.poseTarget? a.now = some target) (chosen : (chooseSample h target).1 = some s)
    (hp : p = .tracked (s.predict target d.config.tracking.maxPredictionSpan)) :
    d.getPose? h a = some ⟨d.answered p, (chooseSample h target).2, p⟩ := by
  have there : ¬ d.relays.isNone = true := by simp [related]
  have found : chooseSample h target = (some s, (chooseSample h target).2) := Prod.ext chosen rfl
  have asked' (c : Counters) :
      ({ d with counters := c } : Device).poseTarget? a.now = some target := asked
  subst hp
  simp only [getPose?, if_neg there, asked', Option.map_some]
  rw [found]
  rfl

theorem markFresh_device (related : d.relays = some relays) (h : History) :
    (d.markFresh h).device = d.marked (h.latest.map (·.time)) := by
  unfold markFresh marked
  cases located : d.pipeline with
  | none =>
    show d = { d with pipeline := none }
    rw [← located]
  | some p =>
    rw [related]
    rfl

/-- A pose that was found is valid, so the tracker gets it as well. -/
theorem poseUpdated?_of_chosen (related : d.relays = some relays)
    (asked : d.poseTarget? a.now = some target) (chosen : (chooseSample h target).1 = some s)
    (hp : p = .tracked (s.predict target d.config.tracking.maxPredictionSpan)) :
    ∃ o, d.poseUpdated? h a = some o ∧
      o.device = (d.answered p).marked (h.latest.map (·.time)) ∧
      passedOn o.log = d.announcements relays p := by
  have found := getPose?_of_chosen related asked chosen hp
  have related' : (d.answered p).relays = some relays := related
  have looks : passedOn (chooseSample h target).2 = [] := by
    apply passedOn_eq_nil
    intro x hx
    rcases log_getPose? found x hx with rfl | ⟨time, rfl⟩ <;> rfl
  have marks : passedOn ((d.answered p).markFresh h).log = [] := by
    apply passedOn_eq_nil
    intro x hx
    rw [log_markFresh _ h x hx]
    rfl
  have valid : p.valid = true := by
    rw [hp]
    rfl
  have index : (d.answered p).deviceIndex = d.deviceIndex := rfl
  rw [poseUpdated?, found, Option.map_some]
  refine ⟨_, rfl, markFresh_device related' h, ?_⟩
  dsimp only
  rw [passedOn_append, passedOn_append, passedOn_append, looks, marks, List.nil_append,
    List.append_nil, related', index, announcements, valid]
  dsimp only
  cases d.deviceIndex <;> cases relays.tracker <;> rfl

theorem updateHand_eq (d : Device) (relays : Relays) (packet : TrackingPacket) (hand : Hand)
    (a : Answers) :
    (d.updateHand relays packet hand a).device =
        d.handed (packet.handover? relays a hand).toList.length ∧
      passedOn (d.updateHand relays packet hand a).log =
        (packet.handover? relays a hand).toList := by
  unfold updateHand TrackingPacket.handover?
  cases packet.controllers.get hand with
  | none => exact ⟨d.handed_zero.symm, rfl⟩
  | some tracking =>
    cases relays.controllers.get hand with
    | none => exact ⟨d.handed_zero.symm, rfl⟩
    | some controller =>
      cases active : a.controllerActive controller with
      | false => simp [active, Option.filter, handed, passedOn, Effect.looks]
      | true => simp [active, Option.filter, handed, passedOn, Effect.looks]

theorem updateControllers_eq (related : d.relays = some relays) (packet : TrackingPacket)
    (a : Answers) :
    (d.updateControllers packet a).device = d.handed (packet.handovers relays a).length ∧
      passedOn (d.updateControllers packet a).log = packet.handovers relays a := by
  obtain ⟨left, leftLog⟩ := updateHand_eq d relays packet .left a
  obtain ⟨right, rightLog⟩ :=
    updateHand_eq (d.updateHand relays packet .left a).device relays packet .right a
  simp only [updateControllers, related]
  refine ⟨?_, ?_⟩
  · rw [right, left, TrackingPacket.handovers, List.length_append]
    exact d.handed_handed ..
  · rw [passedOn_append, leftLog, rightLog, TrackingPacket.handovers]

theorem tracking?_of_headless (related : d.relays = some relays) (headless : packet.head = none)
    (h : History) (a : Answers) : ∃ o, d.tracking? h packet a = some (h, o) ∧
      o.device = d.handed (packet.handovers relays a).length ∧
      passedOn o.log = packet.handovers relays a := by
  rw [tracking?, headless]
  exact ⟨_, rfl, updateControllers_eq related packet a⟩

theorem tracking?_of_head {head : Motion} (related : d.relays = some relays)
    (headed : packet.head = some head) (asked : d.poseTarget? a.now = some target)
    (chosen : (chooseSample (h.push ⟨packet.target, head⟩) target).1 = some s)
    (hp : p = .tracked (s.predict target d.config.tracking.maxPredictionSpan)) :
    ∃ o, d.tracking? h packet a = some (h.push ⟨packet.target, head⟩, o) ∧
      o.device = (({ d with
        latency := d.latency.received packet.target a.arrival } : Device).answered p |>.marked
          ((h.push ⟨packet.target, head⟩).latest.map (·.time))).handed
            (packet.handovers relays a).length ∧
      passedOn o.log = .historyPush ⟨packet.target, head⟩ ::
        (d.announcements relays p ++ packet.handovers relays a) := by
  have there : ¬ d.relays.isNone = true := by simp [related]
  obtain ⟨e, he⟩ : ∃ e : Device, e = { d with
    latency := d.latency.received packet.target a.arrival } := ⟨_, rfl⟩
  have relatedE : e.relays = some relays := by
    rw [he]
    exact related
  have askedE : e.poseTarget? a.now = some target := by
    rw [he]
    exact asked
  have hpE : p = .tracked (s.predict target e.config.tracking.maxPredictionSpan) := by
    rw [he]
    exact hp
  have announcementsE : e.announcements relays p = d.announcements relays p := by
    rw [he]
    rfl
  obtain ⟨o, updated, device, announced⟩ := poseUpdated?_of_chosen relatedE askedE chosen hpE
  have relatedO : o.device.relays = some relays := by
    rw [device]
    exact relatedE
  obtain ⟨handed, handovers⟩ := updateControllers_eq relatedO packet a
  simp only [tracking?, headed, if_neg there, ← he, updated, Option.map_some]
  refine ⟨_, rfl, by rw [handed, device], ?_⟩
  rw [← List.singleton_append, passedOn_append, passedOn_append, announced, handovers,
    announcementsE, List.append_assoc]
  rfl

theorem exists_isTarget {now : Span} {micros : Int}
    (inRange : (now.nanos : Int) + 1000 * micros < Span.limit) :
    ∃ target, IsTarget now micros target := by
  have short : ((now.nanos : Int) + 1000 * micros).toNat < Span.limit := by
    have : 0 < Span.limit := Nat.lt_of_le_of_lt (Nat.zero_le _) now.nanos_lt
    omega
  exact ⟨⟨_, short⟩, rfl⟩

end Device

/-- The frame of a target that came in is the one that was open, or a new one. -/
theorem Latency.frame?_received_eq {l : Latency} (room : 0 < l.capacity) (target now : Span) :
    (l.received target now).frame? target =
      some ((l.frame? target).getD { target, received := now }) := by
  cases found : l.frame? target with
  | none => exact frame?_received (frame?_eq_none_iff.1 found) room now
  | some f =>
    have there : target ∈ l.frames.map (·.target) := by
      by_contra absent
      rw [frame?_eq_none_iff.2 absent] at found
      cases found
    rw [received_of_mem there, found]
    rfl

namespace Rig

variable {config : Config} {equipment : Equipment} {d : Device} {capacity : Nat} {r : Rig}
  {steps : List (Step × Answers)} {log : List Effect}

/-- A device that no one shut down has the relays that it was built with. -/
theorem related_of_run? (built : Device.build? config equipment = some (.ok d))
    (ran : (ofDevice d capacity).run? steps = some (r, log))
    (up : ∀ b, (.call .shutDown, b) ∉ steps) : r.device.relays = some equipment.relays := by
  have coherent := (Device.fresh_of_build? built).coherent
  have related : d.relays = some equipment.relays := by
    obtain ⟨-, -, -, -, -, rfl⟩ := Device.build?_eq_ok_iff.1 built
    rfl
  have stillUp : r.device.isShutDown = false := by
    by_contra down
    obtain ⟨b, called⟩ := (isShutDown_iff_of_run? coherent (Device.uncounted_of_build? built).2
      ran).1 (by simpa using down)
    exact up b called
  exact (relays_of_run? coherent ran stillUp).trans related

/-- A query in range finds a sample in a history that was just pushed to, which is the one that it
is to be answered from. -/
theorem chosen_after_push (built : Device.build? config equipment = some (.ok d))
    (ran : (ofDevice d capacity).run? steps = some (r, log)) {now : Span}
    (inRange : (now.nanos : Int) + 1000 * r.device.poseOffset < Span.limit) (pushed : Sample) :
    ∃ target s, r.device.poseTarget? now = some target ∧
      (Device.chooseSample (r.history.push pushed) target).1 = some s ∧
      IsTarget now r.device.poseOffset target ∧
      History.AnswersFor (r.history.push pushed).samples target s := by
  have limited :=
    limited_of_run? (Device.fresh_of_build? built).coherent (Device.limited_of_build? built) ran
  have unfilled : History.Sorted (ofDevice d capacity).history.samples := List.Pairwise.nil
  have sorted : History.Sorted (r.history.push pushed).samples :=
    ((sorted_of_run? unfilled ran).insert _).keep _
  have room : r.history.capacity ≠ 0 := by
    rw [capacity_of_run? ran]
    show max capacity 1 ≠ 0
    omega
  obtain ⟨target, isTarget⟩ := Device.exists_isTarget inRange
  obtain ⟨s, chosen⟩ : ∃ s,
      (Device.chooseSample (r.history.push pushed) target).1 = some s := by
    apply Option.ne_none_iff_exists'.1
    rw [ne_eq, Device.chooseSample_eq_none_iff, History.isEmpty_push room]
    decide
  exact ⟨target, s, (Device.poseTarget?_eq_some_iff limited.least).2 isTarget, chosen, isTarget,
    (Device.chooseSample_eq_some_iff sorted target s).1 chosen⟩

end Rig

/-- On every device that was not shut down, a packet with a head whose query is in range pushes its
sample, opens a frame for it unless there is one, and has the pose that the updated history answers
with, which is valid, passed on: to the host under the index of the device, if it has one, then to
the tracker, if there is one, and to the pacer, if there is one.  A packet without a head does none
of that.  Then the controllers that are registered and active get what is new about their hands, the
left one first.  Nothing else is passed on and nothing else of the device changes. -/
theorem relay_of_run {config : Config} {equipment : Equipment} {d : Device} {capacity : Nat}
    {r : Rig} {steps : List (Step × Answers)} {log : List Effect}
    (built : Device.build? config equipment = some (.ok d))
    (ran : (Rig.ofDevice d capacity).run? steps = some (r, log))
    (up : ∀ b, (.call .shutDown, b) ∉ steps) (packet : TrackingPacket) (a : Answers)
    (inRange : packet.head.isSome →
      (a.now.nanos : Int) + 1000 * r.device.poseOffset < Span.limit) :
    let updates := packet.handovers equipment.relays a
    ∃ r' l, r.step? (.call (.tracking packet)) a = some (r', l, .none) ∧
      (∀ head, packet.head = some head → ∃ p,
        r'.history = r.history.push ⟨packet.target, head⟩ ∧
        (∃ target s, IsTarget a.now r.device.poseOffset target ∧
          History.AnswersFor r'.history.samples target s ∧
          p = .tracked (s.predict target config.tracking.maxPredictionSpan)) ∧
        p.valid = true ∧
        passedOn l = .historyPush ⟨packet.target, head⟩ ::
          ((r.device.deviceIndex.map (.poseUpdated · p)).toList ++
            (if equipment.relays.tracker then [.trackerUpdate p.motion] else []) ++ updates) ∧
        r'.device = { r.device with
          latency := r.device.latency.received packet.target a.arrival
          lastPose := some p
          pipeline := r.device.pipeline.map (·.markFresh (r'.history.latest.map (·.time)))
          counters := { r.device.counters with
            poseQueries := r.device.counters.poseQueries + 1
            controllerUpdates := r.device.counters.controllerUpdates + .ofNat updates.length } } ∧
        r'.device.latency.frame? packet.target =
          some ((r.device.latency.frame? packet.target).getD
            { target := packet.target, received := a.arrival })) ∧
      (packet.head = none → r'.history = r.history ∧ passedOn l = updates ∧
        r'.device = { r.device with
          counters := { r.device.counters with
            controllerUpdates := r.device.counters.controllerUpdates + .ofNat updates.length } }) ∧
      r'.device.isStreaming = r.device.isStreaming := by
  intro updates
  have config' : r.device.config = config :=
    Rig.config_of_run? (Device.fresh_of_build? built) ran
  have related := Rig.related_of_run? built ran up
  cases headed : packet.head with
  | none =>
    obtain ⟨o, ho, device, passed⟩ :=
      Device.tracking?_of_headless related headed r.history a
    refine ⟨_, _, congrArg (Option.map _) ho, by simp, fun _ => ⟨rfl, passed, device⟩, ?_⟩
    show o.device.isStreaming = _
    rw [device]
    rfl
  | some head =>
    obtain ⟨target, s, asked, chosen, isTarget, answers⟩ :=
      Rig.chosen_after_push built ran (inRange (by rw [headed]; rfl)) ⟨packet.target, head⟩
    obtain ⟨o, ho, device, passed⟩ :=
      Device.tracking?_of_head (h := r.history) related headed asked chosen rfl
    refine ⟨_, _, congrArg (Option.map _) ho, ?_, by simp, ?_⟩
    · rintro head' same
      obtain rfl : head = head' := Option.some.inj same
      refine ⟨_, rfl, ⟨target, s, isTarget, answers, by rw [← config']⟩, rfl, passed, device, ?_⟩
      show o.device.latency.frame? packet.target = _
      rw [device]
      exact Latency.frame?_received_eq (Rig.latency_room_of_run? built ran) ..
    · show o.device.isStreaming = _
      rw [device]
      exact Device.isStreaming_marked r.device _

/-- A tracker, and a controller for the left hand. -/
def Equipment.attended : Equipment := ⟨⟨⟨some 7, none⟩, true⟩, none, .wraps⟩

/-- Something new about the head and both hands. -/
def TrackingPacket.full : TrackingPacket := ⟨.zero, some default, some default, some default⟩

/-- The host, the tracker and the controller hear of a packet in this order. -/
theorem relay_of_full : ∃ d r log p,
    Device.build? {} .attended = some (.ok d) ∧
      (Rig.ofDevice d 4).run? [(.call (.activate 3), .willing)] = some (r, log) ∧
      p.valid = true ∧ ∃ r' l, r.step? (.call (.tracking .full)) .willing = some (r', l, .none) ∧
        passedOn l = [.historyPush ⟨.zero, default⟩, .poseUpdated 3 p, .trackerUpdate p.motion,
          .controllerUpdate 7 default .zero] := by
  have computed : ((Device.build? {} .attended).bind Except.toOption).any fun d =>
      ((Rig.ofDevice d 4).run? [(.call (.activate 3), .willing)]).any fun x =>
        decide (x.1.device.deviceIndex = some 3 ∧ x.1.device.poseOffset = 0) := by
    decide +kernel
  obtain ⟨d, hd, computed⟩ := (Option.any_eq_true _ _).1 computed
  have built := Device.build?_of_toOption hd
  obtain ⟨⟨r, log⟩, ran, computed⟩ := (Option.any_eq_true _ _).1 computed
  obtain ⟨index, offset⟩ := of_decide_eq_true computed
  dsimp only at index offset
  obtain ⟨r', l, step, relayed, -⟩ := relay_of_run built ran (by simp) .full .willing
    (fun _ => by rw [offset]; decide)
  obtain ⟨p, -, -, valid, passed, -⟩ := relayed default rfl
  refine ⟨d, r, log, p, built, ran, valid, r', l, step, ?_⟩
  rw [passed, index]
  rfl

end Headset
