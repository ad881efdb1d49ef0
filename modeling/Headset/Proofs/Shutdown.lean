import Headset.Proofs.Coherence

/-!
# After shutdown

Shutdown is for good (`closed_after_shutDown`).  It leaves nothing that a call could reach, whatever
the device did before (`Device.Gone`): no relays, no pipeline, no index and no pose.  On such a
device every call is without effect on others, and the calls that would put it to use say so.
-/

namespace Headset

namespace Device

variable {d e : Device} {log : List Effect}

/-! ## The index -/

/-- No part of a call leaves an index on a device that is not in use. -/
theorem Part.deviceIndex (h : d.Part e log) (hd : d.state = .inactive → d.deviceIndex = none) :
    e.state = .inactive → e.deviceIndex = none := by
  cases h with
  | stays h =>
    rw [h.footing.state, h.footing.deviceIndex]
    exact hd
  | begins h => cases h; exact hd
  | halts => rw [haltStream_device]; exact hd
  | tearsDown used => rw [teardown_device]; exact fun _ => rfl
  | fails up hs ho he => cases ho <;> exact fun _ => hd hs
  | activates => exact fun hs => by cases hs
  | resumes | rests => exact fun hs => by cases hs
  | queues | forgets | leaves => exact hd

theorem deviceIndex_of_build? {config : Config} {equipment : Equipment}
    (built : Device.build? config equipment = some (.ok d)) : d.deviceIndex = none := by
  obtain ⟨-, interval, -, latency, -, rfl⟩ := build?_eq_ok_iff.1 built
  rfl

/-! ## Calls on a device that is gone -/

/-- The driver went away: nothing is left that a call could reach. -/
structure Gone (d : Device) : Prop where
  isShutDown : d.isShutDown = true
  state : d.state = .inactive
  deviceIndex : d.deviceIndex = none
  relays : d.relays = none
  lastPose : d.lastPose = none
  pipeline : d.pipeline = none

theorem Coherent.gone (h : d.Coherent) (down : d.isShutDown = true)
    (index : d.state = .inactive → d.deviceIndex = none) : d.Gone := by
  have idle := h.inactive_of_isShutDown down
  have noRelays : ¬ d.relays.isSome := fun hr => by
    simp [h.relays_isSome_iff.1 hr] at down
  exact {
    isShutDown := down
    state := idle
    deviceIndex := index idle
    relays := by simpa using noRelays
    lastPose := h.lastPose_of_isShutDown down
    pipeline := h.pipeline_eq_none idle }

namespace Gone

theorem activate (h : d.Gone) (index : UInt32) (a : Answers) :
    d.activate index a = ⟨d, [], .error .shutDown⟩ := by
  simp [Device.activate, h.isShutDown]

theorem deactivate (h : d.Gone) : d.deactivate = ⟨d, [], ()⟩ := by
  simp [Device.deactivate, h.state, h.pipeline]

theorem enterStandby (h : d.Gone) :
    d.enterStandby = ⟨d, [], .error (.invalidState .enterStandby .inactive)⟩ := by
  simp [Device.enterStandby, h.state, transition]

theorem resume (h : d.Gone) (a : Answers) :
    d.resume a = ⟨d, [], .error (.invalidState .resume .inactive)⟩ := by
  simp [Device.resume, leaveStandby, h.state, transition]

theorem shutDown (h : d.Gone) : d.shutDown = ⟨d.gone, [], ()⟩ := by
  simp [Device.shutDown, gone, h.state, h.pipeline]

theorem startStreaming (h : d.Gone) (a : Answers) :
    d.startStreaming a = ⟨d, [], .error .shutDown⟩ := by
  simp [Device.startStreaming, h.isShutDown]

theorem stopStreaming (h : d.Gone) :
    d.stopStreaming = ⟨{ d with pendingStart := false }, [], ()⟩ := by
  simp [Device.stopStreaming, haltStream, h.pipeline]

theorem streamStart (h : d.Gone) (a : Answers) : d.streamStart a = ⟨d, [], .error .shutDown⟩ := by
  simp [Device.streamStart, h.isShutDown]

theorem requestKeyframe (h : d.Gone) : d.requestKeyframe = ⟨d, [], ()⟩ := by
  simp [Device.requestKeyframe, h.pipeline]

/-- The device after a query that is answered without a sample. -/
theorem getPose? (h : d.Gone) (history : History) (a : Answers) :
    d.getPose? history a = some ⟨{ d with counters := { d.counters with
      poseQueries := d.counters.poseQueries + 1
      poseFallbacks := d.counters.poseFallbacks + 1 } }, [], .untracked⟩ := by
  simp [Device.getPose?, h.relays, fallbackPose, h.lastPose]

theorem poseUpdated? (h : d.Gone) (history : History) (a : Answers) :
    d.poseUpdated? history a = some ⟨{ d with counters := { d.counters with
      poseQueries := d.counters.poseQueries + 1
      poseFallbacks := d.counters.poseFallbacks + 1 } }, [], ()⟩ := by
  simp [Device.poseUpdated?, h.getPose?, markFresh, h.deviceIndex, h.relays, h.pipeline]

theorem updateControllers (h : d.Gone) (packet : TrackingPacket) (a : Answers) :
    d.updateControllers packet a = ⟨d, [], ()⟩ := by
  simp [Device.updateControllers, h.relays]

theorem tracking? (h : d.Gone) (history : History) (packet : TrackingPacket) (a : Answers) :
    d.tracking? history packet a = some (history, ⟨d, [], ()⟩) := by
  unfold Device.tracking?
  cases packet.head with
  | none => simp [h.updateControllers]
  | some head => simp [h.relays]

/-- Without an index the host does not hear of new views. -/
theorem setViews (h : d.Gone) (views : Views) :
    (d.setViews views).log = [] ∧
      (d.setViews views).device.counters.deactivations = d.counters.deactivations := by
  unfold Device.setViews
  split
  · exact ⟨rfl, rfl⟩
  · simp [h.deviceIndex]

theorem debug? (h : d.Gone) {request : String} {buffer : List UInt8}
    {o : Outcome (Nat × List UInt8)} (ho : d.debug? request buffer = some o) :
    o.device = d ∧ o.log = [] := by
  obtain ⟨text, -, rfl⟩ := Option.map_eq_some_iff.1 ho
  simp [h.requestKeyframe]

/-- At most the host hears of a tick that comes late. -/
theorem ticks {a : Answers} (h : d.Gone) (quiet : ∀ p ∈ d.retired, p.makesFrames = false)
    (k : d.Ticks a e log) :
    (log = [] ∨ log = [.vsyncEvent]) ∧ e.counters = d.counters := by
  cases k with
  | unheard => exact ⟨.inl rfl, rfl⟩
  | inTime => simp [tick, h.pipeline]
  | stray age =>
    unfold strayTick
    split
    · exact ⟨.inr rfl, rfl⟩
    · next p hp =>
      have idle : ¬ p.makesFrames := by simp [quiet p (List.mem_of_getElem? hp)]
      rw [refresh, if_neg idle]
      exact ⟨.inr rfl, rfl⟩

end Gone

theorem counters_clientReport? {r : ClientReport} (he : d.clientReport? r = some e) :
    e.counters = d.counters := by
  obtain ⟨latency, poseOffset, rfl⟩ := clientReport?_eq he
  rfl

end Device

/-! ## Steps of a rig whose device is gone -/

namespace Rig

variable {start m r r' : Rig} {steps : List (Step × Answers)} {s : Step} {a : Answers}
  {log l : List Effect} {reply : Reply}

/-- No call reaches a collaborator, and none counts as a deactivation. -/
theorem silent_of_call? {c : Call} (h : r.device.Gone)
    (called : r.call? c a = some (r', l, reply)) :
    l = [] ∧ r'.device.counters.deactivations = r.device.counters.deactivations := by
  cases c with
  | activate index => cases called; simp [h.activate]
  | deactivate => cases called; simp [h.deactivate]
  | enterStandby => cases called; simp [h.enterStandby]
  | resume => cases called; simp [h.resume]
  | shutDown => cases called; simp [h.shutDown, Device.gone, Device.withStatus]
  | startStreaming => cases called; simp [h.startStreaming]
  | stopStreaming => cases called; simp [h.stopStreaming]
  | streamStart => cases called; simp [h.streamStart]
  | packetLoss => cases called; simp [Device.packetLoss, Device.requestKeyframe, h.pipeline]
  | requestKeyframe => cases called; simp [h.requestKeyframe]
  | runFrame => cases called; simp [Device.runFrame, h.pipeline]
  | getPose =>
    obtain ⟨o, ho, called⟩ := Option.map_eq_some_iff.1 called
    rw [h.getPose?] at ho
    cases ho
    cases called
    exact ⟨rfl, rfl⟩
  | poseUpdated =>
    obtain ⟨o, ho, called⟩ := Option.map_eq_some_iff.1 called
    rw [h.poseUpdated?] at ho
    cases ho
    cases called
    exact ⟨rfl, rfl⟩
  | setPoseOffset ms =>
    cases called
    refine ⟨rfl, ?_⟩
    dsimp only [Device.setPoseOffset]
    split <;> rfl
  | tracking packet =>
    obtain ⟨o, ho, called⟩ := Option.map_eq_some_iff.1 called
    rw [h.tracking?] at ho
    cases ho
    cases called
    exact ⟨rfl, rfl⟩
  | updateControllers packet => cases called; simp [h.updateControllers]
  | frameEncoded target bytes keyframe => cases called; exact ⟨rfl, rfl⟩
  | clientReport report =>
    obtain ⟨e, he, called⟩ := Option.map_eq_some_iff.1 called
    cases called
    exact ⟨rfl, by rw [Device.counters_clientReport? he]⟩
  | setViews views =>
    cases called
    exact h.setViews views
  | debug request buffer =>
    obtain ⟨o, ho, called⟩ := Option.map_eq_some_iff.1 called
    cases called
    simp [h.debug? ho]

/-- The only effect of a step is that the host hears of a tick. -/
theorem silent_of_step? (h : r.device.Gone)
    (quiet : ∀ p ∈ r.device.retired, p.makesFrames = false)
    (step : r.step? s a = some (r', l, reply)) :
    (∀ x ∈ l, x = .vsyncEvent) ∧ (s.ticks = false → l = []) ∧
      r'.device.counters.deactivations = r.device.counters.deactivations := by
  cases s with
  | call c =>
    obtain ⟨rfl, same⟩ := silent_of_call? h step
    exact ⟨by simp, fun _ => rfl, same⟩
  | tick | lateTick | strayTick =>
    obtain ⟨heard, same⟩ := h.ticks quiet (ticks_of_step? rfl step).1
    refine ⟨?_, by simp [Step.ticks], by rw [same]⟩
    rcases heard with rfl | rfl <;> simp
  | pushHistory | clearHistory =>
    cases step
    exact ⟨by simp, fun _ => rfl, rfl⟩

/-- A run from a coherent device without an index ends on a device that is gone, if it is marked. -/
theorem gone_of_run? (coherent : start.device.Coherent)
    (index : start.device.deviceIndex = none) (ran : start.run? steps = some (r, log))
    (down : r.device.isShutDown = true) : r.device.Gone :=
  (coherent_of_run? coherent ran).gone down <|
    preserve_of_run? (motive := fun d => d.state = .inactive → d.deviceIndex = none)
      (fun index part => part.deviceIndex index) coherent ran fun _ => index

/-- A run from a device that is gone has no effect but ticks that the host hears of. -/
theorem silent_of_run? (coherent : start.device.Coherent) (gone : start.device.Gone)
    (ran : start.run? steps = some (r, log)) :
    r.device.Gone ∧ (∀ x ∈ log, x = .vsyncEvent) ∧
      ((∀ x ∈ steps, x.1.ticks = false) → log = []) ∧
      r.device.counters.deactivations = start.device.counters.deactivations := by
  have stays : ∀ {steps r log}, start.run? steps = some (r, log) → r.device.Gone := fun ran =>
    gone_of_run? coherent gone.deviceIndex ran <|
      preserve_of_run? (motive := (·.isShutDown = true)) (fun down part => part.isShutDown down)
        coherent ran gone.isShutDown
  refine run?_induction (motive := fun steps r log =>
    r.device.Gone ∧ (∀ x ∈ log, x = .vsyncEvent) ∧
      ((∀ x ∈ steps, x.1.ticks = false) → log = []) ∧
      r.device.counters.deactivations = start.device.counters.deactivations)
    ⟨gone, by simp, fun _ => rfl, rfl⟩ ?_ ran
  intro steps m before s a r l reply ran ih step
  obtain ⟨-, heard, unheard, same⟩ := ih
  obtain ⟨heard', unheard', same'⟩ :=
    silent_of_step? (stays ran) (coherent_of_run? coherent ran).quiet step
  refine ⟨stays (run?_concat_eq_some.2 ⟨m, before, l, reply, ran, step, rfl⟩), ?_, ?_,
    same'.trans same⟩
  · intro x hx
    rcases List.mem_append.1 hx with hx | hx
    · exact heard x hx
    · exact heard' x hx
  · intro calls
    have last : s.ticks = false := calls (s, a) (by simp)
    rw [unheard fun x hx => calls x (List.mem_append_left _ hx), unheard' last, List.append_nil]

/-! ## What callers meet -/

/-- The driver went away for everyone who calls the device: it is out of use, no call reaches a
collaborator, it knows no pose, it cannot be put to use, and of its capabilities only the display
is left. -/
structure Closed (r : Rig) : Prop where
  state : r.device.state = .inactive
  isStreaming : r.device.isStreaming = false
  deviceIndex : r.device.deviceIndex = none
  silent : ∀ c a r' l reply, r.call? c a = some (r', l, reply) → l = []
  answers : ∀ c a, (∀ report, c ≠ .clientReport report) → (∀ text buffer, c ≠ .debug text buffer) →
    (r.call? c a).isSome
  getPose : ∀ a, ∃ r', r.call? .getPose a = some (r', [], .pose .untracked)
  activate : ∀ index a, r.call? (.activate index) a = some (r, [], .result (.error .shutDown))
  startStreaming : ∀ a, r.call? .startStreaming a = some (r, [], .result (.error .shutDown))
  streamStart : ∀ a, r.call? .streamStart a = some (r, [], .result (.error .shutDown))
  display : ∀ name, Capability.Kind.ofName? name = some .display →
    r.device.capability? name = some .display
  directMode : ∀ name backend, r.device.capability? name ≠ some (.directMode backend)

theorem isSome_call?_of_gone (h : r.device.Gone) (c : Call) (a : Answers)
    (unreported : ∀ report, c ≠ .clientReport report)
    (unasked : ∀ text buffer, c ≠ .debug text buffer) : (r.call? c a).isSome := by
  cases c with
  | getPose => simp [call?, h.getPose?]
  | poseUpdated => simp [call?, h.poseUpdated?]
  | tracking packet => simp [call?, h.tracking?]
  | clientReport report => exact absurd rfl (unreported report)
  | debug text buffer => exact absurd rfl (unasked text buffer)
  | _ => rfl

theorem closed_of_gone (h : r.device.Gone) : r.Closed where
  state := h.state
  isStreaming := by simp [Device.isStreaming, h.pipeline]
  deviceIndex := h.deviceIndex
  silent c a r' l reply called := (silent_of_call? h called).1
  answers := isSome_call?_of_gone h
  getPose a := ⟨_, by rw [call?, h.getPose?]; rfl⟩
  activate index a := by simp [call?, settle, h.activate]
  startStreaming a := by simp [call?, settle, h.startStreaming]
  streamStart a := by simp [call?, settle, h.streamStart]
  display name known := by simp [Device.capability?, known]
  directMode name backend := by
    unfold Device.capability?
    split
    · simp
    · simp
    · simp [h.isShutDown]

end Rig

/-- Once the driver went away, whatever came before, the device stays closed through all that comes
later.  Of the collaborators only the host is called, by ticks that come late; and no deactivation
is counted any more. -/
theorem closed_after_shutDown {config : Config} {equipment : Equipment} {d : Device}
    {capacity : Nat} {before : List (Step × Answers)} {r : Rig} {log : List Effect}
    (built : Device.build? config equipment = some (.ok d))
    (ran : (Rig.ofDevice d capacity).run? before = some (r, log)) (a : Answers) :
    ∃ m l, r.step? (.call .shutDown) a = some (m, l, .none) ∧
      ∀ later q log', m.run? later = some (q, log') →
        q.Closed ∧ (∀ x ∈ log', x = .vsyncEvent) ∧
        ((∀ x ∈ later, x.1.ticks = false) → log' = []) ∧
        q.device.counters.deactivations = m.device.counters.deactivations := by
  have fresh := Device.fresh_of_build? built
  have step : r.step? (.call .shutDown) a = some (r.settle r.device.shutDown fun _ => .none) := rfl
  refine ⟨_, _, step, fun later q log' ran' => ?_⟩
  have reached := Rig.run?_concat_eq_some.2 ⟨r, log, _, _, ran, step, rfl⟩
  have coherent := Rig.coherent_of_run? fresh.coherent reached
  have gone := Rig.gone_of_run? fresh.coherent (Device.deviceIndex_of_build? built) reached
    r.device.isShutDown_shutDown
  obtain ⟨gone', heard, unheard, same⟩ := Rig.silent_of_run? coherent gone ran'
  exact ⟨Rig.closed_of_gone gone', heard, unheard, same⟩

/-- A call that would put the device to use again, a tick that comes late, and a report. -/
def Rig.afterwards : List (Step × Answers) :=
  [(.call (.activate 1), .willing), (.lateTick, .willing),
    (.call (.clientReport default), .willing)]

theorem closed_after_stream : ∃ r log m l q log',
    (Rig.ofDevice .standard 4).run? Rig.upToStream = some (r, log) ∧
      r.device.isStreaming = true ∧ r.step? (.call .shutDown) .willing = some (m, l, .none) ∧
      m.run? Rig.afterwards = some (q, log') ∧ q.Closed ∧ log'.length = 1 := by
  obtain ⟨r, log, ran, streams, -, -⟩ := Rig.run?_upToStream
  have goesOn : ((Rig.ofDevice .standard 4).run? Rig.upToStream).any fun x =>
      (x.1.step? (.call .shutDown) .willing).any fun y =>
        (y.1.run? Rig.afterwards).any fun z => decide (z.2.length = 1) := by
    decide +kernel
  obtain ⟨m, l, step, closed⟩ := closed_after_shutDown Device.build?_standard ran .willing
  simp only [ran, Option.any_some, step] at goesOn
  obtain ⟨⟨q, log'⟩, ran', heard⟩ := (Option.any_eq_true _ _).1 goesOn
  exact ⟨r, log, m, l, q, log', ran, streams, step, ran', (closed _ _ _ ran').1,
    by simpa using heard⟩

end Headset
