import Headset.Proofs.Operations
import Headset.Proofs.Run

/-!
# Coherence

The fields of a device hang together: the pipeline, the timer and the backend are there exactly
while the device is in use, the stream runs only while it is active, and nothing is left after
shutdown. A device that has just been built is coherent (`fresh_of_build?`), every part of a call
keeps it so (`Coherent.part`), and therefore every run does (`coherent_of_run?`).
-/

namespace Headset

namespace Device

/-- The fields of the lifecycle hang together. -/
structure Coherent (d : Device) : Prop where
  settled : d.state ≠ .activating
  pipeline_isSome_iff : d.pipeline.isSome ↔ d.state ≠ .inactive
  vsync_isSome_iff : d.vsync.isSome ↔ d.state ≠ .inactive
  renderReady_iff : d.renderReady = true ↔ d.state ≠ .inactive ∧ d.render.isSome
  active_of_streaming : ∀ p, d.pipeline = some p → p.streaming = true → d.state = .active
  not_released : ∀ p, d.pipeline = some p → p.released = false
  retired_released : ∀ p ∈ d.retired, p.released = true
  relays_isSome_iff : d.relays.isSome ↔ d.isShutDown = false
  inactive_of_isShutDown : d.isShutDown = true → d.state = .inactive
  lastPose_of_isShutDown : d.isShutDown = true → d.lastPose = none
  pendingStart_of_streaming : d.config.streaming.startOnClientReady = true → d.isStreaming = true →
    d.pendingStart = false

variable {d e : Device} {a : Answers} {s : Step} {log : List Effect}

/-- A device is built from a valid configuration whose refresh interval has a span and whose
latencies have room, and from no other. -/
theorem build?_eq_ok_iff {config : Config} {equipment : Equipment} :
    build? config equipment = some (.ok d) ↔ config.fault? = none ∧
      ∃ interval, Span.ofSeconds? (1 / config.display.refreshRate) = some interval ∧
        ∃ latency, Latency.allocate? config.tracking.latencyHistory.toNat interval
          config.tracking.hostPipelineFrames equipment.overflow = some latency ∧
          d = initial config equipment latency := by
  unfold build?
  cases config.fault? with
  | some e => simp
  | none => simp [Option.bind_eq_some_iff, @eq_comm _ d]

/-- A device that has just been built. -/
structure Fresh (d : Device) (config : Config) (equipment : Equipment) : Prop where
  config : d.config = config
  render : d.render = equipment.render
  state : d.state = .inactive
  adapter : d.adapter = none
  coherent : d.Coherent

theorem fresh_of_build? {config : Config} {equipment : Equipment}
    (built : Device.build? config equipment = some (.ok d)) : d.Fresh config equipment := by
  obtain ⟨-, interval, -, latency, -, rfl⟩ := build?_eq_ok_iff.1 built
  refine ⟨rfl, rfl, rfl, rfl, ?_⟩
  unfold initial
  exact {
    settled := by simp
    pipeline_isSome_iff := by simp
    vsync_isSome_iff := by simp
    renderReady_iff := by simp
    active_of_streaming := by simp
    not_released := by simp
    retired_released := by simp
    relays_isSome_iff := by simp
    inactive_of_isShutDown := by simp
    lastPose_of_isShutDown := by simp
    pendingStart_of_streaming := by simp }

namespace Coherent

theorem not_renderReady (h : d.Coherent) (hs : d.state = .inactive) : d.renderReady = false := by
  rcases hr : d.renderReady with _ | _
  · rfl
  · exact absurd hs (h.renderReady_iff.1 hr).1

theorem pipeline_eq_none (h : d.Coherent) (hs : d.state = .inactive) : d.pipeline = none := by
  have none : ¬ d.pipeline.isSome := fun hp => h.pipeline_isSome_iff.1 hp hs
  simpa using none

theorem vsync_eq_none (h : d.Coherent) (hs : d.state = .inactive) : d.vsync = none := by
  have none : ¬ d.vsync.isSome := fun hv => h.vsync_isSome_iff.1 hv hs
  simpa using none

theorem relays_isNone (h : d.Coherent) : d.relays.isNone = d.isShutDown := by
  have there := h.relays_isSome_iff
  cases hd : d.isShutDown <;> cases hr : d.relays <;> simp_all

/-- No pacer that has left the device makes a frame. -/
theorem quiet (h : d.Coherent) : ∀ p ∈ d.retired, p.makesFrames = false := by
  intro p hp
  simp [Pacer.makesFrames, h.retired_released p hp]

/-- What a steering call needs to be put together from parts. -/
theorem in_use_of_renderReady (h : d.Coherent) (hr : d.renderReady = true) : d.state ≠ .inactive :=
  (h.renderReady_iff.1 hr).1

/-- A device is in use if it is active or in standby, since nothing is activating between calls. -/
theorem used_iff (h : d.Coherent) :
    (d.state = .active ∨ d.state = .standby) ↔ d.state ≠ .inactive := by
  have settled := h.settled
  cases hs : d.state <;> simp_all

/-! ## Parts -/

theorem sameFooting (h : d.Coherent) (k : d.SameFooting e) : e.Coherent where
  settled := by rw [k.state]; exact h.settled
  pipeline_isSome_iff := by rw [k.pipeline_isSome, k.state]; exact h.pipeline_isSome_iff
  vsync_isSome_iff := by rw [k.vsync, k.state]; exact h.vsync_isSome_iff
  renderReady_iff := by rw [k.renderReady, k.state, k.render]; exact h.renderReady_iff
  active_of_streaming p hp hs := by
    obtain ⟨q, hq, hf⟩ := k.exists_pacer hp
    have streaming : q.streaming = true := (congrArg (·.2.1) hf).trans hs
    rw [k.state]
    exact h.active_of_streaming q hq streaming
  not_released p hp := by
    obtain ⟨q, hq, hf⟩ := k.exists_pacer hp
    exact (congrArg (·.2.2) hf).symm.trans (h.not_released q hq)
  retired_released := by rw [k.retired]; exact h.retired_released
  relays_isSome_iff := by rw [k.relays, k.isShutDown]; exact h.relays_isSome_iff
  inactive_of_isShutDown down := by
    rw [k.state]
    exact h.inactive_of_isShutDown (k.isShutDown ▸ down)
  lastPose_of_isShutDown down := by
    have down : d.isShutDown = true := k.isShutDown ▸ down
    have noRelays : ¬ d.relays.isSome := fun hr => by simp [h.relays_isSome_iff.1 hr] at down
    rw [k.lastPose (by simpa using noRelays)]
    exact h.lastPose_of_isShutDown down
  pendingStart_of_streaming on hs := by
    rw [k.pendingStart]
    rw [k.isStreaming] at hs
    exact h.pendingStart_of_streaming (k.config ▸ on) hs

theorem begins (h : d.Coherent) (k : d.Begins e log) : e.Coherent := by
  obtain @⟨p, -, hp, active, -, -, -⟩ := k
  exact { h with
    pipeline_isSome_iff := by simpa [withStatus, hp] using h.pipeline_isSome_iff
    active_of_streaming := fun _ _ _ => active
    not_released := fun q hq => by
      cases hq
      exact h.not_released p hp
    pendingStart_of_streaming := fun _ _ => rfl }

theorem haltStream (h : d.Coherent) : d.haltStream.device.Coherent := by
  rw [haltStream_device]
  have idle : ∀ q, (d.pipeline.map fun p => { p with streaming := false }) = some q →
      q.streaming = false := by
    intro q hq
    obtain ⟨p, -, rfl⟩ := Option.map_eq_some_iff.1 hq
    rfl
  exact { h with
    pipeline_isSome_iff := by simpa using h.pipeline_isSome_iff
    active_of_streaming := fun q hq hs => by simp [idle q hq] at hs
    not_released := fun q hq => by
      obtain ⟨p, hp, rfl⟩ := Option.map_eq_some_iff.1 hq
      exact h.not_released p hp
    pendingStart_of_streaming := fun _ hs => by
      cases hp : d.pipeline <;> simp [isStreaming, hp] at hs }

theorem teardown (h : d.Coherent) : d.teardown.device.Coherent := by
  rw [teardown_device]
  exact { h with
    settled := by simp
    pipeline_isSome_iff := by simp
    vsync_isSome_iff := by simp
    renderReady_iff := by simp
    active_of_streaming := by simp
    not_released := by simp
    retired_released := fun p hp => by
      rcases List.mem_append.1 hp with hp | hp
      · obtain ⟨q, -, rfl⟩ := Option.map_eq_some_iff.1 (Option.mem_toList.1 hp)
        rfl
      · exact h.retired_released p hp
    inactive_of_isShutDown := fun _ => rfl
    pendingStart_of_streaming := fun _ _ => rfl }

/-- A failed allocation leaves a coherent device, and so does one that is done. -/
theorem allocation {index : UInt32} {o : Outcome (Except DriverError Pacer)} (h : d.Coherent)
    (hs : d.state = .inactive) (up : d.isShutDown = false)
    (ho : Allocation { d with state := .activating } index a o) :
    (∀ e, o.answer = .error e →
        (withStatus { o.device with state := .inactive } "failed to activate").Coherent) ∧
      ∀ p, o.answer = .ok p → (o.device.activated index p).Coherent := by
  have unchanged : ∀ ad : Option Adapter, ∀ status : String,
      ({ d with adapter := ad, state := .inactive, status } : Device).Coherent := by
    intro ad status
    rw [← hs]
    exact { h with }
  cases ho with
  | adapter | display | renderBackend | encoder | timer | timerStart =>
    exact ⟨fun _ _ => unchanged _ _, by simp⟩
  | done =>
    refine ⟨by simp, fun p hp => ?_⟩
    cases hp
    exact { h with
      settled := by simp [activated, withStatus]
      pipeline_isSome_iff := by simp [activated, withStatus]
      vsync_isSome_iff := by simp [activated, withStatus]
      renderReady_iff := by simp [activated, withStatus]
      active_of_streaming := fun _ _ _ => rfl
      not_released := fun q hq => by
        cases hq
        rfl
      inactive_of_isShutDown := fun down => by simp [activated, withStatus, up] at down
      pendingStart_of_streaming := fun _ hs => by
        simp [isStreaming, activated, withStatus, Pacer.ofEncoder] at hs }

theorem resumed (h : d.Coherent) (hs : d.state = .standby) : d.resumed.Coherent := by
  have used : d.state ≠ .inactive := by simp [hs]
  exact { h with
    settled := by simp [Device.resumed, withStatus]
    pipeline_isSome_iff := by simpa [Device.resumed, withStatus, used] using h.pipeline_isSome_iff
    vsync_isSome_iff := by simpa [Device.resumed, withStatus, used] using h.vsync_isSome_iff
    renderReady_iff := by simpa [Device.resumed, withStatus, used] using h.renderReady_iff
    active_of_streaming := fun _ _ _ => rfl
    inactive_of_isShutDown := fun down => absurd (h.inactive_of_isShutDown down) used }

theorem rests (h : d.Coherent) (hs : d.state = .active) (idle : d.stream? = none) :
    (withStatus { d with state := .standby } "standby").Coherent := by
  have used : d.state ≠ .inactive := by simp [hs]
  have quiet : d.isStreaming = false := stream?_eq_none_iff.1 idle
  exact { h with
    settled := by simp [withStatus]
    pipeline_isSome_iff := by simpa [withStatus, used] using h.pipeline_isSome_iff
    vsync_isSome_iff := by simpa [withStatus, used] using h.vsync_isSome_iff
    renderReady_iff := by simpa [withStatus, used] using h.renderReady_iff
    active_of_streaming := fun p hp streaming => by
      have running : d.isStreaming = true := isStreaming_iff.2 ⟨p, hp, streaming⟩
      rw [quiet] at running
      cases running
    inactive_of_isShutDown := fun down => absurd (h.inactive_of_isShutDown down) used }

/-- Every part of a call keeps a device coherent. -/
theorem part (h : d.Coherent) (k : d.Part e log) : e.Coherent := by
  cases k with
  | stays k => exact h.sameFooting k.footing
  | begins k => exact h.begins k
  | halts => exact h.haltStream
  | queues up waits =>
    exact { h with
      pendingStart_of_streaming := fun on hs => by
        obtain ⟨p, hp, streaming⟩ := isStreaming_iff.1 hs
        exact absurd (h.active_of_streaming p hp streaming) (waits on) }
  | forgets => exact { h with pendingStart_of_streaming := fun _ _ => rfl }
  | resumes hs => exact h.resumed hs
  | rests hs idle => exact h.rests hs idle
  | tearsDown used => exact h.teardown
  | fails up hs ho he => exact (h.allocation hs up ho).1 _ he
  | activates up hs ho hp => exact (h.allocation hs up ho).2 _ hp
  | leaves hs =>
    exact { h with
      relays_isSome_iff := by simp [gone, withStatus]
      inactive_of_isShutDown := fun _ => hs
      lastPose_of_isShutDown := fun _ => rfl }

end Coherent

/-! ## Runs -/

theorem Takes.coherent (h : d.Takes a s e log) (hd : d.Coherent) : e.Coherent :=
  (h.parts hd.in_use_of_renderReady).preserve Coherent.part hd

theorem Part.isShutDown (h : d.Part e log) (down : d.isShutDown = true) : e.isShutDown = true := by
  cases h with
  | stays h => rw [h.footing.isShutDown]; exact down
  | begins h => cases h; exact down
  | halts => rw [haltStream_device]; exact down
  | tearsDown used => rw [teardown_device]; exact down
  | fails up hs ho he => cases ho <;> exact down
  | activates up hs ho hp => cases ho <;> exact down
  | leaves hs => rfl
  | queues | forgets | resumes | rests => exact down

theorem isShutDown_shutDown (d : Device) : d.shutDown.device.isShutDown = true := by
  unfold shutDown
  dsimp only
  split
  · rw [teardown_device]
    rfl
  · rfl

end Device

namespace Rig

variable {start r : Rig} {steps : List (Step × Answers)} {log : List Effect}

/-- After every run from a coherent device the device is coherent. -/
theorem coherent_of_run? (h : start.device.Coherent) (ran : start.run? steps = some (r, log)) :
    r.device.Coherent := by
  refine run?_induction (motive := fun _ r _ => r.device.Coherent) h ?_ ran
  intro steps m before s a r l reply _ ih hl
  exact (takes_of_step? ih.quiet hl).coherent ih

/-- A property that every part of a call keeps is kept by every run from a coherent device. -/
theorem preserve_of_run? {motive : Device → Prop}
    (part : ∀ {d e l}, motive d → Device.Part d e l → motive e) (h : start.device.Coherent)
    (ran : start.run? steps = some (r, log)) (hd : motive start.device) : motive r.device := by
  refine run?_induction (motive := fun _ r _ => motive r.device) hd ?_ ran
  intro steps m before s a r l reply hm ih hl
  have coherent := coherent_of_run? h hm
  exact ((takes_of_step? coherent.quiet hl).parts coherent.in_use_of_renderReady).preserve part ih

/-- A run changes neither the configuration nor the backend that a device was built with. -/
theorem built_of_run? (h : start.device.Coherent) (ran : start.run? steps = some (r, log)) :
    r.device.config = start.device.config ∧ r.device.render = start.device.render := by
  refine preserve_of_run?
    (motive := fun d => d.config = start.device.config ∧ d.render = start.device.render)
    ?_ h ran ⟨rfl, rfl⟩
  intro d e l hd hp
  exact ⟨hp.built.1.trans hd.1, hp.built.2.trans hd.2⟩

theorem config_of_run? {config : Config} {equipment : Equipment}
    (fresh : start.device.Fresh config equipment) (ran : start.run? steps = some (r, log)) :
    r.device.config = config :=
  (built_of_run? fresh.coherent ran).1.trans fresh.config

/-- Once the driver went away during a run, the device is marked. -/
theorem isShutDown_of_mem (h : start.device.Coherent) (ran : start.run? steps = some (r, log))
    {a : Answers} (called : (.call .shutDown, a) ∈ steps) : r.device.isShutDown = true := by
  refine run?_induction
    (motive := fun steps r _ => (.call .shutDown, a) ∈ steps → r.device.isShutDown = true)
    (by simp) ?_ ran called
  intro steps m before s b r l reply hm ih hl called
  have coherent := coherent_of_run? h hm
  rcases List.mem_append.1 called with called | called
  · exact ((takes_of_step? coherent.quiet hl).parts coherent.in_use_of_renderReady).preserve
      (fun down part => part.isShutDown down) (ih called)
  · obtain ⟨rfl, rfl⟩ : .call .shutDown = s ∧ a = b := by simpa using called
    cases hl
    exact m.device.isShutDown_shutDown

end Rig

/-! ## The invariant -/

section

variable {config : Config} {equipment : Equipment} {d : Device} {capacity : Nat} {r : Rig}
  {steps : List (Step × Answers)} {log : List Effect}

/-- After every run of a device the activation is settled; the pipeline, the timer and an
initialised backend are there exactly while the device is in use; it streams only while it is
active, through a pacer that is not released and with no start still queued; and after shutdown
nothing is left. -/
theorem invariant_after_run (built : Device.build? config equipment = some (.ok d))
    (ran : (Rig.ofDevice d capacity).run? steps = some (r, log)) :
    (r.device.state = .inactive ∨ r.device.state = .active ∨ r.device.state = .standby) ∧
    (r.device.pipeline.isSome ↔ r.device.vsync.isSome) ∧
    (r.device.vsync.isSome ↔ r.device.state = .active ∨ r.device.state = .standby) ∧
    (r.device.renderReady = true ↔ r.device.pipeline.isSome ∧ equipment.render.isSome) ∧
    (r.device.isStreaming = true → r.device.state = .active ∧
      ∃ p, r.device.pipeline = some p ∧ p.released = false) ∧
    ((∃ a, (.call .shutDown, a) ∈ steps) →
      r.device.state = .inactive ∧ r.device.relays = none ∧ r.device.lastPose = none) ∧
    (config.streaming.startOnClientReady = true → r.device.isStreaming = true →
      r.device.pendingStart = false) := by
  have fresh : (Rig.ofDevice d capacity).device.Fresh config equipment :=
    Device.fresh_of_build? built
  have coherent := Rig.coherent_of_run? fresh.coherent ran
  obtain ⟨hconfig, hrender⟩ := Rig.built_of_run? fresh.coherent ran
  have used :
      r.device.state ≠ .inactive ↔ r.device.state = .active ∨ r.device.state = .standby := by
    have settled := coherent.settled
    cases hs : r.device.state <;> simp_all
  refine ⟨?_, ?_, ?_, ?_, ?_, ?_, ?_⟩
  · have settled := coherent.settled
    cases hs : r.device.state <;> simp_all
  · rw [coherent.pipeline_isSome_iff, coherent.vsync_isSome_iff]
  · rw [coherent.vsync_isSome_iff, used]
  · rw [coherent.renderReady_iff, coherent.pipeline_isSome_iff, hrender, fresh.render]
  · intro streaming
    obtain ⟨p, hp, hs⟩ := Device.isStreaming_iff.1 streaming
    exact ⟨coherent.active_of_streaming p hp hs, p, hp, coherent.not_released p hp⟩
  · rintro ⟨a, called⟩
    have down := Rig.isShutDown_of_mem fresh.coherent ran called
    have noRelays : ¬ r.device.relays.isSome := fun hr => by
      simp [coherent.relays_isSome_iff.1 hr] at down
    exact ⟨coherent.inactive_of_isShutDown down, by simpa using noRelays,
      coherent.lastPose_of_isShutDown down⟩
  · intro on streaming
    have hc : r.device.config = config := hconfig.trans fresh.config
    exact coherent.pendingStart_of_streaming (hc ▸ on) streaming

theorem invariant_while_streaming :
    ∃ r log, (Rig.ofDevice .standard 4).run? Rig.upToStream = some (r, log) ∧
      r.device.isStreaming = true ∧ r.device.state = .active ∧ r.device.renderReady = true ∧
      r.device.pendingStart = false := by
  obtain ⟨r, log, ran, streaming, -, -⟩ := Rig.run?_upToStream
  obtain ⟨-, -, -, backend, active, -, pending⟩ :=
    invariant_after_run Device.build?_standard ran
  obtain ⟨state, p, hp, -⟩ := active streaming
  have render : Equipment.direct.render.isSome := rfl
  exact ⟨r, log, ran, streaming, state, backend.2 ⟨by simp [hp], render⟩, pending rfl streaming⟩

end

end Headset
