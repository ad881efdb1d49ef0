import Headset.Proofs.Starts
import Headset.Proofs.Since

/-!
# Queued starts

A client that is ready while the device is not in use has a start of the stream queued, until the
stream is stopped, is started, or the device is taken out of use.  `Queued` says so of what happened
in a run, and `Coherent.accounts_of_takes` that each step of a device keeps to it.  So whether
an activation or a resumption starts the stream is told by the run and the collaborators
(`queued_start_of_run`).
-/

namespace Headset

/-- A step of a run as it went: the device before it and the calls it made. -/
structure Event where
  device : Device
  step : Step
  log : List Effect

/-- The events of a run, one for each of its steps. -/
def Rig.events (r : Rig) : List (Step × Answers) → List Event
  | [] => []
  | (s, a) :: steps => match r.step? s a with
    | none => []
    | some (m, l, _) => ⟨r.device, s, l⟩ :: m.events steps

namespace Event

/-- The client is ready while the device is not in use. -/
def Queues (x : Event) : Prop :=
  x.step = .call .streamStart ∧ x.device.state = .inactive ∧ x.device.isShutDown = false

/-- The stream is stopped or started, or the device is taken out of use. -/
def Settles (x : Event) : Prop :=
  x.step = .call .stopStreaming ∨ Started x.log ∨
    x.step = .call .deactivate ∧ x.device.state ≠ .inactive

end Event

/-- A start was queued, and nothing has settled it since. -/
def Queued (events : List Event) : Prop := Since Event.Queues (fun x => ¬ x.Settles) events

theorem Rig.events_concat {start r r' : Rig} {steps : List (Step × Answers)} {s : Step}
    {a : Answers} {log : List Effect} {reply : Reply} (ran : start.run? steps = some (r, log))
    (next : r.step? s a = some (r', l, reply)) :
    start.events (steps ++ [(s, a)]) = start.events steps ++ [⟨r.device, s, l⟩] := by
  induction steps generalizing start log with
  | nil =>
    cases ran
    simp [events, next]
  | cons step steps ih =>
    obtain ⟨t, b⟩ := step
    rw [run?_cons] at ran
    obtain ⟨⟨m, k, answer⟩, hm, ran⟩ := Option.bind_eq_some_iff.1 ran
    obtain ⟨⟨r'', log'⟩, rest, hr⟩ := Option.map_eq_some_iff.1 ran
    cases hr
    simp [events, hm, ih rest]

namespace Device

variable {d e : Device} {a : Answers} {s : Step} {index : UInt32} {log : List Effect}

/-! ## One step -/

/-- After a step a start is queued if the step queues one, or if one was queued and the step does
not settle it. -/
def Accounts (d e : Device) (s : Step) (log : List Effect) : Prop :=
  e.pendingStart = true ↔ (Event.mk d s log).Queues ∨
    d.pendingStart = true ∧ ¬ (Event.mk d s log).Settles

/-- What was queued stays queued, unless the stream is started. -/
def Serves (d e : Device) (log : List Effect) : Prop :=
  e.pendingStart = true ↔ d.pendingStart = true ∧ ¬ Started log

theorem serves_of_quiet (same : e.pendingStart = d.pendingStart) (quiet : ¬ Started log) :
    d.Serves e log := by
  simp [Serves, same, quiet]

theorem Begins.serves (h : d.Begins e log) : d.Serves e log := by
  simp [Serves, h.pendingStart, h.started]

theorem serves_startStreaming (d : Device) (a : Answers) :
    d.Serves (d.startStreaming a).device (d.startStreaming a).log := by
  rcases d.startStreaming_cases a with ⟨same, stays⟩ | begins
  · exact serves_of_quiet (by rw [same]) (not_started_of_forall stays.passes)
  · exact begins.serves

theorem serves_startPending (d : Device) (a : Answers) :
    d.Serves (d.startPending a).device (d.startPending a).log := by
  rcases d.startPending_cases a with ⟨same, stays⟩ | begins
  · exact serves_of_quiet (by rw [same]) (not_started_of_forall stays.passes)
  · exact begins.serves

theorem Activation.serves {o : Outcome (Except DriverError Unit)} (h : d.Activation index a o) :
    d.Serves o.device o.log := by
  cases h with
  | shutDown down => exact serves_of_quiet rfl (by simp [Started])
  | refused up hs => exact serves_of_quiet rfl (by simp [Started])
  | failed up hs ho he => exact serves_of_quiet ho.pendingStart ho.not_started
  | @done o p up hs ho hp =>
    have same : (o.device.activated index p).pendingStart = d.pendingStart := ho.pendingStart
    have served := serves_startPending (o.device.activated index p) a
    unfold Serves at served ⊢
    rw [served, same, started_append]
    simp [ho.not_started]

theorem serves_enterStandby (d : Device) :
    d.Serves d.enterStandby.device d.enterStandby.log := by
  refine serves_of_quiet ?_ d.not_started_enterStandby
  by_cases hs : d.state = .active
  · simp only [enterStandby, transition_enterStandby, if_pos hs, haltStream_device]
    rfl
  · simp only [enterStandby, transition_enterStandby, if_neg hs]

theorem serves_resume (d : Device) (a : Answers) :
    d.Serves (d.resume a).device (d.resume a).log := by
  by_cases hs : d.state = .standby
  · simp only [resume, leaveStandby_eq, if_pos hs]
    exact serves_startPending d.resumed a
  · simp only [resume, leaveStandby_eq, if_neg hs]
    exact serves_of_quiet rfl (by simp [Started])

theorem Serves.accounts (h : d.Serves e log) (ready : s ≠ .call .streamStart)
    (stop : s ≠ .call .stopStreaming) (deactivate : s ≠ .call .deactivate) :
    d.Accounts e s log := by
  unfold Serves at h
  simpa [Accounts, Event.Queues, Event.Settles, ready, stop, deactivate] using h

theorem Coherent.up_of_takes (h : d.Coherent) (k : d.Takes a s e log)
    (up : e.isShutDown = false) : d.isShutDown = false := by
  by_contra down
  have gone : e.isShutDown = true :=
    (k.parts h.in_use_of_renderReady).preserve (fun down part => part.isShutDown down)
      (by simpa using down)
  simp [up] at gone

theorem Coherent.deactivate_of_inactive (h : d.Coherent) (hs : d.state = .inactive) :
    d.deactivate = ⟨d, [], ()⟩ := by
  simp [deactivate, hs, h.pipeline_eq_none hs]

theorem Coherent.accounts_deactivate (h : d.Coherent) :
    d.Accounts d.deactivate.device (.call .deactivate) d.deactivate.log := by
  by_cases hs : d.state = .inactive
  · simp [Accounts, h.deactivate_of_inactive hs, Event.Queues, Event.Settles, Started, hs]
  · have used : d.deactivate = d.teardown := by simp [deactivate, hs]
    simp [Accounts, used, teardown_device, Event.Queues, Event.Settles, hs]

theorem Coherent.accounts_streamStart (h : d.Coherent)
    (on : d.config.streaming.startOnClientReady = true) (up : d.isShutDown = false) :
    d.Accounts (d.streamStart a).device (.call .streamStart) (d.streamStart a).log := by
  cases hs : d.state with
  | inactive => simp [Accounts, streamStart, up, hs, Event.Queues]
  | activating => exact absurd hs h.settled
  | active =>
    have start : d.streamStart a = d.startStreaming a := by
      simp [streamStart, up, hs, clientReady, on]
    have served := serves_startStreaming d a
    unfold Serves at served
    rw [start]
    simpa [Accounts, Event.Queues, Event.Settles, hs] using served
  | standby =>
    have on' : d.resumed.config.streaming.startOnClientReady = true := on
    have start : d.streamStart a = d.resumed.startStreaming a := by
      simp [streamStart, up, hs, leaveStandby_eq, clientReady, on']
    have served : d.Serves (d.resumed.startStreaming a).device (d.resumed.startStreaming a).log :=
      serves_startStreaming d.resumed a
    unfold Serves at served
    rw [start]
    simpa [Accounts, Event.Queues, Event.Settles, hs] using served

/-- A step queues a start, settles it, or leaves it. -/
theorem Coherent.accounts_of_takes (h : d.Coherent)
    (on : d.config.streaming.startOnClientReady = true) (k : d.Takes a s e log)
    (up : e.isShutDown = false) : d.Accounts e s log := by
  have up' := h.up_of_takes k up
  cases k with
  | activate index =>
    exact (activate_cases h.in_use_of_renderReady index a).serves.accounts
      (by simp) (by simp) (by simp)
  | deactivate => exact h.accounts_deactivate
  | enterStandby =>
    exact (serves_enterStandby d).accounts (by simp) (by simp) (by simp)
  | resume => exact (serves_resume d a).accounts (by simp) (by simp) (by simp)
  | shutDown => simp [d.isShutDown_shutDown] at up
  | startStreaming =>
    exact (serves_startStreaming d a).accounts (by simp) (by simp) (by simp)
  | stopStreaming =>
    have dropped : d.stopStreaming.device.pendingStart = false := by
      rw [stopStreaming, haltStream_device]
    simp [Accounts, dropped, Event.Queues, Event.Settles]
  | streamStart => exact h.accounts_streamStart on up'
  | other hs stays =>
    have served : d.Serves e log :=
      serves_of_quiet stays.footing.pendingStart (not_started_of_forall stays.passes)
    refine served.accounts ?_ ?_ ?_ <;>
    · rintro rfl
      cases hs

end Device

/-! ## Runs -/

theorem Device.pendingStart_of_build? {config : Config} {equipment : Equipment} {d : Device}
    (built : Device.build? config equipment = some (.ok d)) : d.pendingStart = false := by
  obtain ⟨-, interval, -, latency, -, rfl⟩ := build?_eq_ok_iff.1 built
  rfl

section

variable {start r : Rig} {steps : List (Step × Answers)} {log : List Effect}

/-- The device has a start queued exactly when the run says so. -/
theorem Rig.pendingStart_iff_queued (h : start.device.Coherent)
    (fresh : start.device.pendingStart = false)
    (on : start.device.config.streaming.startOnClientReady = true)
    (ran : start.run? steps = some (r, log)) (up : r.device.isShutDown = false) :
    r.device.pendingStart = true ↔ Queued (start.events steps) := by
  refine run?_induction
    (motive := fun steps r _ => r.device.isShutDown = false →
      (r.device.pendingStart = true ↔ Queued (start.events steps))) ?_ ?_ ran up
  · intro _
    simp [fresh, events, Queued, not_since_nil]
  · intro steps m before s a r l reply hm ih hl up
    have coherent := coherent_of_run? h hm
    have takes := takes_of_step? coherent.quiet hl
    have on' : m.device.config.streaming.startOnClientReady = true := by
      rw [(built_of_run? h hm).1, on]
    have accounts := coherent.accounts_of_takes on' takes up
    unfold Device.Accounts at accounts
    rw [accounts, ih (coherent.up_of_takes takes up), events_concat hm hl, Queued, Queued,
      since_concat]

/-- Steps that do not settle a start that is queued: those that fail, a deactivation of a device
that is not in use, and the way through standby and activations of a client that does not take up
the stream. -/
inductive Device.LeavesQueued (d : Device) (a : Answers) : Step → Reply → Prop
  | fails {s : Step} {e : DriverError} : d.LeavesQueued a s (.result (.error e))
  | unused {reply : Reply} (hs : d.state = .inactive) :
    d.LeavesQueued a (.call .deactivate) reply
  | standby {reply : Reply} : d.LeavesQueued a (.call .enterStandby) reply
  | activates {index : UInt32} {reply : Reply} (missed : ¬ a.TakeUp) :
    d.LeavesQueued a (.call (.activate index)) reply
  | resumes {reply : Reply} (missed : ¬ a.TakeUp) : d.LeavesQueued a (.call .resume) reply

variable {r' : Rig} {s : Step} {a : Answers} {l : List Effect} {reply : Reply}

theorem Rig.not_settles (h : r.device.Coherent) (step : r.step? s a = some (r', l, reply))
    (leaves : r.device.LeavesQueued a s reply) : ¬ (Event.mk r.device s l).Settles := by
  cases leaves with
  | fails =>
    rintro (rfl | started | ⟨rfl, -⟩)
    · simp [step?, call?, settle] at step
    · exact not_started_of_error h step started
    · simp [step?, call?, settle] at step
  | unused hs =>
    simp only [step?, call?, settle, h.deactivate_of_inactive hs, Option.some.injEq,
      Prod.mk.injEq] at step
    simp [Event.Settles, ← step.2.1, hs, Started]
  | standby =>
    cases step
    simpa [Event.Settles] using r.device.not_started_enterStandby
  | activates missed =>
    cases step
    rintro (hs | started | ⟨hs, -⟩)
    · cases hs
    · exact missed
        ((Device.activate_cases h.in_use_of_renderReady _ a).of_started started).2.2
    · cases hs
  | resumes missed =>
    cases step
    rintro (hs | started | ⟨hs, -⟩)
    · cases hs
    · exact missed (Device.resume_of_started started).2.2
    · cases hs

end

/-! ## Queued starts of a run -/

/-- After every run of a device that starts its stream when the client is ready, an activation or
a resumption that succeeds starts it exactly if a start is queued and the client and the encoder
take it up.  A call that fails leaves a queued start queued, as does an activation that does not
start the stream and the way through standby.  Whether an activation or a resumption succeeds does
not depend on the start.  A device that is not to start its stream when the client is ready never
does so in one of these calls. -/
theorem queued_start_of_run {config : Config} {equipment : Equipment} {d : Device} {capacity : Nat}
    {r : Rig} {steps : List (Step × Answers)} {log : List Effect}
    (built : Device.build? config equipment = some (.ok d))
    (ran : (Rig.ofDevice d capacity).run? steps = some (r, log)) :
    (config.streaming.startOnClientReady = true →
      (∀ c a r' l, (c = .resume ∨ ∃ index, c = .activate index) →
        r.step? (.call c) a = some (r', l, .result (.ok ())) →
        (r'.device.isStreaming = true ↔
          Queued ((Rig.ofDevice d capacity).events steps) ∧ a.TakeUp)) ∧
      ∀ s a r' l reply, r.step? s a = some (r', l, reply) → r.device.LeavesQueued a s reply →
        Queued ((Rig.ofDevice d capacity).events steps) →
        Queued ((Rig.ofDevice d capacity).events (steps ++ [(s, a)]))) ∧
    (∀ index a, (∃ r' l, r.step? (.call (.activate index)) a = some (r', l, .result (.ok ()))) ↔
      r.device.isShutDown = false ∧ r.device.state = .inactive ∧ r.device.allocates a = true) ∧
    (∀ a, (∃ r' l, r.step? (.call .resume) a = some (r', l, .result (.ok ()))) ↔
      r.device.state = .standby) ∧
    (config.streaming.startOnClientReady = false → ∀ c a r' l reply,
      (c = .resume ∨ c = .streamStart ∨ ∃ index, c = .activate index) →
      r.step? (.call c) a = some (r', l, reply) →
      ¬ Started l ∧ (r'.device.isStreaming = true → r.device.isStreaming = true)) := by
  have fresh : (Rig.ofDevice d capacity).device.Fresh config equipment :=
    Device.fresh_of_build? built
  have coherent := Rig.coherent_of_run? fresh.coherent ran
  have hconfig : r.device.config = config :=
    (Rig.built_of_run? fresh.coherent ran).1.trans fresh.config
  refine ⟨fun on => ⟨?_, ?_⟩, fun index a => ?_, fun a => ?_, ?_⟩
  · intro c a r' l hc step
    have up := Rig.isShutDown_of_step? coherent hc step
    have queued := Rig.pendingStart_iff_queued fresh.coherent (Device.pendingStart_of_build? built)
      (fresh.config ▸ on) ran up
    rw [Rig.isStreaming_of_step? coherent hc step, hconfig, queued]
    simp [on]
  · intro s a r' l reply step leaves queued
    rw [Rig.events_concat ran step, Queued, since_concat]
    exact .inr ⟨queued, Rig.not_settles coherent step leaves⟩
  · have done : (r.device.activate index a).answer = .ok () ↔ _ := coherent.activate_ok_iff
    rw [← done]
    simp [Rig.step?, Rig.call?, Rig.settle]
  · rw [← Device.resume_ok_iff (a := a)]
    simp [Rig.step?, Rig.call?, Rig.settle]
  · intro off c a r' l reply hc step
    have off : ¬ r.device.config.streaming.startOnClientReady = true := by simp [hconfig, off]
    have quiet : ¬ Started l := by
      intro started
      rcases hc with rfl | rfl | ⟨index, rfl⟩ <;> cases step
      · exact off (Device.resume_of_started started).2.1
      · exact off (Device.streamStart_of_started started).2
      · exact off ((Device.activate_cases coherent.in_use_of_renderReady index a).of_started
          started).2.1
    have parts := (Rig.takes_of_step? coherent.quiet step).parts coherent.in_use_of_renderReady
    exact ⟨quiet, fun streams => (parts.isStreaming streams).resolve_right quiet⟩

theorem queued_start_before_activation :
    ∃ r log r' l,
      (Rig.ofDevice .standard 4).run? [(.call .streamStart, .willing)] = some (r, log) ∧
      r.step? (.call (.activate 0)) .willing = some (r', l, .result (.ok ())) ∧
      r'.device.isStreaming = true ∧
      Queued ((Rig.ofDevice .standard 4).events [(.call .streamStart, .willing)]) := by
  have streams : ((Rig.ofDevice .standard 4).run? [(.call .streamStart, .willing)]).any fun x =>
      x.1.device.isShutDown = false ∧ x.1.device.state = .inactive ∧
        x.1.device.allocates .willing = true ∧
        (x.1.device.activate 0 .willing).device.isStreaming = true := by
    decide +kernel
  obtain ⟨⟨r, log⟩, ran, streams⟩ := (Option.any_eq_true _ _).1 streams
  simp only [decide_eq_true_eq] at streams
  obtain ⟨up, inactive, allocates, streams⟩ := streams
  obtain ⟨starts, activates, -, -⟩ := queued_start_of_run Device.build?_standard ran
  obtain ⟨r', l, step⟩ := (activates 0 .willing).2 ⟨up, inactive, allocates⟩
  have streaming : r'.device.isStreaming = true := by
    simp only [Rig.step?, Rig.call?, Rig.settle, Option.some.injEq, Prod.mk.injEq] at step
    rw [← step.1]
    exact streams
  exact ⟨r, log, r', l, ran, step, streaming,
    (((starts rfl).1 _ _ _ _ (.inr ⟨0, rfl⟩) step).1 streaming).1⟩

end Headset
