import Headset.Proofs.Replay

/-!
# Starts of the stream

The encoder takes up the stream in four calls: a start, the client's word that it is ready, an
activation and a resumption.  Each of them tells when it does (`started_startStreaming`,
`started_startPending`), and does so only where it succeeds; a stream runs only where it was
started (`Parts.isStreaming`).
-/

namespace Headset

/-- The stream was started: the encoder took it up. -/
def Started (log : List Effect) : Prop := ∃ n, .encoderStart n none ∈ log

/-- The client is connected, however often it is asked, and takes up the stream, as does the
encoder. -/
structure Answers.TakeUp (a : Answers) : Prop where
  connected : a.connected = true
  stillConnected : a.stillConnected = true
  streamConfig : a.streamConfig = none
  encoderStart : a.encoderStart = none

variable {l m : List Effect}

theorem started_append : Started (l ++ m) ↔ Started l ∨ Started m := by
  simp [Started, exists_or]

theorem not_started_of_forall {d : Device} (h : ∀ x ∈ l, d.MayPass x) : ¬ Started l := by
  rintro ⟨n, there⟩
  exact h _ there

namespace Device

variable {d e : Device} {a : Answers} {index : UInt32} {log : List Effect}

theorem Begins.started (h : d.Begins e log) : Started log := by
  cases h with
  | @intro p => exact ⟨p.encoder, by simp⟩

theorem Begins.isStreaming (h : d.Begins e log) : e.isStreaming = true := by
  cases h
  rfl

theorem Begins.pendingStart (h : d.Begins e log) : e.pendingStart = false := by
  cases h
  rfl

/-- No stage of an activation starts the stream. -/
theorem Allocation.not_started {o : Outcome (Except DriverError Pacer)}
    (h : d.Allocation index a o) : ¬ Started o.log := by
  rintro ⟨n, there⟩
  exact h.isStaged _ there

theorem Allocation.pendingStart {o : Outcome (Except DriverError Pacer)}
    (h : d.Allocation index a o) : o.device.pendingStart = d.pendingStart := by
  cases h <;> rfl

theorem not_started_enterStandby (d : Device) : ¬ Started d.enterStandby.log := by
  by_cases hs : d.state = .active
  · simp only [enterStandby, transition_enterStandby, if_pos hs, haltStream_log]
    cases d.stream? <;> simp [Started]
  · simp [enterStandby, transition_enterStandby, hs, Started]

/-! ## When the stream starts -/

/-- The device could stream, and does not. -/
structure MayStart (d : Device) : Prop where
  up : d.isShutDown = false
  active : d.state = .active
  relays : d.relays.isSome
  idle : ∃ p, d.pipeline = some p ∧ p.streaming = false

theorem started_startStreaming : Started (d.startStreaming a).log ↔
    d.MayStart ∧ a.connected = true ∧ a.streamConfig = none ∧ a.encoderStart = none := by
  constructor
  · intro started
    -- each way out before the encoder takes up the stream leaves no start in the log
    unfold startStreaming at started
    split at started
    · simp [Started] at started
    next up =>
    split at started
    · simp [Started] at started
    next active =>
    split at started
    · simp [Started] at started
    next p hp =>
    split at started
    · simp [Started] at started
    next idle =>
    split at started
    · simp [Started] at started
    next relays =>
    split at started
    · simp [Started] at started
    next connected =>
    dsimp only at started
    split at started
    · simp [Started] at started
    next config =>
    split at started
    · next f hf => simp [Started, hf] at started
    next encoder =>
    have may : d.MayStart := ⟨by simpa using up, by simpa using active, by
      simpa [Option.isSome_iff_ne_none] using relays, p, hp, by simpa using idle⟩
    exact ⟨may, by simpa using connected, config, encoder⟩
  · rintro ⟨⟨up, active, relays, p, hp, idle⟩, connected, config, encoder⟩
    have there : d.relays ≠ none := Option.isSome_iff_ne_none.1 relays
    simp [startStreaming, up, active, there, hp, idle, connected, config, encoder, Started]

/-- Of a queued start, the client is asked twice whether it is connected. -/
theorem started_startPending : Started (d.startPending a).log ↔
    d.config.streaming.startOnClientReady = true ∧ d.pendingStart = true ∧ d.MayStart ∧
      a.TakeUp := by
  unfold startPending
  split
  · next unready =>
    suffices ¬ (d.config.streaming.startOnClientReady = true ∧ d.pendingStart = true ∧
        d.MayStart ∧ a.TakeUp) by simpa [Started] using this
    rintro ⟨on, pending, may, -⟩
    have there : d.relays ≠ none := Option.isSome_iff_ne_none.1 may.relays
    simp [on, pending, there] at unready
  next ready =>
  simp only [Bool.or_eq_true, Bool.not_eq_true', not_or, Bool.not_eq_false] at ready
  split
  · next away =>
    suffices ¬ a.TakeUp by simp [Started, this]
    intro takeUp
    simp [takeUp.connected] at away
  next connected =>
  have later : Started (.isConnected true ::
      (d.startStreaming { a with connected := a.stillConnected }).log) ↔
      Started (d.startStreaming { a with connected := a.stillConnected }).log := by
    simp [Started]
  rw [later, started_startStreaming]
  constructor
  · rintro ⟨may, stillConnected, streamConfig, encoderStart⟩
    exact ⟨ready.1.1, ready.1.2, may, by simpa using connected, stillConnected, streamConfig,
      encoderStart⟩
  · rintro ⟨-, -, may, takeUp⟩
    exact ⟨may, takeUp.stillConnected, takeUp.streamConfig, takeUp.encoderStart⟩

theorem isStreaming_startPending (idle : d.isStreaming = false) :
    (d.startPending a).device.isStreaming = true ↔ Started (d.startPending a).log := by
  rcases d.startPending_cases a with ⟨same, stays⟩ | begins
  · simp [same, idle, not_started_of_forall stays.passes]
  · simp [begins.isStreaming, begins.started]

/-- The stream runs only where it ran before or was started. -/
theorem Part.isStreaming (h : d.Part e l) (streams : e.isStreaming = true) :
    d.isStreaming = true ∨ Started l := by
  cases h with
  | stays k => exact .inl (k.footing.isStreaming ▸ streams)
  | begins k => exact .inr k.started
  | halts =>
    rw [haltStream_device] at streams
    cases hp : d.pipeline <;> simp [Device.isStreaming, hp] at streams
  | tearsDown => simp [teardown_device, Device.isStreaming] at streams
  | fails up hs ho he => cases ho <;> exact .inl streams
  | activates up hs ho hp =>
    cases ho with
    | done => cases hp; simp [activated, withStatus, Device.isStreaming, Pacer.ofEncoder] at streams
    | _ => cases hp
  | queues | forgets | resumes | rests | leaves => exact .inl streams

theorem Parts.isStreaming (h : d.Parts e l) (streams : e.isStreaming = true) :
    d.isStreaming = true ∨ Started l := by
  induction h with
  | nil d => exact .inl streams
  | cons first rest ih =>
    rcases ih streams with before | started
    · exact (first.isStreaming before).imp_right fun h => started_append.2 (.inl h)
    · exact .inr (started_append.2 (.inr started))

theorem Coherent.mayStart (h : d.Coherent) (up : d.isShutDown = false) (active : d.state = .active)
    (idle : d.isStreaming = false) : d.MayStart := by
  have used : d.state ≠ .inactive := by simp [active]
  obtain ⟨p, hp⟩ := Option.isSome_iff_exists.1 (h.pipeline_isSome_iff.2 used)
  exact ⟨up, active, h.relays_isSome_iff.2 up, p, hp, by simpa [isStreaming, hp] using idle⟩

theorem Coherent.up_of_used (h : d.Coherent) (used : d.state ≠ .inactive) :
    d.isShutDown = false := by
  by_contra down
  exact used (h.inactive_of_isShutDown (by simpa using down))

theorem Coherent.not_isStreaming (h : d.Coherent) (hs : d.state ≠ .active) :
    d.isStreaming = false := by
  by_contra streams
  obtain ⟨p, hp, hstreaming⟩ := isStreaming_iff.1 (by simpa using streams)
  exact hs (h.active_of_streaming p hp hstreaming)

/-! ## Activations and resumptions -/

theorem Activation.of_started {o : Outcome (Except DriverError Unit)}
    (h : d.Activation index a o) (started : Started o.log) :
    o.answer = .ok () ∧ d.config.streaming.startOnClientReady = true ∧ a.TakeUp := by
  cases h with
  | shutDown down => simp [Started] at started
  | refused up hs => simp [Started] at started
  | failed up hs ho he =>
    exact absurd started ho.not_started
  | @done o p up hs ho hp =>
    have config : (o.device.activated index p).config = d.config := by cases ho <;> rfl
    rcases started_append.1 started with started | started
    · exact absurd started ho.not_started
    · obtain ⟨on, -, -, takeUp⟩ := started_startPending.1 started
      exact ⟨rfl, config ▸ on, takeUp⟩

theorem resume_of_started (started : Started (d.resume a).log) :
    (d.resume a).answer = .ok () ∧ d.config.streaming.startOnClientReady = true ∧ a.TakeUp := by
  by_cases hs : d.state = .standby
  · simp only [resume, leaveStandby_eq, if_pos hs] at started ⊢
    obtain ⟨on, -, -, takeUp⟩ := started_startPending.1 started
    exact ⟨trivial, on, takeUp⟩
  · simp [resume, leaveStandby_eq, hs, Started] at started

theorem startStreaming_of_started (started : Started (d.startStreaming a).log) :
    (d.startStreaming a).answer = .ok () := by
  obtain ⟨⟨up, active, relays, p, hp, idle⟩, connected, config, encoder⟩ :=
    started_startStreaming.1 started
  have there : d.relays ≠ none := Option.isSome_iff_ne_none.1 relays
  simp [startStreaming, up, active, there, hp, idle, connected, config, encoder]

theorem clientReady_of_started (started : Started (d.clientReady a).log) :
    (d.clientReady a).answer = .ok () ∧ d.config.streaming.startOnClientReady = true := by
  by_cases on : d.config.streaming.startOnClientReady = true
  · rw [clientReady, if_pos on] at started ⊢
    exact ⟨startStreaming_of_started started, on⟩
  · simp [clientReady, on, Started] at started

theorem streamStart_of_started (started : Started (d.streamStart a).log) :
    (d.streamStart a).answer = .ok () ∧ d.config.streaming.startOnClientReady = true := by
  by_cases down : d.isShutDown = true
  · simp [streamStart, down, Started] at started
  cases hs : d.state with
  | inactive | activating => simp [streamStart, down, hs, Started] at started
  | active =>
    have ready : d.streamStart a = d.clientReady a := by simp [streamStart, down, hs]
    rw [ready] at started ⊢
    exact clientReady_of_started started
  | standby =>
    have ready : d.streamStart a = d.resumed.clientReady a := by
      simp [streamStart, down, hs, leaveStandby_eq]
    rw [ready] at started ⊢
    exact clientReady_of_started started

theorem Activation.isStreaming_iff (h : d.Coherent) {o : Outcome (Except DriverError Unit)}
    (k : d.Activation index a o) (done : o.answer = .ok ()) :
    o.device.isStreaming = true ↔
      d.config.streaming.startOnClientReady = true ∧ d.pendingStart = true ∧ a.TakeUp := by
  cases k with
  | @done o p up hs ho hp =>
    -- once it is activated the device could stream, so only the queue and the client decide
    have coherent : (o.device.activated index p).Coherent := (h.allocation hs up ho).2 p hp
    have same : (o.device.activated index p).pendingStart = d.pendingStart := ho.pendingStart
    have config : (o.device.activated index p).config = d.config := by cases ho <;> rfl
    have up' : (o.device.activated index p).isShutDown = false := by cases ho <;> exact up
    have idle : (o.device.activated index p).isStreaming = false := by
      cases ho <;> cases hp
      rfl
    have may := coherent.mayStart up' rfl idle
    show (Device.startPending _ a).device.isStreaming = true ↔ _
    rw [isStreaming_startPending idle, started_startPending, config, same]
    simp [may]
  | _ => cases done

/-- An activation is done if it is allowed and no stage fails, whatever becomes of a queued
start. -/
theorem Coherent.activate_ok_iff (h : d.Coherent) : (d.activate index a).answer = .ok () ↔
    d.isShutDown = false ∧ d.state = .inactive ∧ d.allocates a = true := by
  have way := activate_cases h.in_use_of_renderReady index a
  generalize d.activate index a = o at way ⊢
  cases way with
  | shutDown down => simp [down]
  | refused up hs => simp [hs]
  | failed up hs ho he => simp [← allocates_activating d, ho.allocates_iff_ok, he]
  | done up hs ho hp =>
    have all : d.allocates a = true := by
      rw [← allocates_activating, ho.allocates_iff_ok]
      exact ⟨_, hp⟩
    simp [up, hs, all]

theorem resume_ok_iff : (d.resume a).answer = .ok () ↔ d.state = .standby := by
  by_cases hs : d.state = .standby <;> simp [resume, leaveStandby_eq, hs]

theorem Coherent.isStreaming_resume (h : d.Coherent) (hs : d.state = .standby) :
    (d.resume a).device.isStreaming = true ↔
      d.config.streaming.startOnClientReady = true ∧ d.pendingStart = true ∧ a.TakeUp := by
  have up := h.up_of_used (by simp [hs])
  have idle : d.resumed.isStreaming = false := h.not_isStreaming (by simp [hs])
  have may := (h.resumed hs).mayStart up rfl idle
  simp only [resume, leaveStandby_eq, if_pos hs]
  rw [isStreaming_startPending idle, started_startPending]
  have config : d.resumed.config = d.config := rfl
  have same : d.resumed.pendingStart = d.pendingStart := rfl
  rw [config, same]
  simp [may]

end Device

namespace Rig

variable {r r' : Rig} {c : Call} {s : Step} {a : Answers}

/-- A step that fails has not started the stream. -/
theorem not_started_of_error {e : DriverError} (h : r.device.Coherent)
    (step : r.step? s a = some (r', l, .result (.error e))) : ¬ Started l := by
  have takes := takes_of_step? h.quiet step
  generalize r'.device = after at takes
  intro started
  cases takes with
  | activate index =>
    have done := ((Device.activate_cases h.in_use_of_renderReady index a).of_started started).1
    simp [step?, call?, settle, done] at step
  | deactivate | stopStreaming | shutDown => simp [step?, call?, settle] at step
  | enterStandby => exact r.device.not_started_enterStandby started
  | resume =>
    have done := (Device.resume_of_started started).1
    simp [step?, call?, settle, done] at step
  | startStreaming =>
    have done := Device.startStreaming_of_started started
    simp [step?, call?, settle, done] at step
  | streamStart =>
    have done := (Device.streamStart_of_started started).1
    simp [step?, call?, settle, done] at step
  | other hs stays => exact not_started_of_forall stays.passes started

/-- A call that makes up for a queued start, once it succeeds. -/
theorem isStreaming_of_step? (h : r.device.Coherent)
    (hc : c = .resume ∨ ∃ index, c = .activate index)
    (step : r.step? (.call c) a = some (r', l, .result (.ok ()))) :
    r'.device.isStreaming = true ↔ r.device.config.streaming.startOnClientReady = true ∧
      r.device.pendingStart = true ∧ a.TakeUp := by
  rcases hc with rfl | ⟨index, rfl⟩
  · simp only [step?, call?, settle, Option.some.injEq, Prod.mk.injEq, Reply.result.injEq] at step
    obtain ⟨rfl, -, done⟩ := step
    exact h.isStreaming_resume (Device.resume_ok_iff.1 done)
  · simp only [step?, call?, settle, Option.some.injEq, Prod.mk.injEq, Reply.result.injEq] at step
    obtain ⟨rfl, -, done⟩ := step
    exact (Device.activate_cases h.in_use_of_renderReady index a).isStreaming_iff h done

theorem isShutDown_of_step? (h : r.device.Coherent)
    (hc : c = .resume ∨ ∃ index, c = .activate index)
    (step : r.step? (.call c) a = some (r', l, .result (.ok ()))) :
    r.device.isShutDown = false := by
  rcases hc with rfl | ⟨index, rfl⟩
  · simp only [step?, call?, settle, Option.some.injEq, Prod.mk.injEq, Reply.result.injEq] at step
    have standby := Device.resume_ok_iff.1 step.2.2
    exact h.up_of_used (by simp [standby])
  · simp only [step?, call?, settle, Option.some.injEq, Prod.mk.injEq, Reply.result.injEq] at step
    exact (h.activate_ok_iff.1 step.2.2).1

end Rig

end Headset
