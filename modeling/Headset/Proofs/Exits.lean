import Headset.Proofs.Ledger
import Headset.Proofs.Starts
import Headset.Proofs.Tally

/-!
# The ways out of a start

A start of the stream looks for reasons against it in a fixed order, asks the client and the encoder
only when the device could stream and does not, and ends at the first fault.  `Device.StartExit`
lists the ways out that there are on a coherent device; the others that the code provides for are
never taken (`Coherent.startExit`).  What a start answers after a run, whom it calls and what it
changes is read off them (`start_of_run`).
-/

namespace Headset

/-- The calls of a start that is tried, up to the first fault. -/
def Config.startCalls (c : Config) (encoder : Nat) (a : Answers) : List Effect :=
  if a.connected then
    if a.streamConfig.isNone then [.isConnected true, .sendStreamConfig c.stream none,
      .encoderStart encoder a.encoderStart]
    else [.isConnected true, .sendStreamConfig c.stream a.streamConfig]
  else [.isConnected false]

namespace Device

/-- The device could stream, and does not. -/
def IsIdle (d : Device) : Prop := d.state = .active ∧ d.isStreaming = false

instance (d : Device) : Decidable d.IsIdle :=
  inferInstanceAs (Decidable (d.state = .active ∧ d.isStreaming = false))

/-- The device after its stream has begun. -/
def begun (d : Device) : Device :=
  { d with
    pipeline := d.pipeline.map fun p => { p with streaming := true }
    pendingStart := false
    status := Status.line d.serial "streaming" }

/-- The ways out of a start, in the order in which they are looked for. -/
inductive StartExit (d : Device) (a : Answers) : Outcome (Except DriverError Unit) → Prop
  | gone (down : d.isShutDown = true) : d.StartExit a ⟨d, [], .error .shutDown⟩
  | unfit (up : d.isShutDown = false) (unfit : d.state ≠ .active) :
    d.StartExit a ⟨d, [], .error (.invalidState .startStreaming d.state)⟩
  | runs (active : d.state = .active) (streams : d.isStreaming = true) :
    d.StartExit a ⟨d, [], .ok ()⟩
  | away (idle : d.IsIdle) (connected : a.connected = false) :
    d.StartExit a ⟨d, [.isConnected false], .error .clientNotConnected⟩
  | unsent {f : Fault} (idle : d.IsIdle) (connected : a.connected = true)
    (config : a.streamConfig = some f) :
    d.StartExit a ⟨d, [.isConnected true, .sendStreamConfig d.config.stream (some f)],
      .error (.stream f)⟩
  | unstarted {n : Nat} {f : Fault} (idle : d.IsIdle) (connected : a.connected = true)
    (config : a.streamConfig = none) (located : d.encoder? = some n)
    (encoder : a.encoderStart = some f) :
    d.StartExit a ⟨d, [.isConnected true, .sendStreamConfig d.config.stream none,
      .encoderStart n (some f)], .error (.stream f)⟩
  | begins {n : Nat} (idle : d.IsIdle) (connected : a.connected = true)
    (config : a.streamConfig = none) (located : d.encoder? = some n)
    (encoder : a.encoderStart = none) :
    d.StartExit a ⟨d.begun, [.isConnected true, .sendStreamConfig d.config.stream none,
      .encoderStart n none], .ok ()⟩

variable {d : Device} {a : Answers} {o : Outcome (Except DriverError Unit)}

/-- There are no other ways out: a device that is active has a pacer, and relays. -/
theorem Coherent.startExit (h : d.Coherent) (a : Answers) : d.StartExit a (d.startStreaming a) := by
  unfold startStreaming
  by_cases down : d.isShutDown = true
  · rw [if_pos down]
    exact .gone down
  rw [if_neg down]
  have up : d.isShutDown = false := by simpa using down
  by_cases unfit : d.state ≠ .active
  · rw [if_pos unfit]
    exact .unfit up unfit
  rw [if_neg unfit]
  have active : d.state = .active := not_not.1 unfit
  obtain ⟨p, hp⟩ := Option.isSome_iff_exists.1 (h.pipeline_isSome_iff.2 (by simp [active]))
  have located : d.encoder? = some p.encoder := encoder?_of_pipeline hp
  have related : ¬ d.relays.isNone = true := by simp [h.relays_isNone, up]
  simp only [hp, if_neg related]
  by_cases streams : p.streaming = true
  · rw [if_pos streams]
    exact .runs active (isStreaming_iff.2 ⟨p, hp, streams⟩)
  rw [if_neg streams]
  -- from here on the collaborators decide
  have idle : d.IsIdle := ⟨active, by simp [isStreaming, hp, streams]⟩
  cases connected : a.connected with
  | false => exact .away idle connected
  | true =>
    cases config : a.streamConfig with
    | some f => exact .unsent idle connected config
    | none =>
      cases encoder : a.encoderStart with
      | some f => exact .unstarted idle connected config located encoder
      | none =>
        have begun : d.begun = withStatus { d with
            pipeline := some { p with streaming := true }, pendingStart := false } "streaming" := by
          simp [begun, withStatus, hp, serial]
        simpa [begun] using StartExit.begins idle connected config located encoder

theorem Coherent.isStreaming_begun (h : d.Coherent) (idle : d.IsIdle) :
    d.begun.isStreaming = true := by
  have used : d.state ≠ .inactive := by simp [idle.1]
  obtain ⟨p, hp⟩ := Option.isSome_iff_exists.1 (h.pipeline_isSome_iff.2 used)
  simp [begun, isStreaming, hp]

namespace StartExit

/-! ## Answers -/

theorem shutDown_iff (h : d.StartExit a o) (coherent : d.Coherent) :
    o.answer = .error .shutDown ↔ d.isShutDown = true := by
  have up (active : d.state = .active) : d.isShutDown = false :=
    coherent.up_of_used (by simp [active])
  cases h with
  | gone down => simp [down]
  | unfit up => simp [up]
  | runs active => simp [up active]
  | away idle | unsent idle | unstarted idle | begins idle => simp [up idle.1]

theorem invalidState_iff (h : d.StartExit a o) (state : ActivationState) :
    o.answer = .error (.invalidState .startStreaming state) ↔
      d.isShutDown = false ∧ d.state ≠ .active ∧ d.state = state := by
  cases h with
  | gone down => simp [down]
  | unfit up unfit => simp [up, unfit]
  | runs active => simp [active]
  | away idle | unsent idle | unstarted idle | begins idle => simp [idle.1]

theorem clientNotConnected_iff (h : d.StartExit a o) (coherent : d.Coherent) :
    o.answer = .error .clientNotConnected ↔ d.IsIdle ∧ a.connected = false := by
  cases h with
  | gone down => simp [IsIdle, coherent.inactive_of_isShutDown down]
  | unfit up unfit => simp [IsIdle, unfit]
  | runs active streams => simp [IsIdle, streams]
  | away idle connected => simp [idle, connected]
  | unsent idle connected | unstarted idle connected | begins idle connected => simp [connected]

/-- The first fault is that of the client, if it has one. -/
theorem stream_iff (h : d.StartExit a o) (coherent : d.Coherent) (f : Fault) :
    o.answer = .error (.stream f) ↔
      d.IsIdle ∧ a.connected = true ∧ a.streamConfig.or a.encoderStart = some f := by
  cases h with
  | gone down => simp [IsIdle, coherent.inactive_of_isShutDown down]
  | unfit up unfit => simp [IsIdle, unfit]
  | runs active streams => simp [IsIdle, streams]
  | away idle connected => simp [connected]
  | unsent idle connected config => simp [idle, connected, config]
  | unstarted idle connected config located encoder => simp [idle, connected, config, encoder]
  | begins idle connected config located encoder => simp [config, encoder]

theorem ok_iff (h : d.StartExit a o) (coherent : d.Coherent) :
    o.answer = .ok () ↔ d.state = .active ∧ (d.isStreaming = true ∨
      a.connected = true ∧ a.streamConfig = none ∧ a.encoderStart = none) := by
  cases h with
  | gone down => simp [coherent.inactive_of_isShutDown down]
  | unfit up unfit => simp [unfit]
  | runs active streams => simp [active, streams]
  | away idle connected => simp [idle.2, connected]
  | unsent idle connected config => simp [idle.2, config]
  | unstarted idle connected config located encoder => simp [idle.2, encoder]
  | begins idle connected config located encoder => simp [idle.1, connected, config, encoder]

/-! ## Calls and changes -/

theorem log_of_not_isIdle (h : d.StartExit a o) (not : ¬ d.IsIdle) : o.log = [] := by
  cases h with
  | gone | unfit | runs => rfl
  | away idle | unsent idle | unstarted idle | begins idle => exact absurd idle not

theorem log_of_isIdle (h : d.StartExit a o) (coherent : d.Coherent) (idle : d.IsIdle) :
    ∃ n, d.encoder? = some n ∧ o.log = d.config.startCalls n a := by
  have used : d.state ≠ .inactive := by simp [idle.1]
  obtain ⟨p, hp⟩ := Option.isSome_iff_exists.1 (coherent.pipeline_isSome_iff.2 used)
  have there := encoder?_of_pipeline hp
  cases h with
  | gone down => exact absurd (coherent.inactive_of_isShutDown down) used
  | unfit up unfit => exact absurd idle.1 unfit
  | runs active streams =>
    rw [idle.2] at streams
    cases streams
  | away _ connected => exact ⟨_, there, by simp [Config.startCalls, connected]⟩
  | unsent _ connected config => exact ⟨_, there, by simp [Config.startCalls, connected, config]⟩
  | unstarted _ connected config located encoder =>
    exact ⟨_, located, by simp [Config.startCalls, connected, config, encoder]⟩
  | begins _ connected config located encoder =>
    exact ⟨_, located, by simp [Config.startCalls, connected, config, encoder]⟩

theorem starts_no_timer (h : d.StartExit a o) : ∀ x ∈ o.log, x.isTimerStart = false := by
  cases h <;> simp [Effect.isTimerStart]

/-- Only a stream that begins changes the device. -/
theorem device_eq (h : d.StartExit a o) :
    (d.IsIdle ∧ o.answer = .ok () ∧ o.device = d.begun) ∨
      ¬ (d.IsIdle ∧ o.answer = .ok ()) ∧ o.device = d := by
  cases h with
  | gone | unfit | away | unsent | unstarted => exact .inr ⟨by simp, rfl⟩
  | runs active streams => exact .inr ⟨by simp [IsIdle, streams], rfl⟩
  | begins idle => exact .inl ⟨idle, rfl, rfl⟩

end StartExit

end Device

/-- A call that starts no timer changes nothing of a rig but its device. -/
theorem Rig.settle_of_untimed {α : Type} (r : Rig) {o : Outcome α} (reply : α → Reply)
    (untimed : ∀ x ∈ o.log, x.isTimerStart = false) :
    r.settle o reply = ({ r with device := o.device }, o.log, reply o.answer) := by
  have none : o.log.any Effect.isTimerStart = false := by simpa using untimed
  rw [settle, none, Bool.or_false]

/-- After every run, whatever the collaborators answer, a start is refused as shut down after a
shutdown, as out of place by a device that is not active, for want of a client that is connected,
and with the fault of the client or else of the encoder.  It calls no one, unless the device is
active and does not stream; then it asks for the client, sends it the configuration of the stream
and starts the encoder that is held, each once and up to the first that fails.  It changes nothing,
unless the stream begins: then the device streams, no start is queued and the line says so. -/
theorem start_of_run {config : Config} {equipment : Equipment} {d : Device} {capacity : Nat}
    {r : Rig} {steps : List (Step × Answers)} {log : List Effect}
    (built : Device.build? config equipment = some (.ok d))
    (ran : (Rig.ofDevice d capacity).run? steps = some (r, log)) (a : Answers) :
    ∃ r' l result, r.step? (.call .startStreaming) a = some (r', l, .result result) ∧
      (result = .error .shutDown ↔ ∃ b, (.call .shutDown, b) ∈ steps) ∧
      (∀ state, result = .error (.invalidState .startStreaming state) ↔
        (¬ ∃ b, (.call .shutDown, b) ∈ steps) ∧ r.device.state ≠ .active ∧
          r.device.state = state) ∧
      (result = .error .clientNotConnected ↔ r.device.IsIdle ∧ a.connected = false) ∧
      (∀ f, result = .error (.stream f) ↔
        r.device.IsIdle ∧ a.connected = true ∧ a.streamConfig.or a.encoderStart = some f) ∧
      (result = .ok () ↔ r.device.state = .active ∧ (r.device.isStreaming = true ∨
        a.connected = true ∧ a.streamConfig = none ∧ a.encoderStart = none)) ∧
      (¬ r.device.IsIdle → l = []) ∧
      (r.device.IsIdle → ∃ n, Resource.encoder.Held n log ∧ l = config.startCalls n a) ∧
      (¬ (r.device.IsIdle ∧ result = .ok ()) → r' = r) ∧
      (r.device.IsIdle → result = .ok () → r' = { r with device := r.device.begun } ∧
        r'.device.isStreaming = true ∧ r'.device.pendingStart = false ∧
        r'.device.status = Status.line config.identity.serial "streaming") := by
  have fresh : (Rig.ofDevice d capacity).device.Fresh config equipment :=
    Device.fresh_of_build? built
  have coherent := Rig.coherent_of_run? fresh.coherent ran
  have down : r.device.isShutDown = true ↔ ∃ b, (.call .shutDown, b) ∈ steps :=
    Rig.isShutDown_iff_of_run? fresh.coherent (Device.uncounted_of_build? built).2 ran
  have config' : r.device.config = config := Rig.config_of_run? fresh ran
  have exit := coherent.startExit a
  have step : r.step? (.call .startStreaming) a =
      some (r.settle (r.device.startStreaming a) .result) := rfl
  rw [r.settle_of_untimed _ exit.starts_no_timer] at step
  generalize r.device.startStreaming a = o at exit step
  refine ⟨_, _, _, step, (exit.shutDown_iff coherent).trans down, fun state => ?_,
    exit.clientNotConnected_iff coherent, exit.stream_iff coherent, exit.ok_iff coherent,
    exit.log_of_not_isIdle, fun idle => ?_, ?_, fun idle ok => ?_⟩
  · rw [exit.invalidState_iff, ← down, Bool.not_eq_true]
  · obtain ⟨n, located, calls⟩ := exit.log_of_isIdle coherent idle
    have follows := Rig.follows_of_run? fresh.coherent ran
    rw [fresh.ledger_eq] at follows
    exact ⟨n, follows.encoder.eq_some_iff.1 located, config' ▸ calls⟩
  · intro not
    rcases exit.device_eq with ⟨idle, ok, -⟩ | ⟨-, same⟩
    · exact absurd ⟨idle, ok⟩ not
    · rw [same]
  · rcases exit.device_eq with ⟨-, -, begun⟩ | ⟨not, -⟩
    · rw [begun]
      refine ⟨rfl, coherent.isStreaming_begun idle, rfl, ?_⟩
      show Status.line r.device.config.identity.serial "streaming" = _
      rw [config']
    · exact absurd ⟨idle, ok⟩ not

/-- What an encoder says that does not take up the stream. -/
def Fault.busy : Fault := ⟨.encoder, "busy"⟩

/-- The client has its configuration when the encoder fails, and the device is as before. -/
theorem start_of_busyEncoder : ∃ r log n,
    (Rig.ofDevice .standard 4).run? [(.call (.activate 0), .willing)] = some (r, log) ∧
      Resource.encoder.Held n log ∧
      r.step? (.call .startStreaming) { Answers.willing with encoderStart := some .busy } = some (r,
        [.isConnected true, .sendStreamConfig ({} : Config).stream none,
          .encoderStart n (some .busy)], .result (.error (.stream .busy))) := by
  have computed : ((Rig.ofDevice .standard 4).run? [(.call (.activate 0), .willing)]).any fun x =>
      decide x.1.device.IsIdle := by
    decide +kernel
  obtain ⟨⟨r, log⟩, ran, computed⟩ := (Option.any_eq_true _ _).1 computed
  have idle : r.device.IsIdle := of_decide_eq_true computed
  obtain ⟨r', l, result, step, -, -, -, stream, -, -, calls, unchanged, -⟩ :=
    start_of_run Device.build?_standard ran { Answers.willing with encoderStart := some .busy }
  have failed : result = .error (.stream .busy) := (stream .busy).2 ⟨idle, rfl, rfl⟩
  obtain ⟨n, held, rfl⟩ := calls idle
  obtain rfl : r' = r := unchanged (by simp [failed])
  exact ⟨r', log, n, ran, held, failed ▸ step⟩

end Headset
