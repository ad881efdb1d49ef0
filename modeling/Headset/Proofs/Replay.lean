import Headset.Proofs.Coherence
import Headset.Proofs.Stages

/-!
# Replay

The state of a device is what the table of the host's operations makes of its run.  Each step counts
as an operation or as none (`Device.operation?`), and moves the state as the table says
(`Coherent.state_of_takes`); so the state after a run is the fold of the table over the operations
that its steps count as (`state_eq_replay`).
-/

namespace Headset

/-- The state after an operation, if there is one.  An operation that the table does not accept
leaves the state alone. -/
def ActivationState.advance (s : ActivationState) (op : Option Lifecycle) : ActivationState :=
  (op.bind (transition s)).getD s

namespace ActivationState

variable (s : ActivationState)

@[simp] theorem advance_none : s.advance none = s := rfl

theorem advance_activate :
    s.advance (some .activate) = if s = .inactive then .active else s := by
  cases s <;> rfl

theorem advance_deactivate (h : s ≠ .activating) : s.advance (some .deactivate) = .inactive := by
  cases s with
  | activating => exact absurd rfl h
  | _ => rfl

theorem advance_enterStandby :
    s.advance (some .enterStandby) = if s = .active then .standby else s := by
  cases s <;> rfl

theorem advance_resume : s.advance (some .resume) = if s = .standby then .active else s := by
  cases s <;> rfl

theorem advance_shutDown : s.advance (some .shutDown) = .inactive := by
  cases s <;> rfl

end ActivationState

namespace Device

/-- The operation that a step counts as.  An activation counts unless the device is shut down, or
the table accepts it and a stage fails; the start of a stream counts as a resumption in standby. -/
def operation? (d : Device) (a : Answers) : Step → Option Lifecycle
  | .call (.activate _) =>
    if d.isShutDown then none
    else if (transition d.state .activate).isSome && !d.allocates a then none
    else some .activate
  | .call .deactivate => some .deactivate
  | .call .enterStandby => some .enterStandby
  | .call .resume => some .resume
  | .call .shutDown => some .shutDown
  | .call .streamStart => if d.state = .standby then some .resume else none
  | _ => none

variable {d e : Device} {a : Answers} {s : Step} {log : List Effect}

theorem state_startStreaming (d : Device) (a : Answers) :
    (d.startStreaming a).device.state = d.state := by
  rcases d.startStreaming_cases a with ⟨same, -⟩ | begins
  · rw [same]
  · exact begins.state

theorem state_startPending (d : Device) (a : Answers) :
    (d.startPending a).device.state = d.state := by
  rcases d.startPending_cases a with ⟨same, -⟩ | begins
  · rw [same]
  · exact begins.state

theorem state_clientReady (d : Device) (a : Answers) :
    (d.clientReady a).device.state = d.state := by
  unfold clientReady
  split
  · exact state_startStreaming d a
  · rfl

/-- Whether the stages succeed does not depend on the state. -/
theorem allocates_activating (d : Device) (a : Answers) :
    ({ d with state := .activating } : Device).allocates a = d.allocates a :=
  rfl

theorem Coherent.state_activate (h : d.Coherent) (index : UInt32) (a : Answers) :
    (d.activate index a).device.state =
      d.state.advance (d.operation? a (.call (.activate index))) := by
  have way := activate_cases h.in_use_of_renderReady index a
  generalize d.activate index a = o at way ⊢
  cases way with
  | shutDown down => simp [operation?, down]
  | refused up hs =>
    simp [operation?, up, hs, transition_activate, ActivationState.advance_activate]
  | failed up hs ho he =>
    have stuck : d.allocates a = false := by
      rw [← allocates_activating, Bool.eq_false_iff]
      simp [ho.allocates_iff_ok, he]
    simp [operation?, up, hs, stuck, transition_activate, withStatus]
  | done up hs ho hp =>
    have succeeds : d.allocates a = true := by
      rw [← allocates_activating, ho.allocates_iff_ok]
      exact ⟨_, hp⟩
    simp [state_startPending, operation?, up, hs, succeeds, ActivationState.advance_activate,
      activated, withStatus]

theorem Coherent.state_deactivate (h : d.Coherent) :
    d.deactivate.device.state = d.state.advance (some .deactivate) := by
  rw [ActivationState.advance_deactivate _ h.settled]
  unfold deactivate
  split
  · next idle => exact idle.1
  · rw [teardown_device]

theorem state_enterStandby (d : Device) :
    d.enterStandby.device.state = d.state.advance (some .enterStandby) := by
  rw [ActivationState.advance_enterStandby]
  by_cases hs : d.state = .active
  · simp [enterStandby, transition_enterStandby, hs, withStatus]
  · simp [enterStandby, transition_enterStandby, hs]

theorem state_resume (d : Device) (a : Answers) :
    (d.resume a).device.state = d.state.advance (some .resume) := by
  rw [ActivationState.advance_resume]
  by_cases hs : d.state = .standby
  · simp [resume, leaveStandby_eq, hs, state_startPending, resumed, withStatus]
  · simp [resume, leaveStandby_eq, hs]

theorem state_shutDown (d : Device) :
    d.shutDown.device.state = d.state.advance (some .shutDown) := by
  rw [ActivationState.advance_shutDown]
  unfold shutDown
  dsimp only
  split
  · rw [teardown_device]
    rfl
  · next used =>
    have hs : d.state = .inactive := by simpa using (not_or.1 used).1
    exact hs

theorem state_streamStart (d : Device) (a : Answers)
    (h : d.isShutDown = true → d.state = .inactive) :
    (d.streamStart a).device.state = d.state.advance (d.operation? a (.call .streamStart)) := by
  unfold operation? streamStart
  split
  · next down => simp [h down]
  · cases hs : d.state with
    | standby =>
      simp [leaveStandby_eq, hs, state_clientReady, resumed, withStatus,
        ActivationState.advance_resume]
    | active => simp [state_clientReady, hs]
    | inactive => simp
    | activating => simp

/-- A step that does not steer counts as no operation. -/
theorem operation?_of_not_steers (hs : s.steers = false) : d.operation? a s = none := by
  cases s with
  | call c => cases c <;> first | rfl | cases hs
  | _ => rfl

/-- Each step moves the state as the table says of the operation that it counts as. -/
theorem Coherent.state_of_takes (h : d.Coherent) (k : d.Takes a s e log) :
    e.state = d.state.advance (d.operation? a s) := by
  cases k with
  | activate index => exact h.state_activate index a
  | deactivate => exact h.state_deactivate
  | enterStandby => exact state_enterStandby d
  | resume => exact state_resume d a
  | shutDown => exact state_shutDown d
  | startStreaming => exact state_startStreaming d a
  | stopStreaming =>
    unfold stopStreaming
    rw [haltStream_device]
    rfl
  | streamStart => exact state_streamStart d a h.inactive_of_isShutDown
  | other hs stays =>
    rw [operation?_of_not_steers hs]
    exact stays.footing.state

/-! ## Refusals -/

theorem Coherent.activate_refused_iff (h : d.Coherent) (up : d.isShutDown = false)
    (index : UInt32) (a : Answers) (c : GuardedCall) (s : ActivationState) :
    (d.activate index a).answer = .error (.invalidState c s) ↔
      c = .activate ∧ s = d.state ∧ transition d.state .activate = none := by
  have way := activate_cases h.in_use_of_renderReady index a
  generalize d.activate index a = o at way ⊢
  rw [transition_activate]
  cases way with
  | shutDown down => simp [up] at down
  | refused up hs => simp [hs, eq_comm]
  | failed up hs ho he =>
    obtain ⟨s, f, rfl, -⟩ := ho.failsAt he
    simp [hs]
  | done up hs ho hp => simp [hs]

theorem enterStandby_refused_iff (d : Device) (c : GuardedCall) (s : ActivationState) :
    d.enterStandby.answer = .error (.invalidState c s) ↔
      c = .enterStandby ∧ s = d.state ∧ transition d.state .enterStandby = none := by
  rw [transition_enterStandby]
  by_cases hs : d.state = .active
  · simp [enterStandby, transition_enterStandby, hs]
  · simp [enterStandby, transition_enterStandby, hs, eq_comm]

theorem resume_refused_iff (d : Device) (a : Answers) (c : GuardedCall) (s : ActivationState) :
    (d.resume a).answer = .error (.invalidState c s) ↔
      c = .resume ∧ s = d.state ∧ transition d.state .resume = none := by
  rw [transition_resume]
  by_cases hs : d.state = .standby
  · simp [resume, leaveStandby_eq, hs]
  · simp [resume, leaveStandby_eq, hs, eq_comm]

end Device

/-! ## Runs -/

namespace Rig

/-- What the steps of a run count as, one after another. -/
def operations (r : Rig) : List (Step × Answers) → List (Option Lifecycle)
  | [] => []
  | (s, a) :: steps => r.device.operation? a s :: match r.step? s a with
    | none => []
    | some (m, _) => m.operations steps

theorem state_eq_foldl {start r : Rig} {steps : List (Step × Answers)} {log : List Effect}
    (h : start.device.Coherent) (ran : start.run? steps = some (r, log)) :
    r.device.state = (start.operations steps).foldl .advance start.device.state := by
  induction steps generalizing start log with
  | nil =>
    cases ran
    rfl
  | cons step steps ih =>
    obtain ⟨s, a⟩ := step
    rw [run?_cons] at ran
    obtain ⟨⟨m, l, reply⟩, hm, ran⟩ := Option.bind_eq_some_iff.1 ran
    obtain ⟨⟨r', log'⟩, rest, hr⟩ := Option.map_eq_some_iff.1 ran
    cases hr
    have takes := takes_of_step? h.quiet hm
    rw [operations, hm, List.foldl_cons, ← h.state_of_takes takes]
    exact ih (takes.coherent h) rest

end Rig

/-- After every run of a device its state is what the table of the host's operations makes of the
run. A device that is not shut down refuses a call of the table for its state exactly where the
table has no entry, and tells which call it was and in which state. -/
theorem replay_of_run {config : Config} {equipment : Equipment} {d : Device} {capacity : Nat}
    {r : Rig} {steps : List (Step × Answers)} {log : List Effect}
    (built : Device.build? config equipment = some (.ok d))
    (ran : (Rig.ofDevice d capacity).run? steps = some (r, log)) :
    r.device.state = ((Rig.ofDevice d capacity).operations steps).foldl .advance .inactive ∧
    (r.device.isShutDown = false → ∀ a c s,
      (∀ index, (r.device.activate index a).answer = .error (.invalidState c s) ↔
        c = .activate ∧ s = r.device.state ∧ transition r.device.state .activate = none) ∧
      (r.device.enterStandby.answer = .error (.invalidState c s) ↔
        c = .enterStandby ∧ s = r.device.state ∧ transition r.device.state .enterStandby = none) ∧
      ((r.device.resume a).answer = .error (.invalidState c s) ↔
        c = .resume ∧ s = r.device.state ∧ transition r.device.state .resume = none)) := by
  have fresh : (Rig.ofDevice d capacity).device.Fresh config equipment :=
    Device.fresh_of_build? built
  have coherent := Rig.coherent_of_run? fresh.coherent ran
  refine ⟨?_, fun up a c s => ⟨fun index => coherent.activate_refused_iff up index a c s,
    r.device.enterStandby_refused_iff c s, r.device.resume_refused_iff a c s⟩⟩
  rw [← fresh.state]
  exact Rig.state_eq_foldl fresh.coherent ran

theorem replay_upToStream :
    ∃ r log, (Rig.ofDevice .standard 4).run? Rig.upToStream = some (r, log) ∧
      (Rig.ofDevice .standard 4).operations Rig.upToStream = [some .activate, none] ∧
      r.device.state = .active := by
  have operations :
      (Rig.ofDevice .standard 4).operations Rig.upToStream = [some .activate, none] := by
    decide +kernel
  obtain ⟨r, log, ran, -⟩ := Rig.run?_upToStream
  obtain ⟨replay, -⟩ := replay_of_run Device.build?_standard ran
  rw [operations] at replay
  exact ⟨r, log, ran, operations, replay⟩

end Headset
