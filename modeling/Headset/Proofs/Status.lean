import Headset.Proofs.Cadence
import Headset.Proofs.Queue

/-!
# The status line

The line that tells the situation is written where an activation succeeds or fails, the stream
starts, the device goes to standby, comes back, is taken out of use or shut down.  `Device.Tells`
says what each step makes of it, and `status_of_run` that after every run with an activation in it
the line tells the situation of the device (`Device.Situated`).  One call changes the situation and
not the line: where `stopStreaming` stops the stream, the line still speaks of a stream
(`status_of_stopped_stream`).
-/

namespace Headset

/-- Whether a step may end the use of a device. -/
def Step.mayEnd : Step → Bool
  | .call (.activate _) => true
  | .call .deactivate => true
  | .call .shutDown => true
  | _ => false

/-- How a device came to be out of use. -/
inductive Ending where
  | failedActivation
  | teardown
  | shutDown
  deriving DecidableEq, Repr, Inhabited

def Ending.situation : Ending → String
  | .failedActivation => "failed to activate"
  | .teardown => "inactive"
  | .shutDown => "shut down"

namespace Device

/-- An activation that is not refused: it succeeds, or one of its stages fails. -/
def Attempts (d : Device) (s : Step) (a : Answers) : Prop :=
  ∃ index, s = .call (.activate index) ∧ ((d.activate index a).answer = .ok () ∨
    ∃ stage fault, (d.activate index a).answer = .error (.initialization stage fault))

/-- The steps after which a device is out of use. -/
inductive Ends (d : Device) (a : Answers) : Step → Ending → Prop
  | failed {index : UInt32} {stage : Stage} {fault : Fault}
    (he : (d.activate index a).answer = .error (.initialization stage fault)) :
    d.Ends a (.call (.activate index)) .failedActivation
  | tornDown (used : d.state ≠ .inactive) : d.Ends a (.call .deactivate) .teardown
  | shutDown : d.Ends a (.call .shutDown) .shutDown

end Device

namespace Moment

def Attempts (x : Moment) : Prop := x.before.device.Attempts x.step x.answers

def Ends (x : Moment) (e : Ending) : Prop := x.before.device.Ends x.answers x.step e

/-- The stream runs and is stopped by the call that does nothing else. -/
def Stops (x : Moment) : Prop :=
  x.step = .call .stopStreaming ∧ x.before.device.isStreaming = true

end Moment

/-- This ending was the last one. -/
def LastEnding (e : Ending) (moments : List Moment) : Prop :=
  Since (·.Ends e) (fun x => ∀ f, ¬ x.Ends f) moments

/-- The stream was stopped, and since then the device has stayed active without a start of it. -/
def Stopped (moments : List Moment) : Prop :=
  Since Moment.Stops (fun x => x.after.device.state = .active ∧ ¬ Started x.log) moments

/-- The situation of a device, by its state and by what happened to it. -/
inductive Device.Situated (d : Device) (moments : List Moment) : String → Prop
  | streaming (streams : d.isStreaming = true) : d.Situated moments "streaming"
  | stopped (active : d.state = .active) (idle : d.isStreaming = false)
    (stopped : Stopped moments) : d.Situated moments "streaming"
  | active (active : d.state = .active) (idle : d.isStreaming = false)
    (unstopped : ¬ Stopped moments) : d.Situated moments "active"
  | standby (standby : d.state = .standby) : d.Situated moments "standby"
  | ended {e : Ending} (inactive : d.state = .inactive) (last : LastEnding e moments) :
    d.Situated moments e.situation

/-- What a step does to the line, and to the situation that it tells. -/
inductive Device.Tells (d : Device) (a : Answers) (s : Step) (e : Device) (log : List Effect) : Prop
  | keeps (status : e.status = d.status) (state : e.state = d.state)
    (isStreaming : e.isStreaming = d.isStreaming) (unstarted : ¬ Started log)
    (unstopped : s = .call .stopStreaming → d.isStreaming = false)
    (goesOn : ∀ f, ¬ d.Ends a s f) (unattempted : ¬ d.Attempts s a)
  | stops (hs : s = .call .stopStreaming) (streams : d.isStreaming = true)
    (status : e.status = d.status) (state : e.state = d.state) (idle : e.isStreaming = false)
  | streams (streams : e.isStreaming = true) (status : e.status = Status.line d.serial "streaming")
  | activates (before : d.state ≠ .active) (active : e.state = .active)
    (idle : e.isStreaming = false) (status : e.status = Status.line d.serial "active")
  | rests (hs : s = .call .enterStandby) (standby : e.state = .standby)
    (status : e.status = Status.line d.serial "standby")
  | ends {f : Ending} (ends : d.Ends a s f) (inactive : e.state = .inactive)
    (status : e.status = Status.line d.serial f.situation)

/-! ## What a step tells -/

namespace Device

variable {d e : Device} {a : Answers} {s : Step} {index : UInt32} {log : List Effect}

/-- Only an activation and the two calls that take a device out of use can end its use. -/
theorem not_ends (goesOn : s.mayEnd = false) (f : Ending) : ¬ d.Ends a s f := by
  rintro ⟨_⟩ <;> cases goesOn

theorem not_attempts (goesOn : s.mayEnd = false) : ¬ d.Attempts s a := by
  rintro ⟨index, rfl, -⟩
  cases goesOn

/-- A step that keeps the situation, and stops no stream. -/
theorem tells_of_same (goesOn : s.mayEnd = false)
    (unstopped : s = .call .stopStreaming → d.isStreaming = false) (status : e.status = d.status)
    (state : e.state = d.state) (streams : e.isStreaming = d.isStreaming)
    (unstarted : ¬ Started log) : d.Tells a s e log :=
  .keeps status state streams unstarted unstopped (not_ends goesOn) (not_attempts goesOn)

theorem Begins.status (h : d.Begins e log) : e.status = Status.line d.serial "streaming" := by
  cases h
  rfl

/-- A device that has come to be active, and then makes up for a queued start. -/
theorem tells_startPending (before : d.state ≠ .active) (active : e.state = .active)
    (idle : e.isStreaming = false) (status : e.status = Status.line d.serial "active")
    (serial : e.serial = d.serial) : d.Tells a s (e.startPending a).device log := by
  rcases e.startPending_cases a with ⟨same, -⟩ | begins
  · rw [same]
    exact .activates before active idle status
  · exact .streams begins.isStreaming (serial ▸ begins.status)

theorem tells_startStreaming (goesOn : s.mayEnd = false)
    (unstopped : s = .call .stopStreaming → d.isStreaming = false) :
    d.Tells a s (d.startStreaming a).device (d.startStreaming a).log := by
  rcases d.startStreaming_cases a with ⟨same, stays⟩ | begins
  · rw [same]
    exact tells_of_same goesOn unstopped rfl rfl rfl (not_started_of_forall stays.passes)
  · exact .streams begins.isStreaming begins.status

theorem Activation.tells {o : Outcome (Except DriverError Unit)}
    (way : d.Activation index a o) (called : d.activate index a = o) :
    d.Tells a (.call (.activate index)) o.device o.log := by
  have refuses {error : DriverError} (answer : o.answer = .error error)
      (refused : ∀ stage fault, error ≠ .initialization stage fault) :
      (∀ f, ¬ d.Ends a (.call (.activate index)) f) ∧
        ¬ d.Attempts (.call (.activate index)) a := by
    constructor
    · rintro f ⟨he⟩
      rw [called, answer] at he
      exact refused _ _ (Except.error.inj he)
    · rintro ⟨index, ⟨⟩, he⟩
      rw [called, answer] at he
      rcases he with he | ⟨stage, fault, he⟩
      · cases he
      · exact refused _ _ (Except.error.inj he)
  cases way with
  | shutDown down =>
    obtain ⟨goesOn, unattempted⟩ := refuses rfl (by simp)
    exact .keeps rfl rfl rfl (by simp [Started]) (by simp) goesOn unattempted
  | refused up hs =>
    obtain ⟨goesOn, unattempted⟩ := refuses rfl (by simp)
    exact .keeps rfl rfl rfl (by simp [Started]) (by simp) goesOn unattempted
  | failed up hs ho he =>
    obtain ⟨stage, fault, rfl, -⟩ := ho.failsAt he
    refine .ends (.failed (by rw [called])) rfl ?_
    cases ho <;> rfl
  | @done o p up hs ho hp =>
    refine tells_startPending (by simp [hs]) rfl ?_ ?_ ?_
    · cases ho <;> cases hp
      rfl
    · cases ho <;> rfl
    · cases ho <;> rfl

theorem Coherent.tells_deactivate (h : d.Coherent) :
    d.Tells a (.call .deactivate) d.deactivate.device d.deactivate.log := by
  by_cases hs : d.state = .inactive
  · rw [h.deactivate_of_inactive hs]
    refine .keeps rfl rfl rfl (by simp [Started]) (by simp) ?_ ?_
    · rintro f ⟨⟩
      contradiction
    · rintro ⟨index, ⟨⟩, -⟩
  · have used : d.deactivate = d.teardown := by simp [deactivate, hs]
    rw [used]
    exact .ends (.tornDown hs) (by rw [teardown_device]) (by rw [teardown_device]; rfl)

theorem tells_enterStandby (d : Device) :
    d.Tells a (.call .enterStandby) d.enterStandby.device d.enterStandby.log := by
  by_cases hs : d.state = .active
  · simp only [enterStandby, transition_enterStandby, if_pos hs, haltStream_device]
    exact .rests rfl rfl rfl
  · simp only [enterStandby, transition_enterStandby, if_neg hs]
    exact tells_of_same rfl (by simp) rfl rfl rfl (by simp [Started])

theorem Coherent.tells_resume (h : d.Coherent) :
    d.Tells a (.call .resume) (d.resume a).device (d.resume a).log := by
  by_cases hs : d.state = .standby
  · simp only [resume, leaveStandby_eq, if_pos hs]
    have used : d.state ≠ .active := by simp [hs]
    exact tells_startPending used rfl (h.not_isStreaming used) rfl rfl
  · simp only [resume, leaveStandby_eq, if_neg hs]
    exact tells_of_same rfl (by simp) rfl rfl rfl (by simp [Started])

theorem tells_shutDown (d : Device) :
    d.Tells a (.call .shutDown) d.shutDown.device d.shutDown.log := by
  refine .ends .shutDown ?_ ?_
  · rw [state_shutDown, ActivationState.advance_shutDown]
  · unfold shutDown
    dsimp only
    split
    · rw [teardown_device]
      rfl
    · rfl

theorem tells_stopStreaming (d : Device) :
    d.Tells a (.call .stopStreaming) d.stopStreaming.device d.stopStreaming.log := by
  have idle : d.stopStreaming.device.isStreaming = false := by
    rw [stopStreaming, haltStream_device]
    cases d.pipeline <;> simp [isStreaming]
  have quiet : ¬ Started d.stopStreaming.log := by
    rw [stopStreaming, haltStream_log]
    cases stream? _ <;> simp [Started]
  have status : d.stopStreaming.device.status = d.status := by
    rw [stopStreaming, haltStream_device]
  have state : d.stopStreaming.device.state = d.state := by
    rw [stopStreaming, haltStream_device]
  cases streams : d.isStreaming with
  | true => exact .stops rfl streams status state idle
  | false =>
    exact tells_of_same rfl (fun _ => streams) status state
      (idle.trans streams.symm) quiet

theorem Coherent.tells_streamStart (h : d.Coherent) :
    d.Tells a (.call .streamStart) (d.streamStart a).device (d.streamStart a).log := by
  have keeps (pending : Bool) :
      d.Tells a (.call .streamStart) { d with pendingStart := pending } [] :=
    tells_of_same rfl (by simp) rfl rfl rfl (by simp [Started])
  unfold streamStart
  split
  · exact keeps d.pendingStart
  split
  · unfold clientReady
    split
    · exact tells_startStreaming rfl (by simp)
    · exact keeps true
  · next hs =>
    have used : d.state ≠ .active := by simp [hs]
    have idle := h.not_isStreaming used
    rw [leaveStandby_eq, if_pos hs]
    -- back from standby the line says so, whatever becomes of the start
    show d.Tells a _ (d.resumed.clientReady a).device (d.resumed.clientReady a).log
    unfold clientReady
    split
    · rcases d.resumed.startStreaming_cases a with ⟨same, -⟩ | begins
      · rw [same]
        exact .activates used rfl idle rfl
      · exact .streams begins.isStreaming begins.status
    · exact .activates used rfl idle rfl
  · exact keeps true
  · exact keeps true

/-- Every step tells the line what it makes of the situation, or keeps both; but for the call that
stops the stream. -/
theorem Coherent.tells_of_takes (h : d.Coherent) (k : d.Takes a s e log) : d.Tells a s e log := by
  cases k with
  | activate index => exact (activate_cases h.in_use_of_renderReady index a).tells rfl
  | deactivate => exact h.tells_deactivate
  | enterStandby => exact tells_enterStandby d
  | resume => exact h.tells_resume
  | shutDown => exact tells_shutDown d
  | startStreaming => exact tells_startStreaming rfl (by simp)
  | stopStreaming => exact tells_stopStreaming d
  | streamStart => exact h.tells_streamStart
  | other hs stays =>
    have goesOn : s.mayEnd = false := by
      cases s with
      | call c => cases c <;> first | rfl | cases hs
      | _ => rfl
    refine tells_of_same goesOn ?_ (congrArg Footing.status stays.footing.footing)
      stays.footing.state stays.footing.isStreaming (not_started_of_forall stays.passes)
    rintro rfl
    cases hs

end Device

/-! ## The situation along the moments -/

section

variable {d : Device} {moments : List Moment} {x : Moment} {e f : Ending} {t u : String}

theorem Device.Ends.unique {a : Answers} {s : Step} (h : d.Ends a s e) (k : d.Ends a s f) :
    e = f := by
  cases h <;> cases k <;> rfl

theorem Device.Ends.ne_stopStreaming {a : Answers} {s : Step} (h : d.Ends a s e) :
    s ≠ .call .stopStreaming := by
  cases h <;> simp

theorem LastEnding.unique (h : LastEnding e moments) (k : LastEnding f moments) : e = f :=
  since_unique (P := fun e x => Moment.Ends x e) Device.Ends.unique h k

theorem lastEnding_concat_of_ends (h : x.Ends e) : LastEnding f (moments ++ [x]) ↔ f = e := by
  constructor
  · exact fun last => last.unique (since_concat.2 (.inl h))
  · rintro rfl
    exact since_concat.2 (.inl h)

theorem lastEnding_concat_of_not_ends (h : ∀ f, ¬ x.Ends f) :
    LastEnding f (moments ++ [x]) ↔ LastEnding f moments := by
  unfold LastEnding
  rw [since_concat]
  simp [h]

/-- A device is in one situation only. -/
theorem Device.Situated.unique (coherent : d.Coherent) (h : d.Situated moments t)
    (k : d.Situated moments u) : t = u := by
  have active (streams : d.isStreaming = true) : d.state = .active := by
    obtain ⟨p, hp, running⟩ := Device.isStreaming_iff.1 streams
    exact coherent.active_of_streaming p hp running
  cases h with
  | streaming streams => cases k <;> simp_all
  | stopped hs idle stopped => cases k <;> simp_all
  | active hs idle unstopped => cases k <;> simp_all
  | standby hs => cases k <;> simp_all
  | ended hs last =>
    cases k with
    | ended _ last' => rw [last.unique last']
    | _ => simp_all

/-- A device whose last ending is known is in some situation. -/
theorem Device.Coherent.exists_situated (coherent : d.Coherent)
    (ended : d.state = .inactive → ∃ e, LastEnding e moments) : ∃ t, d.Situated moments t := by
  cases hs : d.state with
  | inactive =>
    obtain ⟨e, last⟩ := ended hs
    exact ⟨_, .ended hs last⟩
  | activating => exact absurd hs coherent.settled
  | standby => exact ⟨_, .standby hs⟩
  | active =>
    cases streams : d.isStreaming with
    | true => exact ⟨_, .streaming streams⟩
    | false =>
      by_cases stopped : Stopped moments
      · exact ⟨_, .stopped hs streams stopped⟩
      · exact ⟨_, .active hs streams stopped⟩

/-- Where no stream was stopped by the call for it, the situation is that of the state, and for a
device out of use the last ending. -/
theorem Device.situated_iff_of_not_stopped (unstopped : ¬ Stopped moments) :
    d.Situated moments t ↔ t = "streaming" ∧ d.isStreaming = true ∨
      t = "active" ∧ d.state = .active ∧ d.isStreaming = false ∨
      t = "standby" ∧ d.state = .standby ∨
      ∃ e : Ending, t = e.situation ∧ d.state = .inactive ∧ LastEnding e moments := by
  constructor
  · intro h
    cases h with
    | streaming streams => exact .inl ⟨rfl, streams⟩
    | stopped _ _ stopped => exact absurd stopped unstopped
    | active active idle => exact .inr (.inl ⟨rfl, active, idle⟩)
    | standby standby => exact .inr (.inr (.inl ⟨rfl, standby⟩))
    | ended inactive last => exact .inr (.inr (.inr ⟨_, rfl, inactive, last⟩))
  · rintro (⟨rfl, streams⟩ | ⟨rfl, active, idle⟩ | ⟨rfl, standby⟩ | ⟨e, rfl, inactive, last⟩)
    · exact .streaming streams
    · exact .active active idle unstopped
    · exact .standby standby
    · exact .ended inactive last

/-- The line of a device tells what happened to it. -/
structure Device.Told (d : Device) (moments : List Moment) : Prop where
  active_of_stopped : Stopped moments → d.state = .active
  ended : (∃ x ∈ moments, x.Attempts) → d.state = .inactive → ∃ e, LastEnding e moments
  status : ∀ t, d.Situated moments t → d.status = Status.line d.serial t

theorem Device.Situated.told (coherent : d.Coherent) (h : d.Situated moments t)
    (status : d.status = Status.line d.serial t) (active : Stopped moments → d.state = .active)
    (ended : d.state = .inactive → ∃ e, LastEnding e moments) : d.Told moments where
  active_of_stopped := active
  ended _ := ended
  status u hu := by rw [status, h.unique coherent hu]

theorem stopped_concat (h : ¬ x.Stops) : Stopped (moments ++ [x]) ↔
    Stopped moments ∧ x.after.device.state = .active ∧ ¬ Started x.log := by
  unfold Stopped
  rw [since_concat]
  simp [h]

/-- A step that keeps the situation does so whatever it is. -/
theorem Device.Situated.of_concat (kept : x.after.device.state = x.before.device.state)
    (streams : x.after.device.isStreaming = x.before.device.isStreaming)
    (unstarted : ¬ Started x.log) (unstopped : ¬ x.Stops) (goesOn : ∀ f, ¬ x.Ends f)
    (h : x.after.device.Situated (moments ++ [x]) t) : x.before.device.Situated moments t := by
  cases h with
  | streaming running => exact .streaming (streams ▸ running)
  | stopped active idle stopped =>
    exact .stopped (kept ▸ active) (streams ▸ idle) ((stopped_concat unstopped).1 stopped).1
  | active active idle running =>
    refine .active (kept ▸ active) (streams ▸ idle) fun stopped => running ?_
    exact (stopped_concat unstopped).2 ⟨stopped, active, unstarted⟩
  | standby standby => exact .standby (kept ▸ standby)
  | ended inactive last =>
    exact .ended (kept ▸ inactive) ((lastEnding_concat_of_not_ends goesOn).1 last)

/-- Each step keeps the line to what happened. -/
theorem Device.Told.concat (told : x.before.device.Told moments)
    (coherent : x.before.device.Coherent) (coherent' : x.after.device.Coherent)
    (serial : x.after.device.serial = x.before.device.serial)
    (tells : x.before.device.Tells x.answers x.step x.after.device x.log) :
    x.after.device.Told (moments ++ [x]) := by
  have running (streams : x.before.device.isStreaming = true) :
      x.before.device.state = .active := by
    by_contra used
    simp [coherent.not_isStreaming used] at streams
  -- where the stop itself is not the last step, the device has stayed active since
  have active (unstopped : ¬ x.Stops) (stopped : Stopped (moments ++ [x])) :
      x.after.device.state = .active := ((stopped_concat unstopped).1 stopped).2.1
  cases tells with
  | keeps status state streams unstarted unstopped goesOn unattempted =>
    have unstopped : ¬ x.Stops := fun ⟨hs, streams⟩ => by simp [unstopped hs] at streams
    refine ⟨active unstopped, ?_, fun t ht => ?_⟩
    · rintro ⟨y, hy, attempts⟩ inactive
      have before : ∃ y ∈ moments, y.Attempts := by
        rcases List.mem_append.1 hy with hy | hy
        · exact ⟨y, hy, attempts⟩
        · obtain rfl : y = x := by simpa using hy
          exact absurd attempts unattempted
      obtain ⟨e, last⟩ := told.ended before (state ▸ inactive)
      exact ⟨e, (lastEnding_concat_of_not_ends goesOn).2 last⟩
    · rw [status, serial]
      exact told.status t (ht.of_concat state streams unstarted unstopped goesOn)
  | stops hs streams status state idle =>
    have active : x.after.device.state = .active := state.trans (running streams)
    have stopped : Stopped (moments ++ [x]) := since_concat.2 (.inl ⟨hs, streams⟩)
    refine (Situated.stopped active idle stopped).told coherent' ?_ (fun _ => active)
      (by simp [active])
    rw [status, serial]
    exact told.status _ (.streaming streams)
  | streams streams status =>
    have active : x.after.device.state = .active := by
      by_contra used
      simp [coherent'.not_isStreaming used] at streams
    refine (Situated.streaming streams).told coherent' ?_ (fun _ => active) (by simp [active])
    rw [status, serial]
  | activates used active idle status =>
    have unstopped : ¬ Stopped (moments ++ [x]) := by
      rw [stopped_concat fun ⟨_, streams⟩ => used (running streams)]
      exact fun ⟨stopped, _⟩ => used (told.active_of_stopped stopped)
    refine (Situated.active active idle unstopped).told coherent' ?_ (fun _ => active)
      (by simp [active])
    rw [status, serial]
  | rests hs standby status =>
    have unstopped : ¬ x.Stops := fun ⟨stops, _⟩ => by simp [hs] at stops
    refine (Situated.standby standby).told coherent' ?_ (active unstopped) (by simp [standby])
    rw [status, serial]
  | ends ends inactive status =>
    have unstopped : ¬ x.Stops := fun ⟨stops, _⟩ => ends.ne_stopStreaming stops
    have last : LastEnding _ (moments ++ [x]) := (lastEnding_concat_of_ends ends).2 rfl
    refine (Situated.ended inactive last).told coherent' ?_ (active unstopped) fun _ => ⟨_, last⟩
    rw [status, serial]

end

/-! ## Runs -/

section

variable {start r : Rig} {steps : List (Step × Answers)} {log : List Effect}

theorem Rig.told_of_run? (coherent : start.device.Coherent)
    (unused : start.device.state = .inactive) (ran : start.run? steps = some (r, log)) :
    r.device.Told (start.moments steps) := by
  refine run?_induction (motive := fun steps r _ => r.device.Told (start.moments steps)) ?_ ?_ ran
  · refine ⟨fun stopped => absurd stopped not_since_nil, by simp [moments], fun t ht => ?_⟩
    cases ht with
    | streaming streams => simp [coherent.not_isStreaming (by simp [unused])] at streams
    | stopped active | active active => simp [unused] at active
    | standby standby => simp [unused] at standby
    | ended _ last => exact absurd last not_since_nil
  · intro steps m before s a r l reply ran told step
    have coherent := coherent_of_run? coherent ran
    have takes := takes_of_step? coherent.quiet step
    rw [moments_concat ran step]
    have serial : r.device.serial = m.device.serial :=
      congrArg (·.identity.serial) <| (takes.parts coherent.in_use_of_renderReady).preserve
        (motive := (·.config = m.device.config)) (fun same part => part.built.1.trans same) rfl
    exact told.concat (x := ⟨m, s, a, l, r⟩) coherent (takes.coherent coherent) serial
      (coherent.tells_of_takes takes)

end

theorem Status.line_inj {serial t u : String} :
    Status.line serial t = Status.line serial u ↔ t = u := by
  simp [Status.line]

theorem Ending.situation_inj {e f : Ending} : e.situation = f.situation ↔ e = f := by
  cases e <;> cases f <;> decide

theorem Ending.situation_ne (e : Ending) :
    e.situation ≠ "streaming" ∧ e.situation ≠ "active" ∧ e.situation ≠ "standby" := by
  cases e <;> decide

/-- After every run of a device with an activation in it that was not refused, the line tells the
one situation that the device is in.  If no call stopped the stream by itself, it says that the
device streams, is active, or is in standby exactly if it does or is, and otherwise how the device
came to be out of use. -/
theorem status_of_run {config : Config} {equipment : Equipment} {d : Device} {capacity : Nat}
    {r : Rig} {steps : List (Step × Answers)} {log : List Effect}
    (built : Device.build? config equipment = some (.ok d))
    (ran : (Rig.ofDevice d capacity).run? steps = some (r, log))
    (attempted : ∃ x ∈ (Rig.ofDevice d capacity).moments steps, x.Attempts) :
    (∃ t, r.device.status = Status.line config.identity.serial t ∧
      ∀ u, r.device.Situated ((Rig.ofDevice d capacity).moments steps) u ↔ u = t) ∧
    ((∀ x ∈ (Rig.ofDevice d capacity).moments steps, ¬ x.Stops) →
      (r.device.status = Status.line config.identity.serial "streaming" ↔
        r.device.isStreaming = true) ∧
      (r.device.status = Status.line config.identity.serial "active" ↔
        r.device.state = .active ∧ r.device.isStreaming = false) ∧
      (r.device.status = Status.line config.identity.serial "standby" ↔
        r.device.state = .standby) ∧
      (∀ e : Ending, r.device.status = Status.line config.identity.serial e.situation ↔
        r.device.state = .inactive ∧ LastEnding e ((Rig.ofDevice d capacity).moments steps)) ∧
      (r.device.state = .inactive →
        ∃ e, LastEnding e ((Rig.ofDevice d capacity).moments steps))) := by
  have fresh : (Rig.ofDevice d capacity).device.Fresh config equipment :=
    Device.fresh_of_build? built
  have coherent := Rig.coherent_of_run? fresh.coherent ran
  have serial : r.device.serial = config.identity.serial := by
    have same := (Rig.built_of_run? fresh.coherent ran).1.trans fresh.config
    exact congrArg (·.identity.serial) same
  have told := Rig.told_of_run? fresh.coherent fresh.state ran
  obtain ⟨t, ht⟩ := coherent.exists_situated (told.ended attempted)
  have status := told.status t ht
  rw [serial] at status
  have only (u : String) :
      r.device.Situated ((Rig.ofDevice d capacity).moments steps) u ↔ u = t :=
    ⟨fun hu => hu.unique coherent ht, fun same => same ▸ ht⟩
  refine ⟨⟨t, status, only⟩, fun unstopped => ?_⟩
  have unstopped : ¬ Stopped ((Rig.ofDevice d capacity).moments steps) := by
    rintro ⟨before, x, since, split, stops, -⟩
    exact unstopped x (by simp [split]) stops
  have tells (u : String) : r.device.status = Status.line config.identity.serial u ↔
      r.device.Situated ((Rig.ofDevice d capacity).moments steps) u := by
    rw [status, Status.line_inj, only, eq_comm]
  simp only [tells, Device.situated_iff_of_not_stopped unstopped]
  refine ⟨?_, ?_, ?_, fun e => ?_, told.ended attempted⟩
  · simp [(Ending.situation_ne _).1.symm]
  · simp [(Ending.situation_ne _).2.1.symm]
  · simp [(Ending.situation_ne _).2.2.symm]
  · simp [Ending.situation_ne, Ending.situation_inj]

/-- The activation at the front of a run is one that was not refused. -/
theorem Rig.attempts_of_activate {r : Rig} {index : UInt32} {a : Answers}
    (ok : (r.device.activate index a).answer = .ok ()) (steps : List (Step × Answers)) :
    ∃ x ∈ r.moments ((.call (.activate index), a) :: steps), x.Attempts :=
  ⟨_, List.mem_cons_self, index, rfl, .inl ok⟩

/-- A stream that is stopped by the call for it. -/
def Rig.stoppedStream : List (Step × Answers) :=
  Rig.upToStream ++ [(.call .stopStreaming, .willing)]

/-- The line still speaks of the stream that was stopped. -/
theorem status_of_stopped_stream :
    (∃ x ∈ (Rig.ofDevice .standard 4).moments Rig.stoppedStream, x.Attempts) ∧
      ∃ r log, (Rig.ofDevice .standard 4).run? Rig.stoppedStream = some (r, log) ∧
        r.device.state = .active ∧ r.device.isStreaming = false ∧
        r.device.status = Status.line r.device.serial "streaming" ∧
        r.device.status ≠ Status.line r.device.serial "active" := by
  have stopped : ((Rig.ofDevice .standard 4).run? Rig.stoppedStream).any fun x =>
      decide (x.1.device.state = .active ∧ x.1.device.isStreaming = false ∧
        x.1.device.status = Status.line x.1.device.serial "streaming" ∧
        x.1.device.status ≠ Status.line x.1.device.serial "active") := by
    decide +kernel
  obtain ⟨⟨r, log⟩, ran, stopped⟩ := (Option.any_eq_true _ _).1 stopped
  exact ⟨Rig.attempts_of_activate Device.activate_standard _, r, log, ran, by simpa using stopped⟩

theorem status_while_streaming :
    (∃ x ∈ (Rig.ofDevice .standard 4).moments Rig.upToStream, x.Attempts) ∧
      ∃ r log, (Rig.ofDevice .standard 4).run? Rig.upToStream = some (r, log) ∧
        r.device.status = Status.line ({} : Config).identity.serial "streaming" := by
  have attempted : ∃ x ∈ (Rig.ofDevice .standard 4).moments Rig.upToStream, x.Attempts :=
    Rig.attempts_of_activate Device.activate_standard _
  obtain ⟨r, log, ran, streams, -⟩ := Rig.run?_upToStream
  obtain ⟨-, tells⟩ := status_of_run Device.build?_standard ran attempted
  obtain ⟨streaming, -⟩ := tells fun x hx ⟨hs, _⟩ => by
    have step : (x.step, x.answers) ∈ Rig.upToStream := by
      rw [← (Rig.moments_of_run? ran).1]
      exact List.mem_map_of_mem hx
    simp [hs, Rig.upToStream] at step
  exact ⟨attempted, r, log, ran, streaming.2 streams⟩

end Headset
