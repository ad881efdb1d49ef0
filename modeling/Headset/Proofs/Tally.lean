import Headset.Proofs.Cadence
import Headset.Proofs.Counts
import Headset.Proofs.Replay

/-!
# Tally

The counters of a device tell what happened to it: some count steps, the others the calls on
encoders and controllers in the log.  The numbers themselves are the tally of a run
(`Tally.ofMoments`), and the counters hold it in 64 bits.  One step adds what it is and what its log
comes to (`Moment.Counted`), so that after every run nothing was left out or counted twice
(`tally_of_run`).  A step adds one at most to each count, but two to that of the updates of
controllers, so fewer steps than there are numbers of 64 bits leave the other counts exact.
-/

namespace Headset

/-! ## What is counted -/

namespace Step

def losesPackets : Step → Bool
  | .call .packetLoss => true
  | _ => false

def runsFrame : Step → Bool
  | .call .runFrame => true
  | _ => false

end Step

namespace Moment

/-- An activation that succeeds. -/
def activates (x : Moment) : Bool :=
  match x.step with
  | .call (.activate index) => (x.before.device.activate index x.answers).answer.isOk
  | _ => false

/-- A call that takes a device out of use that is in use. -/
def endsUse (x : Moment) : Bool :=
  match x.step with
  | .call .deactivate => x.before.device.isInUse
  | .call .shutDown => x.before.device.isInUse
  | _ => false

/-- A query for the pose, also one that comes with a packet. -/
def queriesPose (x : Moment) : Bool :=
  match x.step with
  | .call .getPose => true
  | .call .poseUpdated => true
  | .call (.tracking packet) => packet.head.isSome && !x.before.device.isShutDown
  | _ => false

/-- A query that no sample answers.  The query of a packet finds the packet's own sample, so it is
the history afterwards that counts. -/
def fallsBack (x : Moment) : Bool :=
  x.queriesPose && (x.before.device.isShutDown || x.after.history.isEmpty)

def publishesViews (x : Moment) : Bool :=
  match x.step with
  | .call (.setViews views) => views.isValid
  | _ => false

/-- A loss of packets has a keyframe asked for exactly if the device is in use, and the stream goes
on as it did. -/
structure Recovers (x : Moment) : Prop where
  keyframe : x.before.device.state = .active ∨ x.before.device.state = .standby →
    ∃ n, x.log = [.requestKeyframe n]
  unused : x.before.device.state = .inactive → x.log = []
  isStreaming : x.after.device.isStreaming = x.before.device.isStreaming

end Moment

namespace Counters

/-- What a step comes to by what it is. -/
def ofStep (x : Moment) : Counters where
  activations := .ofNat x.activates.toNat
  deactivations := .ofNat x.endsUse.toNat
  hostFrames := .ofNat x.step.runsFrame.toNat
  packetLossEvents := .ofNat x.step.losesPackets.toNat
  poseQueries := .ofNat x.queriesPose.toNat
  poseFallbacks := .ofNat x.fallsBack.toNat
  viewsUpdates := .ofNat x.publishesViews.toNat

end Counters

/-- How often everything that is counted happened. -/
structure Tally where
  activations : Nat
  deactivations : Nat
  framesPresented : Nat
  hostFrames : Nat
  keyframeRequests : Nat
  packetLossEvents : Nat
  poseQueries : Nat
  poseFallbacks : Nat
  controllerUpdates : Nat
  viewsUpdates : Nat

/-- The numbers that counters show. -/
def Counters.toTally (c : Counters) : Tally where
  activations := c.activations.toNat
  deactivations := c.deactivations.toNat
  framesPresented := c.framesPresented.toNat
  hostFrames := c.hostFrames.toNat
  keyframeRequests := c.keyframeRequests.toNat
  packetLossEvents := c.packetLossEvents.toNat
  poseQueries := c.poseQueries.toNat
  poseFallbacks := c.poseFallbacks.toNat
  controllerUpdates := c.controllerUpdates.toNat
  viewsUpdates := c.viewsUpdates.toNat

namespace Tally

/-- What counters hold of the numbers. -/
def held (t : Tally) : Counters where
  activations := .ofNat t.activations
  deactivations := .ofNat t.deactivations
  framesPresented := .ofNat t.framesPresented
  hostFrames := .ofNat t.hostFrames
  keyframeRequests := .ofNat t.keyframeRequests
  packetLossEvents := .ofNat t.packetLossEvents
  poseQueries := .ofNat t.poseQueries
  poseFallbacks := .ofNat t.poseFallbacks
  controllerUpdates := .ofNat t.controllerUpdates
  viewsUpdates := .ofNat t.viewsUpdates

/-- What happened in some moments. -/
def ofMoments (moments : List Moment) : Tally where
  activations := moments.countP Moment.activates
  deactivations := moments.countP Moment.endsUse
  framesPresented := (moments.flatMap Moment.log).countP Effect.isFrame
  hostFrames := moments.countP (·.step.runsFrame)
  keyframeRequests := (moments.flatMap Moment.log).countP Effect.isKeyframeRequest
  packetLossEvents := moments.countP (·.step.losesPackets)
  poseQueries := moments.countP Moment.queriesPose
  poseFallbacks := moments.countP Moment.fallsBack
  controllerUpdates := (moments.flatMap Moment.log).countP Effect.isControllerUpdate
  viewsUpdates := moments.countP Moment.publishesViews

/-- No number is greater than `n`, and that of the updates of controllers not than twice that. -/
structure AtMost (t : Tally) (n : Nat) : Prop where
  activations : t.activations ≤ n
  deactivations : t.deactivations ≤ n
  framesPresented : t.framesPresented ≤ n
  hostFrames : t.hostFrames ≤ n
  keyframeRequests : t.keyframeRequests ≤ n
  packetLossEvents : t.packetLossEvents ≤ n
  poseQueries : t.poseQueries ≤ n
  poseFallbacks : t.poseFallbacks ≤ n
  controllerUpdates : t.controllerUpdates ≤ 2 * n
  viewsUpdates : t.viewsUpdates ≤ n

theorem countP_moment (p : Moment → Bool) (x : Moment) : [x].countP p = (p x).toNat := by
  cases hx : p x <;> simp [hx]

theorem countP_log_concat (p : Effect → Bool) (moments : List Moment) (x : Moment) :
    ((moments ++ [x]).flatMap Moment.log).countP p =
      (moments.flatMap Moment.log).countP p + x.log.countP p := by
  simp [List.flatMap_append, List.countP_append]

theorem held_concat (moments : List Moment) (x : Moment) :
    (ofMoments (moments ++ [x])).held =
      (ofMoments moments).held + Counters.ofStep x + .ofLog x.log := by
  simp only [held, ofMoments, Counters.ofStep, Counters.ofLog, Counters.add_def,
    countP_log_concat, List.countP_append, countP_moment, UInt64.ofNat_add, UInt64.add_zero]

/-- Numbers of 64 bits are held as they are. -/
theorem AtMost.toTally_held {t : Tally} {n : Nat} (h : t.AtMost n) (few : n < UInt64.size) :
    { t.held.toTally with controllerUpdates := t.controllerUpdates } = t := by
  have exact {m : Nat} (le : m ≤ n) : (UInt64.ofNat m).toNat = m :=
    UInt64.toNat_ofNat_of_lt' (Nat.lt_of_le_of_lt le few)
  simp only [Counters.toTally, held, exact h.activations, exact h.deactivations,
    exact h.framesPresented, exact h.hostFrames, exact h.keyframeRequests,
    exact h.packetLossEvents, exact h.poseQueries, exact h.poseFallbacks, exact h.viewsUpdates]

theorem AtMost.toTally_held_of_lt {t : Tally} {n : Nat} (h : t.AtMost n) (few : n < UInt64.size)
    (updates : t.controllerUpdates < UInt64.size) : t.held.toTally = t := by
  refine Eq.trans ?_ (h.toTally_held few)
  simp only [Counters.toTally, held, UInt64.toNat_ofNat_of_lt' updates]

/-- What happens once in a moment at most happened at most as often as there are moments. -/
theorem atMost_ofMoments {moments : List Moment}
    (orders : (moments.flatMap Moment.log).countP Effect.isOrder ≤ moments.length)
    (updates : (moments.flatMap Moment.log).countP Effect.isControllerUpdate ≤
      2 * moments.length) :
    (ofMoments moments).AtMost moments.length where
  activations := List.countP_le_length
  deactivations := List.countP_le_length
  framesPresented := by
    refine le_trans (List.countP_mono_left fun x _ hx => ?_) orders
    simp [Effect.isOrder, hx]
  hostFrames := List.countP_le_length
  keyframeRequests := by
    refine le_trans (List.countP_mono_left fun x _ hx => ?_) orders
    simp [Effect.isOrder, hx]
  packetLossEvents := List.countP_le_length
  poseQueries := List.countP_le_length
  poseFallbacks := List.countP_le_length
  controllerUpdates := updates
  viewsUpdates := List.countP_le_length

end Tally

/-! ## One step -/

/-- What a step did to the counters is what it is and what its log tells.  An encoder hears that the
host finished a frame only when it did, with the number of that frame.  There is one order at most
for an encoder, and an update at most for the controller of each hand. -/
structure Moment.Counted (x : Moment) : Prop where
  counters : x.after.device.counters = x.before.device.counters + .ofStep x + .ofLog x.log
  hostFrame : ∀ n k, .hostFrame n k ∈ x.log →
    x.step.runsFrame = true ∧ k = x.before.device.counters.hostFrames + 1
  orders : x.log.countP Effect.isOrder ≤ 1
  updates : x.log.countP Effect.isControllerUpdate ≤ 2

theorem Device.Counts.counted {x : Moment} {own : Counters} {orders updates : Nat}
    (h : x.before.device.Counts x.after.device x.log own orders updates) (same : own = .ofStep x)
    (few : orders ≤ 1 := by decide) (few' : updates ≤ 2 := by decide) : x.Counted where
  counters := same ▸ h.counters
  hostFrame _ _ hx := absurd rfl (List.countP_eq_zero.1 h.hostFrames _ hx)
  orders := h.orders.trans few
  updates := h.updates.trans few'

namespace Rig

variable {start r r' : Rig} {steps : List (Step × Answers)} {s : Step} {a : Answers}
  {log l : List Effect} {reply : Reply}

theorem counted_runFrame (r : Rig) (a : Answers) :
    Moment.Counted ⟨r, .call .runFrame, a, r.device.runFrame.log,
      { r with device := r.device.runFrame.device }⟩ := by
  have only : r.device.runFrame.log = [] ∨ ∃ n,
      r.device.runFrame.log = [.hostFrame n (r.device.counters.hostFrames + 1)] := by
    unfold Device.runFrame
    dsimp only
    repeat' split
    · exact .inr ⟨_, rfl⟩
    · exact .inl rfl
    · exact .inl rfl
  have counters : r.device.runFrame.device.counters =
      r.device.counters + { hostFrames := 1 } + 0 := by
    simp [Device.runFrame, Counters.add_def]
  rcases only with none | ⟨n, one⟩
  · rw [none]
    exact ⟨counters, by simp, by simp, by simp⟩
  · rw [one]
    exact ⟨counters, by simp [Step.runsFrame], Nat.zero_le 1, Nat.zero_le 2⟩

/-- Each step is counted, once. -/
theorem counted_of_step? (h : r.device.Coherent) (step : r.step? s a = some (r', l, reply)) :
    Moment.Counted ⟨r, s, a, l, r'⟩ := by
  have gone := h.relays_isNone
  cases s with
  | call c =>
    cases c with
    | activate index =>
      cases step
      exact (Device.activate_cases h.in_use_of_renderReady index a).counts.counted rfl
    | deactivate => cases step; exact h.counts_deactivate.counted rfl
    | enterStandby => cases step; exact (Device.counts_enterStandby _).counted rfl
    | resume => cases step; exact (Device.counts_resume ..).counted rfl
    | shutDown => cases step; exact h.counts_shutDown.counted rfl
    | startStreaming => cases step; exact (Device.counts_startStreaming ..).counted rfl
    | stopStreaming => cases step; exact (Device.counts_stopStreaming _).counted rfl
    | streamStart => cases step; exact (Device.counts_streamStart ..).counted rfl
    | packetLoss => cases step; exact (Device.counts_packetLoss _).counted rfl
    | requestKeyframe => cases step; exact (Device.counts_requestKeyframe _).counted rfl
    | runFrame =>
      cases step
      obtain ⟨counters, hostFrame, orders, updates⟩ := counted_runFrame r a
      exact ⟨counters, hostFrame, orders, updates⟩
    | getPose =>
      obtain ⟨o, ho, step⟩ := Option.map_eq_some_iff.1 step
      cases step
      exact (Device.counts_getPose? ho).counted (by rw [gone]; rfl)
    | poseUpdated =>
      obtain ⟨o, ho, step⟩ := Option.map_eq_some_iff.1 step
      cases step
      exact (Device.counts_poseUpdated? ho).counted (by rw [gone]; rfl)
    | setPoseOffset ms => cases step; exact (Device.counts_setPoseOffset ..).counted rfl
    | tracking packet =>
      obtain ⟨⟨history, o⟩, ho, step⟩ := Option.map_eq_some_iff.1 step
      cases step
      refine (Device.counts_tracking? ho).counted ?_
      have there : r.device.relays.isSome = !r.device.isShutDown := by simp [← gone]
      rw [there]
      cases hd : r.device.isShutDown <;> cases hh : packet.head <;>
        simp [Counters.ofStep, Moment.activates, Moment.endsUse, Step.runsFrame, Step.losesPackets,
          Moment.queriesPose, Moment.fallsBack, Moment.publishesViews, hd, hh]
    | updateControllers packet =>
      cases step
      exact (Device.counts_updateControllers ..).counted rfl
    | frameEncoded => cases step; exact (Device.counts_frameEncoded ..).counted rfl
    | clientReport report =>
      obtain ⟨e, he, step⟩ := Option.map_eq_some_iff.1 step
      cases step
      exact (Device.counts_clientReport? he).counted rfl
    | setViews views => cases step; exact (Device.counts_setViews ..).counted rfl
    | debug request buffer =>
      obtain ⟨o, ho, step⟩ := Option.map_eq_some_iff.1 step
      cases step
      exact (Device.counts_debug? ho).counted rfl
  | tick | lateTick | strayTick => exact (ticks_of_step? rfl step).1.counts.counted rfl
  | pushHistory | clearHistory => cases step; exact (Device.Counts.still rfl rfl).counted rfl

/-- A loss of packets asks the encoder for a keyframe, if there is one. -/
theorem recovers_of_step? (h : r.device.Coherent)
    (step : r.step? (.call .packetLoss) a = some (r', l, reply)) :
    Moment.Recovers ⟨r, .call .packetLoss, a, l, r'⟩ := by
  cases step
  have stays := Device.stays_packetLoss r.device
  refine ⟨fun used => ?_, fun unused => ?_, stays.footing.isStreaming⟩
  · have used : r.device.state ≠ .inactive := by
      rcases used with hs | hs <;> exact fun idle => by cases hs.symm.trans idle
    obtain ⟨p, hp⟩ := Option.isSome_iff_exists.1 (h.pipeline_isSome_iff.2 used)
    exact ⟨p.encoder, by simp [Device.packetLoss, Device.requestKeyframe, hp, h.not_released p hp]⟩
  · have gone := h.pipeline_eq_none unused
    simp [Device.packetLoss, Device.requestKeyframe, gone]

end Rig

namespace Device

variable {d e : Device} {a : Answers} {s : Step} {log : List Effect}

theorem aside_isShutDown : Aside isShutDown := fun _ _ _ _ _ => rfl

theorem Activation.isShutDown {index : UInt32} {o : Outcome (Except DriverError Unit)}
    (h : d.Activation index a o) : o.device.isShutDown = d.isShutDown := by
  cases h with
  | shutDown down => rfl
  | refused up hs => rfl
  | failed up hs ho he => cases ho <;> rfl
  | done up hs ho hp =>
    rw [aside_isShutDown.startPending]
    cases ho <;> rfl

/-- What marks a device as shut down is its shutdown, and nothing else. -/
theorem isShutDown_of_takes (h : d.Takes a s e log) (coherent : d.Coherent) :
    e.isShutDown = true ↔ d.isShutDown = true ∨ s = .call .shutDown := by
  have kept (same : e.isShutDown = d.isShutDown) (other : s ≠ .call .shutDown) :
      e.isShutDown = true ↔ d.isShutDown = true ∨ s = .call .shutDown := by simp [same, other]
  cases h with
  | activate index =>
    exact kept (activate_cases coherent.in_use_of_renderReady index a).isShutDown (by simp)
  | deactivate =>
    refine kept ?_ (by simp)
    unfold deactivate
    split
    · rfl
    · rw [teardown_device]
  | enterStandby => exact kept (aside_isShutDown.enterStandby d) (by simp)
  | resume => exact kept (aside_isShutDown.resume d a) (by simp)
  | shutDown => simp [isShutDown_shutDown]
  | startStreaming => exact kept (aside_isShutDown.startStreaming d a) (by simp)
  | stopStreaming => exact kept (aside_isShutDown.stopStreaming d) (by simp)
  | streamStart => exact kept (aside_isShutDown.streamStart d a) (by simp)
  | other hs stays =>
    refine kept stays.footing.isShutDown ?_
    rintro rfl
    cases hs

theorem isOk_eq_true_iff (answer : Except DriverError Unit) :
    answer.isOk = true ↔ answer = .ok () := by
  cases answer <;> simp [Except.isOk, Except.toBool]

end Device

/-- A device is shut down if its shutdown was called, and only then. -/
theorem Rig.isShutDown_iff_of_run? {start r : Rig} {steps : List (Step × Answers)}
    {log : List Effect} (h : start.device.Coherent) (up : start.device.isShutDown = false)
    (ran : start.run? steps = some (r, log)) :
    r.device.isShutDown = true ↔ ∃ a, (.call .shutDown, a) ∈ steps := by
  refine run?_induction (motive := fun steps r _ =>
    (r.device.isShutDown = true ↔ ∃ a, (.call .shutDown, a) ∈ steps)) (by simp [up]) ?_ ran
  intro steps m before s a r l reply ran ih step
  have coherent := coherent_of_run? h ran
  rw [Device.isShutDown_of_takes (takes_of_step? coherent.quiet step) coherent, ih]
  constructor
  · rintro (⟨b, called⟩ | rfl)
    · exact ⟨b, List.mem_append_left _ called⟩
    · exact ⟨a, by simp⟩
  · rintro ⟨b, called⟩
    rcases List.mem_append.1 called with called | last
    · exact .inl ⟨b, called⟩
    · right
      simp_all

namespace Moment

variable {x : Moment}

/-- A device comes into use by an activation that succeeds, and goes out of use by a call that ends
its use. -/
theorem isInUse_of_takes (coherent : x.before.device.Coherent)
    (takes : x.before.device.Takes x.answers x.step x.after.device x.log) :
    x.after.device.isInUse.toNat + x.endsUse.toNat =
      x.before.device.isInUse.toNat + x.activates.toNat := by
  obtain ⟨before, s, a, log, after⟩ := x
  have state := coherent.state_of_takes takes
  have settled := coherent.settled
  dsimp only at coherent state settled ⊢
  simp only [Device.isInUse_toNat, state]
  cases s with
  | call c =>
    cases c with
    | activate index =>
      have ok : activates ⟨before, .call (.activate index), a, log, after⟩ =
          (!before.device.isShutDown && decide (before.device.state = .inactive) &&
            before.device.allocates a) := by
        rw [activates, Bool.eq_iff_iff, Device.isOk_eq_true_iff, coherent.activate_ok_iff]
        simp [and_assoc]
      have goesOn : endsUse ⟨before, .call (.activate index), a, log, after⟩ = false := rfl
      rw [ok, goesOn, Device.operation?, Device.transition_activate]
      cases before.device.isShutDown <;> cases before.device.state <;>
        cases before.device.allocates a <;> rfl
    | deactivate | shutDown | enterStandby | resume | streamStart =>
      cases hs : before.device.state <;>
        simp_all [Device.operation?, endsUse, activates, Device.isInUse, ActivationState.advance,
          transition]
    | _ => rfl
  | _ => rfl

end Moment

/-! ## Runs -/

/-- What a run of moments leaves in the counters, and what it meets on the way. -/
structure Tallied (d : Device) (moments : List Moment) : Prop where
  counters : d.counters = (Tally.ofMoments moments).held
  orders : (moments.flatMap Moment.log).countP Effect.isOrder ≤ moments.length
  updates : (moments.flatMap Moment.log).countP Effect.isControllerUpdate ≤ 2 * moments.length
  inUse : (Tally.ofMoments moments).activations =
    (Tally.ofMoments moments).deactivations + d.isInUse.toNat
  packetLoss : ∀ x ∈ moments, x.step.losesPackets = true → x.Recovers
  hostFrame : AtEach (fun earlier x => ∀ n k, .hostFrame n k ∈ x.log →
    x.step.runsFrame = true ∧ k = .ofNat (earlier.countP (·.step.runsFrame) + 1)) moments
  isShutDown : d.isShutDown = true ↔ ∃ y ∈ moments, y.step = .call .shutDown
  downAfter : AtEach (fun earlier x => x.before.device.isShutDown = true ↔
    ∃ y ∈ earlier, y.step = .call .shutDown) moments

theorem Tallied.concat {x : Moment} {moments : List Moment}
    (h : Tallied x.before.device moments) (coherent : x.before.device.Coherent)
    (takes : x.before.device.Takes x.answers x.step x.after.device x.log) (counted : x.Counted)
    (recovers : x.step.losesPackets = true → x.Recovers) :
    Tallied x.after.device (moments ++ [x]) where
  counters := by rw [counted.counters, h.counters, Tally.held_concat]
  orders := by
    rw [Tally.countP_log_concat, List.length_append]
    exact Nat.add_le_add h.orders counted.orders
  updates := by
    rw [Tally.countP_log_concat, List.length_append, Nat.mul_add]
    exact Nat.add_le_add h.updates counted.updates
  inUse := by
    have inUse := h.inUse
    have use := Moment.isInUse_of_takes coherent takes
    simp only [Tally.ofMoments, List.countP_append, Tally.countP_moment] at inUse ⊢
    omega
  packetLoss y hy := by
    rcases List.mem_append.1 hy with hy | hy
    · exact h.packetLoss y hy
    · obtain rfl : y = x := by simpa using hy
      exact recovers
  hostFrame := by
    refine atEach_concat.2 ⟨h.hostFrame, fun n k hx => ?_⟩
    have told := counted.hostFrame n k hx
    rw [h.counters] at told
    exact ⟨told.1, told.2.trans (UInt64.ofNat_add ..).symm⟩
  isShutDown := by
    rw [Device.isShutDown_of_takes takes coherent, h.isShutDown]
    simp [or_and_right, exists_or]
  downAfter := atEach_concat.2 ⟨h.downAfter, h.isShutDown⟩

theorem Rig.tallied_of_run? {start r : Rig} {steps : List (Step × Answers)} {log : List Effect}
    (coherent : start.device.Coherent) (fresh : start.device.counters = {})
    (unused : start.device.state = .inactive) (up : start.device.isShutDown = false)
    (ran : start.run? steps = some (r, log)) : Tallied r.device (start.moments steps) := by
  refine run?_induction (motive := fun steps r _ => Tallied r.device (start.moments steps))
    ?_ ?_ ran
  · exact {
      counters := fresh
      orders := Nat.zero_le 0
      updates := Nat.zero_le 0
      inUse := by simp [Device.isInUse, unused, moments, Tally.ofMoments]
      packetLoss := by simp [moments]
      hostFrame := atEach_nil
      isShutDown := by simp [up, moments]
      downAfter := atEach_nil }
  · intro steps m before s a r l reply ran tallied step
    have coherent := coherent_of_run? coherent ran
    rw [moments_concat ran step]
    refine tallied.concat (x := ⟨m, s, a, l, r⟩) coherent (takes_of_step? coherent.quiet step)
      (counted_of_step? coherent step) fun loses => ?_
    cases s with
    | call c =>
      cases c with
      | packetLoss => exact recovers_of_step? coherent step
      | _ => cases loses
    | _ => cases loses

/-- The log of a run is what its moments left in it, one after another. -/
theorem Rig.log_of_run? {start r : Rig} {steps : List (Step × Answers)} {log : List Effect}
    (ran : start.run? steps = some (r, log)) : (start.moments steps).flatMap Moment.log = log := by
  refine run?_induction (motive := fun steps _ log =>
    (start.moments steps).flatMap Moment.log = log) rfl ?_ ran
  intro steps m before s a r l reply ran ih step
  rw [moments_concat ran step, List.flatMap_append, ih]
  simp

theorem Device.uncounted_of_build? {config : Config} {equipment : Equipment} {d : Device}
    (built : Device.build? config equipment = some (.ok d)) :
    d.counters = {} ∧ d.isShutDown = false := by
  obtain ⟨-, interval, -, latency, -, rfl⟩ := build?_eq_ok_iff.1 built
  exact ⟨rfl, rfl⟩

/-- After every run of a device its counters hold, in 64 bits, the tally of what happened in it.  If
the number of steps has 64 bits, the counters are exact.  A step may bring two updates of
controllers, so for these it takes that their own number has 64 bits, which is no more than twice
that of the steps.  The device was activated once more than it was taken out of use exactly if it is
in use.  Each loss of packets has one keyframe asked for if the device is in use, and leaves the
stream as it is.  An encoder that hears of a frame of the host hears its number.  A device counts as
shut down after its shutdown. -/
theorem tally_of_run {config : Config} {equipment : Equipment} {d : Device} {capacity : Nat}
    {r : Rig} {steps : List (Step × Answers)} {log : List Effect}
    (built : Device.build? config equipment = some (.ok d))
    (ran : (Rig.ofDevice d capacity).run? steps = some (r, log)) :
    let moments := (Rig.ofDevice d capacity).moments steps
    let tally := Tally.ofMoments moments
    moments.map (fun x => (x.step, x.answers)) = steps ∧
    moments.flatMap Moment.log = log ∧
    r.device.counters = tally.held ∧
    (steps.length < UInt64.size →
      { r.device.counters.toTally with controllerUpdates := tally.controllerUpdates } = tally ∧
      (tally.controllerUpdates < UInt64.size → r.device.counters.toTally = tally)) ∧
    tally.controllerUpdates ≤ 2 * steps.length ∧
    tally.activations = tally.deactivations +
      (if r.device.state = .active ∨ r.device.state = .standby then 1 else 0) ∧
    r.device.counters.activations = r.device.counters.deactivations +
      (if r.device.state = .active ∨ r.device.state = .standby then 1 else 0) ∧
    (∀ x ∈ moments, x.step.losesPackets = true → x.Recovers) ∧
    AtEach (fun earlier x => ∀ n k, .hostFrame n k ∈ x.log →
      x.step.runsFrame = true ∧ k = .ofNat (earlier.countP (·.step.runsFrame) + 1) ∧
      (steps.length < UInt64.size → k.toNat = earlier.countP (·.step.runsFrame) + 1)) moments ∧
    AtEach (fun earlier x => x.before.device.isShutDown = true ↔
      ∃ y ∈ earlier, y.step = .call .shutDown) moments := by
  intro moments tally
  have fresh : (Rig.ofDevice d capacity).device.Fresh config equipment :=
    Device.fresh_of_build? built
  obtain ⟨uncounted, up⟩ := Device.uncounted_of_build? built
  have tallied := Rig.tallied_of_run? fresh.coherent uncounted fresh.state up ran
  have settled := (Rig.coherent_of_run? fresh.coherent ran).settled
  have all := (Rig.moments_of_run? ran).1
  have length : moments.length = steps.length := by rw [← all, List.length_map]
  have atMost : tally.AtMost steps.length :=
    length ▸ Tally.atMost_ofMoments tallied.orders tallied.updates
  have inUse : r.device.isInUse.toNat =
      if r.device.state = .active ∨ r.device.state = .standby then 1 else 0 := by
    rw [Device.isInUse_toNat]
    cases hs : r.device.state with
    | activating => exact absurd hs settled
    | inactive | active | standby => rfl
  refine ⟨all, Rig.log_of_run? ran, tallied.counters, fun few => ?_, atMost.controllerUpdates,
    inUse ▸ tallied.inUse, ?_, tallied.packetLoss, fun earlier x later split n k told => ?_,
    tallied.downAfter⟩
  · rw [tallied.counters]
    exact ⟨atMost.toTally_held few, atMost.toTally_held_of_lt few⟩
  · have ends := congrArg UInt64.ofNat tallied.inUse
    rw [UInt64.ofNat_add, inUse] at ends
    rw [tallied.counters]
    refine ends.trans ?_
    split <;> rfl
  · obtain ⟨ran', number⟩ := tallied.hostFrame earlier x later split n k told
    refine ⟨ran', number, fun few => ?_⟩
    have sooner : earlier.countP (·.step.runsFrame) + 1 ≤ steps.length := by
      have parts := congrArg List.length split
      rw [length, List.length_append, List.length_cons] at parts
      have := List.countP_le_length (p := (·.step.runsFrame)) (l := earlier)
      omega
    rw [number, UInt64.toNat_ofNat_of_lt' (Nat.lt_of_le_of_lt sooner few)]

/-- A stream with a refresh, a frame of the host and a loss in it; and queries for the pose, before
and after the device is taken out of use. -/
def Rig.busyRun : List (Step × Answers) :=
  Rig.upToStream ++ [(.tick, .willing), (.call .runFrame, .willing), (.call .packetLoss, .willing),
    (.call .getPose, .willing), (.call .shutDown, .willing), (.call .getPose, .willing),
    (.call .packetLoss, .willing)]

/-- What that run comes to: neither query is answered by a sample, and of the two losses only the
first one meets an encoder. -/
def Rig.busyCounters : Counters where
  activations := 1
  deactivations := 1
  framesPresented := 1
  hostFrames := 1
  keyframeRequests := 1
  packetLossEvents := 2
  poseQueries := 2
  poseFallbacks := 2

theorem tally_of_busyRun : ∃ r log, (Rig.ofDevice .standard 4).run? Rig.busyRun = some (r, log) ∧
    r.device.counters = Rig.busyCounters ∧
    .ofMoments ((Rig.ofDevice .standard 4).moments Rig.busyRun) = Rig.busyCounters.toTally := by
  have counted : ((Rig.ofDevice .standard 4).run? Rig.busyRun).any fun x =>
      decide (x.1.device.counters = Rig.busyCounters) := by
    decide +kernel
  obtain ⟨⟨r, log⟩, ran, counted⟩ := (Option.any_eq_true _ _).1 counted
  have counted : r.device.counters = Rig.busyCounters := of_decide_eq_true counted
  have updates : (Tally.ofMoments ((Rig.ofDevice .standard 4).moments
      Rig.busyRun)).controllerUpdates < UInt64.size := by
    decide +kernel
  obtain ⟨-, -, -, exact, -⟩ := tally_of_run Device.build?_standard ran
  refine ⟨r, log, ran, counted, ?_⟩
  rw [← counted]
  exact ((exact (by decide)).2 updates).symm

end Headset
