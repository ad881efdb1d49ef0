import Headset.Proofs.Newest
import Headset.Proofs.Pacing
import Headset.Proofs.Since
import Headset.Proofs.Starts

/-!
# Cadence

From its activation until it is taken out of use, a device hands one frame to the encoder of the
activation at each refresh that finds the stream running, and none at any other time.  The frames
are numbered from zero, also across pauses of the stream; each tells whether a pose came in since
the one before, and the time of the newest sample when a pose came in last (`cadence_of_run`).  The
numbers have 64 bits, which is enough for as many frames as there are numbers.
-/

namespace Headset

/-- Whether a step brings in a pose. -/
def Step.bringsPose : Step → Bool
  | .call .poseUpdated => true
  | .call (.tracking packet) => packet.head.isSome
  | _ => false

/-- Whether a step is a tick for the pacer of the device. -/
def Step.isRefresh : Step → Bool
  | .tick => true
  | .lateTick => true
  | _ => false

/-- A step of a run as it went, between the rig before it and the rig after it. -/
structure Moment where
  before : Rig
  step : Step
  answers : Answers
  log : List Effect
  after : Rig

/-- The moments of a run, one for each of its steps. -/
def Rig.moments (r : Rig) : List (Step × Answers) → List Moment
  | [] => []
  | (s, a) :: steps => match r.step? s a with
    | none => []
    | some (m, l, _) => ⟨r, s, a, l, m⟩ :: m.moments steps

namespace Moment

def frames (x : Moment) : List (Nat × FrameTiming) := framesOf x.log

/-- The time of the newest sample. -/
def newest? (x : Moment) : Option Span := x.after.history.latest.map (·.time)

end Moment

/-- The time of the newest sample when a pose came in last. -/
def poseTime? (earlier : List Moment) : Option Span :=
  (earlier.reverse.find? (·.step.bringsPose)).bind Moment.newest?

/-- The frame that is due at a time, by what happened earlier in the activation. -/
structure Due (earlier : List Moment) (now : Span) (t : FrameTiming) : Prop where
  index : t.index = .ofNat (earlier.flatMap Moment.frames).length
  vsyncTime : t.vsyncTime = now
  freshPose : t.freshPose = true ↔
    Since (fun x => x.step.bringsPose = true) (fun x => x.frames = []) earlier
  poseTime : (∀ time, poseTime? earlier = some time → time.nanos < 0xffffffffffffffff) →
    t.poseTime = poseTime? earlier

/-- What a step makes of the frames of an activation: a refresh that finds the stream running hands
the frame that is due to the encoder `n`, and no other step makes one.  The latest sample is the
newest. -/
structure Moment.InTime (n : Nat) (earlier : List Moment) (x : Moment) : Prop where
  refresh : x.step.isRefresh = true → x.before.device.isStreaming = true →
    ∃ t, x.frames = [(n, t)] ∧ Due earlier x.answers.now t
  otherwise : ¬ (x.step.isRefresh = true ∧ x.before.device.isStreaming = true) → x.frames = []
  newest : ∀ s, x.after.history.latest = some s ↔
    History.IsNewest (fun _ => True) x.after.history.samples s

/-! ## Moments -/

namespace Rig

variable {start r r' : Rig} {steps : List (Step × Answers)} {s : Step} {a : Answers}
  {log l : List Effect} {reply : Reply}

theorem moments_concat (ran : start.run? steps = some (r, log))
    (next : r.step? s a = some (r', l, reply)) :
    start.moments (steps ++ [(s, a)]) = start.moments steps ++ [⟨r, s, a, l, r'⟩] := by
  induction steps generalizing start log with
  | nil =>
    cases ran
    simp [moments, next]
  | cons step steps ih =>
    obtain ⟨t, b⟩ := step
    rw [run?_cons] at ran
    obtain ⟨⟨m, k, answer⟩, hm, ran⟩ := Option.bind_eq_some_iff.1 ran
    obtain ⟨⟨r'', log'⟩, rest, hr⟩ := Option.map_eq_some_iff.1 ran
    cases hr
    simp [moments, hm, ih rest]

/-- The moments of a run are all its steps, and their calls are all its calls. -/
theorem moments_of_run? (ran : start.run? steps = some (r, log)) :
    (start.moments steps).map (fun x => (x.step, x.answers)) = steps ∧
      (start.moments steps).flatMap Moment.frames = framesOf log := by
  refine run?_induction (motive := fun steps _ log =>
    (start.moments steps).map (fun x => (x.step, x.answers)) = steps ∧
      (start.moments steps).flatMap Moment.frames = framesOf log) ⟨rfl, rfl⟩ ?_ ran
  intro steps m before s a r l reply ran ih next
  rw [moments_concat ran next, List.map_append, List.flatMap_append, framesOf_append, ih.1, ih.2]
  exact ⟨rfl, by simp [Moment.frames]⟩

end Rig

/-! ## The book along the moments -/

/-- The book tells what happened earlier in the activation. -/
structure Pacer.Book.Tells (b : Book) (n : Nat) (earlier : List Moment) : Prop where
  encoder : b.encoder = n
  nextFrame : b.nextFrame = .ofNat (earlier.flatMap Moment.frames).length
  freshPose : b.freshPose = true ↔
    Since (fun x => x.step.bringsPose = true) (fun x => x.frames = []) earlier
  poseTime : b.poseTime = (poseTime? earlier).bind hold?

/-- What a step does to the book of the activation. -/
inductive Turns (b : Pacer.Book) (x : Moment) : Pacer.Book → Prop
  | presents (refreshes : x.step.isRefresh = true) (streams : x.before.device.isStreaming = true)
    (frames : x.frames = [b.frame x.answers.now]) : Turns b x b.turned
  | notes (brings : x.step.bringsPose = true) (frames : x.frames = []) :
    Turns b x (b.noted x.newest?)
  | keeps (brings : x.step.bringsPose = false)
    (idle : ¬ (x.step.isRefresh = true ∧ x.before.device.isStreaming = true))
    (frames : x.frames = []) : Turns b x b

theorem Step.bringsPose_of_isRefresh {s : Step} (h : s.isRefresh = true) :
    s.bringsPose = false := by
  cases s <;> first | rfl | cases h

section

variable {b b' : Pacer.Book} {n : Nat} {earlier : List Moment} {x : Moment}

theorem poseTime?_concat : poseTime? (earlier ++ [x]) =
    if x.step.bringsPose then x.newest? else poseTime? earlier := by
  cases hx : x.step.bringsPose <;> simp [poseTime?, hx]

theorem Turns.tells (h : Turns b x b') (told : b.Tells n earlier) :
    b'.Tells n (earlier ++ [x]) := by
  cases h with
  | presents refreshes streams frames =>
    have brings := Step.bringsPose_of_isRefresh refreshes
    exact {
      encoder := told.encoder
      nextFrame := by simp [Pacer.Book.turned, told.nextFrame, frames]
      freshPose := by simp [Pacer.Book.turned, since_concat, brings, frames]
      poseTime := by rw [poseTime?_concat, brings]; exact told.poseTime }
  | notes brings frames =>
    exact {
      encoder := told.encoder
      nextFrame := by simp [Pacer.Book.noted, told.nextFrame, frames]
      freshPose := by simp [Pacer.Book.noted, since_concat, brings]
      poseTime := by rw [poseTime?_concat, brings]; rfl }
  | keeps brings idle frames =>
    exact {
      encoder := told.encoder
      nextFrame := by simp [told.nextFrame, frames]
      freshPose := by simp [since_concat, brings, frames, told.freshPose]
      poseTime := by rw [poseTime?_concat, brings]; exact told.poseTime }

/-- A time that fits into the 64 bits is held as it is. -/
theorem Pacer.hold?_of_lt {time : Span} (h : time.nanos < 0xffffffffffffffff) :
    Pacer.hold? time = some time := by
  rw [hold?, dif_pos h]

/-- The frame in the book is the one that is due. -/
theorem Pacer.Book.Tells.due (told : b.Tells n earlier) (now : Span) :
    Due earlier now (b.frame now).2 where
  index := told.nextFrame
  vsyncTime := rfl
  freshPose := told.freshPose
  poseTime short := by
    show b.poseTime = _
    rw [told.poseTime]
    cases ht : poseTime? earlier with
    | none => rfl
    | some time => exact Pacer.hold?_of_lt (short time ht)

end

/-! ## Steps -/

namespace Rig

variable {start r r' : Rig} {steps : List (Step × Answers)} {s : Step} {a : Answers}
  {log l : List Effect} {reply : Reply} {b : Pacer.Book}

/-- A tick for the pacer, on a device that is in use. -/
theorem turns_of_tick {x : Moment} (h : x.before.device.Coherent)
    (hb : x.before.device.book? = some b) (refreshes : x.step.isRefresh = true)
    (ticked : x.log = (x.before.device.tick x.answers).log) :
    ∃ b', (x.before.device.tick x.answers).device.book? = some b' ∧ Turns b x b' := by
  cases streams : x.before.device.isStreaming with
  | true =>
    obtain ⟨c, hc, turned, frames, -⟩ := Device.tick_of_isStreaming h streams x.answers
    obtain rfl : b = c := Option.some.inj (hb.symm.trans hc)
    exact ⟨b.turned, turned, .presents refreshes streams (by rw [Moment.frames, ticked, frames])⟩
  | false =>
    obtain ⟨same, log⟩ := Device.tick_of_not_isStreaming streams x.answers
    rw [same]
    refine ⟨b, hb, .keeps (Step.bringsPose_of_isRefresh refreshes) (by simp [streams]) ?_⟩
    rw [Moment.frames, ticked, log]
    rfl

/-- Every step of an activation turns its book. -/
theorem turns_of_step? (h : r.device.Coherent) (started : r.timerStarted = true)
    (hb : r.device.book? = some b) (stays : s ≠ .call .deactivate ∧ s ≠ .call .shutDown)
    (step : r.step? s a = some (r', l, reply)) :
    ∃ b', r'.device.book? = some b' ∧ Turns b ⟨r, s, a, l, r'⟩ b' := by
  have there : r.device.pipeline.isSome := by
    obtain ⟨p, hp, -⟩ := Option.map_eq_some_iff.1 hb
    simp [hp]
  have used := h.pipeline_isSome_iff.1 there
  have related : r.device.relays.isSome := h.relays_isSome_iff.2 (h.up_of_used used)
  have keeps (brings : s.bringsPose = false) (refreshes : s.isRefresh = false)
      (k : r.device.Keeps r'.device l) :
      ∃ b', r'.device.book? = some b' ∧ Turns b ⟨r, s, a, l, r'⟩ b' :=
    ⟨b, k.book.trans hb, .keeps brings (by simp [refreshes]) k.frames⟩
  have notes (brings : s.bringsPose = true) (frames : framesOf l = [])
      (noted : r'.device.book? =
        r.device.book?.map (·.noted (r'.history.latest.map (·.time)))) :
      ∃ b', r'.device.book? = some b' ∧ Turns b ⟨r, s, a, l, r'⟩ b' :=
    ⟨_, by rw [noted, hb]; rfl, .notes brings frames⟩
  cases s with
  | call c =>
    cases c with
    | activate index =>
      cases step
      obtain ⟨same, quiet⟩ := Device.activate_of_ne_inactive used index a
      exact keeps rfl rfl (by simp only [same, quiet]; exact .refl _)
    | deactivate => exact absurd rfl stays.1
    | shutDown => exact absurd rfl stays.2
    | enterStandby => cases step; exact keeps rfl rfl (Device.keeps_enterStandby _)
    | resume => cases step; exact keeps rfl rfl (Device.keeps_resume ..)
    | startStreaming => cases step; exact keeps rfl rfl (Device.keeps_startStreaming ..)
    | stopStreaming => cases step; exact keeps rfl rfl (Device.keeps_stopStreaming _)
    | streamStart => cases step; exact keeps rfl rfl (Device.keeps_streamStart ..)
    | packetLoss => cases step; exact keeps rfl rfl (Device.keeps_packetLoss _)
    | requestKeyframe => cases step; exact keeps rfl rfl (Device.keeps_requestKeyframe _)
    | runFrame => cases step; exact keeps rfl rfl (Device.keeps_runFrame _)
    | getPose =>
      obtain ⟨o, ho, step⟩ := Option.map_eq_some_iff.1 step
      cases step
      exact keeps rfl rfl (Device.keeps_getPose? ho)
    | poseUpdated =>
      obtain ⟨o, ho, step⟩ := Option.map_eq_some_iff.1 step
      cases step
      obtain ⟨noted, frames⟩ := Device.book_poseUpdated? related ho
      exact notes rfl frames noted
    | setPoseOffset ms => cases step; exact keeps rfl rfl (Device.keeps_setPoseOffset ..)
    | tracking packet =>
      obtain ⟨⟨history, o⟩, ho, step⟩ := Option.map_eq_some_iff.1 step
      cases step
      obtain ⟨frames, book⟩ := Device.book_tracking? related ho
      cases headed : packet.head.isSome with
      | true => exact notes headed frames (by simpa [headed] using book)
      | false => exact keeps headed rfl ⟨by simpa [headed] using book, frames⟩
    | updateControllers packet =>
      cases step
      exact keeps rfl rfl (Device.keeps_updateControllers ..)
    | frameEncoded => cases step; exact keeps rfl rfl ⟨rfl, rfl⟩
    | clientReport report =>
      obtain ⟨e, he, step⟩ := Option.map_eq_some_iff.1 step
      cases step
      exact keeps rfl rfl (Device.keeps_clientReport? he)
    | setViews views => cases step; exact keeps rfl rfl (Device.keeps_setViews ..)
    | debug request buffer =>
      obtain ⟨o, ho, step⟩ := Option.map_eq_some_iff.1 step
      cases step
      exact keeps rfl rfl (Device.keeps_debug? ho)
  | tick =>
    rw [step?, if_pos (h.vsync_isSome_iff.2 used)] at step
    cases step
    exact turns_of_tick (x := ⟨r, .tick, a, _, _⟩) h hb rfl rfl
  | lateTick =>
    simp only [step?, started, there, if_true] at step
    cases step
    exact turns_of_tick (x := ⟨r, .lateTick, a, _, _⟩) h hb rfl rfl
  | strayTick age =>
    rw [step?, if_pos started] at step
    cases step
    exact keeps rfl rfl (Device.keeps_strayTick h.quiet age a).1
  | pushHistory | clearHistory =>
    cases step
    exact keeps rfl rfl (.refl _)

/-- A timer that was started once was started. -/
theorem timerStarted_of_step? (started : r.timerStarted = true)
    (step : r.step? s a = some (r', l, reply)) : r'.timerStarted = true := by
  cases s with
  | call c =>
    cases c with
    | getPose | poseUpdated | clientReport | tracking | debug =>
      obtain ⟨o, -, step⟩ := Option.map_eq_some_iff.1 step
      cases step
      simp [started]
    | _ => cases step; simp [started]
  | tick =>
    by_cases hv : r.device.vsync.isSome
    · rw [step?, if_pos hv] at step
      cases step
      simp [started]
    · rw [step?, if_neg hv] at step
      cases step
      exact started
  | lateTick | strayTick =>
    rw [step?, if_pos started] at step
    cases step
    simp [started]
  | pushHistory | clearHistory => cases step; exact started

/-- A step leaves the history as it is, adds a sample to it, or clears it. -/
theorem history_of_step? (step : r.step? s a = some (r', l, reply)) :
    r'.history = r.history ∨ (∃ sample, r'.history = r.history.push sample) ∨
      r'.history = r.history.clear := by
  cases s with
  | call c =>
    cases c with
    | tracking packet =>
      obtain ⟨⟨h, o⟩, ho, step⟩ := Option.map_eq_some_iff.1 step
      cases step
      cases Device.tracking?_cases ho with
      | headless | lost => exact .inl rfl
      | relayed => exact .inr (.inl ⟨_, rfl⟩)
    | getPose | poseUpdated | clientReport | debug =>
      obtain ⟨o, -, step⟩ := Option.map_eq_some_iff.1 step
      cases step
      exact .inl rfl
    | _ => cases step; exact .inl rfl
  | tick | lateTick | strayTick => exact .inl (ticks_of_step? rfl step).2
  | pushHistory sample => cases step; exact .inr (.inl ⟨sample, rfl⟩)
  | clearHistory => cases step; exact .inr (.inr rfl)

theorem sorted_of_step? (h : History.Sorted r.history.samples)
    (step : r.step? s a = some (r', l, reply)) : History.Sorted r'.history.samples := by
  rcases history_of_step? step with same | ⟨sample, pushed⟩ | cleared
  · rwa [same]
  · rw [pushed, History.samples_push]
    exact (h.insert sample).keep _
  · rw [cleared]
    exact List.Pairwise.nil

theorem sorted_of_run? (h : History.Sorted start.history.samples)
    (ran : start.run? steps = some (r, log)) : History.Sorted r.history.samples := by
  refine run?_induction (motive := fun _ r _ => History.Sorted r.history.samples) h ?_ ran
  intro steps m before s a r l reply _ ih step
  exact sorted_of_step? ih step

/-- A tick tells the latencies of the frame that it makes, and of nothing else. -/
theorem latency_of_ticks (h : r.device.Coherent) (hs : s.ticks = true)
    (step : r.step? s a = some (r', l, reply)) :
    r'.device.latency = r.device.latency.follow
      ((framesOf l).filterMap (·.2.presentation?)) := by
  have silent : r.device.latency = r.device.latency.follow [] := rfl
  have ticks := (ticks_of_step? hs step).1
  generalize r'.device = e at ticks
  cases ticks with
  | unheard => exact silent
  | inTime =>
    cases streams : r.device.isStreaming with
    | true =>
      obtain ⟨b, -, -, frames, latency⟩ := Device.tick_of_isStreaming h streams a
      rw [latency, frames, Latency.framePresented_eq_follow]
      cases hp : (b.frame a.now).2.presentation? <;> simp [hp]
    | false =>
      obtain ⟨same, log⟩ := Device.tick_of_not_isStreaming streams a
      rw [same, log]
      exact silent
  | stray age =>
    obtain ⟨kept, same⟩ := Device.keeps_strayTick h.quiet age a
    rw [same, kept.frames]
    exact silent

end Rig

namespace Device

variable {d e : Device} {a : Answers} {index : UInt32} {log : List Effect}

theorem framesOf_teardown (d : Device) : framesOf d.teardown.log = [] := by
  rw [teardown_log]
  cases d.vsync <;> cases d.stream? <;> cases d.encoder? <;>
    cases d.renderReady && d.render.isSome <;> rfl

theorem Allocation.frames {o : Outcome (Except DriverError Pacer)} (h : d.Allocation index a o) :
    framesOf o.log = [] := by
  refine framesOf_eq_nil_iff.2 fun x hx => ?_
  have staged := h.isStaged x hx
  cases x <;> first | rfl | exact staged.elim

theorem Activation.frames {o : Outcome (Except DriverError Unit)} (h : d.Activation index a o) :
    framesOf o.log = [] := by
  cases h with
  | shutDown down => rfl
  | refused up hs => rfl
  | failed up hs ho he => exact ho.frames
  | done up hs ho hp => rw [framesOf_append, ho.frames, (keeps_startPending ..).frames]; rfl

/-- While the stream is not running, no call makes a frame, and neither does taking the device out
of use. -/
theorem Takes.frames {s : Step} (h : d.Takes a s e log) (coherent : d.Coherent)
    (idle : d.isStreaming = true → s = .call .deactivate ∨ s = .call .shutDown) :
    framesOf log = [] := by
  cases h with
  | activate index => exact (activate_cases coherent.in_use_of_renderReady index a).frames
  | deactivate =>
    unfold Device.deactivate
    split
    · rfl
    · exact d.framesOf_teardown
  | enterStandby => exact d.keeps_enterStandby.frames
  | resume => exact (d.keeps_resume a).frames
  | shutDown =>
    unfold Device.shutDown
    dsimp only
    split
    · exact framesOf_teardown _
    · rfl
  | startStreaming => exact (d.keeps_startStreaming a).frames
  | stopStreaming => exact d.keeps_stopStreaming.frames
  | streamStart => exact (d.keeps_streamStart a).frames
  | other hs stays =>
    have quiet : ¬ d.isStreaming = true := fun streams => by
      rcases idle streams with rfl | rfl <;> cases hs
    have silent : d.stream? = none := stream?_eq_none_iff.2 (by simpa using quiet)
    refine framesOf_eq_nil_iff.2 fun x hx => ?_
    have passes := stays.passes x hx
    cases x with
    | presentFrame n t => simp [silent] at passes
    | _ => rfl

/-- An activation that succeeds opens the book of the encoder that the factory made, and starts the
timer. -/
theorem Coherent.activate_ok (h : d.Coherent) (ok : (d.activate index a).answer = .ok ()) :
    ∃ n, a.encoder = .ok n ∧ (d.activate index a).device.book? = some ⟨n, 0, false, none⟩ ∧
      (d.activate index a).log.any Effect.isTimerStart = true := by
  have way := activate_cases h.in_use_of_renderReady index a
  generalize d.activate index a = o at ok way
  cases way with
  | shutDown down => cases ok
  | refused up hs => cases ok
  | failed up hs ho he => cases ok
  | @done o p up hs ho hp =>
    have kept := keeps_startPending (o.device.activated index p) a
    cases ho with
    | @done ad l n t hr hdisplay hb he ht hs =>
      cases hp
      exact ⟨n, he, kept.book, by simp [Effect.isTimerStart]⟩
    | _ => cases hp

end Device

/-! ## Activations -/

section

variable {n : Nat} {moments : List Moment}

/-- Frames in time are numbered from zero, in 64 bits, and go to the one encoder. -/
theorem indices_of_inTime (h : AtEach (Moment.InTime n) moments) :
    (moments.flatMap Moment.frames).map (fun f => (f.1, f.2.index)) =
      (List.range (moments.flatMap Moment.frames).length).map fun i => (n, .ofNat i) := by
  induction moments using List.reverseRecOn with
  | nil => rfl
  | append_singleton earlier x ih =>
    obtain ⟨before, now⟩ := atEach_concat.1 h
    have single : [x].flatMap Moment.frames = x.frames := by simp
    rw [List.flatMap_append, List.map_append, ih before, single]
    by_cases makes : x.step.isRefresh = true ∧ x.before.device.isStreaming = true
    · obtain ⟨t, frames, due⟩ := now.refresh makes.1 makes.2
      simp [frames, due.index, List.range_succ]
    · simp [now.otherwise makes]

/-- Up to the last number of 64 bits, a frame is told from the others by its number. -/
theorem toNat_indices {frames : List (Nat × FrameTiming)}
    (h : frames.map (fun f => (f.1, f.2.index)) =
      (List.range frames.length).map fun i => (n, .ofNat i))
    (few : frames.length ≤ UInt64.size) :
    frames.map (·.2.index.toNat) = List.range frames.length := by
  have held : ∀ i ∈ List.range frames.length, (UInt64.ofNat i).toNat = i := fun i hi =>
    UInt64.toNat_ofNat_of_lt' (Nat.lt_of_lt_of_le (List.mem_range.1 hi) few)
  calc frames.map (·.2.index.toNat)
      = (frames.map fun f => (f.1, f.2.index)).map (·.2.toNat) := by rw [List.map_map]; rfl
    _ = (List.range frames.length).map fun i => (UInt64.ofNat i).toNat := by
        rw [h, List.map_map]
        rfl
    _ = (List.range frames.length).map id := List.map_congr_left held
    _ = List.range frames.length := List.map_id _

/-- A turn of the book is in time. -/
theorem Turns.inTime {b b' : Pacer.Book} {earlier : List Moment} {x : Moment} (h : Turns b x b')
    (told : b.Tells n earlier) (sorted : History.Sorted x.after.history.samples) :
    Moment.InTime n earlier x where
  refresh refreshes streams := by
    cases h with
    | presents _ _ frames =>
      exact ⟨_, by rw [frames, ← told.encoder]; rfl, told.due x.answers.now⟩
    | notes brings => simp [Step.bringsPose_of_isRefresh refreshes] at brings
    | keeps _ idle => exact absurd ⟨refreshes, streams⟩ idle
  otherwise idle := by
    cases h with
    | presents refreshes streams => exact absurd ⟨refreshes, streams⟩ idle
    | notes _ frames => exact frames
    | keeps _ _ frames => exact frames
  newest s := by
    rw [History.latest, sorted.getLast?_eq_some_iff]
    simp [History.IsNewest]

end

namespace Rig

variable {start r : Rig} {during : List (Step × Answers)} {log : List Effect} {n : Nat}

/-- While a device is in use, the book tells what happened since its activation, and each step is
in time. -/
theorem inTime_of_run? (coherent : start.device.Coherent) (started : start.timerStarted = true)
    (opened : start.device.book? = some ⟨n, 0, false, none⟩)
    (sorted : History.Sorted start.history.samples)
    (stays : ∀ x ∈ during, x.1 ≠ .call .deactivate ∧ x.1 ≠ .call .shutDown)
    (ran : start.run? during = some (r, log)) :
    AtEach (Moment.InTime n) (start.moments during) := by
  refine (run?_induction (motive := fun steps r _ =>
    (∀ x ∈ steps, x.1 ≠ .call .deactivate ∧ x.1 ≠ .call .shutDown) →
      (r.timerStarted = true ∧ ∃ b, r.device.book? = some b ∧ b.Tells n (start.moments steps)) ∧
        AtEach (Moment.InTime n) (start.moments steps)) ?_ ?_ ran stays).2
  · have opens : (⟨n, 0, false, none⟩ : Pacer.Book).Tells n [] :=
      ⟨rfl, rfl, by simp [not_since_nil], rfl⟩
    exact fun _ => ⟨⟨started, _, opened, opens⟩, atEach_nil⟩
  · intro steps m before s a r l reply ran ih step stays
    obtain ⟨⟨running, b, hb, told⟩, inTime⟩ := ih fun x hx => stays x (List.mem_append_left _ hx)
    have coherent := coherent_of_run? coherent ran
    obtain ⟨b', hb', turns⟩ := turns_of_step? coherent running hb (stays (s, a) (by simp)) step
    have sorted := sorted_of_step? (sorted_of_run? sorted ran) step
    rw [moments_concat ran step, atEach_concat]
    exact ⟨⟨timerStarted_of_step? running step, b', hb', turns.tells told⟩, inTime,
      turns.inTime told sorted⟩

end Rig

/-- The cadence of frames in every run.  While the stream is not running nothing makes a frame, and
neither does taking the device out of use.  A tick tells the latencies of the frame that it makes,
and of nothing else.  From an activation on, until the device is taken out of use, the frames go to
the encoder of the activation and are numbered from zero in 64 bits, so that as many of them as
there are numbers have none twice; and each step of that time hands on the frame that is due, or
none. -/
theorem cadence_of_run {config : Config} {equipment : Equipment} {d : Device} {capacity : Nat}
    {before : List (Step × Answers)} {r : Rig} {log : List Effect}
    (built : Device.build? config equipment = some (.ok d))
    (ran : (Rig.ofDevice d capacity).run? before = some (r, log)) :
    (∀ s a r' l reply, r.step? s a = some (r', l, reply) →
      ((r.device.isStreaming = true → s = .call .deactivate ∨ s = .call .shutDown) →
        framesOf l = []) ∧
      (s.ticks = true → r'.device.latency =
        r.device.latency.follow ((framesOf l).filterMap (·.2.presentation?)))) ∧
    ∀ index a r' l during q log',
      r.step? (.call (.activate index)) a = some (r', l, .result (.ok ())) →
      (∀ x ∈ during, x.1 ≠ .call .deactivate ∧ x.1 ≠ .call .shutDown) →
      r'.run? during = some (q, log') →
      ∃ n, a.encoder = .ok n ∧
        (framesOf log').map (fun f => (f.1, f.2.index)) =
          (List.range (framesOf log').length).map (fun i => (n, .ofNat i)) ∧
        ((framesOf log').length ≤ UInt64.size →
          (framesOf log').map (·.2.index.toNat) = List.range (framesOf log').length) ∧
        (r'.moments during).map (fun x => (x.step, x.answers)) = during ∧
        AtEach (Moment.InTime n) (r'.moments during) := by
  have coherent := Rig.coherent_of_run? (Device.fresh_of_build? built).coherent ran
  constructor
  · intro s a r' l reply step
    exact ⟨(Rig.takes_of_step? coherent.quiet step).frames coherent,
      fun ticks => Rig.latency_of_ticks coherent ticks step⟩
  · intro index a r' l during q log' activated stays ran'
    have coherent' := (Rig.takes_of_step? coherent.quiet activated).coherent coherent
    have unfilled : History.Sorted (Rig.ofDevice d capacity).history.samples := List.Pairwise.nil
    have sorted := Rig.sorted_of_step? (Rig.sorted_of_run? unfilled ran) activated
    simp only [Rig.step?, Rig.call?, Rig.settle, Option.some.injEq, Prod.mk.injEq,
      Reply.result.injEq] at activated
    obtain ⟨rfl, rfl, ok⟩ := activated
    obtain ⟨n, made, opened, timer⟩ := coherent.activate_ok ok
    have inTime := Rig.inTime_of_run? coherent' (by simp [timer]) opened sorted stays ran'
    obtain ⟨all, frames⟩ := Rig.moments_of_run? ran'
    have indices := indices_of_inTime inTime
    rw [frames] at indices
    exact ⟨n, made, indices, toNat_indices indices, all, inTime⟩

/-- A stream with two refreshes, a pause and a pose in it. -/
def Rig.pausedStream : List (Step × Answers) :=
  [(.call .startStreaming, .willing), (.tick, .willing), (.call .poseUpdated, .willing),
    (.call .stopStreaming, .willing), (.tick, .willing), (.call .startStreaming, .willing),
    (.lateTick, .willing)]

theorem cadence_of_pausedStream : ∃ r l q log',
    (Rig.ofDevice .standard 4).step? (.call (.activate 0)) .willing =
        some (r, l, .result (.ok ())) ∧
      r.run? Rig.pausedStream = some (q, log') ∧
      (framesOf log').map (fun f => (f.1, f.2.index)) = [(0, 0), (0, 1)] ∧
      AtEach (Moment.InTime 0) (r.moments Rig.pausedStream) := by
  have goesOn : (((Rig.ofDevice .standard 4).settle (Device.standard.activate 0 .willing)
      Reply.result).1.run? Rig.pausedStream).any fun x => decide ((framesOf x.2).length = 2) := by
    decide +kernel
  obtain ⟨⟨q, log'⟩, ran, two⟩ := (Option.any_eq_true _ _).1 goesOn
  have two : (framesOf log').length = 2 := by simpa using two
  have activated : (Rig.ofDevice .standard 4).step? (.call (.activate 0)) .willing =
      some (((Rig.ofDevice .standard 4).settle (Device.standard.activate 0 .willing)
        Reply.result).1, (Device.standard.activate 0 .willing).log, .result (.ok ())) := by
    rw [← Device.activate_standard]
    rfl
  obtain ⟨-, cadence⟩ :=
    cadence_of_run Device.build?_standard (Rig.run?_nil (.ofDevice .standard 4))
  obtain ⟨n, made, indices, -, -, inTime⟩ :=
    cadence _ _ _ _ _ _ _ activated (by simp [Rig.pausedStream]) ran
  obtain rfl : 0 = n := by simpa [Answers.willing] using made
  exact ⟨_, _, q, log', activated, ran, by rw [indices, two]; rfl, inTime⟩

end Headset
