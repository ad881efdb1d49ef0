import Headset.Proofs.Coherence
import Headset.Proofs.Frames

/-!
# Pacing

What the pacer of an activation has for its next frame is its book: the encoder, the index, whether
a pose came in and its time.  An update of the pose is noted in the book (`book_poseUpdated?`), a
tick that finds the stream running turns it into a frame (`tick_of_isStreaming`), and every other
call keeps the book and makes no frame (`Device.Keeps`).
-/

namespace Headset

/-- The frame that a call hands to an encoder, if it does. -/
def Effect.frame? : Effect → Option (Nat × FrameTiming)
  | .presentFrame encoder timing => some (encoder, timing)
  | _ => none

/-- The frames of a log, each with the encoder it is handed to. -/
def framesOf (log : List Effect) : List (Nat × FrameTiming) := log.filterMap Effect.frame?

/-- What the latencies are told of a frame: when it was presented, if its pose is new and has a
time. -/
def FrameTiming.presentation? (t : FrameTiming) : Option Notice :=
  if t.freshPose then t.poseTime.map (.presented · t.vsyncTime) else none

/-- What a pacer has for its next frame. -/
structure Pacer.Book where
  encoder : Nat
  nextFrame : UInt64
  freshPose : Bool
  poseTime : Option Span

def Pacer.book (p : Pacer) : Book := ⟨p.encoder, p.nextFrame, p.freshPose, p.poseTime⟩

namespace Pacer.Book

/-- A pose came in while `newest` was the time of the newest sample. -/
def noted (b : Book) (newest : Option Span) : Book :=
  { b with freshPose := true, poseTime := newest.bind hold? }

/-- The frame was handed on. -/
def turned (b : Book) : Book := { b with nextFrame := b.nextFrame + 1, freshPose := false }

/-- The next frame at a refresh, with its encoder. -/
def frame (b : Book) (now : Span) : Nat × FrameTiming :=
  (b.encoder, ⟨b.nextFrame, now, b.freshPose, b.poseTime⟩)

end Pacer.Book

theorem framesOf_append (l m : List Effect) : framesOf (l ++ m) = framesOf l ++ framesOf m :=
  List.filterMap_append

theorem framesOf_eq_nil_iff {l : List Effect} : framesOf l = [] ↔ ∀ x ∈ l, x.frame? = none :=
  List.filterMap_eq_nil_iff

theorem Latency.framePresented_eq_follow (l : Latency) (t : FrameTiming) :
    l.framePresented t = l.follow t.presentation?.toList := by
  unfold framePresented FrameTiming.presentation?
  cases t.freshPose <;> cases t.poseTime <;> rfl

namespace Device

variable {d e f : Device} {l m : List Effect} {a : Answers} {h : History}

def book? (d : Device) : Option Pacer.Book := d.pipeline.map Pacer.book

/-- A call leads from `d` to `e` with `log`, keeps the book and makes no frame. -/
structure Keeps (d e : Device) (log : List Effect) : Prop where
  book : e.book? = d.book?
  frames : framesOf log = []

namespace Keeps

theorem refl (d : Device) : d.Keeps d [] := ⟨rfl, rfl⟩

theorem trans (h : d.Keeps e l) (k : e.Keeps f m) : d.Keeps f (l ++ m) where
  book := k.book.trans h.book
  frames := by rw [framesOf_append, h.frames, k.frames, List.append_nil]

end Keeps

/-! ## The stream and the lifecycle -/

theorem keeps_requestKeyframe (d : Device) :
    d.Keeps d.requestKeyframe.device d.requestKeyframe.log := by
  unfold requestKeyframe
  split
  · exact .refl d
  · split
    · exact .refl d
    · exact ⟨rfl, rfl⟩

theorem keeps_packetLoss (d : Device) : d.Keeps d.packetLoss.device d.packetLoss.log :=
  have kept := keeps_requestKeyframe { d with
    counters := { d.counters with packetLossEvents := d.counters.packetLossEvents + 1 } }
  ⟨kept.book, kept.frames⟩

theorem keeps_runFrame (d : Device) : d.Keeps d.runFrame.device d.runFrame.log := by
  refine ⟨rfl, ?_⟩
  unfold runFrame
  cases d.pipeline with
  | none => rfl
  | some p => cases hf : p.makesFrames <;> simp [hf, framesOf, Effect.frame?]

theorem keeps_haltStream (d : Device) : d.Keeps d.haltStream.device d.haltStream.log := by
  rw [haltStream_device, haltStream_log]
  constructor
  · cases hp : d.pipeline <;> simp [book?, hp, Pacer.book]
  · cases d.stream? <;> rfl

theorem keeps_startStreaming (d : Device) (a : Answers) :
    d.Keeps (d.startStreaming a).device (d.startStreaming a).log := by
  unfold startStreaming
  split
  · exact .refl d
  split
  · exact .refl d
  split
  · exact .refl d
  next p hp =>
  split
  · exact .refl d
  split
  · exact .refl d
  split
  · exact ⟨rfl, rfl⟩
  dsimp only
  split
  · exact ⟨rfl, rfl⟩
  split
  · exact ⟨rfl, rfl⟩
  · exact ⟨by simp [book?, withStatus, hp, Pacer.book], rfl⟩

theorem keeps_startPending (d : Device) (a : Answers) :
    d.Keeps (d.startPending a).device (d.startPending a).log := by
  unfold startPending
  split
  · exact .refl d
  split
  · exact ⟨rfl, rfl⟩
  · have asked : d.Keeps d [.isConnected true] := ⟨rfl, rfl⟩
    exact asked.trans (keeps_startStreaming d _)

theorem keeps_resumed (d : Device) : d.Keeps d.resumed [] := ⟨rfl, rfl⟩

theorem keeps_enterStandby (d : Device) : d.Keeps d.enterStandby.device d.enterStandby.log := by
  unfold enterStandby
  split
  · exact .refl d
  · have halted := keeps_haltStream d
    exact ⟨halted.book, halted.frames⟩

theorem keeps_resume (d : Device) (a : Answers) :
    d.Keeps (d.resume a).device (d.resume a).log := by
  by_cases hs : d.state = .standby
  · simp only [resume, leaveStandby_eq, if_pos hs]
    exact (keeps_resumed d).trans (keeps_startPending _ a)
  · simp only [resume, leaveStandby_eq, if_neg hs]
    exact .refl d

theorem keeps_stopStreaming (d : Device) : d.Keeps d.stopStreaming.device d.stopStreaming.log :=
  have halted := keeps_haltStream { d with pendingStart := false }
  ⟨halted.book, halted.frames⟩

theorem keeps_clientReady (d : Device) (a : Answers) :
    d.Keeps (d.clientReady a).device (d.clientReady a).log := by
  unfold clientReady
  split
  · exact keeps_startStreaming d a
  · exact ⟨rfl, rfl⟩

theorem keeps_streamStart (d : Device) (a : Answers) :
    d.Keeps (d.streamStart a).device (d.streamStart a).log := by
  unfold streamStart
  split
  · exact .refl d
  split
  · exact keeps_clientReady d a
  · next hs =>
    rw [leaveStandby_eq, if_pos hs]
    exact (keeps_resumed d).trans (keeps_clientReady _ a)
  · exact ⟨rfl, rfl⟩
  · exact ⟨rfl, rfl⟩

/-- A device that is in use refuses to be activated. -/
theorem activate_of_ne_inactive (used : d.state ≠ .inactive) (index : UInt32) (a : Answers) :
    (d.activate index a).device = d ∧ (d.activate index a).log = [] := by
  unfold activate
  split
  · exact ⟨rfl, rfl⟩
  · rw [transition_activate, if_neg used]
    exact ⟨rfl, rfl⟩

/-! ## Poses, reports and packets -/

theorem keeps_getPose? {o : Outcome DevicePose} (ho : d.getPose? h a = some o) :
    d.Keeps o.device o.log := by
  unfold getPose? at ho
  dsimp only at ho
  split at ho
  · cases ho
    exact ⟨rfl, rfl⟩
  · obtain ⟨target, -, rfl⟩ := Option.map_eq_some_iff.1 ho
    have quiet : framesOf (chooseSample h target).2 = [] := by
      unfold chooseSample
      split <;> rfl
    split
    · next log hs =>
      refine ⟨rfl, ?_⟩
      simpa [fallbackPose, hs] using quiet
    · next s log hs =>
      refine ⟨rfl, ?_⟩
      simpa [hs] using quiet

theorem keeps_setPoseOffset (d : Device) (ms : Float32) : d.Keeps (d.setPoseOffset ms) [] := by
  unfold setPoseOffset
  split <;> exact ⟨rfl, rfl⟩

theorem keeps_updateHand (d : Device) (relays : Relays) (packet : TrackingPacket) (hand : Hand)
    (a : Answers) :
    d.Keeps (d.updateHand relays packet hand a).device (d.updateHand relays packet hand a).log := by
  unfold updateHand
  split
  · split <;> exact ⟨rfl, rfl⟩
  · exact .refl d

theorem keeps_updateControllers (d : Device) (packet : TrackingPacket) (a : Answers) :
    d.Keeps (d.updateControllers packet a).device (d.updateControllers packet a).log := by
  unfold updateControllers
  split
  · exact .refl d
  · exact (keeps_updateHand ..).trans (keeps_updateHand ..)

theorem keeps_clientReport? {r : ClientReport} (he : d.clientReport? r = some e) :
    d.Keeps e [] := by
  obtain ⟨latency, poseOffset, rfl⟩ := clientReport?_eq he
  exact ⟨rfl, rfl⟩

theorem keeps_setViews (d : Device) (views : Views) :
    d.Keeps (d.setViews views).device (d.setViews views).log := by
  unfold setViews
  split
  · exact .refl d
  · refine ⟨rfl, ?_⟩
    dsimp only
    split <;> rfl

theorem keeps_debug? {request : String} {buffer : List UInt8} {o : Outcome (Nat × List UInt8)}
    (ho : d.debug? request buffer = some o) : d.Keeps o.device o.log := by
  obtain ⟨text, -, rfl⟩ := Option.map_eq_some_iff.1 ho
  dsimp only
  split
  · exact keeps_requestKeyframe d
  · exact .refl d

/-! ## Updates of the pose -/

theorem book_markFresh (d : Device) (there : d.relays.isSome) (h : History) :
    (d.markFresh h).device.book? =
      d.book?.map (·.noted (h.latest.map (·.time))) ∧ framesOf (d.markFresh h).log = [] := by
  obtain ⟨relays, hr⟩ := Option.isSome_iff_exists.1 there
  unfold markFresh
  cases hp : d.pipeline with
  | none => simp [book?, hp, framesOf]
  | some p =>
    simp [book?, hp, hr, framesOf, Effect.frame?, Pacer.markFresh, Pacer.book, Pacer.Book.noted]

/-- An update of the pose is noted, with the time of the newest sample. -/
theorem book_poseUpdated? {o : Outcome Unit} (there : d.relays.isSome)
    (ho : d.poseUpdated? h a = some o) :
    o.device.book? = d.book?.map (·.noted (h.latest.map (·.time))) ∧ framesOf o.log = [] := by
  obtain ⟨q, hq, rfl⟩ := Option.map_eq_some_iff.1 ho
  have asked := keeps_getPose? hq
  have there' : q.device.relays.isSome := by rwa [(stays_getPose? hq).footing.relays]
  obtain ⟨noted, quiet⟩ := q.device.book_markFresh there' h
  refine ⟨noted.trans (by rw [asked.book]), ?_⟩
  simp only [framesOf_append, asked.frames, quiet, List.append_nil, List.nil_append,
    List.append_eq_nil_iff]
  constructor
  · split <;> rfl
  · split
    · split <;> rfl
    · rfl

/-- A tracking packet is noted if it has a head. -/
theorem book_tracking? {h' : History} {packet : TrackingPacket} {o : Outcome Unit}
    (there : d.relays.isSome) (ho : d.tracking? h packet a = some (h', o)) :
    framesOf o.log = [] ∧ o.device.book? =
      if packet.head.isSome then d.book?.map (·.noted (h'.latest.map (·.time))) else d.book? := by
  cases tracking?_cases ho with
  | headless headless =>
    have kept := keeps_updateControllers d packet a
    exact ⟨kept.frames, by simpa [headless] using kept.book⟩
  | lost headed gone => simp [gone] at there
  | @relayed head q headed _ hq =>
    obtain ⟨noted, quiet⟩ := book_poseUpdated? (by exact there) hq
    have kept := keeps_updateControllers q.device packet a
    constructor
    · show framesOf (q.log ++ (q.device.updateControllers packet a).log) = []
      rw [framesOf_append, quiet, kept.frames, List.append_nil]
    · rw [headed, Option.isSome_some, if_pos rfl]
      exact kept.book.trans noted

/-! ## Ticks -/

/-- A tick that finds the stream running hands on the next frame, and the latencies are told of
it. -/
theorem tick_of_isStreaming (h : d.Coherent) (streams : d.isStreaming = true) (a : Answers) :
    ∃ b, d.book? = some b ∧ (d.tick a).device.book? = some b.turned ∧
      framesOf (d.tick a).log = [b.frame a.now] ∧
      (d.tick a).device.latency = d.latency.framePresented (b.frame a.now).2 := by
  obtain ⟨p, hp, running⟩ := isStreaming_iff.1 streams
  have makes : p.makesFrames = true := by
    simp [Pacer.makesFrames, running, h.not_released p hp]
  refine ⟨p.book, by rw [book?, hp]; rfl, ?_⟩
  simp only [tick, hp, refresh, makes, if_true]
  exact ⟨rfl, rfl, rfl⟩

/-- Any other tick makes no frame. -/
theorem tick_of_not_isStreaming (idle : d.isStreaming = false) (a : Answers) :
    (d.tick a).device = d ∧ (d.tick a).log = [.vsyncEvent] := by
  unfold tick
  split
  · exact ⟨rfl, rfl⟩
  · next p hp =>
    have quiet : p.makesFrames = false := by
      have idle : p.streaming = false := by simpa [isStreaming, hp] using idle
      simp [Pacer.makesFrames, idle]
    simp [refresh, quiet, ← hp]

theorem keeps_strayTick (quiet : ∀ p ∈ d.retired, p.makesFrames = false) (age : Nat) (a : Answers) :
    d.Keeps (d.strayTick age a).device (d.strayTick age a).log ∧
      (d.strayTick age a).device.latency = d.latency := by
  unfold strayTick
  split
  · exact ⟨⟨rfl, rfl⟩, rfl⟩
  · next p hp =>
    have idle : ¬ p.makesFrames := by simp [quiet p (List.mem_of_getElem? hp)]
    rw [refresh, if_neg idle]
    exact ⟨⟨rfl, rfl⟩, rfl⟩

end Device

end Headset
