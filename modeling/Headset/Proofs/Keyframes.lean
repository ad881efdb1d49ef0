import Headset.Proofs.Since
import Headset.Simulator.Encoder

/-!
# Keyframes owed to the client

A client that joins a stream, or loses frames of it, needs a keyframe before anything else.  A start
and a request each owe one, and the next frame that is made is one (`keyframe_iff`).  Whether the
client gets it is another matter: a frame that is made before the client has connected is lost, and
nothing is owed any more.  So the first frame that the client counts after a start or a request is a
keyframe if and only if no frame was made and lost since the last of them (`keyframe_of_signals`).
-/

namespace Headset.Simulator

/-- The client after it has counted a frame, or after none came. -/
def Client.counted (c : Client) (frame : Option VideoFrame) : Client :=
  { c with
    frames := c.frames + frame.elim 0 fun _ => 1
    keyframes := c.keyframes + frame.elim 0 fun f => if f.keyframe then 1 else 0
    bytes := c.bytes + frame.elim 0 fun f => .ofNat f.size }

/-- What can be asked of a client and of the encoder that sends to it. -/
inductive Signal where
  | connect
  | start
  | stop
  | requestKeyframe
  | present (t : FrameTiming)
  | shutDown

/-- Whether a signal owes the client a keyframe. -/
def Signal.owes : Signal → Bool
  | .start => true
  | .requestKeyframe => true
  | _ => false

/-- A signal as it went, between the link before it and the link after it. -/
structure Transit where
  before : Link
  signal : Signal
  /-- The frame that was made. -/
  frame : Option VideoFrame
  after : Link

/-- The frame that the client counts. -/
def Transit.counted? (x : Transit) : Option VideoFrame :=
  if x.before.client.connected then x.frame else none

theorem Client.counted_none (c : Client) : c.counted none = c := by
  simp [counted]

namespace Link

/-- The link after a signal, with the frame that was made. -/
def take (l : Link) : Signal → Link × Option VideoFrame
  | .connect => ({ l with client := l.client.connect }, none)
  | .start => ({ l with encoder := l.encoder.start }, none)
  | .stop => ({ l with encoder := l.encoder.stop }, none)
  | .requestKeyframe => ({ l with encoder := l.encoder.requestKeyframe }, none)
  | .present t => l.present t
  | .shutDown => ({ l with encoder := l.encoder.shutDown }, none)

/-- The link after some signals. -/
def follow (l : Link) (signals : List Signal) : Link := signals.foldl (fun l s => (l.take s).1) l

/-- The signals as they went. -/
def transits (l : Link) : List Signal → List Transit
  | [] => []
  | s :: signals => ⟨l, s, (l.take s).2, (l.take s).1⟩ :: (l.take s).1.transits signals

theorem follow_concat (l : Link) (signals : List Signal) (s : Signal) :
    l.follow (signals ++ [s]) = ((l.follow signals).take s).1 := by
  simp [follow]

theorem transits_concat (l : Link) (signals : List Signal) (s : Signal) :
    l.transits (signals ++ [s]) = l.transits signals ++
      [⟨l.follow signals, s, ((l.follow signals).take s).2, ((l.follow signals).take s).1⟩] := by
  induction signals generalizing l with
  | nil => rfl
  | cons first signals ih => simp [transits, follow, ih]

/-- What holds after any signals, of the link and of how they went, holds at each of them. -/
theorem atEach_transits {P : List Transit → Link → Prop} {l : Link}
    (always : ∀ signals, P (l.transits signals) (l.follow signals)) (signals : List Signal) :
    AtEach (fun earlier x => P earlier x.before) (l.transits signals) := by
  induction signals using List.reverseRecOn with
  | nil => exact atEach_nil
  | append_singleton signals s ih =>
    rw [transits_concat]
    exact atEach_concat.2 ⟨ih, always signals⟩

/-! ## One signal -/

theorem encoder_present (l : Link) (t : FrameTiming) :
    (l.present t).1.encoder = (l.encoder.present t).1 := by
  unfold present
  rcases l.encoder.present t with ⟨encoder, _ | f⟩ <;> rfl

theorem frame_present (l : Link) (t : FrameTiming) :
    (l.present t).2 = (l.encoder.present t).2 := by
  unfold present
  rcases l.encoder.present t with ⟨encoder, _ | f⟩ <;> rfl

/-- A client that is connected counts the frame, another one is left as it is. -/
theorem client_present (l : Link) (t : FrameTiming) : (l.present t).1.client =
    l.client.counted (if l.client.connected then (l.present t).2 else none) := by
  unfold present
  rcases l.encoder.present t with ⟨encoder, _ | f⟩
  · simp [Client.counted_none]
  · by_cases connected : l.client.connected = true
    · simp only [Client.receive, connected, if_true, Client.counted, Option.elim_some]
      split <;> simp
    · rw [if_neg connected]
      simp only [Client.receive, connected, Bool.false_eq_true, if_false, Client.counted_none]

/-- What was made of a frame is all that the counters of the client know of a signal. -/
theorem client_take (l : Link) (s : Signal) : (l.take s).1.client =
    { l.client.counted (if l.client.connected then (l.take s).2 else none) with
      connected := (l.take s).1.client.connected } := by
  cases s with
  | present t => rw [take, client_present]
  | connect | start | stop | requestKeyframe | shutDown =>
    simp [take, Client.counted, Client.connect]

/-- A client is connected by its coming up, and stays so. -/
theorem connected_take (l : Link) (s : Signal) : (l.take s).1.client.connected = true ↔
    s = .connect ∨ l.client.connected = true := by
  cases s with
  | present t => simp [take, client_present, Client.counted]
  | connect | start | stop | requestKeyframe | shutDown => simp [take, Client.connect]

/-- A keyframe is pending after a signal that owes one, and from then until a frame is made. -/
theorem pending_take (l : Link) (s : Signal) : (l.take s).1.encoder.keyframePending = true ↔
    s.owes = true ∨ l.encoder.keyframePending = true ∧ (l.take s).2 = none := by
  cases s with
  | present t =>
    simp only [take, encoder_present, frame_present, Encoder.present, Signal.owes]
    split <;> simp
  | connect | start | stop | requestKeyframe | shutDown =>
    simp [take, Encoder.start, Encoder.stop, Encoder.requestKeyframe, Encoder.shutDown, Signal.owes]

/-- A frame is a keyframe if one was pending. -/
theorem keyframe_take {l : Link} {s : Signal} {f : VideoFrame} (h : (l.take s).2 = some f) :
    f.keyframe = l.encoder.keyframePending := by
  cases s with
  | present t =>
    rw [take, frame_present, Encoder.present] at h
    split at h
    · obtain rfl := Option.some.inj h
      rfl
    · simp at h
  | connect | start | stop | requestKeyframe | shutDown => simp [take] at h

/-! ## Any signals -/

/-- How a signal went is what the link makes of it. -/
theorem taken_of_mem_transits {l : Link} {signals : List Signal} {x : Transit}
    (mem : x ∈ l.transits signals) : (x.after, x.frame) = x.before.take x.signal := by
  induction signals generalizing l with
  | nil => simp [transits] at mem
  | cons s signals ih =>
    rcases List.mem_cons.1 mem with rfl | mem
    · rfl
    · exact ih mem

/-- A keyframe is pending if it has been owed and no frame has been made since. -/
theorem pending_iff (signals : List Signal) :
    (({} : Link).follow signals).encoder.keyframePending = true ↔
      Since (fun x => x.signal.owes = true) (fun x => x.frame = none)
        (({} : Link).transits signals) := by
  induction signals using List.reverseRecOn with
  | nil => exact ⟨fun h => absurd h (by decide), fun h => absurd h not_since_nil⟩
  | append_singleton signals s ih =>
    rw [follow_concat, transits_concat, since_concat, pending_take, ih]

/-- A client is connected for good. -/
theorem connected_follow (signals : List Signal) :
    ∀ x ∈ ({} : Link).transits signals, x.before.client.connected = true →
      (({} : Link).follow signals).client.connected = true := by
  induction signals using List.reverseRecOn with
  | nil => intro x mem; simp [transits] at mem
  | append_singleton signals s ih =>
    intro x mem connected
    rw [transits_concat, List.mem_append, List.mem_singleton] at mem
    rw [follow_concat, connected_take]
    rcases mem with mem | rfl
    · exact .inr (ih x mem connected)
    · exact .inr connected

end Link

variable {signals : List Signal} {earlier between later : List Transit} {x y : Transit}

/-- The frame that is made is a keyframe if one has been owed and no frame was made since. -/
theorem keyframe_iff {f : VideoFrame}
    (split : ({} : Link).transits signals = earlier ++ y :: later) (made : y.frame = some f) :
    f.keyframe = true ↔
      Since (fun x => x.signal.owes = true) (fun x => x.frame = none) earlier := by
  have mem : y ∈ ({} : Link).transits signals := by
    rw [split]
    simp
  have taken := Link.taken_of_mem_transits mem
  have pending : f.keyframe = y.before.encoder.keyframePending :=
    Link.keyframe_take (s := y.signal) (by rw [← taken, made])
  rw [pending]
  exact Link.atEach_transits (P := fun earlier l => l.encoder.keyframePending = true ↔
    Since (fun x => x.signal.owes = true) (fun x => x.frame = none) earlier)
    Link.pending_iff signals earlier y later split

/-- What the counters of the client make of a signal. -/
theorem counted_of_mem_transits (mem : x ∈ ({} : Link).transits signals) :
    x.after.client =
      { x.before.client.counted x.counted? with connected := x.after.client.connected } := by
  obtain ⟨after, frame⟩ := Prod.mk.inj (Link.taken_of_mem_transits mem)
  rw [Transit.counted?, after, frame]
  exact Link.client_take _ _

/-- A client that is connected counts every frame from then on. -/
theorem frame_eq_counted (split : ({} : Link).transits signals = earlier ++ y :: later)
    (mem : x ∈ earlier) (connected : x.before.client.connected = true) : y.frame = y.counted? := by
  have persists : y.before.client.connected = true :=
    Link.atEach_transits (P := fun earlier l => ∀ x ∈ earlier, x.before.client.connected = true →
      l.client.connected = true) Link.connected_follow signals earlier y later split x mem connected
  rw [Transit.counted?, if_pos persists]

/-- Of the frames that the client counts, the first after a start or a request for a keyframe is one
exactly if no frame was made, and so lost, since the last start or request before it.  This is so
if the client was connected at the start or the request. -/
theorem keyframe_of_signals (signals : List Signal) :
    (∀ z ∈ ({} : Link).transits signals, z.after.client =
      { z.before.client.counted z.counted? with connected := z.after.client.connected }) ∧
    ∀ earlier x between y later f,
      ({} : Link).transits signals = earlier ++ x :: (between ++ y :: later) →
      x.signal.owes = true → (∀ z ∈ between, z.counted? = none) → y.counted? = some f →
      (f.keyframe = true ↔
        Since (fun z => z.signal.owes = true) (fun z => z.frame = none) (x :: between)) ∧
      (x.before.client.connected = true → f.keyframe = true) := by
  refine ⟨fun z => counted_of_mem_transits, ?_⟩
  intro earlier x between y later f split owes uncounted counted
  have made : y.frame = some f := by
    unfold Transit.counted? at counted
    split at counted
    · exact counted
    · simp at counted
  have whole : ({} : Link).transits signals = (earlier ++ x :: between) ++ y :: later := by
    simpa using split
  have owed : f.keyframe = true ↔
      Since (fun z => z.signal.owes = true) (fun z => z.frame = none) (x :: between) :=
    (keyframe_iff whole made).trans (since_append_cons owes)
  refine ⟨owed, fun connected => owed.2 ⟨[], x, between, rfl, owes, fun z mem => ?_⟩⟩
  obtain ⟨front, back, rfl⟩ := List.append_of_mem mem
  have within : ({} : Link).transits signals =
      (earlier ++ x :: front) ++ z :: (back ++ y :: later) := by
    simpa using split
  rw [frame_eq_counted within (List.mem_append_right _ (.head _)) connected]
  exact uncounted z mem

/-- A client that comes late, and then asks for a keyframe. -/
def belatedSignals : List Signal :=
  [.start, .present default, .connect, .requestKeyframe, .present default]

theorem keyframe_of_belatedSignals : ∃ earlier x y f,
    ({} : Link).transits belatedSignals = earlier ++ [x, y] ∧ x.signal = .requestKeyframe ∧
      x.before.client.connected = true ∧ y.counted? = some f ∧ f.keyframe = true := by
  refine ⟨(({} : Link).transits belatedSignals).take 3, _, _, _, rfl, rfl, rfl, rfl, ?_⟩
  exact ((keyframe_of_signals belatedSignals).2 ((({} : Link).transits belatedSignals).take 3)
    _ [] _ [] _ rfl rfl (List.forall_mem_nil _) rfl).2 rfl

/-- A client that comes late, and does not ask for a keyframe. -/
def silentSignals : List Signal := [.start, .present default, .connect, .present default]

/-- The keyframe that a start owes is made before the client has connected, and lost: the first
frame that the client counts is none. -/
theorem keyframe_lost : ∃ x between y later f,
    ({} : Link).transits silentSignals = x :: (between ++ y :: later) ∧ x.signal = .start ∧
      (∀ z ∈ between, z.counted? = none) ∧ y.counted? = some f ∧ f.keyframe = false := by
  refine ⟨_, (({} : Link).transits silentSignals).tail.take 2, _, [], _, rfl, rfl, ?_, rfl, rfl⟩
  intro z mem
  simp only [silentSignals, Link.transits, List.tail_cons, List.take_succ_cons, List.take_zero,
    List.mem_cons, List.not_mem_nil, or_false] at mem
  rcases mem with rfl | rfl <;> rfl

end Headset.Simulator
