import Headset.Proofs.Keyframes

/-!
# Frames made and frames counted

The signals alone tell what becomes of a stream.  A frame is made of a call while the encoder is
started (`started_iff`), and it is counted once the client has come up (`connected_iff`).  The
counters of the client are those of the frames that reached it, each with the size of its kind, in
64 bits (`client_follow`, `deliveries_of_signals`).
-/

namespace Headset.Simulator

theorem Signal.owes_iff {s : Signal} : s.owes = true ↔ s = .start ∨ s = .requestKeyframe := by
  cases s <;> simp [owes]

theorem Transit.counted?_eq_some_iff {x : Transit} {f : VideoFrame} :
    x.counted? = some f ↔ x.frame = some f ∧ x.before.client.connected = true := by
  unfold counted?
  split <;> simp [*]

/-- The frames that the client counts, in order. -/
def counted (transits : List Transit) : List VideoFrame := transits.filterMap Transit.counted?

theorem counted_concat (transits : List Transit) (x : Transit) :
    counted (transits ++ [x]) = counted transits ++ x.counted?.toList := by
  cases h : x.counted? <;> simp [counted, h]

/-- The bytes of some frames, each of the size of its kind. -/
def bytes (frames : List VideoFrame) : Nat :=
  32768 * frames.countP VideoFrame.keyframe + 2048 * frames.countP fun f => !f.keyframe

theorem bytes_concat (frames : List VideoFrame) (f : VideoFrame) :
    bytes (frames ++ [f]) =
      bytes frames + if f.keyframe then Encoder.keyframeSize else Encoder.deltaSize := by
  cases kind : f.keyframe <;>
    simp [bytes, kind, List.countP_append, Encoder.keyframeSize, Encoder.deltaSize] <;> omega

/-- Of the starts, stops and shutdowns of the encoder the last one is a start. -/
def StartedLast (transits : List Transit) : Prop :=
  Since (fun x => x.signal = .start) (fun x => x.signal ≠ .stop ∧ x.signal ≠ .shutDown) transits

namespace Link

/-! ## One signal -/

/-- A frame is made of a call on an encoder that is started, and of nothing else. -/
theorem isSome_take (l : Link) (s : Signal) :
    (l.take s).2.isSome ↔ (∃ t, s = .present t) ∧ l.encoder.started = true := by
  cases s with
  | present t =>
    rw [take, frame_present, Encoder.present]
    split <;> simp [*]
  | connect | start | stop | requestKeyframe | shutDown => simp [take]

/-- An encoder is started by a start, and until it is stopped or shut down. -/
theorem started_take (l : Link) (s : Signal) : (l.take s).1.encoder.started = true ↔
    s = .start ∨ l.encoder.started = true ∧ s ≠ .stop ∧ s ≠ .shutDown := by
  cases s with
  | present t =>
    rw [take, encoder_present, Encoder.present]
    split <;> simp
  | connect | start | stop | requestKeyframe | shutDown =>
    simp [take, Encoder.start, Encoder.stop, Encoder.requestKeyframe, Encoder.shutDown]

theorem size_take {l : Link} {s : Signal} {f : VideoFrame} (h : (l.take s).2 = some f) :
    f.size = if f.keyframe then Encoder.keyframeSize else Encoder.deltaSize := by
  cases s with
  | present t =>
    rw [take, frame_present, Encoder.present] at h
    split at h
    · obtain rfl := Option.some.inj h
      rfl
    · simp at h
  | connect | start | stop | requestKeyframe | shutDown => simp [take] at h

/-! ## Any signals -/

theorem signals_transits (l : Link) (signals : List Signal) :
    (l.transits signals).map Transit.signal = signals := by
  induction signals generalizing l with
  | nil => rfl
  | cons s signals ih => rw [transits, List.map_cons, ih]

/-- The encoder is started if the last of its starts, stops and shutdowns is a start. -/
theorem started_iff (signals : List Signal) :
    (({} : Link).follow signals).encoder.started = true ↔
      StartedLast (({} : Link).transits signals) := by
  induction signals using List.reverseRecOn with
  | nil => exact ⟨fun h => absurd h (by decide), fun h => absurd h not_since_nil⟩
  | append_singleton signals s ih =>
    rw [follow_concat, transits_concat, StartedLast, since_concat, started_take, ih, StartedLast]

theorem connected_iff (signals : List Signal) :
    (({} : Link).follow signals).client.connected = true ↔
      ∃ x ∈ ({} : Link).transits signals, x.signal = .connect := by
  induction signals using List.reverseRecOn with
  | nil => exact ⟨fun h => absurd h (by decide), fun ⟨_, mem, _⟩ => absurd mem List.not_mem_nil⟩
  | append_singleton signals s ih =>
    rw [follow_concat, transits_concat, connected_take, ih]
    simp [or_and_right, exists_or, or_comm]

/-- The counters of the client are those of the frames that it counted, in 64 bits. -/
theorem client_follow (signals : List Signal) :
    (({} : Link).follow signals).client =
      { connected := (({} : Link).follow signals).client.connected
        frames := .ofNat (counted (({} : Link).transits signals)).length
        keyframes := .ofNat ((counted (({} : Link).transits signals)).countP VideoFrame.keyframe)
        bytes := .ofNat (bytes (counted (({} : Link).transits signals))) } := by
  induction signals using List.reverseRecOn with
  | nil => rfl
  | append_singleton signals s ih =>
    rw [follow_concat, transits_concat, counted_concat, client_take, ih]
    simp only [Transit.counted?]
    split
    · cases made : (({} : Link).follow signals |>.take s).2 with
      | none => simp [Client.counted]
      | some f =>
        have size := size_take made
        simp [Client.counted, bytes_concat, size, UInt64.ofNat_add, List.countP_append]
        split <;> rfl
    · simp [Client.counted]

end Link

variable {signals : List Signal} {earlier later : List Transit} {x : Transit} {f : VideoFrame}

theorem frame_of_mem_transits (mem : x ∈ ({} : Link).transits signals) :
    x.frame = (x.before.take x.signal).2 :=
  congrArg Prod.snd (Link.taken_of_mem_transits mem)

/-- A frame is made of a call for one, if the encoder was started last. -/
theorem isSome_frame_iff (split : ({} : Link).transits signals = earlier ++ x :: later) :
    x.frame.isSome ↔ (∃ t, x.signal = .present t) ∧ StartedLast earlier := by
  have mem : x ∈ ({} : Link).transits signals := by
    rw [split]
    simp
  have started : x.before.encoder.started = true ↔ StartedLast earlier :=
    Link.atEach_transits (P := fun earlier l => l.encoder.started = true ↔ StartedLast earlier)
      Link.started_iff signals earlier x later split
  rw [frame_of_mem_transits mem, Link.isSome_take, started]

/-- A frame is counted if the client came up before. -/
theorem counted?_iff (split : ({} : Link).transits signals = earlier ++ x :: later) :
    x.counted? = some f ↔ x.frame = some f ∧ ∃ y ∈ earlier, y.signal = .connect := by
  have connected : x.before.client.connected = true ↔ ∃ y ∈ earlier, y.signal = .connect :=
    Link.atEach_transits (P := fun earlier l => l.client.connected = true ↔
      ∃ y ∈ earlier, y.signal = .connect) Link.connected_iff signals earlier x later split
  rw [Transit.counted?_eq_some_iff, connected]

/-- For every sequence of signals to a new encoder and a new client, a call for a frame has one made
just if the last start, stop or shutdown before it is a start; the frame is a keyframe just if a
start or a request for one has come since the frame before it, or at all; and the client counts it
just if it came up before.  The counters of the client are the number of the frames that it counted,
that of the keyframes among them, and the bytes of them all: the numbers themselves as long as they
have 64 bits, and what is left of them in 64 bits otherwise. -/
theorem deliveries_of_signals (signals : List Signal) :
    (({} : Link).transits signals).map Transit.signal = signals ∧
    AtEach (fun earlier x =>
      (x.frame.isSome ↔ (∃ t, x.signal = .present t) ∧ StartedLast earlier) ∧
      (∀ f, x.frame = some f → (f.keyframe = true ↔
        Since (fun y => y.signal = .start ∨ y.signal = .requestKeyframe) (fun y => y.frame = none)
          earlier)) ∧
      ∀ f, x.counted? = some f ↔ x.frame = some f ∧ ∃ y ∈ earlier, y.signal = .connect)
      (({} : Link).transits signals) ∧
    let client := (({} : Link).follow signals).client
    let frames := (({} : Link).transits signals).filterMap Transit.counted?
    let bytes :=
      32768 * frames.countP VideoFrame.keyframe + 2048 * frames.countP fun f => !f.keyframe
    client.frames = .ofNat frames.length ∧
      client.keyframes = .ofNat (frames.countP VideoFrame.keyframe) ∧
      client.bytes = .ofNat bytes ∧
      (frames.length < UInt64.size → client.frames.toNat = frames.length ∧
        client.keyframes.toNat = frames.countP VideoFrame.keyframe) ∧
      (bytes < UInt64.size → client.bytes.toNat = bytes) := by
  refine ⟨Link.signals_transits _ signals, fun earlier x later split => ⟨isSome_frame_iff split,
    fun f made => ?_, fun f => counted?_iff split⟩, ?_⟩
  · simpa only [Signal.owes_iff] using keyframe_iff split made
  · have client := Link.client_follow signals
    have frames := congrArg Client.frames client
    have keyframes := congrArg Client.keyframes client
    have bytes := congrArg Client.bytes client
    refine ⟨frames, keyframes, bytes, fun few => ⟨?_, ?_⟩, fun few => ?_⟩
    · rw [frames]
      exact UInt64.toNat_ofNat_of_lt' few
    · rw [keyframes]
      exact UInt64.toNat_ofNat_of_lt' (Nat.lt_of_le_of_lt List.countP_le_length few)
    · rw [bytes]
      exact UInt64.toNat_ofNat_of_lt' few

end Headset.Simulator
