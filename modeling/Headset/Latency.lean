import Headset.Json.Codec
import Headset.Stream

/-!
# Latency

A tracking sample that comes in opens a frame under its time.  The frame is stamped when it is
presented and when it is encoded, and the client's report on it adds one value to each of five
windows.  The averages over the windows tell how far past the client's prediction the host should
look for a pose.
-/

namespace Headset

/-- What a build makes of a sum of the latencies' counts that has no room in 64 bits. -/
inductive Overflow where
  /-- It starts again from zero. -/
  | wraps
  /-- The call does not return. -/
  | stops
  deriving DecidableEq, Repr, Inhabited

/-- The newest values of one kind, oldest first. -/
structure Window where
  capacity : Nat
  values : List Span
  deriving Inhabited

namespace Window

def empty (capacity : Nat) : Window := ⟨capacity, []⟩

/-- Adds a value, the oldest leaving a full window. -/
def submit (w : Window) (s : Span) : Window :=
  let kept := if w.values.length = w.capacity then w.values.tail else w.values
  { w with values := kept ++ [s] }

/-- The average; zero for no values, and none if their sum or its division leaves the range. -/
def average? (w : Window) : Option Span :=
  if w.values.isEmpty then some .zero
  else (Span.sum? w.values).bind (Span.div? · w.values.length)

end Window

/-- A frame on its way from a tracking sample to the client. -/
structure OpenFrame where
  target : Span
  received : Span
  presented : Option Span := none
  encoded : Option Span := none
  bytes : Nat := 0
  keyframe : Bool := false
  deriving Inhabited

namespace OpenFrame

/-- From the arrival of the sample to the presentation, which is the arrival if there was none. -/
def gameTime (f : OpenFrame) : Span := f.presented.getD f.received - f.received

/-- From the presentation to the encoded frame. -/
def encodeTime (f : OpenFrame) : Span :=
  match f.encoded with
  | none => .zero
  | some e => e - f.presented.getD f.received

/-- What the stages leave of the total: the network, both ways.  None if their sum leaves the
range. -/
def networkTime? (f : OpenFrame) (r : ClientReport) : Option Span :=
  (Span.sum? [f.gameTime, f.encodeTime, r.decode, r.decoderQueue, r.rendering, r.vsyncQueue]).map
    fun stages => r.total - stages

end OpenFrame

/-- The averages at one moment, in milliseconds, and the counts. -/
structure LatencySnapshot where
  total : Float32
  game : Float32
  encode : Float32
  network : Float32
  decode : Float32
  hostPipeline : Float32
  poseOffset : Float32
  reports : UInt64
  framesDropped : UInt64
  historySize : Nat
  deriving Inhabited

def LatencySnapshot.toJson (s : LatencySnapshot) : Json :=
  Json.record [("total_pipeline_ms", .ofSingle s.total), ("game_ms", .ofSingle s.game),
    ("encode_ms", .ofSingle s.encode), ("network_ms", .ofSingle s.network),
    ("decode_ms", .ofSingle s.decode), ("host_pipeline_ms", .ofSingle s.hostPipeline),
    ("pose_time_offset_ms", .ofSingle s.poseOffset), ("reports", .ofNat s.reports.toNat),
    ("frames_dropped", .ofNat s.framesDropped.toNat), ("history_len", .ofNat s.historySize)]

/-- The frames still open, newest first, and the windows of the reports. -/
structure Latency where
  capacity : Nat
  /-- What the host spends between a pose query and the light. -/
  hostPipeline : Span
  frames : List OpenFrame
  total : Window
  game : Window
  encode : Window
  network : Window
  decode : Window
  reports : UInt64
  framesDropped : UInt64
  /-- What becomes of the two counts when they are full. -/
  overflow : Overflow
  deriving Inhabited

namespace Latency

/-- No frames and no reports yet.  The host is granted `hostFrames` refresh intervals, or no time
if those have no span. -/
def empty (capacity : Nat) (interval : Span) (hostFrames : Float32) (overflow : Overflow) :
    Latency :=
  let capacity := max capacity 1
  { capacity
    hostPipeline := (Span.ofSeconds? (hostFrames * interval.toSeconds)).getD .zero
    frames := []
    total := .empty capacity
    game := .empty capacity
    encode := .empty capacity
    network := .empty capacity
    decode := .empty capacity
    reports := 0
    framesDropped := 0
    overflow }

/-- The most frames that room can be set aside for: less than `2 ^ 63` bytes, of which a frame takes
80.  The values in a window are smaller. -/
def mostFrames : Nat := 0x7fffffffffffffff / 80

/-- No frames and no reports yet, with room for all that may come; none if there is no such room. -/
def allocate? (capacity : Nat) (interval : Span) (hostFrames : Float32) (overflow : Overflow) :
    Option Latency :=
  if max capacity 1 ≤ mostFrames then some (.empty capacity interval hostFrames overflow) else none

theorem allocate?_eq_some_iff {capacity : Nat} {interval : Span} {hostFrames : Float32}
    {overflow : Overflow} {l : Latency} :
    allocate? capacity interval hostFrames overflow = some l ↔
      capacity ≤ mostFrames ∧ l = .empty capacity interval hostFrames overflow := by
  have one : 1 ≤ mostFrames := by decide
  have room : max capacity 1 ≤ mostFrames ↔ capacity ≤ mostFrames := by omega
  rw [allocate?, Option.ite_none_right_eq_some, room, Option.some.injEq, @eq_comm _ l]

def frame? (l : Latency) (target : Span) : Option OpenFrame :=
  l.frames.find? fun f => f.target = target

def update (l : Latency) (target : Span) (change : OpenFrame → OpenFrame) : Latency :=
  { l with frames := l.frames.map fun f => if f.target = target then change f else f }

/-- A sample came in.  The first arrival for a target counts; the oldest frame makes room. -/
def received (l : Latency) (target now : Span) : Latency :=
  match l.frame? target with
  | some _ => l
  | none =>
    let opened : OpenFrame := { target, received := now }
    { l with frames := (opened :: l.frames).take l.capacity }

/-- The frame of a target was presented.  The first time counts. -/
def presented (l : Latency) (target now : Span) : Latency :=
  l.update target fun f => { f with presented := some (f.presented.getD now) }

/-- The frame of a target was encoded.  The last time counts. -/
def encoded (l : Latency) (target now : Span) (bytes : Nat) (keyframe : Bool) : Latency :=
  l.update target fun f => { f with encoded := some now, bytes, keyframe }

/-- The time a frame encoded at `now` has spent since it was presented. -/
def encodeTime? (l : Latency) (target now : Span) : Option Span :=
  (l.frame? target).bind fun f => f.presented.map fun p => now - p

/-- Adds a report on an open frame to the windows. -/
def submit (l : Latency) (f : OpenFrame) (r : ClientReport) (network : Span) : Latency :=
  { l with
    total := l.total.submit r.total
    game := l.game.submit f.gameTime
    encode := l.encode.submit f.encodeTime
    network := l.network.submit network
    decode := l.decode.submit r.decode
    reports := l.reports + 1
    framesDropped := l.framesDropped + r.dropped.toUInt64 }

/-- Some more reports can be counted, which miss some frames.  In a build that stops when a count is
full, there has to be room. -/
def CanCount (l : Latency) (reports missed : Nat) : Prop :=
  l.overflow = .stops →
    l.reports.toNat + reports < UInt64.size ∧ l.framesDropped.toNat + missed < UInt64.size

instance (l : Latency) (reports missed : Nat) : Decidable (l.CanCount reports missed) :=
  inferInstanceAs (Decidable (_ → _))

/-- The client reported on a frame.  A report on a frame that is not open is left out; otherwise the
network's share of the total is returned.  None if times leave the range, or if the report cannot be
counted. -/
def reported? (l : Latency) (r : ClientReport) : Option (Latency × Option Span) :=
  match l.frame? r.target with
  | none => some (l, none)
  | some f =>
    if l.CanCount 1 r.dropped.toNat then
      (f.networkTime? r).map fun network => (l.submit f r network, some network)
    else none

/-- How far past the client's prediction the host should look for a pose. -/
def poseOffset? (l : Latency) : Option Span :=
  l.total.average?.map fun total => l.hostPipeline - total

/-- The averages as they stand; none if one of them leaves the range. -/
def snapshot? (l : Latency) : Option LatencySnapshot := do
  let total ← l.total.average?
  let game ← l.game.average?
  let encode ← l.encode.average?
  let network ← l.network.average?
  let decode ← l.decode.average?
  return {
    total := total.toMillis
    game := game.toMillis
    encode := encode.toMillis
    network := network.toMillis
    decode := decode.toMillis
    hostPipeline := l.hostPipeline.toMillis
    poseOffset := (l.hostPipeline - total).toMillis
    reports := l.reports
    framesDropped := l.framesDropped
    historySize := l.frames.length }

end Latency

end Headset
