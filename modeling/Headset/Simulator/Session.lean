import Headset.Simulator.Bench
import Headset.Simulator.Options

/-!
# Sessions

A session runs a device on the bench until the client has got a number of frames.  Its main thread
goes through `Turn`s, round after round, and takes the device out of use at last, while the timer
ticks between the turns; a `Move` is one turn, one tick, or the end of patience.  Any list of moves
is a way for a session to go, and `Session.nominal` is the one in which every round is followed by
one tick.
-/

namespace Headset.Simulator

/-- Where the main thread stands. -/
inductive Turn where
  /-- Gives views to the device, which was just activated. -/
  | views
  /-- Leaves the rounds or sends a tracking packet. -/
  | track
  | query
  | hostFrame
  /-- Reports the frame of the round before as encoded. -/
  | encoded
  /-- Has the client report on the frame of the round before. -/
  | report
  /-- Reports a loss of frames, once. -/
  | loss
  /-- Reads the counters of the device. -/
  | counters
  /-- Reads its averages. -/
  | averages
  | deactivate
  | shutDown
  | over
  deriving DecidableEq, Repr, Inhabited

structure Session where
  rig : Rig
  bench : Bench
  /-- Frames after which the rounds end. -/
  wanted : Nat
  /-- Frames after which a loss is to be reported, until it has been. -/
  lossAt : Option Nat
  turn : Turn
  /-- The time of the packet of this round. -/
  target : Option Span
  /-- The time of the packet of the round before. -/
  previous : Option Span
  /-- The counters of the device, as they were read at the end. -/
  counters : Counters
  /-- Its averages, once they were read. -/
  latency : Option LatencySnapshot
  /-- Steps so far; new encoders and timers are numbered by it. -/
  steps : Nat
  /-- The steps, each with its calls on the bench, and the last one first. -/
  log : List (Step × List Effect)
  deriving Inhabited

/-- One thing that happens in a session. -/
inductive Move where
  /-- The main thread takes its turn, reading the clock up to three times. -/
  | advance (target arrival now : Span)
  | tick (now : Span)
  /-- Patience ends, if a round has just ended. -/
  | timeOut

/-- Why a session has no summary. -/
inductive SessionError where
  | driver (e : DriverError)
  | neverConfigured
  deriving Inhabited

def SessionError.message : SessionError → String
  | .driver e => e.message
  | .neverConfigured => "client never received a stream config"

/-- What a session leaves behind: the device's counters and averages before it was taken out of use,
and the bench. -/
structure Summary where
  counters : Counters
  latency : LatencySnapshot
  bench : Bench
  deriving Inhabited

/-! ## Simulated data -/

/-- A span of milliseconds below a second. -/
def millis (n : Fin 1000) : Span := ⟨n * 1000000, by omega⟩

/-- The head sways around its place. -/
def headMotion (seconds : Float32) : Motion :=
  let phase := seconds * 0.5
  ⟨⟨⟨0.05 * sin32 phase, 1.7, 0⟩, .identity⟩,
    ⟨⟨0.025 * cos32 phase, 0, 0⟩, ⟨0, 0.1, 0⟩⟩⟩

/-- A controller goes up and down at a distance from the middle. -/
def controllerTracking (seconds distance : Float32) : ControllerTracking :=
  ⟨⟨⟨⟨distance, 1.2 + 0.02 * sin32 seconds, -0.3⟩, .identity⟩, .zero⟩, [], []⟩

def packet (target : Span) : TrackingPacket :=
  let seconds := target.toSeconds
  ⟨target, some (headMotion seconds),
    ⟨some (controllerTracking seconds (-0.2)), some (controllerTracking seconds 0.2)⟩⟩

/-- The client's report on the frame for a time, after so many frames. -/
def clientReport (target : Span) (frames : Nat) : ClientReport where
  target
  total := ⟨28000000 + frames % 7 * 250000, by omega⟩
  decode := millis 4
  decoderQueue := millis 1
  rendering := millis 2
  vsyncQueue := millis 5
  dropped := 0

/-- The views that the client asks for. -/
def simulatedViews : Views := .ofDistance 0.064 (.both .standard)

namespace Session

/-! ## Beginning -/

/-- The configuration of a session: a refresh rate that is given takes the place of the configured
one, and what comes of it has to be valid. -/
def configure (config : Config) (refreshRate : Option Float32) : Except ConfigError Config :=
  match refreshRate with
  | none => .ok config
  | some r => { config with display := { config.display with refreshRate := r } }.validate

/-- Makes a step of the rig, which the bench feels; none if times leave their range. -/
def step? (s : Session) (step : Step) (arrival now : Span) : Option (Session × Reply) := do
  let a ← s.bench.answers? s.rig.device.config s.steps arrival now
  let (rig, log, reply) ← s.rig.step? step a
  return ({ s with
    rig
    bench := s.bench.feelAll log
    steps := s.steps + 1
    log := (step, log) :: s.log }, reply)

/-- The controllers of a session; there is no tracker and no backend for direct mode, and counts that
are full go on from zero. -/
def equipment : Equipment := ⟨⟨⟨some 0, some 1⟩, false⟩, none, .wraps⟩

/-- How long a session may take: two refresh intervals for each frame, and two seconds.  None if
this is no point in time, which is counted in 63 bits of seconds. -/
def patience? (config : Config) (frames : Nat) : Option Span := do
  let interval ← Span.ofSeconds? (1 / config.display.refreshRate)
  let long ← Span.ofSecondsDouble? (frames.toUInt64.toFloat * 2.0 * interval.toSecondsDouble)
  let long ← long.add? ⟨2000000000, by decide⟩
  guard (long.secs < 0x8000000000000000)
  return long

/-- A session before its first step: the client comes up. -/
def ofDevice (device : Device) (options : Options) : Session where
  rig := .ofDevice device History.defaultCapacity
  bench := { link := { client := ({} : Client).connect }, updates := [0, 0] }
  wanted := options.frames
  lossAt := options.lossAt
  turn := .views
  target := none
  previous := none
  counters := {}
  latency := none
  steps := 0
  log := []

/-- Begins a session: the client is ready, and the device is activated.  None if times leave their
range. -/
def begin? (config : Config) (options : Options) : Option (Except SessionError Session) := do
  match ← Device.build? config equipment with
  | .error e => return .error (.driver (.config e))
  | .ok device =>
    let (s, ready) ← (ofDevice device options).step? (.call .streamStart) .zero .zero
    if let .result (.error e) := ready then return .error (.driver e)
    let (s, active) ← s.step? (.call (.activate 0)) .zero .zero
    if let .result (.error e) := active then return .error (.driver e)
    let _ ← patience? config options.frames
    return .ok s

/-! ## Course -/

def next (s : Session) (turn : Turn) : Session := { s with turn }

/-- The main thread takes its turn. -/
def advance? (s : Session) (target arrival now : Span) : Option Session :=
  let frames := s.bench.link.client.frames.toNat
  match s.turn with
  | .views => (s.step? (.call (.setViews simulatedViews)) arrival now).map fun (s, _) =>
      s.next .track
  | .track =>
    if s.wanted ≤ frames then some (s.next .counters)
    else (s.step? (.call (.tracking (packet target))) arrival now).map fun (s, _) =>
      { s with turn := .query, target := some target, previous := s.target }
  | .query => (s.step? (.call .getPose) arrival now).map fun (s, _) => s.next .hostFrame
  | .hostFrame => (s.step? (.call .runFrame) arrival now).map fun (s, _) => s.next .encoded
  | .encoded =>
    match s.previous with
    | none => some (s.next .report)
    | some previous =>
      (s.step? (.call (.frameEncoded previous 2048 false)) arrival now).map fun (s, _) =>
        s.next .report
  | .report =>
    match s.previous with
    | none => some (s.next .loss)
    | some previous =>
      (s.step? (.call (.clientReport (Simulator.clientReport previous frames))) arrival now).map
        fun (s, _) => s.next .loss
  | .loss =>
    if s.lossAt.any (· ≤ frames) then
      (s.step? (.call .packetLoss) arrival now).map fun (s, _) =>
        { s with turn := .track, lossAt := none }
    else some (s.next .track)
  | .counters => some { s with turn := .averages, counters := s.rig.device.counters }
  | .averages => s.rig.device.latency.snapshot?.map fun latency =>
      { s with turn := .deactivate, latency := some latency }
  | .deactivate => (s.step? (.call .deactivate) arrival now).map fun (s, _) => s.next .shutDown
  | .shutDown => (s.step? (.call .shutDown) arrival now).map fun (s, _) => s.next .over
  | .over => some s

/-- One move; none if times leave their range. -/
def move? (s : Session) : Move → Option Session
  | .advance target arrival now => s.advance? target arrival now
  | .tick now => (s.step? .tick now now).map Prod.fst
  | .timeOut => some (if s.turn = .track then s.next .counters else s)

/-! ## End -/

/-- What comes of a session that is over. -/
def outcome? (s : Session) : Option (Except SessionError Summary) := do
  guard (s.turn = .over)
  let latency ← s.latency
  if s.bench.link.client.stream.isNone then return .error .neverConfigured
  return .ok ⟨s.counters, latency, s.bench⟩

/-- A whole session that goes by some moves; none if times leave their range, or if it is not over
after them. -/
def run? (config : Config) (options : Options) (moves : List Move) :
    Option (Except SessionError Summary) := do
  match ← begin? config options with
  | .error e => return .error e
  | .ok s =>
    let s ← moves.foldlM move? s
    s.outcome?

/-- Rounds of six turns, each followed by a tick one refresh interval after the round before, and
the four turns at the end. -/
def rounds (interval : Span) : Nat → Span → List Move
  | 0, now => .timeOut :: List.replicate 4 (.advance now now now)
  | n + 1, now =>
    let later := (now.add? interval).getD .longest
    List.replicate 6 (.advance now now now) ++ .tick later :: rounds interval n later

/-- The moves of a session in which nothing is late: a round and a tick for each frame.  A session
that cannot begin, as its end would be no point in time, has none. -/
def nominal (config : Config) (frames : Nat) : List Move :=
  match Span.ofSeconds? (1 / config.display.refreshRate), patience? config frames with
  | some interval, some _ => .advance .zero .zero .zero :: rounds interval frames .zero
  | _, _ => []

end Session

/-! ## Command -/

/-- What a command comes to. -/
inductive Report where
  | help
  | misuse (m : Misuse)
  | loading (path : String) (e : DriverError)
  | failure (e : SessionError)
  | overflow
  | summary (s : Summary)
  deriving Inhabited

/-- A text with further lines indented by four blanks, as below the cause of an error. -/
def indented (text : String) : String :=
  String.ofList (text.toList.flatMap fun c => if c = '\n' then "\n    ".toList else [c])

/-- What is written about a command that fails. -/
def Report.error? : Report → Option String
  | .loading path e =>
    some ("Error: loading " ++ path ++ "\n\nCaused by:\n    " ++ indented e.message)
  | .failure e => some ("Error: " ++ e.message)
  | _ => none

/-- Loads the configuration that the options name.  `read` gives what is in a file. -/
def Options.load (o : Options) (read : String → Except FileFault (List UInt8)) :
    Except Report Config :=
  let file : Except Report Config := match o.config with
    | none => .ok {}
    | some path => match Config.ofFile path (read path) with
      | .error e => .error (.loading path (.config e))
      | .ok c => .ok c
  match file with
  | .error r => .error r
  | .ok c => match Session.configure c o.refreshRate with
    | .error e => .error (.failure (.driver (.config e)))
    | .ok c => .ok c

/-- Runs a command in a session in which nothing is late. -/
def Report.ofArguments (read : String → Except FileFault (List UInt8))
    (environment : Option String) (arguments : List String) : Report :=
  match Request.read environment arguments with
  | .error m => .misuse m
  | .ok .help => .help
  | .ok (.run o) =>
    match o.load read with
    | .error r => r
    | .ok config =>
      match Session.run? config o (Session.nominal config o.frames) with
      | none => .overflow
      | some (.error e) => .failure e
      | some (.ok s) => .summary s

end Headset.Simulator
