import Headset.Proofs.Keyframes
import Headset.Proofs.Offers
import Headset.Simulator.Session

/-!
# Sessions

A session goes by moves, in any order and number.  Every step of its rig keeps it sound: the client
holds what it was told last (`Session.Sound.step`).  The turns of its main thread take it from phase
to phase, and ticks stay in the phase, so a session always stands where its turn says
(`Session.Proceeds.foldlM_move?`).  It gets stuck only where times leave their range
(`Session.Stands.isSome_move?_iff`).
-/

namespace Headset.Simulator

/-! ## The bench -/

/-- What a client holds after it was told this. -/
def heard (held : Option StreamConfig) (offer : StreamConfig × Option Fault) :
    Option StreamConfig :=
  if offer.2.isNone then some offer.1 else held

namespace Bench

theorem stream_feel (b : Bench) (x : Effect) :
    (b.feel x).1.link.client.stream = x.offer?.toList.foldl heard b.link.client.stream := by
  cases x with
  | presentFrame n t =>
    show (b.link.present t).1.client.stream = b.link.client.stream
    rw [Link.client_present]
    rfl
  | sendStreamConfig s fault => cases fault <;> rfl
  | createEncoder adapter s answer => cases answer <;> rfl
  | encoderStart n fault => cases fault <;> rfl
  | _ => rfl

/-- The client holds what it was told last. -/
theorem stream_feelAll (b : Bench) (log : List Effect) :
    (b.feelAll log).link.client.stream = (offers log).foldl heard b.link.client.stream := by
  induction log generalizing b with
  | nil => rfl
  | cons x log ih =>
    have first : offers (x :: log) = x.offer?.toList ++ offers log := by
      unfold offers
      cases hx : x.offer? <;> simp [hx]
    rw [first, List.foldl_append, ← stream_feel]
    exact ih (b.feel x).1

/-- No stage of an activation fails on a bench whose timers tick. -/
theorem allocates_answers (b : Bench) (config : Config) (interval : Span) (ticket : Nat)
    (arrival now : Span) (d : Device) :
    d.allocates (b.answers config (.ok interval) ticket arrival now) = true := by
  refine Device.allocates_iff.2 fun s => ?_
  cases s <;> simp [Device.stageFault?, answers, faultOf?, Except.map]

end Bench

end Headset.Simulator

namespace Headset

/-- A packet with a head is taken in exactly if a pose can be asked for. -/
theorem Device.isSome_tracking? {d : Device} {h : History} {packet : TrackingPacket} {a : Answers}
    {head : Motion} (headed : packet.head = some head) (related : d.relays.isNone = false) :
    (d.tracking? h packet a).isSome = (d.poseTarget? a.now).isSome := by
  have queried (l : Latency) (h : History) :
      (({ d with latency := l } : Device).getPose? h a).isSome = (d.poseTarget? a.now).isSome := by
    rw [isSome_getPose?, related, Bool.false_or]
    rfl
  simp only [tracking?, headed, related, Bool.false_eq_true, if_false, Option.isSome_map,
    poseUpdated?, queried]

end Headset

namespace Headset.Simulator

/-! ## Phases -/

/-- What has become of the device of a session that has begun. -/
inductive Phase where
  | inUse
  | released
  | gone
  deriving DecidableEq

namespace Phase

def state : Phase → ActivationState
  | .inUse => .active
  | .released => .inactive
  | .gone => .inactive

/-- The steps of a session: most of them stay in the phase, two lead on. -/
inductive Goes : Phase → Step → Phase → Prop
  | stays {p : Phase} {x : Step} (hx : x.steers = false) : p.Goes x p
  | releases : Goes .inUse (.call .deactivate) .released
  | leaves : Goes .released (.call .shutDown) .gone

theorem Goes.silent {p q : Phase} {x : Step} (h : p.Goes x q) : x.mayOffer = false := by
  cases h with
  | stays hx =>
    cases x with
    | call c => cases c <;> first | rfl | cases hx
    | _ => rfl
  | releases | leaves => rfl

theorem Goes.not_activates {p q : Phase} {x : Step} (h : p.Goes x q) (r r' : Rig) (a : Answers)
    (l : List Effect) : Moment.activates ⟨r, x, a, l, r'⟩ = false := by
  cases h with
  | stays hx =>
    cases x with
    | call c => cases c <;> first | rfl | cases hx
    | _ => rfl
  | releases | leaves => rfl

end Phase

namespace Turn

def phase : Turn → Phase
  | .shutDown => .released
  | .over => .gone
  | _ => .inUse

/-- Whether the turn comes after the averages were read. -/
def closes : Turn → Bool
  | .deactivate => true
  | .shutDown => true
  | .over => true
  | _ => false

end Turn

namespace Session

/-- What the client was told about the stream so far, with the step during which it was. -/
def offered (s : Session) : List (Step × StreamConfig × Option Fault) :=
  s.log.reverse.flatMap fun (x, l) => (offers l).map (x, ·)

/-- The stream that the client should be told of. -/
def promised (config : Config) : Option StreamConfig :=
  if config.streaming.startOnClientReady then some config.stream else none

/-- What every step of a session keeps: the device is activated once more than it is released just
while it is in use, and the client holds what it was told last. -/
structure Sound (s : Session) (config : Config) : Prop where
  coherent : s.rig.device.Coherent
  configured : s.rig.device.config = config
  inUse : s.rig.device.counters.activations =
    s.rig.device.counters.deactivations + .ofNat s.rig.device.isInUse.toNat
  stream : s.bench.link.client.stream = (s.offered.map Prod.snd).foldl heard none

/-- What holds of a session in a phase: the device was activated once, and then the client was told
what it should be.  At most one loss was reported, and none as long as one is to be. -/
structure Stands (s : Session) (config : Config) (p : Phase) : Prop extends s.Sound config where
  state : s.rig.device.state = p.state
  isShutDown : s.rig.device.isShutDown = true ↔ p = .gone
  activations : s.rig.device.counters.activations = 1
  losses : s.rig.device.counters.packetLossEvents.toNat + s.lossAt.isSome.toNat ≤ 1
  offered : s.offered = (promised config).toList.map (.call (.activate 0), ·, none)

variable {s s' : Session} {config : Config} {p q : Phase} {x : Step} {arrival now : Span}
  {reply : Reply}

/-! ## One step -/

theorem step?_eq_some_iff : s.step? x arrival now = some (s', reply) ↔ ∃ a rig l,
    s.bench.answers? s.rig.device.config s.steps arrival now = some a ∧
      s.rig.step? x a = some (rig, l, reply) ∧ s' = { s with
        rig
        bench := s.bench.feelAll l
        steps := s.steps + 1
        log := (x, l) :: s.log } := by
  simp [step?, Option.bind_eq_some_iff, @eq_comm _ s']

/-- A step of the rig is no turn of the session. -/
theorem turn_of_step? (step : s.step? x arrival now = some (s', reply)) :
    s'.turn = s.turn ∧ s'.latency = s.latency := by
  obtain ⟨a, rig, l, -, -, rfl⟩ := step?_eq_some_iff.1 step
  exact ⟨rfl, rfl⟩

theorem offered_cons (s : Session) (x : Step) (l : List Effect) :
    ({ s with log := (x, l) :: s.log } : Session).offered =
      s.offered ++ (offers l).map (x, ·) := by
  simp [offered]

theorem Sound.step (h : s.Sound config) (step : s.step? x arrival now = some (s', reply)) :
    s'.Sound config := by
  obtain ⟨a, rig, l, -, taken, rfl⟩ := step?_eq_some_iff.1 step
  have takes := Rig.takes_of_step? h.coherent.quiet taken
  have counted := (Rig.counted_of_step? h.coherent taken).counters
  have use := congrArg UInt64.ofNat
    (Moment.isInUse_of_takes (x := ⟨s.rig, x, a, l, rig⟩) h.coherent takes)
  have inUse := h.inUse
  exact {
    coherent := takes.coherent h.coherent
    configured := (takes.parts h.coherent.in_use_of_renderReady).preserve
      (fun same part => part.built.1.trans same) h.configured
    inUse := by
      rw [UInt64.ofNat_add, UInt64.ofNat_add] at use
      simp only [Counters.add_def, Counters.ofStep, Counters.ofLog] at counted
      simp only [counted]
      grind
    stream := by
      show (s.bench.feelAll l).link.client.stream = (List.map Prod.snd (offered
        { s with log := (x, l) :: s.log })).foldl heard none
      rw [Bench.stream_feelAll, h.stream, offered_cons, List.map_append, List.foldl_append,
        List.map_map]
      simp [Function.comp_def] }

/-- A step leads from phase to phase.  It uses up the loss that was to be reported, if it reports
one. -/
theorem Stands.step (h : s.Stands config p) (goes : p.Goes x q)
    (step : s.step? x arrival now = some (s', reply)) (lossAt : Option Nat)
    (spent : x.losesPackets.toNat + lossAt.isSome.toNat ≤ s.lossAt.isSome.toNat) :
    ({ s' with lossAt } : Session).Stands config q := by
  have sound := h.toSound.step step
  obtain ⟨a, rig, l, -, taken, rfl⟩ := step?_eq_some_iff.1 step
  have takes := Rig.takes_of_step? h.coherent.quiet taken
  have counted := (Rig.counted_of_step? h.coherent taken).counters
  simp only [Counters.add_def, Counters.ofStep, Counters.ofLog,
    goes.not_activates s.rig rig a l] at counted
  have losses := h.losses
  exact {
    sound with
    state := by
      rw [h.coherent.state_of_takes takes, h.state]
      cases goes with
      | stays hx => rw [Device.operation?_of_not_steers hx]; rfl
      | releases | leaves => rfl
    isShutDown := by
      rw [Device.isShutDown_of_takes takes h.coherent, h.isShutDown]
      cases goes with
      | stays hx =>
        refine or_iff_left ?_
        rintro rfl
        cases hx
      | releases | leaves => simp
    activations := by simp [counted, h.activations]
    losses := by
      have one : (UInt64.ofNat x.losesPackets.toNat).toNat = x.losesPackets.toNat := by
        cases x.losesPackets <;> rfl
      simp only [counted, UInt64.add_zero, UInt64.toNat_add, one]
      omega
    offered := by
      have told := offered_cons s x l
      rw [Rig.offers_of_step? goes.silent taken, List.map_nil, List.append_nil] at told
      exact told.trans h.offered }

/-- The turns do not matter to where a session stands. -/
theorem Stands.turned (h : s.Stands config p) (turn : Turn) (target previous : Option Span)
    (counters : Counters) (latency : Option LatencySnapshot) :
    ({ s with turn, target, previous, counters, latency } : Session).Stands config p :=
  { h with }

theorem Stands.follow (h : s.Stands config p) (goes : p.Goes x q)
    (step : s.step? x arrival now = some (s', reply)) (lossless : x.losesPackets = false) :
    s'.Stands config q := by
  have kept := h.step goes step s.lossAt (by simp [lossless])
  obtain ⟨a, rig, l, -, taken, rfl⟩ := step?_eq_some_iff.1 step
  exact kept

/-! ## Moves -/

/-- A session on its way stands in the phase of its turn, and has its averages once they were
read. -/
structure Proceeds (s : Session) (config : Config) : Prop where
  stands : s.Stands config s.turn.phase
  latency : s.turn.closes = true → s.latency.isSome

/-- Before the averages are read, the turn has to be one of the phase. -/
theorem Stands.proceeds (h : s.Stands config p) {turn : Turn} {target previous : Option Span}
    {counters : Counters} {latency : Option LatencySnapshot} (phase : turn.phase = p)
    (opens : turn.closes = false) :
    ({ s with turn, target, previous, counters, latency } : Session).Proceeds config :=
  ⟨phase ▸ h.turned .., fun closes => absurd closes (by simp [opens])⟩

theorem Proceeds.advance? {target : Span} (h : s.Proceeds config)
    (moved : s.advance? target arrival now = some s') : s'.Proceeds config := by
  obtain ⟨stands, latency⟩ := h
  unfold Session.advance? at moved
  dsimp only at moved
  cases turn : s.turn with
  | views | query | hostFrame =>
    simp only [turn] at stands moved
    obtain ⟨⟨m, reply⟩, step, rfl⟩ := Option.map_eq_some_iff.1 moved
    exact (stands.follow (.stays rfl) step rfl).proceeds rfl rfl
  | track =>
    simp only [turn] at stands moved
    split at moved
    · cases moved
      exact stands.proceeds rfl rfl
    · obtain ⟨⟨m, reply⟩, step, rfl⟩ := Option.map_eq_some_iff.1 moved
      exact (stands.follow (.stays rfl) step rfl).proceeds rfl rfl
  | encoded | report =>
    simp only [turn] at stands moved
    split at moved
    · cases moved
      exact stands.proceeds rfl rfl
    · obtain ⟨⟨m, reply⟩, step, rfl⟩ := Option.map_eq_some_iff.1 moved
      exact (stands.follow (.stays rfl) step rfl).proceeds rfl rfl
  | loss =>
    simp only [turn] at stands moved
    split at moved
    · next due =>
      have pending : s.lossAt.isSome = true := by
        cases lossAt : s.lossAt <;> simp [lossAt] at due ⊢
      obtain ⟨⟨m, reply⟩, step, rfl⟩ := Option.map_eq_some_iff.1 moved
      have spent := stands.step (.stays rfl) step none (by simp [Step.losesPackets, pending])
      exact spent.proceeds rfl rfl
    · cases moved
      exact stands.proceeds rfl rfl
  | counters =>
    simp only [turn] at stands moved
    cases moved
    exact stands.proceeds rfl rfl
  | averages =>
    simp only [turn] at stands moved
    obtain ⟨snapshot, -, rfl⟩ := Option.map_eq_some_iff.1 moved
    exact ⟨stands.turned .., fun _ => rfl⟩
  | deactivate =>
    simp only [turn] at stands latency moved
    obtain ⟨⟨m, reply⟩, step, rfl⟩ := Option.map_eq_some_iff.1 moved
    obtain ⟨-, kept⟩ := turn_of_step? step
    exact ⟨(stands.follow .releases step rfl).turned .., fun _ => kept ▸ latency rfl⟩
  | shutDown =>
    simp only [turn] at stands latency moved
    obtain ⟨⟨m, reply⟩, step, rfl⟩ := Option.map_eq_some_iff.1 moved
    obtain ⟨-, kept⟩ := turn_of_step? step
    exact ⟨(stands.follow .leaves step rfl).turned .., fun _ => kept ▸ latency rfl⟩
  | _ =>
    -- the session is over, and stays so
    simp only [turn] at moved
    cases moved
    exact ⟨stands, latency⟩

theorem Proceeds.move? {m : Move} (h : s.Proceeds config) (moved : s.move? m = some s') :
    s'.Proceeds config := by
  cases m with
  | advance target arrival now => exact h.advance? moved
  | tick now =>
    obtain ⟨⟨m, reply⟩, step, rfl⟩ := Option.map_eq_some_iff.1 moved
    obtain ⟨turn, latency⟩ := turn_of_step? step
    exact ⟨turn ▸ h.stands.follow (.stays rfl) step rfl, turn ▸ latency ▸ h.latency⟩
  | timeOut =>
    cases moved
    split
    · next track =>
      have stands := h.stands
      rw [track] at stands
      exact stands.proceeds rfl rfl
    · exact h

/-- Whatever the moves are. -/
theorem Proceeds.foldlM_move? {moves : List Move} (h : s.Proceeds config)
    (ran : moves.foldlM Session.move? s = some s') : s'.Proceeds config := by
  induction moves generalizing s with
  | nil =>
    cases ran
    exact h
  | cons m moves ih =>
    rw [List.foldlM_cons] at ran
    obtain ⟨next, moved, rest⟩ := Option.bind_eq_some_iff.1 ran
    exact ih (h.move? moved) rest

/-! ## Moves that are possible -/

/-- The times of a move stay in range: those of the pose that a packet or a query asks for, those of
a report, and the averages. -/
def InRange (s : Session) : Move → Prop
  | .advance _ _ now =>
    match s.turn with
    | .track => s.bench.link.client.frames.toNat < s.wanted →
        (s.rig.device.poseTarget? now).isSome
    | .query => (s.rig.device.poseTarget? now).isSome
    | .report => ∀ previous, s.previous = some previous → (s.rig.device.clientReport?
        (Simulator.clientReport previous s.bench.link.client.frames.toNat)).isSome
    | .averages => s.rig.device.latency.snapshot?.isSome
    | _ => True
  | _ => True

theorem Stands.related (h : s.Stands config .inUse) : s.rig.device.relays.isNone = false := by
  have up := h.isShutDown
  rw [h.coherent.relays_isNone]
  simpa using up

section

variable {interval : Span}
  (timed : Timer.interval? config.display.refreshRate = some (.ok interval))

include timed

/-- The bench answers every call of the device. -/
theorem Sound.answers?_eq (h : s.Sound config) :
    s.bench.answers? s.rig.device.config s.steps arrival now =
      some (s.bench.answers config (.ok interval) s.steps arrival now) := by
  rw [Bench.answers?, h.configured, timed, Option.map_some]

theorem Sound.isSome_step? (h : s.Sound config) : (s.step? x arrival now).isSome =
    (s.rig.step? x (s.bench.answers config (.ok interval) s.steps arrival now)).isSome := by
  cases taken : s.rig.step? x (s.bench.answers config (.ok interval) s.steps arrival now) <;>
    simp [Session.step?, h.answers?_eq timed, taken]

/-- A session gets stuck only where times leave their range. -/
theorem Stands.isSome_move?_iff {m : Move} (h : s.Stands config s.turn.phase) :
    (s.move? m).isSome ↔ s.InRange m := by
  cases m with
  | advance target arrival now =>
    unfold Session.move? Session.advance? InRange
    dsimp only
    cases turn : s.turn with
    | views | hostFrame | deactivate | shutDown =>
      simp only [Option.isSome_map, h.toSound.isSome_step? timed]
      exact iff_of_true rfl trivial
    | track =>
      rw [turn] at h
      dsimp only
      split
      · next enough => simp [enough]
      · next fewer =>
        have headed : (packet target).head = some (headMotion target.toSeconds) := rfl
        simp only [Option.isSome_map, h.toSound.isSome_step? timed, Rig.step?, Rig.call?,
          Device.isSome_tracking? headed h.related]
        exact (imp_iff_right (Nat.lt_of_not_le fewer)).symm
    | query =>
      rw [turn] at h
      simp only [Option.isSome_map, h.toSound.isSome_step? timed, Rig.step?, Rig.call?,
        Device.isSome_getPose?, h.related, Bool.false_or]
      exact Iff.rfl
    | encoded =>
      dsimp only
      split
      · exact iff_of_true rfl trivial
      · simp only [Option.isSome_map, h.toSound.isSome_step? timed]
        exact iff_of_true rfl trivial
    | report =>
      dsimp only
      split
      · next first => simp [first]
      · next previous later =>
        simp [later, h.toSound.isSome_step? timed, Rig.step?, Rig.call?]
    | loss =>
      dsimp only
      split
      · simp only [Option.isSome_map, h.toSound.isSome_step? timed]
        exact iff_of_true rfl trivial
      · exact iff_of_true rfl trivial
    | averages => simp
    | _ => exact iff_of_true rfl trivial
  | tick now =>
    refine iff_of_true ?_ trivial
    rw [Session.move?, Option.isSome_map, h.toSound.isSome_step? timed, Rig.step?]
    split <;> rfl
  | timeOut => exact iff_of_true rfl trivial

end

end Session

end Headset.Simulator
