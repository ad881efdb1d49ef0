import Headset.Proofs.Building
import Headset.Proofs.Geometry
import Headset.Proofs.Sessions

/-!
# Outcome of a session

A session that can begin begins with an activation that succeeds (`Session.exists_begin?`), and
however it went, it ends in one way (`Session.Proceeds.ends`): the device was activated once and
released once, and the client was told of the stream in the activation, or never
(`outcome_of_session`).
-/

namespace Headset

/-! ## The configuration -/

theorem Config.validate_of_eq_ok {c c' : Config} (h : c.validate = .ok c') :
    c'.validate = .ok c' := by
  cases hf : c.fault? with
  | some e => simp [Config.validate, hf] at h
  | none =>
    obtain rfl : c = c' := by simpa [Config.validate, hf] using h
    exact h

/-- A configuration that is read from a file is valid. -/
theorem Config.validate_of_ofFile {path : String} {file : Except FileFault (List UInt8)}
    {c : Config} (h : Config.ofFile path file = .ok c) : c.validate = .ok c := by
  unfold Config.ofFile at h
  split at h
  · cases h
  split at h
  · cases h
  unfold Config.read at h
  split at h
  · cases h
  · exact Config.validate_of_eq_ok h

theorem Config.validate_default : ({} : Config).validate = .ok {} :=
  Config.validate_eq_ok_iff.2 (Option.isNone_iff_eq_none.1 (by decide +kernel))

/-- A timer ticks for every configuration that a device comes of. -/
theorem Config.Buildable.exists_interval {c : Config} (h : c.Buildable) :
    ∃ interval, Simulator.Timer.interval? c.display.refreshRate = some (.ok interval) := by
  have valid := Config.validate_eq_ok_iff.1 h.valid
  obtain ⟨interval, span⟩ :=
    Option.isSome_iff_exists.1 ((Config.isSome_interval_iff valid).2 h.rate)
  obtain ⟨-, -, ⟨pos, most⟩, -⟩ := Config.fault?_eq_none_iff.1 valid
  obtain ⟨v, rate, -, -⟩ := isSingle_thousand.of_pos_of_le pos most
  have finite : c.display.refreshRate.isFinite = true := isFinite_iff.2 ⟨_, .positive, v, rate, rfl⟩
  exact ⟨interval, by simp [Simulator.Timer.interval?, finite, pos, span]⟩

namespace Simulator

theorem Session.validate_of_configure {c c' : Config} {refreshRate : Option Float32}
    (valid : c.validate = .ok c) (h : configure c refreshRate = .ok c') : c'.validate = .ok c' := by
  unfold configure at h
  split at h
  · cases h
    exact valid
  · exact Config.validate_of_eq_ok h

/-- A configuration that was loaded is valid, whether its refresh rate is its own or not. -/
theorem Options.validate_of_load {o : Options} {config : Config}
    {read : String → Except FileFault (List UInt8)} (loaded : o.load read = .ok config) :
    config.validate = .ok config := by
  unfold Options.load at loaded
  dsimp only at loaded
  split at loaded
  · cases loaded
  next c file =>
  have valid : c.validate = .ok c := by
    split at file
    · cases file
      exact Config.validate_default
    split at file
    · cases file
    · next read =>
      cases file
      exact Config.validate_of_ofFile read
  split at loaded
  · cases loaded
  · next configured =>
    cases loaded
    exact Session.validate_of_configure valid configured

/-! ## Beginning -/

namespace Session

variable {s s' : Session} {config : Config}

/-- The client is ready and its start is queued, for the device was not activated yet. -/
structure Awaits (s : Session) (config : Config) : Prop extends s.Sound config where
  unused : s.rig.device.state = .inactive
  up : s.rig.device.isShutDown = false
  queued : s.rig.device.pendingStart = true
  uncounted : s.rig.device.counters = {}
  connected : s.bench.link.client.connected = true
  unoffered : s.offered = []

section

variable {interval : Span}
  (timed : Timer.interval? config.display.refreshRate = some (.ok interval))

include timed

/-- The client is ready before the device is in use. -/
theorem awaits_streamStart {d : Device} (options : Options) (fresh : d.Fresh config equipment)
    (uncounted : d.counters = {}) (up : d.isShutDown = false) :
    ∃ s, (ofDevice d options).step? (.call .streamStart) .zero .zero = some (s, .result (.ok ())) ∧
      s.Awaits config ∧ s.turn = .views := by
  have sound : (ofDevice d options).Sound config := {
    coherent := fresh.coherent
    configured := fresh.config
    inUse := by simp [ofDevice, Rig.ofDevice, uncounted, Device.isInUse, fresh.state]
    stream := rfl }
  obtain ⟨a, answered⟩ : ∃ a,
      (ofDevice d options).bench.answers? d.config 0 .zero .zero = some a :=
    ⟨_, sound.answers?_eq timed⟩
  have queued : d.streamStart a = ⟨{ d with pendingStart := true }, [], .ok ()⟩ := by
    simp [Device.streamStart, up, fresh.state]
  have taken : (ofDevice d options).rig.step? (.call .streamStart) a =
      some (.ofDevice { d with pendingStart := true } History.defaultCapacity, [],
        .result (.ok ())) := by
    simp [ofDevice, Rig.ofDevice, Rig.step?, Rig.call?, Rig.settle, queued]
  have step := step?_eq_some_iff.2 ⟨a, _, _, answered, taken, rfl⟩
  exact ⟨_, step, { sound.step step with
    unused := fresh.state
    up := up
    queued := rfl
    uncounted := uncounted
    connected := rfl
    unoffered := rfl }, rfl⟩

/-- The activation succeeds, and tells the client of the stream that it waits for. -/
theorem Awaits.activate (h : s.Awaits config) :
    ∃ s', s.step? (.call (.activate 0)) .zero .zero = some (s', .result (.ok ())) ∧
      s'.Stands config .inUse ∧ s'.turn = s.turn := by
  obtain ⟨a, ha⟩ : ∃ a, a = s.bench.answers config (.ok interval) s.steps .zero .zero := ⟨_, rfl⟩
  have answered : s.bench.answers? s.rig.device.config s.steps .zero .zero = some a :=
    ha ▸ h.toSound.answers?_eq timed
  have allocated : s.rig.device.allocates a = true := ha ▸ Bench.allocates_answers ..
  have done : (s.rig.device.activate 0 a).answer = .ok () :=
    h.coherent.activate_ok_iff.2 ⟨h.up, h.unused, allocated⟩
  have way := Device.activate_cases h.coherent.in_use_of_renderReady 0 a
  obtain ⟨rig, l, taken, log⟩ : ∃ rig l,
      s.rig.step? (.call (.activate 0)) a = some (rig, l, .result (.ok ())) ∧
        l = (s.rig.device.activate 0 a).log :=
    ⟨_, _, by rw [← done]; rfl, rfl⟩
  have offered : offers l = (promised config).toList.map (·, none) := by
    rw [log, way.offers h.coherent done h.queued (ha ▸ h.connected) (ha ▸ h.connected),
      h.configured, ha, promised]
    split <;> rfl
  have takes := Rig.takes_of_step? h.coherent.quiet taken
  have counted := (Rig.counted_of_step? h.coherent taken).counters
  have activates : Moment.activates ⟨s.rig, .call (.activate 0), a, l, rig⟩ = true :=
    (Device.isOk_eq_true_iff _).2 done
  simp only [Counters.add_def, Counters.ofStep, Counters.ofLog, h.uncounted, activates] at counted
  have step := step?_eq_some_iff.2 ⟨a, rig, l, answered, taken, rfl⟩
  exact ⟨_, step, { h.toSound.step step with
    state := by
      rw [h.coherent.state_of_takes takes, h.unused]
      simp [Device.operation?, h.up, allocated, ActivationState.advance_activate, Phase.state]
    isShutDown := by
      rw [Device.isShutDown_of_takes takes h.coherent, h.up]
      simp
    activations := by simp [counted]
    losses := by
      simp only [counted]
      simpa [Step.losesPackets] using Bool.toNat_le s.lossAt.isSome
    offered := by
      have told := offered_cons s (.call (.activate 0)) l
      rw [h.unoffered, offered, List.map_map] at told
      exact told }, rfl⟩

end

/-- A session begins whenever a device comes of its configuration and its patience ends at some
time: the device is activated. -/
theorem exists_begin? {options : Options} (buildable : config.Buildable)
    (patient : (patience? config options.frames).isSome) :
    ∃ s, begin? config options = some (.ok s) ∧ s.turn = .views ∧ s.Proceeds config := by
  obtain ⟨d, built⟩ : ∃ d, Device.build? config equipment = some (.ok d) :=
    Device.exists_build?_eq_ok_iff.2 buildable
  obtain ⟨interval, timed⟩ := buildable.exists_interval
  obtain ⟨long, patient⟩ := Option.isSome_iff_exists.1 patient
  obtain ⟨uncounted, up⟩ := Device.uncounted_of_build? built
  obtain ⟨queued, ready, awaits, turn⟩ :=
    awaits_streamStart timed options (Device.fresh_of_build? built) uncounted up
  obtain ⟨s, active, stands, same⟩ := awaits.activate timed
  have turn : s.turn = .views := same.trans turn
  refine ⟨s, ?_, turn, stands.proceeds (by rw [turn]; rfl) (by rw [turn]; rfl)⟩
  simp [begin?, built, ready, active, patient]

/-! ## End -/

/-- How a session ends: the device is out of use for good, and the client knows the stream from the
activation, or the session fails. -/
structure Ends (s : Session) (config : Config) (result : Except SessionError Summary) : Prop where
  neverConfigured_iff :
    result = .error .neverConfigured ↔ config.streaming.startOnClientReady = false
  told : config.streaming.startOnClientReady = true →
    (∃ summary, result = .ok summary) ∧ s.bench.link.client.stream = some config.stream ∧
      s.offered = [(.call (.activate 0), config.stream, none)]
  untold : config.streaming.startOnClientReady = false →
    s.bench.link.client.stream = none ∧ s.offered = []
  inactive : s.rig.device.state = .inactive
  isShutDown : s.rig.device.isShutDown = true
  activations : s.rig.device.counters.activations = 1
  deactivations : s.rig.device.counters.deactivations = 1
  losses : s.rig.device.counters.packetLossEvents ≤ 1

theorem Proceeds.ends (h : s.Proceeds config) (finished : s.turn = .over) :
    ∃ result, s.outcome? = some result ∧ s.Ends config result := by
  obtain ⟨stands, latency⟩ := h
  rw [finished] at stands latency
  obtain ⟨snapshot, latency⟩ := Option.isSome_iff_exists.1 (latency rfl)
  have inactive : s.rig.device.state = .inactive := stands.state
  have inUse := stands.inUse
  have losses := stands.losses
  have stream := stands.stream
  have offered := stands.offered
  rw [offered] at stream
  have deactivations : s.rig.device.counters.deactivations = 1 := by
    simpa [stands.activations, Device.isInUse, inactive, eq_comm] using inUse
  have ended (result : Except SessionError Summary)
      (neverConfigured_iff told untold) : s.Ends config result := {
    neverConfigured_iff, told, untold, inactive, deactivations
    isShutDown := stands.isShutDown.2 rfl
    activations := stands.activations
    losses := UInt64.le_iff_toNat_le.2 (by rw [UInt64.toNat_one]; omega) }
  cases on : config.streaming.startOnClientReady with
  | true =>
    rw [promised, on] at stream offered
    refine ⟨.ok ⟨s.counters, snapshot, s.bench⟩, ?_, ended _ ?_ ?_ ?_⟩
    · simp [outcome?, finished, latency, stream, heard]
    · simp [on]
    · exact fun _ => ⟨⟨_, rfl⟩, stream, offered⟩
    · simp [on]
  | false =>
    rw [promised, on] at stream offered
    refine ⟨.error .neverConfigured, ?_, ended _ ?_ ?_ ?_⟩
    · simp [outcome?, finished, latency, stream]
    · simp [on]
    · simp [on]
    · exact fun _ => ⟨stream, offered⟩

end Session

/-! ## Outcome -/

theorem Session.isSome_interval_of_patience? {config : Config} {frames : Nat}
    (patient : (patience? config frames).isSome) :
    (Span.ofSeconds? (1 / config.display.refreshRate)).isSome := by
  unfold patience? at patient
  cases interval : Span.ofSeconds? (1 / config.display.refreshRate) with
  | none => simp [interval] at patient
  | some _ => rfl

open Session in
/-- A configuration that was loaded is valid.  If its patience ends at some time, and there is room
for the frames it remembers, a session begins, with an activation that succeeds.  It can go on in
any way, for any number of rounds, ticks and readings of the clock, and gets stuck only where times
leave their range.  Once it is over it has failed for want of a stream just if starts wait for the
host.  Otherwise the client holds the configured stream, which it was told once, in the activation.
Either way the device was activated once and released once and is out of use for good, and at most
one loss of packets was reported. -/
theorem outcome_of_session {read : String → Except FileFault (List UInt8)} {o : Options}
    {config : Config} (loaded : o.load read = .ok config) :
    config.validate = .ok config ∧
    ((patience? config o.frames).isSome →
      config.tracking.latencyHistory.toNat ≤ Latency.mostFrames →
      ∃ s, begin? config o = some (.ok s) ∧ s.rig.device.state = .active ∧
        ∀ moves s', moves.foldlM move? s = some s' →
          (∀ m, (s'.move? m).isSome ↔ s'.InRange m) ∧
          (s'.turn = .over → ∃ result, run? config o moves = some result ∧
            s'.Ends config result)) := by
  have valid := Options.validate_of_load loaded
  refine ⟨valid, fun patient room => ?_⟩
  have rate := (Config.isSome_interval_iff (Config.validate_eq_ok_iff.1 valid)).1
    (isSome_interval_of_patience? patient)
  have buildable : config.Buildable := ⟨valid, rate, room⟩
  obtain ⟨interval, timed⟩ := buildable.exists_interval
  obtain ⟨s, begun, first, proceeds⟩ := exists_begin? buildable patient
  refine ⟨s, begun, ?_, fun moves s' ran => ?_⟩
  · have stands := proceeds.stands
    rw [first] at stands
    exact stands.state
  · have proceeds := proceeds.foldlM_move? ran
    refine ⟨fun m => proceeds.stands.isSome_move?_iff timed, fun finished => ?_⟩
    obtain ⟨result, outcome, ends⟩ := proceeds.ends finished
    exact ⟨result, by simp [run?, begun, ran, outcome], ends⟩

/-- A session of one frame in which a loss is reported at once. -/
def Options.short : Options where
  frames := 1
  lossAt := some 0

open Session in
theorem outcome_of_shortSession : ∃ s, begin? {} .short = some (.ok s) ∧
    ∃ s', (nominal {} 1).foldlM move? s = some s' ∧ s'.turn = .over ∧
      ∃ result, run? {} .short (nominal {} 1) = some result ∧ s'.Ends {} result := by
  have loaded : Options.short.load (fun _ => .error .notFound) = .ok {} := rfl
  have patient : (patience? {} Options.short.frames).isSome := by decide +kernel
  have room : ({} : Config).tracking.latencyHistory.toNat ≤ Latency.mostFrames := by decide
  obtain ⟨s, begun, -, course⟩ := (outcome_of_session loaded).2 patient room
  have finished : (begin? {} .short).any fun r =>
      r.toOption.any fun s => ((nominal {} 1).foldlM move? s).any fun s' => s'.turn = .over := by
    decide +kernel
  simp only [begun, Option.any_some, Except.toOption, Option.any_eq_true] at finished
  obtain ⟨s', ran, finished⟩ := finished
  have finished := of_decide_eq_true finished
  exact ⟨s, begun, s', ran, finished, (course _ s' ran).2 finished⟩

/-- A session by a file that asks for very many frames to be remembered. -/
def Options.boundless : Options where
  config := some "config.json"
  frames := 1

def boundlessFile : List UInt8 :=
  "\x7b\"tracking\":\x7b\"latency_history\":9223372036854775808\x7d\x7d".toUTF8.data.toList

open Session in
/-- The configuration is loaded, the interval of its refresh rate has a span and its patience ends
at some time, but no session begins. -/
theorem unbegun_of_boundless : ∃ config,
    Options.boundless.load (fun _ => .ok boundlessFile) = .ok config ∧
      (Span.ofSeconds? (1 / config.display.refreshRate)).isSome ∧
      (patience? config Options.boundless.frames).isSome ∧ begin? config .boundless = none := by
  have facts : (Options.boundless.load fun _ => .ok boundlessFile).toOption.any fun c =>
      (Span.ofSeconds? (1 / c.display.refreshRate)).isSome &&
        (patience? c Options.boundless.frames).isSome && (begin? c .boundless).isNone := by
    decide +kernel
  cases loaded : Options.boundless.load fun _ => .ok boundlessFile with
  | error e => simp [loaded, Except.toOption] at facts
  | ok config =>
    simp only [loaded, Except.toOption, Option.any_some, Bool.and_eq_true,
      Option.isNone_iff_eq_none] at facts
    exact ⟨config, rfl, facts.1.1, facts.1.2, facts.2⟩

end Simulator

end Headset
