import Headset.Proofs.Cadence
import Headset.Proofs.Offset
import Headset.Proofs.Poses
import Headset.Proofs.Windows

/-!
# The last update of the offset

The offset of pose queries is what it was last set or fitted to.  Which steps of a run do that is
told by the run alone (`Moment.Updates`): a value that is set has to be in range, and a report has
to find its frame open, which depends on the samples before it.  To each moment belong the notices
that it gives to the latencies (`Moment.notices`), and the latencies after a run are those that
follow all of them (`Rig.latency_of_run?`).  All other steps leave the offset as it is, so it is
that of the last update (`offset_of_run`).
-/

namespace Headset

/-- What the latencies are told in a step. -/
def Moment.notices (x : Moment) : List Notice :=
  match x.step with
  | .call (.tracking packet) =>
    if packet.head.isSome && !x.before.device.isShutDown then
      [.received packet.target x.answers.arrival]
    else []
  | .call (.frameEncoded target bytes keyframe) => [.encoded target x.answers.now bytes keyframe]
  | .call (.clientReport r) => [.reported r]
  | .call _ => []
  | .pushHistory _ => []
  | .clearHistory => []
  | _ => x.frames.filterMap (·.2.presentation?)

/-- The frames that are kept for the averages. -/
def TrackingConfig.frames (t : TrackingConfig) : Nat := max t.latencyHistory.toNat 1

/-- What a step that comes after others sets the offset to, if it does, while the host is granted a
span.  It is set to a value in range, or fitted to a report on an open frame. -/
inductive Moment.Updates (t : TrackingConfig) (grant : Span) (earlier : List Moment) (x : Moment) :
    Int → Prop
  | set (ms : Float32) (hs : x.step = .call (.setPoseOffset ms))
    (inRange : ms.abs ≤ maxOffset) : Updates t grant earlier x (Device.offsetMicros ms)
  /-- The average is that of the last reports that counted, with this one. -/
  | fitted (r : ClientReport) (hs : x.step = .call (.clientReport r))
    (adaptive : t.adaptiveOffset = true)
    (known : r.target ∈ (Latency.opened t.frames (earlier.flatMap Moment.notices)).take t.frames)
    (average : Span)
    (averaged : Span.IsAverage
      (((Latency.accepted t.frames (earlier.flatMap Moment.notices ++ [.reported r])).rtake
        t.frames).map (·.2.total)) average) :
    Updates t grant earlier x
      (min ((grant.nanos - average.nanos) / 1000) 0x7fffffffffffffff : Nat)

/-- The last step that updated the offset set it to this. -/
def LastUpdate (t : TrackingConfig) (grant : Span) (micros : Int) (moments : List Moment) : Prop :=
  Since (fun y => y.2.Updates t grant y.1 micros) (fun y => ∀ v, ¬ y.2.Updates t grant y.1 v)
    (withEarlier moments)

/-- The offset after some steps: that of the last update, and the configured one before any. -/
inductive OffsetAfter (t : TrackingConfig) (grant : Span) (moments : List Moment) : Int → Prop
  | configured (unset : ∀ y ∈ withEarlier moments, ∀ v, ¬ y.2.Updates t grant y.1 v) :
    OffsetAfter t grant moments (Device.offsetMicros t.poseOffset)
  | updated {micros : Int} (last : LastUpdate t grant micros moments) :
    OffsetAfter t grant moments micros

/-! ## The latencies follow the notices -/

namespace Device

variable {d e : Device} {r : ClientReport}

/-- A report on a frame that is not open changes nothing.  Another goes to the latencies, and the
offset is fitted to these if it is adaptive. -/
theorem clientReport?_cases (he : d.clientReport? r = some e) :
    (d.latency.frame? r.target = none ∧ e = d) ∨
      ∃ latency network, (d.latency.frame? r.target).isSome ∧
        d.latency.reported? r = some (latency, some network) ∧
        ((d.config.tracking.adaptiveOffset = false ∧ e = { d with latency }) ∨
          d.config.tracking.adaptiveOffset = true ∧ ∃ span, latency.poseOffset? = some span ∧
            e = { d with latency, poseOffset := holdMicros span }) := by
  obtain ⟨⟨latency, network⟩, reported, he⟩ := Option.bind_eq_some_iff.1 he
  dsimp only at he
  rcases Latency.reported?_cases reported with ⟨absent, rfl, rfl⟩ | ⟨f, n, found, -, -, -, rfl⟩
  · left
    cases he
    exact ⟨absent, rfl⟩
  · right
    refine ⟨latency, n, by rw [found]; rfl, reported, ?_⟩
    cases adaptive : d.config.tracking.adaptiveOffset with
    | false =>
      simp only [adaptive, Bool.and_false, Bool.false_eq_true, if_false] at he
      cases he
      exact .inl ⟨rfl, rfl⟩
    | true =>
      simp only [adaptive, Option.isSome_some, Bool.and_self, if_true] at he
      obtain ⟨span, fitted, he⟩ := Option.bind_eq_some_iff.1 he
      cases he
      exact .inr ⟨rfl, span, fitted, rfl⟩

theorem offset_shutDown (d : Device) :
    d.shutDown.device.poseOffset = d.poseOffset ∧ d.shutDown.device.latency = d.latency := by
  unfold shutDown
  dsimp only
  split
  · have same := lasting_teardown { d with isShutDown := true }
    exact ⟨congrArg Lasting.poseOffset same, congrArg Lasting.latency same⟩
  · exact ⟨rfl, rfl⟩

/-- A head opens a frame, unless the driver has gone away. -/
theorem offset_tracking? {h h' : History} {packet : TrackingPacket} {a : Answers}
    {o : Outcome Unit} (ho : d.tracking? h packet a = some (h', o)) :
    o.device.poseOffset = d.poseOffset ∧
      o.device.latency = if packet.head.isSome && d.relays.isSome then
        d.latency.received packet.target a.arrival else d.latency := by
  cases tracking?_cases ho with
  | headless headless =>
    have same := d.lasting_updateControllers packet a
    refine ⟨congrArg Lasting.poseOffset same, ?_⟩
    rw [headless]
    exact congrArg Lasting.latency same
  | lost _ gone =>
    rw [gone, Option.isSome_none, Bool.and_false]
    exact ⟨rfl, rfl⟩
  | relayed headed there =>
    obtain ⟨pose, same⟩ := lasting_tracking? headed there ho
    refine ⟨congrArg Lasting.poseOffset same, ?_⟩
    rw [headed, there]
    exact congrArg Lasting.latency same

theorem holdMicros_eq (s : Span) : holdMicros s = (min s.micros 0x7fffffffffffffff : Nat) := by
  unfold holdMicros
  split <;> omega

end Device

namespace Rig

variable {start r r' : Rig} {steps : List (Step × Answers)} {s : Step} {a : Answers}
  {log l : List Effect} {reply : Reply}

/-- The latencies follow the notices of a step. -/
theorem latency_of_step? (h : r.device.Coherent) (step : r.step? s a = some (r', l, reply)) :
    r.device.latency.follow? (Moment.notices ⟨r, s, a, l, r'⟩) = some r'.device.latency := by
  have untold (same : r'.device.latency = r.device.latency) :
      r.device.latency.follow? [] = some r'.device.latency := by
    rw [same]
    rfl
  cases lasts : s.concernsLasting with
  | false =>
    have same := congrArg Device.Lasting.latency (lasting_of_step? h lasts step).1
    cases s with
    | call c => cases c <;> first | exact untold same | cases lasts
    | _ => cases lasts
  | true =>
    cases s with
    | call c =>
      cases c with
      | shutDown =>
        cases step
        exact untold (Device.offset_shutDown _).2
      | getPose =>
        obtain ⟨o, ho, step⟩ := Option.map_eq_some_iff.1 step
        cases step
        exact untold (congrArg Device.Lasting.latency (Device.lasting_getPose? ho))
      | poseUpdated =>
        obtain ⟨o, ho, step⟩ := Option.map_eq_some_iff.1 step
        cases step
        obtain ⟨pose, same⟩ := Device.lasting_poseUpdated? ho
        exact untold (congrArg Device.Lasting.latency same)
      | setPoseOffset ms =>
        cases step
        apply untold
        show (r.device.setPoseOffset ms).latency = r.device.latency
        unfold Device.setPoseOffset
        split <;> rfl
      | tracking packet =>
        obtain ⟨⟨history, o⟩, ho, step⟩ := Option.map_eq_some_iff.1 step
        cases step
        have there : r.device.relays.isSome = !r.device.isShutDown := by
          have := h.relays_isSome_iff
          cases hd : r.device.isShutDown <;> simp_all
        have told := (Device.offset_tracking? ho).2
        rw [there] at told
        show r.device.latency.follow? (if packet.head.isSome && !r.device.isShutDown then
          [.received packet.target a.arrival] else []) = some o.device.latency
        rw [told]
        split <;> rfl
      | frameEncoded target bytes keyframe =>
        cases step
        rfl
      | clientReport report =>
        obtain ⟨e, he, step⟩ := Option.map_eq_some_iff.1 step
        cases step
        show (((r.device.latency.reported? report).map (·.1)).bind some) = some e.latency
        rcases Device.clientReport?_cases he with
          ⟨absent, rfl⟩ | ⟨latency, network, -, reported, ⟨-, rfl⟩ | ⟨-, span, -, rfl⟩⟩
        · rw [Latency.reported?_of_absent absent]
          rfl
        · rw [reported]
          rfl
        · rw [reported]
          rfl
      | _ => cases lasts
    | tick | lateTick | strayTick =>
      rw [latency_of_ticks h rfl step]
      apply Latency.follow?_of_unreported
      intro n hn
      obtain ⟨t, -, ht⟩ := List.mem_filterMap.1 hn
      unfold FrameTiming.presentation? at ht
      split at ht
      · obtain ⟨time, -, rfl⟩ := Option.map_eq_some_iff.1 ht
        rfl
      · cases ht
    | pushHistory | clearHistory =>
      cases step
      exact untold rfl

/-- The latencies after a run follow the notices of all its steps. -/
theorem latency_of_run? (h : start.device.Coherent) (ran : start.run? steps = some (r, log)) :
    start.device.latency.follow? ((start.moments steps).flatMap Moment.notices) =
      some r.device.latency := by
  refine run?_induction (motive := fun steps r _ => start.device.latency.follow?
    ((start.moments steps).flatMap Moment.notices) = some r.device.latency) rfl ?_ ran
  intro steps m before s a r l reply ran told step
  rw [moments_concat ran step, List.flatMap_append, List.flatMap_singleton, Latency.follow?_append,
    told]
  exact latency_of_step? (coherent_of_run? h ran) step

/-- Only a value that is set and a report may change the offset. -/
theorem offset_of_step? (h : r.device.Coherent) (unset : ∀ ms, s ≠ .call (.setPoseOffset ms))
    (unreported : ∀ report, s ≠ .call (.clientReport report))
    (step : r.step? s a = some (r', l, reply)) : r'.device.poseOffset = r.device.poseOffset := by
  by_cases down : s = .call .shutDown
  · subst down
    cases step
    exact (Device.offset_shutDown _).1
  cases poses : s.concernsPoses with
  | false =>
    exact congrArg (Device.Basis.poseOffset ∘ Prod.fst) (basis_of_step? h poses down step)
  | true =>
    cases s with
    | call c =>
      cases c with
      | getPose =>
        obtain ⟨o, ho, step⟩ := Option.map_eq_some_iff.1 step
        cases step
        exact congrArg Device.Lasting.poseOffset (Device.lasting_getPose? ho)
      | poseUpdated =>
        obtain ⟨o, ho, step⟩ := Option.map_eq_some_iff.1 step
        cases step
        obtain ⟨pose, same⟩ := Device.lasting_poseUpdated? ho
        exact congrArg Device.Lasting.poseOffset same
      | setPoseOffset ms => exact absurd rfl (unset ms)
      | tracking packet =>
        obtain ⟨⟨history, o⟩, ho, step⟩ := Option.map_eq_some_iff.1 step
        cases step
        exact (Device.offset_tracking? ho).1
      | clientReport report => exact absurd rfl (unreported report)
      | _ => cases poses
    | pushHistory | clearHistory =>
      cases step
      rfl
    | _ => cases poses

end Rig

/-! ## Updates -/

section

variable {t : TrackingConfig} {grant : Span} {moments : List Moment} {x : Moment} {v w : Int}

theorem Moment.Updates.inRange {ms : Float32} (h : x.Updates t grant moments v)
    (hs : x.step = .call (.setPoseOffset ms)) : ms.abs ≤ maxOffset := by
  cases h with
  | set ms' hs' inRange =>
    rw [hs] at hs'
    cases hs'
    exact inRange
  | fitted r hs' =>
    rw [hs] at hs'
    cases hs'

theorem Moment.Updates.known {r : ClientReport} (h : x.Updates t grant moments v)
    (hs : x.step = .call (.clientReport r)) : t.adaptiveOffset = true ∧
      r.target ∈ (Latency.opened t.frames (moments.flatMap Moment.notices)).take t.frames := by
  cases h with
  | set ms hs' =>
    rw [hs] at hs'
    cases hs'
  | fitted r' hs' adaptive known =>
    rw [hs] at hs'
    cases hs'
    exact ⟨adaptive, known⟩

theorem Moment.Updates.unique (h : x.Updates t grant moments v) (k : x.Updates t grant moments w) :
    v = w := by
  cases h with
  | set ms hs =>
    cases k with
    | set ms' hs' =>
      rw [hs] at hs'
      cases hs'
      rfl
    | fitted r hs' =>
      rw [hs] at hs'
      cases hs'
  | fitted r hs adaptive known average averaged =>
    cases k with
    | set ms hs' =>
      rw [hs] at hs'
      cases hs'
    | fitted r' hs' _ _ average' averaged' =>
      rw [hs] at hs'
      cases hs'
      rw [averaged.unique averaged']

end

namespace Rig

variable {r r' : Rig} {s : Step} {a : Answers} {l : List Effect} {reply : Reply}

/-- The average of a window with a report that is fitted to is that of the last reports. -/
theorem averaged_of_reported? {t : TrackingConfig} {interval offset : Span} {hostFrames : Float32}
    {overflow : Overflow} {notices : List Notice} {before latency : Latency}
    {report : ClientReport} {network : Span}
    (told : (Latency.empty t.latencyHistory.toNat interval hostFrames overflow).follow? notices =
      some before)
    (reported : before.reported? report = some (latency, some network))
    (fitted : latency.poseOffset? = some offset) : ∃ average,
      Span.IsAverage (((Latency.accepted t.frames (notices ++ [.reported report])).rtake
        t.frames).map (·.2.total)) average ∧
      offset = (Latency.empty t.latencyHistory.toNat interval hostFrames
        overflow).hostPipeline - average := by
  have told' : (Latency.empty t.latencyHistory.toNat interval hostFrames overflow).follow?
      (notices ++ [.reported report]) = some latency := by
    rw [Latency.follow?_concat, told]
    show (before.reported? report).map (·.1) = some latency
    rw [reported]
    rfl
  obtain ⟨average, averaged, rfl⟩ := Option.map_eq_some_iff.1 fitted
  have held := (Latency.filled_of_follow? told').held .total
  refine ⟨average, ?_, ?_⟩
  · rw [TrackingConfig.frames, ← Latency.totals_of_shares held]
    exact Window.average?_eq_some_iff.1 averaged
  · rw [← Latency.follow_of_follow? told', (Latency.fixed_follow _ _).1]

/-- A step updates the offset, or leaves it as it is. -/
theorem updates_of_step? {t : TrackingConfig} {interval : Span} {hostFrames : Float32}
    {overflow : Overflow} {earlier : List Moment} (h : r.device.Coherent)
    (tracking : r.device.config.tracking = t)
    (told : (Latency.empty t.latencyHistory.toNat interval hostFrames overflow).follow?
      (earlier.flatMap Moment.notices) = some r.device.latency)
    (step : r.step? s a = some (r', l, reply)) :
    let updates := Moment.Updates t
      (Latency.empty t.latencyHistory.toNat interval hostFrames overflow).hostPipeline earlier
      ⟨r, s, a, l, r'⟩
    updates r'.device.poseOffset ∨
      (∀ v, ¬ updates v) ∧ r'.device.poseOffset = r.device.poseOffset := by
  intro updates
  by_cases sets : ∃ ms, s = .call (.setPoseOffset ms)
  · obtain ⟨ms, rfl⟩ := sets
    cases step
    show updates (r.device.setPoseOffset ms).poseOffset ∨
      _ ∧ (r.device.setPoseOffset ms).poseOffset = _
    unfold Device.setPoseOffset
    by_cases inRange : ms.abs ≤ maxOffset
    · rw [if_pos inRange]
      exact .inl (.set ms rfl inRange)
    · rw [if_neg inRange]
      exact .inr ⟨fun v h => inRange (h.inRange rfl), rfl⟩
  by_cases reports : ∃ report, s = .call (.clientReport report)
  · obtain ⟨report, rfl⟩ := reports
    obtain ⟨e, he, step⟩ := Option.map_eq_some_iff.1 step
    cases step
    have targets := (Latency.targets_follow
      (l := .empty t.latencyHistory.toNat interval hostFrames overflow) rfl
      (earlier.flatMap Moment.notices)).2
    rw [Latency.follow_of_follow? told] at targets
    rcases Device.clientReport?_cases he with
      ⟨absent, rfl⟩ | ⟨latency, network, there, reported,
        ⟨fixed, rfl⟩ | ⟨adaptive, span, fitted, rfl⟩⟩
    · refine .inr ⟨fun v h => ?_, rfl⟩
      exact Latency.frame?_eq_none_iff.1 absent (targets ▸ (h.known rfl).2)
    · refine .inr ⟨fun v h => ?_, rfl⟩
      rw [tracking, (h.known rfl).1] at fixed
      cases fixed
    · have known : report.target ∈ (Latency.opened t.frames
          (earlier.flatMap Moment.notices)).take t.frames := by
        by_contra unknown
        have absent := Latency.frame?_eq_none_iff.2 (targets ▸ unknown)
        simp [absent] at there
      obtain ⟨average, averaged, rfl⟩ := averaged_of_reported? told reported fitted
      left
      show updates (Device.holdMicros _)
      rw [Device.holdMicros_eq]
      exact .fitted report rfl (tracking ▸ adaptive) known average averaged
  · refine .inr ⟨fun v h => ?_, offset_of_step? h (fun ms hs => sets ⟨ms, hs⟩)
      (fun report hs => reports ⟨report, hs⟩) step⟩
    cases h with
    | set ms hs => exact sets ⟨ms, hs⟩
    | fitted report hs => exact reports ⟨report, hs⟩

end Rig

/-! ## The last of them -/

section

variable {t : TrackingConfig} {grant : Span} {moments : List Moment} {x : Moment} {v w : Int}

theorem OffsetAfter.concat (h : OffsetAfter t grant moments x.before.device.poseOffset)
    (step : x.Updates t grant moments x.after.device.poseOffset ∨
      (∀ v, ¬ x.Updates t grant moments v) ∧
        x.after.device.poseOffset = x.before.device.poseOffset) :
    OffsetAfter t grant (moments ++ [x]) x.after.device.poseOffset := by
  rcases step with updates | ⟨keeps, same⟩
  · apply OffsetAfter.updated
    rw [LastUpdate, withEarlier_concat]
    exact since_concat.2 (.inl updates)
  rw [same]
  generalize x.before.device.poseOffset = micros at h
  cases h with
  | configured unset =>
    apply OffsetAfter.configured
    intro y hy
    rw [withEarlier_concat] at hy
    rcases List.mem_append.1 hy with hy | hy
    · exact unset y hy
    · obtain rfl : y = (moments, x) := by simpa using hy
      exact keeps
  | updated last =>
    apply OffsetAfter.updated
    rw [LastUpdate, withEarlier_concat]
    exact since_concat.2 (.inr ⟨last, keeps⟩)

theorem OffsetAfter.unique (h : OffsetAfter t grant moments v) (k : OffsetAfter t grant moments w) :
    v = w := by
  -- there is no last update where there is none
  have absurd' {micros : Int} (unset : ∀ y ∈ withEarlier moments, ∀ v, ¬ y.2.Updates t grant y.1 v)
      (last : LastUpdate t grant micros moments) : False := by
    obtain ⟨before, y, since, split, updates, -⟩ := last
    exact unset y (by simp [split]) _ updates
  cases h with
  | configured unset =>
    cases k with
    | configured => rfl
    | updated last => exact (absurd' unset last).elim
  | updated last =>
    cases k with
    | configured unset => exact (absurd' unset last).elim
    | updated last' =>
      exact since_unique (P := fun v (y : List Moment × Moment) => y.2.Updates t grant y.1 v)
        Moment.Updates.unique last last'

end

/-- After every run the offset is that of the last update: the last value in range that was set, or,
if the offset is adaptive, what the average of the last totals left of the host's grant at the last
report on an open frame, in whole microseconds.  If there was no update, it is the configured one.
A step that is no update leaves it as it is. -/
theorem offset_of_run {config : Config} {equipment : Equipment} {d : Device} {capacity : Nat}
    {r : Rig} {steps : List (Step × Answers)} {log : List Effect}
    (built : Device.build? config equipment = some (.ok d))
    (ran : (Rig.ofDevice d capacity).run? steps = some (r, log)) :
    ((Rig.ofDevice d capacity).moments steps).map (fun x => (x.step, x.answers)) = steps ∧
    (∀ micros, r.device.poseOffset = micros ↔
      OffsetAfter config.tracking d.latency.hostPipeline ((Rig.ofDevice d capacity).moments steps)
        micros) ∧
    ∀ s a r' l reply, r.step? s a = some (r', l, reply) →
      (∀ micros, ¬ Moment.Updates config.tracking d.latency.hostPipeline
        ((Rig.ofDevice d capacity).moments steps) ⟨r, s, a, l, r'⟩ micros) →
      r'.device.poseOffset = r.device.poseOffset := by
  have fresh : (Rig.ofDevice d capacity).device.Fresh config equipment :=
    Device.fresh_of_build? built
  obtain ⟨interval, latency⟩ := Device.latency_of_build? built
  -- what a step after some others does to the offset
  have updates {steps : List (Step × Answers)} {m : Rig} {before : List Effect}
      (ran : (Rig.ofDevice d capacity).run? steps = some (m, before)) {s : Step} {a : Answers}
      {r' : Rig} {l : List Effect} {reply : Reply} (step : m.step? s a = some (r', l, reply)) :
      Moment.Updates config.tracking d.latency.hostPipeline
          ((Rig.ofDevice d capacity).moments steps) ⟨m, s, a, l, r'⟩ r'.device.poseOffset ∨
        (∀ v, ¬ Moment.Updates config.tracking d.latency.hostPipeline
          ((Rig.ofDevice d capacity).moments steps) ⟨m, s, a, l, r'⟩ v) ∧
          r'.device.poseOffset = m.device.poseOffset := by
    have tracking := congrArg Config.tracking (Rig.config_of_run? fresh ran)
    have told : d.latency.follow? _ = _ := Rig.latency_of_run? fresh.coherent ran
    rw [latency] at told ⊢
    exact Rig.updates_of_step? (Rig.coherent_of_run? fresh.coherent ran) tracking told step
  have after : OffsetAfter config.tracking d.latency.hostPipeline
      ((Rig.ofDevice d capacity).moments steps) r.device.poseOffset := by
    refine Rig.run?_induction (motive := fun steps r _ => OffsetAfter config.tracking
      d.latency.hostPipeline ((Rig.ofDevice d capacity).moments steps) r.device.poseOffset)
      ?_ ?_ ran
    · show OffsetAfter config.tracking d.latency.hostPipeline [] d.poseOffset
      rw [Device.poseOffset_of_build? built]
      exact .configured (by simp [withEarlier])
    · intro steps m before s a r l reply ran ih step
      rw [Rig.moments_concat ran step]
      exact OffsetAfter.concat (x := ⟨m, s, a, l, r⟩) ih (updates ran step)
  refine ⟨(Rig.moments_of_run? ran).1, fun micros => ⟨?_, fun h => after.unique h⟩,
    fun s a r' l reply step other => ?_⟩
  · rintro rfl
    exact after
  · rcases updates ran step with update | ⟨-, same⟩
    · exact absurd update (other _)
    · exact same

/-- The offset is set, fitted to a report, and not set again, as the value is out of range. -/
def Rig.retuned : List (Step × Answers) :=
  (.call (.setPoseOffset 5), .willing) :: promptReport ++
    [(.call (.setPoseOffset 2000), .willing), (.call .shutDown, .willing)]

/-- The report was the last update: it left two refresh intervals to the offset. -/
theorem offset_of_retuned : ∃ r log, (Rig.ofDevice .standard 4).run? Rig.retuned = some (r, log) ∧
    r.device.poseOffset = 22222 ∧
    LastUpdate {} Device.standard.latency.hostPipeline 22222
      ((Rig.ofDevice .standard 4).moments Rig.retuned) := by
  have computed : ((Rig.ofDevice .standard 4).run? Rig.retuned).any fun x =>
      decide (x.1.device.poseOffset = 22222) := by
    decide +kernel
  obtain ⟨⟨r, log⟩, ran, computed⟩ := (Option.any_eq_true _ _).1 computed
  have offset : r.device.poseOffset = 22222 := of_decide_eq_true computed
  obtain ⟨-, stands, -⟩ := offset_of_run Device.build?_standard ran
  refine ⟨r, log, ran, offset, ?_⟩
  have after := (stands _).1 offset
  have unconfigured : Device.offsetMicros ({} : TrackingConfig).poseOffset ≠ 22222 := by
    decide +kernel
  generalize (22222 : Int) = micros at after unconfigured
  cases after with
  | configured => exact absurd rfl unconfigured
  | updated last => exact last

end Headset
