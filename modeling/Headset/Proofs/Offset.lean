import Headset.Proofs.Gauges
import Headset.Proofs.Packing

/-!
# The limit of the offset

The offset of pose queries is meant to stay within a second, either way.  One that a device is built
with or that is set does (`Device.natAbs_offsetMicros_le`).  One that is fitted to the latencies is
only held below the span that the host is granted, and this may be longer.  So the offset keeps to
the limit in every run of a device unless it is adaptive and the grant is longer than the limit
(`offset_within_limit_iff`).
-/

namespace Headset

namespace Latency

variable {l : Latency} {span : Span}

theorem le_hostPipeline (h : l.poseOffset? = some span) : span ≤ l.hostPipeline := by
  obtain ⟨total, -, rfl⟩ := Option.map_eq_some_iff.1 h
  rw [Span.le_iff, Span.nanos_sub]
  exact Nat.sub_le ..

end Latency

namespace Device

variable {d e : Device} {s : Step} {a : Answers} {grant : Span}

/-! ## The writers of the offset -/

/-- A number of milliseconds in range is at most a second. -/
theorem natAbs_offsetMicros_le {ms : Float32} (inRange : ms.abs ≤ maxOffset) :
    (offsetMicros ms).natAbs ≤ 1000000 := by
  obtain ⟨s, v, single, le⟩ := IsSingle.of_abs_le isSingle_thousand inRange
  have product : v * 1000 ≤ (1000000 : ℕ) := by
    push_cast
    linarith
  -- a million is a single, so the product is not rounded beyond it
  have held : Holds .binary32 (1000000 : ℕ) := holds_natCast (by decide)
  obtain ⟨w, scaled, bound⟩ := single.mul isSingle_thousand held product (by norm_num)
  obtain ⟨negative, m, e, exact, -, size⟩ := scaled.exact
  rw [offsetMicros, exact]
  exact Exact.natAbs_truncate_le (size ▸ bound)

theorem holdMicros_bounds {span : Span} (h : span ≤ grant) :
    0 ≤ holdMicros span ∧ holdMicros span ≤ grant.micros := by
  have le : span.micros ≤ grant.micros := Nat.div_le_div_right h
  unfold holdMicros
  split <;> omega

/-- The offset is at most a second, or it was fitted and is at most what the host is granted. -/
structure Limited (grant : Span) (d : Device) : Prop where
  hostPipeline : d.latency.hostPipeline = grant
  least : -1000000 ≤ d.poseOffset
  most : d.poseOffset ≤ 1000000 ∨
    d.config.tracking.adaptiveOffset = true ∧ d.poseOffset ≤ grant.micros

theorem Gauged.limited (k : Gauged s a d e) (config : e.config = d.config)
    (h : d.Limited grant) : e.Limited grant := by
  obtain ⟨notices, told, -⟩ := k.follows
  have hostPipeline : e.latency.hostPipeline = grant := by
    rw [told, (Latency.fixed_follow _ _).1, h.hostPipeline]
  cases k with
  | told notices of latency offset =>
    exact ⟨hostPipeline, offset ▸ h.least, by rw [config, offset]; exact h.most⟩
  | set ms inRange latency offset =>
    have bound := natAbs_offsetMicros_le inRange
    exact ⟨hostPipeline, by omega, .inl (by omega)⟩
  | fitted r hs span adaptive latency found offset =>
    have below := Latency.le_hostPipeline found
    rw [hostPipeline] at below
    obtain ⟨least, most⟩ := holdMicros_bounds below
    exact ⟨hostPipeline, by omega, .inr ⟨config ▸ adaptive, offset ▸ most⟩⟩

theorem natAbs_poseOffset_of_build? {config : Config} {equipment : Equipment}
    (built : build? config equipment = some (.ok d)) : d.poseOffset.natAbs ≤ 1000000 := by
  obtain ⟨valid, -⟩ := lasting_of_build? built
  obtain ⟨-, -, -, inRange, -⟩ := Config.fault?_eq_none_iff.1 valid
  rw [poseOffset_of_build? built]
  exact natAbs_offsetMicros_le inRange

theorem limited_of_build? {config : Config} {equipment : Equipment}
    (built : build? config equipment = some (.ok d)) : d.Limited d.latency.hostPipeline := by
  have bound := natAbs_poseOffset_of_build? built
  exact ⟨rfl, by omega, .inl (by omega)⟩

end Device

theorem Rig.limited_of_run? {start r : Rig} {steps : List (Step × Answers)} {log : List Effect}
    {grant : Span} (h : start.device.Coherent) (limited : start.device.Limited grant)
    (ran : start.run? steps = some (r, log)) : r.device.Limited grant := by
  refine run?_induction (motive := fun _ r _ => r.device.Limited grant) limited ?_ ran
  intro steps m before s a r l reply hm ih step
  have coherent := coherent_of_run? h hm
  have alone : m.run? [(s, a)] = some (r, l) := by simp [run?, step]
  have config := (built_of_run? coherent alone).1
  exact (gauged_of_step? coherent step).limited config ih

/-! ## A report of no time -/

/-- A sample for the start of the clock comes in. -/
def Step.firstSample : Step := .call (.tracking ⟨.zero, some default, default⟩)

/-- A sample comes in, and the client reports that its frame took no time. -/
def Rig.promptReport : List (Step × Answers) :=
  [(.firstSample, .willing), (.call (.clientReport default), .willing)]

/-- A pose can be asked for at the start of the clock. -/
theorem Device.poseTarget?_isSome {d : Device} (small : d.poseOffset.natAbs ≤ 1000000) :
    (d.poseTarget? .zero).isSome := by
  have inRange {n : ℕ} (h : n ≤ 1000000) : n * 1000 < Span.limit := by
    simp only [Span.limit]
    omega
  unfold poseTarget?
  split
  · next micros offset =>
    have small : micros ≤ 1000000 := by simpa [offset] using small
    have sum : Span.zero.nanos + micros * 1000 < Span.limit := by
      simpa [Span.zero] using inRange small
    rw [Span.ofMicros?, Span.ofNanos?_of_lt (inRange small), Option.bind_some, Span.add?,
      Span.ofNanos?_of_lt sum, Option.isSome_some]
  · next micros offset =>
    have small : micros + 1 ≤ 1000000 := by simpa [offset] using small
    rw [Span.ofMicros?, Span.ofNanos?_of_lt (inRange small), Option.map_some, Option.isSome_some]

/-- A frame that took no time leaves all that the host is granted to the offset. -/
theorem Latency.poseOffset?_of_prompt {l : Latency} (room : l.capacity ≠ 0)
    (unframed : l.frames = []) (unreported : l.total.values = [])
    (counted : l.CanCount 1 0) :
    ∃ m, (l.received .zero .zero).reported? default = some (m, some .zero) ∧
      m.poseOffset? = some l.hostPipeline := by
  obtain ⟨k, hk⟩ := Nat.exists_eq_succ_of_ne_zero room
  have opened : (l.received .zero .zero).frame? .zero =
      some { target := .zero, received := .zero } := by
    rw [received_of_not_mem (by simp [unframed])]
    simp [frame?, unframed, hk]
  have untouched : (l.received .zero .zero).total = l.total ∧
      (l.received .zero .zero).hostPipeline = l.hostPipeline := by
    rw [received_of_not_mem (by simp [unframed])]
    exact ⟨rfl, rfl⟩
  have counted : (l.received .zero .zero).CanCount 1 0 := by
    rw [received_of_not_mem (by simp [unframed])]
    exact counted
  have network : OpenFrame.networkTime? { target := .zero, received := .zero } default =
      some .zero := by
    decide +kernel
  have average : (l.total.submit .zero).average? = some .zero := by
    have values : (l.total.submit .zero).values = [.zero] := by simp [Window.submit, unreported]
    have part : (Span.sum? [.zero]).bind (Span.div? · 1) = some .zero := by decide +kernel
    simp only [Window.average?, values, List.isEmpty_cons, List.length_singleton]
    exact part
  refine ⟨_, by rw [reported?_of_frame? opened counted, network, Option.map_some], ?_⟩
  have reported : (default : ClientReport).total = .zero := rfl
  simp only [poseOffset?, submit, untouched, reported, average]
  rfl

/-- A packet is taken in whenever a pose can be asked for. -/
theorem Device.tracking?_isSome {d : Device} {a : Answers} (asked : (d.poseTarget? a.now).isSome)
    (h : History) (packet : TrackingPacket) : (d.tracking? h packet a).isSome := by
  obtain ⟨target, asked⟩ := Option.isSome_iff_exists.1 asked
  unfold tracking?
  split
  · rfl
  split
  · rfl
  have same (l : Latency) (c : Counters) :
      ({ d with latency := l, counters := c } : Device).poseTarget? a.now = some target := asked
  simp only [Option.isSome_map, poseUpdated?, getPose?]
  split <;> simp [same]

/-- On a new device, such a report sets the offset to all that the host is granted. -/
theorem Rig.run?_promptReport {config : Config} {equipment : Equipment} {d : Device}
    (built : Device.build? config equipment = some (.ok d))
    (adaptive : config.tracking.adaptiveOffset = true) (capacity : Nat) :
    ∃ r log, (Rig.ofDevice d capacity).run? promptReport = some (r, log) ∧
      r.device.poseOffset = Device.holdMicros d.latency.hostPipeline := by
  obtain ⟨-, interval, -, start⟩ := Device.lasting_of_build? built
  have empty : d.latency = .empty _ interval _ _ := congrArg Device.Lasting.latency start
  have asked : (d.poseTarget? Answers.willing.now).isSome :=
    Device.poseTarget?_isSome (Device.natAbs_poseOffset_of_build? built)
  obtain ⟨⟨h, o⟩, ho⟩ := Option.isSome_iff_exists.1
    (Device.tracking?_isSome asked (.empty capacity) ⟨.zero, some default, default⟩)
  obtain ⟨pose, same⟩ :=
    Device.lasting_tracking? rfl (congrArg Device.Lasting.related start) ho
  have latency : o.device.latency = d.latency.received .zero .zero :=
    congrArg Device.Lasting.latency same
  have config' : o.device.config = config :=
    (congrArg Device.Lasting.config same).trans (congrArg Device.Lasting.config start)
  have counted : d.latency.CanCount 1 0 := by
    rw [empty]
    exact fun _ => ⟨show 0 + 1 < UInt64.size by decide, show 0 + 0 < UInt64.size by decide⟩
  obtain ⟨m, reported, fitted⟩ := Latency.poseOffset?_of_prompt (l := d.latency)
    (by simp [empty, Latency.empty]) (by rw [empty]; rfl) (by rw [empty]; rfl) counted
  obtain ⟨e, he⟩ : ∃ e : Device, e = { o.device with
      latency := m, poseOffset := Device.holdMicros d.latency.hostPipeline } := ⟨_, rfl⟩
  have told : o.device.clientReport? default = some e := by
    simp [Device.clientReport?, latency, reported, config', adaptive, fitted, he]
  obtain ⟨n, l, reply, first, device⟩ : ∃ n l reply, (Rig.ofDevice d capacity).step?
      .firstSample .willing = some (n, l, reply) ∧ n.device = o.device :=
    ⟨_, _, _, congrArg (Option.map _) ho, rfl⟩
  have second : n.step? (.call (.clientReport default)) .willing =
      some ({ n with device := e }, [], .none) := by
    simp only [step?, call?, device, told, Option.map_some]
  have ran : (Rig.ofDevice d capacity).run? promptReport = some ({ n with device := e }, l) := by
    simp [promptReport, run?_cons, run?_nil, first, second]
  exact ⟨_, _, ran, by rw [he]⟩

/-! ## The limit -/

/-- In every run of a device the offset is at least a second into the past, and at most a second
ahead or, if it is adaptive, what its host is granted.  It keeps to a second in all runs if and only
if it is not adaptive or the grant is at most a second. -/
theorem offset_within_limit_iff {config : Config} {equipment : Equipment} {d : Device}
    (built : Device.build? config equipment = some (.ok d)) (capacity : Nat) :
    (∀ steps r log, (Rig.ofDevice d capacity).run? steps = some (r, log) →
      -1000000 ≤ r.device.poseOffset ∧ (r.device.poseOffset ≤ 1000000 ∨
        config.tracking.adaptiveOffset = true ∧
          r.device.poseOffset ≤ d.latency.hostPipeline.micros)) ∧
    ((∀ steps r log, (Rig.ofDevice d capacity).run? steps = some (r, log) →
        -1000000 ≤ r.device.poseOffset ∧ r.device.poseOffset ≤ 1000000) ↔
      (config.tracking.adaptiveOffset = true → d.latency.hostPipeline.micros ≤ 1000000)) := by
  have fresh := Device.fresh_of_build? built
  have bound := Device.natAbs_poseOffset_of_build? built
  have start : (Rig.ofDevice d capacity).device.Limited d.latency.hostPipeline :=
    ⟨rfl, by show _ ≤ d.poseOffset; omega, .inl (by show d.poseOffset ≤ _; omega)⟩
  have limits : ∀ steps r log, (Rig.ofDevice d capacity).run? steps = some (r, log) →
      -1000000 ≤ r.device.poseOffset ∧ (r.device.poseOffset ≤ 1000000 ∨
        config.tracking.adaptiveOffset = true ∧
          r.device.poseOffset ≤ d.latency.hostPipeline.micros) := by
    intro steps r log ran
    have limited := Rig.limited_of_run? fresh.coherent start ran
    have config' := (Rig.built_of_run? fresh.coherent ran).1.trans fresh.config
    exact ⟨limited.least, config' ▸ limited.most⟩
  refine ⟨limits, ?_, ?_⟩
  · intro within adaptive
    obtain ⟨r, log, ran, offset⟩ := Rig.run?_promptReport built adaptive capacity
    have most := (within _ _ _ ran).2
    rw [offset] at most
    unfold Device.holdMicros at most
    split at most <;> omega
  · intro granted steps r log ran
    obtain ⟨least, most | ⟨adaptive, most⟩⟩ := limits steps r log ran
    · exact ⟨least, most⟩
    · have := granted adaptive
      exact ⟨least, by omega⟩

/-- A display that is refreshed once a second, with ten frames granted to the host. -/
def Config.slow : Config where
  display := { refreshRate := 1 }
  tracking := { hostPipelineFrames := 10 }

/-- One report sets the offset of a valid configuration to ten seconds. -/
theorem offset_beyond_limit : ∃ d r log, Device.build? .slow .direct = some (.ok d) ∧
    (Rig.ofDevice d 4).run? Rig.promptReport = some (r, log) ∧
    r.device.poseOffset = 10000000 := by
  have grants : ((Device.build? .slow .direct).bind Except.toOption).any fun d =>
      decide (d.latency.hostPipeline.micros = 10000000) := by
    decide +kernel
  obtain ⟨d, hd, grants⟩ := (Option.any_eq_true _ _).1 grants
  have built := Device.build?_of_toOption hd
  obtain ⟨r, log, ran, offset⟩ := Rig.run?_promptReport built rfl 4
  have grants : d.latency.hostPipeline.micros = 10000000 := by simpa using grants
  exact ⟨d, r, log, built, ran, by rw [offset, Device.holdMicros, grants]; rfl⟩

/-- The default configuration grants less than a second, so its offset keeps to the limit. -/
theorem offset_within_limit_standard : ∃ r log,
    (Rig.ofDevice .standard 4).run? Rig.promptReport = some (r, log) ∧
      Device.standard.latency.hostPipeline.micros ≤ 1000000 ∧
      -1000000 ≤ r.device.poseOffset ∧ r.device.poseOffset ≤ 1000000 := by
  have granted : Device.standard.latency.hostPipeline.micros ≤ 1000000 := by decide +kernel
  obtain ⟨r, log, ran, -⟩ := Rig.run?_promptReport Device.build?_standard rfl 4
  obtain ⟨-, within⟩ := offset_within_limit_iff Device.build?_standard 4
  exact ⟨r, log, ran, granted, within.2 (fun _ => granted) _ _ _ ran⟩

end Headset
