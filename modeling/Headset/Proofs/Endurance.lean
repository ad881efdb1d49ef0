import Headset.Proofs.Division
import Headset.Proofs.Offset
import Headset.Proofs.Windows

/-!
# Reports that leave the range

A report of the client adds up six times, and its values stay in windows whose sums are divided
later.  If a sum leaves the range of spans, or rounds out of it when it is divided, a call does not
return.  This cannot happen as long as the clock and the times of the reports are bounded so that
six of them, and as many as a window holds, have a sum that can be divided.  In a build that stops
when a count is full, the reports and the frames that they miss have to be countable besides
(`reports_return_of_run`).
-/

namespace Headset

variable {bound : Span} {k : Nat}

/-! ## Bounds -/

/-- No time of a report is longer than the bound. -/
structure ClientReport.Within (bound : Span) (r : ClientReport) : Prop where
  total : r.total ≤ bound
  decode : r.decode ≤ bound
  decoderQueue : r.decoderQueue ≤ bound
  rendering : r.rendering ≤ bound
  vsyncQueue : r.vsyncQueue ≤ bound

/-- In a step, the clock shows no time past the bound, and no time of a report is longer. -/
structure Step.Within (bound : Span) (s : Step) (a : Answers) : Prop where
  arrival : a.arrival ≤ bound
  now : a.now ≤ bound
  report : ∀ r, s = .call (.clientReport r) → r.Within bound

/-- The times of a notice are within the bound. -/
def Notice.Within (bound : Span) : Notice → Prop
  | .received _ now => now ≤ bound
  | .presented _ now => now ≤ bound
  | .encoded _ now _ _ => now ≤ bound
  | .reported r => r.Within bound

/-- The stamps of a frame are within the bound. -/
structure OpenFrame.Within (bound : Span) (f : OpenFrame) : Prop where
  received : f.received ≤ bound
  presented : ∀ now, f.presented = some now → now ≤ bound
  encoded : ∀ now, f.encoded = some now → now ≤ bound

/-- A window holds at most `k` values, all within the bound. -/
structure Window.Within (bound : Span) (k : Nat) (w : Window) : Prop where
  capacity : w.capacity = k
  length : w.values.length ≤ k
  values : ∀ s ∈ w.values, s ≤ bound

/-- All that latencies hold is within the bound. -/
structure Latency.Within (bound : Span) (k : Nat) (l : Latency) : Prop where
  frames : ∀ f ∈ l.frames, f.Within bound
  total : l.total.Within bound k
  game : l.game.Within bound k
  encode : l.encode.Within bound k
  network : l.network.Within bound k
  decode : l.decode.Within bound k

/-! ## Sums -/

theorem Span.sum?_of_le {spans : List Span} (h : ∀ s ∈ spans, s ≤ bound) {n : Nat}
    (le : spans.length * bound.nanos ≤ n) (range : n < limit) :
    ∃ t, sum? spans = some t ∧ t.nanos ≤ n := by
  have added : ∀ start, spans.foldl (fun total s => total + s.nanos) start ≤
      start + spans.length * bound.nanos := by
    clear le
    induction spans with
    | nil => simp
    | cons s spans ih =>
      intro start
      have first : s.nanos ≤ bound.nanos := h s (by simp)
      have rest := ih (fun t ht => h t (List.mem_cons_of_mem s ht)) (start + s.nanos)
      rw [List.foldl_cons, List.length_cons, Nat.succ_mul]
      omega
  have sum := added 0
  rw [Nat.zero_add] at sum
  exact ⟨_, ofNanos?_of_lt (by omega), sum.trans le⟩

namespace Span

variable {s t : Span}

theorem sub_le_of_le (h : s ≤ bound) : s - t ≤ bound := by
  rw [le_iff, nanos_sub]
  exact (Nat.sub_le ..).trans h

end Span

namespace OpenFrame.Within

variable {f : OpenFrame} {r : ClientReport}

theorem gameTime (h : f.Within bound) : f.gameTime ≤ bound := by
  unfold OpenFrame.gameTime
  cases presented : f.presented with
  | none => exact Span.sub_le_of_le h.received
  | some now => exact Span.sub_le_of_le (h.presented now presented)

theorem encodeTime (h : f.Within bound) : f.encodeTime ≤ bound := by
  unfold OpenFrame.encodeTime
  split
  · exact Nat.zero_le _
  · next now encoded => exact Span.sub_le_of_le (h.encoded now encoded)

/-- The network's share is a part of the total. -/
theorem networkTime?_le (hr : r.Within bound) {n : Span} (h : f.networkTime? r = some n) :
    n ≤ bound := by
  obtain ⟨stages, -, rfl⟩ := Option.map_eq_some_iff.1 h
  exact Span.sub_le_of_le hr.total

/-- The stages can be added up. -/
theorem networkTime?_isSome (h : f.Within bound) (hr : r.Within bound)
    (room : 6 * bound.nanos < Span.limit) : (f.networkTime? r).isSome := by
  have stages : ∀ s ∈ [f.gameTime, f.encodeTime, r.decode, r.decoderQueue, r.rendering,
      r.vsyncQueue], s ≤ bound := by
    simp [h.gameTime, h.encodeTime, hr.decode, hr.decoderQueue, hr.rendering, hr.vsyncQueue]
  obtain ⟨t, sum, -⟩ := Span.sum?_of_le stages le_rfl room
  rw [OpenFrame.networkTime?, sum, Option.map_some, Option.isSome_some]

end OpenFrame.Within

/-! ## Windows -/

namespace Window.Within

variable {w : Window} {s : Span}

theorem empty (bound : Span) (k : Nat) : (Window.empty k).Within bound k :=
  ⟨rfl, Nat.zero_le k, by simp [Window.empty]⟩

theorem submit (h : w.Within bound k) (pos : 0 < k) (hs : s ≤ bound) :
    (w.submit s).Within bound k := by
  have length := h.length
  refine ⟨h.capacity, ?_, ?_⟩
  · simp only [Window.submit, h.capacity, List.length_append, List.length_singleton]
    split
    · rw [List.length_tail]
      omega
    · omega
  · intro t ht
    rcases List.mem_append.1 ht with kept | new
    · split at kept
      · exact h.values t (List.mem_of_mem_tail kept)
      · exact h.values t kept
    · rw [List.mem_singleton.1 new]
      exact hs

/-- The values can be added up and their sum divided. -/
theorem average? (h : w.Within bound k) (range : k < 2 ^ 64)
    (room : k * bound.nanos ≤ Span.divisible) : w.average?.isSome := by
  unfold Window.average?
  split
  · rfl
  next filled =>
  have pos : 0 < w.values.length := List.length_pos_iff.2 (by simpa using filled)
  have le : w.values.length * bound.nanos ≤ Span.divisible :=
    (Nat.mul_le_mul_right _ h.length).trans room
  obtain ⟨t, sum, small⟩ := Span.sum?_of_le h.values le (by decide)
  rw [sum, Option.bind_some]
  exact Span.div?_isSome small pos (h.length.trans_lt range)

end Window.Within

/-! ## Latencies -/

namespace Latency.Within

variable {l : Latency} {n : Notice}

theorem empty (bound : Span) (capacity : Nat) (interval : Span) (hostFrames : Float32)
    (overflow : Overflow) :
    (Latency.empty capacity interval hostFrames overflow).Within bound (max capacity 1) where
  frames := by simp [Latency.empty]
  total := .empty bound _
  game := .empty bound _
  encode := .empty bound _
  network := .empty bound _
  decode := .empty bound _

theorem update (h : l.Within bound k) (target : Span) {change : OpenFrame → OpenFrame}
    (kept : ∀ f, f.Within bound → (change f).Within bound) :
    (l.update target change).Within bound k := by
  refine { h with frames := fun f hf => ?_ }
  obtain ⟨g, there, rfl⟩ := List.mem_map.1 hf
  split
  · exact kept g (h.frames g there)
  · exact h.frames g there

theorem submit (h : l.Within bound k) (pos : 0 < k) {f : OpenFrame} (hf : f.Within bound)
    {r : ClientReport} (hr : r.Within bound) {network : Span} (hn : network ≤ bound) :
    (l.submit f r network).Within bound k :=
  { h with
    total := h.total.submit pos hr.total
    game := h.game.submit pos hf.gameTime
    encode := h.encode.submit pos hf.encodeTime
    network := h.network.submit pos hn
    decode := h.decode.submit pos hr.decode }

/-- What an answered report within the bound leaves is within the bound. -/
theorem reported (h : l.Within bound k) (pos : 0 < k) {r : ClientReport} (hr : r.Within bound)
    {m : Latency} {network : Option Span} (answered : l.reported? r = some (m, network)) :
    m.Within bound k := by
  rcases reported?_cases answered with ⟨-, rfl, -⟩ | ⟨f, n, found, -, told, rfl, -⟩
  · exact h
  · exact h.submit pos (h.frames f (List.mem_of_find?_eq_some found)) hr
      (OpenFrame.Within.networkTime?_le hr told)

/-- A report within the bound that can be counted has an answer. -/
theorem reported?_isSome (h : l.Within bound k) {r : ClientReport} (hr : r.Within bound)
    (room : 6 * bound.nanos < Span.limit) (counted : l.CanCount 1 r.dropped.toNat) :
    (l.reported? r).isSome := by
  cases found : l.frame? r.target with
  | none => rw [reported?_of_absent found, Option.isSome_some]
  | some f =>
    have there := h.frames f (List.mem_of_find?_eq_some found)
    rw [reported?_of_frame? found counted, Option.isSome_map]
    exact there.networkTime?_isSome hr room

theorem notice (h : l.Within bound k) (pos : 0 < k) (hn : n.Within bound) :
    (l.notice n).Within bound k := by
  cases n with
  | received target now =>
    by_cases there : target ∈ l.frames.map (·.target)
    · rw [Latency.notice, received_of_mem there]
      exact h
    · rw [Latency.notice, received_of_not_mem there]
      refine { h with frames := fun f hf => ?_ }
      rcases List.mem_cons.1 (List.mem_of_mem_take hf) with rfl | older
      · exact ⟨hn, by simp, by simp⟩
      · exact h.frames f older
  | presented target now =>
    refine h.update target fun f hf => ⟨hf.received, ?_, hf.encoded⟩
    intro t ht
    cases presented : f.presented with
    | none =>
      obtain rfl : now = t := by simpa [presented] using ht
      exact hn
    | some u =>
      obtain rfl : u = t := by simpa [presented] using ht
      exact hf.presented u presented
  | encoded target now bytes keyframe =>
    refine h.update target fun f hf => ⟨hf.received, hf.presented, ?_⟩
    rintro t ⟨⟩
    exact hn
  | reported r =>
    cases answered : l.reported? r with
    | none => simpa [Latency.notice, answered] using h
    | some o =>
      obtain ⟨m, network⟩ := o
      simpa [Latency.notice, answered] using h.reported pos hn answered

theorem follow (h : l.Within bound k) (pos : 0 < k) {log : List Notice}
    (hn : ∀ n ∈ log, n.Within bound) : (l.follow log).Within bound k := by
  induction log using List.reverseRecOn with
  | nil => exact h
  | append_singleton log n ih =>
    rw [follow_concat]
    exact (ih fun m hm => hn m (by simp [hm])).notice pos (hn n (by simp))

/-- All averages can be taken. -/
theorem snapshot? (h : l.Within bound k) (range : k < 2 ^ 64)
    (room : k * bound.nanos ≤ Span.divisible) : l.snapshot?.isSome := by
  obtain ⟨total, ht⟩ := Option.isSome_iff_exists.1 (h.total.average? range room)
  obtain ⟨game, hg⟩ := Option.isSome_iff_exists.1 (h.game.average? range room)
  obtain ⟨encode, he⟩ := Option.isSome_iff_exists.1 (h.encode.average? range room)
  obtain ⟨network, hn⟩ := Option.isSome_iff_exists.1 (h.network.average? range room)
  obtain ⟨decode, hd⟩ := Option.isSome_iff_exists.1 (h.decode.average? range room)
  simp [Latency.snapshot?, ht, hg, he, hn, hd]

end Latency.Within

/-! ## Counts -/

namespace Latency

variable {l m : Latency} {r : ClientReport} {network : Option Span} {reports missed : Nat}

theorem CanCount.mono {reports' missed' : Nat} (h : l.CanCount reports missed)
    (fewer : reports' ≤ reports) (fewer' : missed' ≤ missed) : l.CanCount reports' missed' := by
  intro stops
  obtain ⟨room, room'⟩ := h stops
  omega

/-- An answered report takes its own place among those that can be counted, and no other. -/
theorem CanCount.reported (h : l.CanCount (1 + reports) (r.dropped.toNat + missed))
    (answered : l.reported? r = some (m, network)) : m.CanCount reports missed := by
  rcases reported?_cases answered with ⟨-, rfl, -⟩ | ⟨f, n, -, -, -, rfl, -⟩
  · exact h.mono (Nat.le_add_left ..) (Nat.le_add_left ..)
  · intro stops
    obtain ⟨room, room'⟩ := h stops
    have one : (l.reports + 1).toNat = l.reports.toNat + 1 := by
      rw [UInt64.toNat_add, UInt64.toNat_one, Nat.mod_eq_of_lt]
      exact Nat.lt_of_le_of_lt (by omega) room
    have more : (l.framesDropped + r.dropped.toUInt64).toNat =
        l.framesDropped.toNat + r.dropped.toNat := by
      rw [UInt64.toNat_add, UInt32.toNat_toUInt64, Nat.mod_eq_of_lt]
      exact Nat.lt_of_le_of_lt (by omega) room'
    simp only [submit, one, more]
    omega

end Latency

/-! ## Runs -/

theorem Notice.Of.within {s : Step} {a : Answers} {n : Notice} (of : n.Of s a)
    (h : s.Within bound a) : n.Within bound := by
  cases n with
  | received target now => exact of.trans_le h.arrival
  | presented target now => exact of.trans_le h.now
  | encoded target now bytes keyframe => exact of.trans_le h.now
  | reported r => exact h.report r of

/-- A report within the bound that can be counted returns. -/
theorem Device.clientReport?_of_within {d : Device} (h : d.latency.Within bound k) (pos : 0 < k)
    (range : k < 2 ^ 64) (six : 6 * bound.nanos < Span.limit)
    (room : k * bound.nanos ≤ Span.divisible) {r : ClientReport} (hr : r.Within bound)
    (counted : d.latency.CanCount 1 r.dropped.toNat) :
    ∃ e network, d.clientReport? r = some e ∧
      d.latency.reported? r = some (e.latency, network) := by
  obtain ⟨⟨m, network⟩, answered⟩ := Option.isSome_iff_exists.1 (h.reported?_isSome hr six counted)
  have after := h.reported pos hr answered
  obtain ⟨total, average⟩ := Option.isSome_iff_exists.1 (after.total.average? range room)
  have fitted : m.poseOffset? = some (m.hostPipeline - total) := by
    rw [Latency.poseOffset?, average, Option.map_some]
  unfold Device.clientReport?
  rw [answered, Option.bind_eq_bind, Option.bind_some]
  dsimp only
  split
  · rw [fitted]
    exact ⟨_, network, rfl, rfl⟩
  · exact ⟨_, network, rfl, rfl⟩

namespace Rig

variable {start r : Rig} {steps : List (Step × Answers)} {log : List Effect}

theorem within_of_run? (h : start.device.Coherent) (new : start.device.latency.Within bound k)
    (pos : 0 < k) (within : ∀ s a, (s, a) ∈ steps → s.Within bound a)
    (ran : start.run? steps = some (r, log)) : r.device.latency.Within bound k := by
  refine run?_induction (motive := fun steps r _ => (∀ s a, (s, a) ∈ steps → s.Within bound a) →
    r.device.latency.Within bound k) (fun _ => new) ?_ ran within
  intro steps m before s a r l reply hm ih step within
  have coherent := coherent_of_run? h hm
  obtain ⟨notices, told, of⟩ := (gauged_of_step? coherent step).follows
  have earlier := ih fun s a there => within s a (by simp [there])
  rw [told]
  exact earlier.follow pos fun n hn => (of n hn).within (within s a (by simp))

/-- A run does not change what becomes of full counts. -/
theorem overflow_of_run? (h : start.device.Coherent) (ran : start.run? steps = some (r, log)) :
    r.device.latency.overflow = start.device.latency.overflow := by
  refine run?_induction
    (motive := fun _ r _ => r.device.latency.overflow = start.device.latency.overflow) rfl ?_ ran
  intro steps m before s a r l reply hm ih step
  obtain ⟨notices, told, -⟩ := (gauged_of_step? (coherent_of_run? h hm) step).follows
  rw [told, (Latency.fixed_follow _ _).2, ih]

/-- What may be asked about latencies can be answered. -/
structure Answering (r : Rig) : Prop where
  snapshot : r.device.latency.snapshot?.isSome
  debug : ∀ request buffer a, (r.step? (.call (.debug request buffer)) a).isSome

theorem answering_of_snapshot (h : r.device.latency.snapshot?.isSome) : r.Answering where
  snapshot := h
  debug request buffer a := by
    have answered : (r.device.debugAnswer? (Inquiry.parse? request)).isSome := by
      unfold Device.debugAnswer?
      split <;> simp [h]
    simpa [step?, call?, Device.debug?] using answered

/-- Reports one after another, as steps. -/
def reporting (reports : List (ClientReport × Answers)) : List (Step × Answers) :=
  reports.map fun x => (.call (.clientReport x.1), x.2)

theorem run?_reporting (h : r.device.latency.Within bound k) (pos : 0 < k) (range : k < 2 ^ 64)
    (six : 6 * bound.nanos < Span.limit) (room : k * bound.nanos ≤ Span.divisible)
    {reports : List (ClientReport × Answers)} (fits : ∀ x ∈ reports, x.1.Within bound)
    (counted : r.device.latency.CanCount reports.length (Latency.missed (reports.map (·.1)))) :
    ∃ q, r.run? (reporting reports) = some (q, []) ∧ q.device.latency.Within bound k := by
  induction reports generalizing r with
  | nil => exact ⟨r, rfl, h⟩
  | cons first reports ih =>
    obtain ⟨report, a⟩ := first
    have fit : report.Within bound := fits (report, a) (by simp)
    have counted : r.device.latency.CanCount (1 + reports.length)
        (report.dropped.toNat + Latency.missed (reports.map (·.1))) := by
      rw [Nat.add_comm 1]
      exact counted
    obtain ⟨e, network, told, answered⟩ := Device.clientReport?_of_within h pos range six room fit
      (counted.mono (Nat.le_add_right ..) (Nat.le_add_right ..))
    have step : r.step? (.call (.clientReport report)) a =
        some ({ r with device := e }, [], .none) := by
      simp only [step?, call?, told, Option.map_some]
    obtain ⟨q, ran, last⟩ :=
      ih (r := { r with device := e }) (h.reported pos fit answered)
        (fun x hx => fits x (List.mem_cons_of_mem _ hx)) (counted.reported answered)
    refine ⟨q, ?_, last⟩
    rw [reporting, List.map_cons, run?_cons, step, Option.bind_some]
    exact congrArg (Option.map _) ran

end Rig

/-- As long as the clock of a run and all reports keep to a bound of which six, and as many as the
latencies remember, have a sum that can be divided, every further report that keeps to it returns,
however many there are, and after them all questions about latencies are answered.  In a build that
stops when a count is full, there have to be no more of them than can be counted, and no more frames
that they miss. -/
theorem reports_return_of_run {config : Config} {equipment : Equipment} {d : Device}
    {capacity : Nat} {steps : List (Step × Answers)} {r : Rig} {log : List Effect}
    (built : Device.build? config equipment = some (.ok d))
    (room : max 6 config.tracking.latencyHistory.toNat * bound.nanos ≤ Span.divisible)
    (within : ∀ s a, (s, a) ∈ steps → s.Within bound a)
    (ran : (Rig.ofDevice d capacity).run? steps = some (r, log))
    {reports : List (ClientReport × Answers)} (fits : ∀ x ∈ reports, x.1.Within bound)
    (counted : equipment.overflow = .stops →
      r.device.latency.reports.toNat + reports.length < UInt64.size ∧
        r.device.latency.framesDropped.toNat + Latency.missed (reports.map (·.1)) < UInt64.size) :
    ∃ q, r.run? (Rig.reporting reports) = some (q, []) ∧ q.Answering := by
  obtain ⟨k, hk⟩ : ∃ k, k = max config.tracking.latencyHistory.toNat 1 := ⟨_, rfl⟩
  have pos : 0 < k := by omega
  have range : k < 2 ^ 64 := by
    have := config.tracking.latencyHistory.toNat_lt
    omega
  have six : 6 * bound.nanos < Span.limit :=
    ((Nat.mul_le_mul_right _ (le_max_left ..)).trans room).trans_lt (by decide)
  have window : k * bound.nanos ≤ Span.divisible :=
    (Nat.mul_le_mul_right _ (by omega)).trans room
  obtain ⟨-, interval, -, start⟩ := Device.lasting_of_build? built
  have empty : d.latency = .empty _ interval _ _ := congrArg Device.Lasting.latency start
  have new : (Rig.ofDevice d capacity).device.latency.Within bound k := by
    show d.latency.Within bound k
    rw [empty, hk]
    exact .empty bound _ interval _ _
  have coherent := (Device.fresh_of_build? built).coherent
  have reached := Rig.within_of_run? coherent new pos within ran
  have overflow : r.device.latency.overflow = equipment.overflow := by
    rw [Rig.overflow_of_run? coherent ran]
    exact congrArg Latency.overflow empty
  obtain ⟨q, reported, last⟩ := Rig.run?_reporting reached pos range six window fits
    fun stops => counted (overflow.symm.trans stops)
  exact ⟨q, reported, Rig.answering_of_snapshot (last.snapshot? range window)⟩

/-- A report of two stages that each take the longest time there is. -/
def ClientReport.endless : ClientReport :=
  { (default : ClientReport) with decode := .longest, decoderQueue := .longest }

/-- A report of half the range of times. -/
def ClientReport.halfway : ClientReport :=
  { (default : ClientReport) with total := ⟨0x8000000000000000 * 1000000000, by decide⟩ }

/-- A device whose offset is not fitted to the latencies. -/
def Config.steady : Config where
  tracking := { adaptiveOffset := false }

/-- A report whose stages are too long does not return.  Two reports that do may leave totals in the
window whose average cannot be taken later. -/
theorem reports_out_of_range :
    (∃ r log, (Rig.ofDevice .standard 4).run? [(.firstSample, .willing)] = some (r, log) ∧
      r.step? (.call (.clientReport .endless)) .willing = none) ∧
    ∃ d r log, Device.build? .steady .direct = some (.ok d) ∧
      (Rig.ofDevice d 4).run? ((.firstSample, .willing) ::
        Rig.reporting [(.halfway, .willing), (.halfway, .willing)]) = some (r, log) ∧
      r.device.latency.snapshot? = none := by
  have fails : ((Rig.ofDevice .standard 4).run? [(.firstSample, .willing)]).any fun x =>
      (x.1.step? (.call (.clientReport .endless)) .willing).isNone := by
    decide +kernel
  have spoils : ((Device.build? .steady .direct).bind Except.toOption).any fun d =>
      ((Rig.ofDevice d 4).run? ((.firstSample, .willing) ::
        Rig.reporting [(.halfway, .willing), (.halfway, .willing)])).any fun x =>
          x.1.device.latency.snapshot?.isNone := by
    decide +kernel
  obtain ⟨⟨r, log⟩, ran, fails⟩ := (Option.any_eq_true _ _).1 fails
  obtain ⟨d, hd, spoils⟩ := (Option.any_eq_true _ _).1 spoils
  obtain ⟨⟨q, log'⟩, ran', spoils⟩ := (Option.any_eq_true _ _).1 spoils
  exact ⟨⟨r, log, ran, Option.isNone_iff_eq_none.1 fails⟩, d, q, log',
    Device.build?_of_toOption hd, ran', Option.isNone_iff_eq_none.1 spoils⟩

def Span.hour : Span := ⟨3600 * 1000000000, by decide⟩

/-- What the default device is built with, in a build that stops when a count is full. -/
def Equipment.strict : Equipment := { Equipment.direct with overflow := .stops }

/-- After a report in the default configuration, further reports of up to an hour return as long as
they can be counted. -/
theorem reports_return_within_an_hour : ∃ d r log,
    Device.build? {} .strict = some (.ok d) ∧
    (Rig.ofDevice d 4).run? Rig.promptReport = some (r, log) ∧
    ∀ reports : List (ClientReport × Answers), (∀ x ∈ reports, x.1.Within .hour) →
      1 + reports.length < UInt64.size → Latency.missed (reports.map (·.1)) < UInt64.size →
      ∃ q, r.run? (Rig.reporting reports) = some (q, []) ∧ q.Answering := by
  have counts : ((Device.build? {} .strict).bind Except.toOption).any fun d =>
      ((Rig.ofDevice d 4).run? Rig.promptReport).any fun x =>
        decide (x.1.device.latency.reports = 1 ∧ x.1.device.latency.framesDropped = 0) := by
    decide +kernel
  obtain ⟨d, hd, counts⟩ := (Option.any_eq_true _ _).1 counts
  obtain ⟨⟨r, log⟩, ran, counts⟩ := (Option.any_eq_true _ _).1 counts
  obtain ⟨reported, dropped⟩ := of_decide_eq_true counts
  have built := Device.build?_of_toOption hd
  have within : ∀ s a, (s, a) ∈ Rig.promptReport → s.Within .hour a := by
    have none : (Span.zero : Span) ≤ .hour := Nat.zero_le _
    intro s a there
    simp only [Rig.promptReport, List.mem_cons, List.not_mem_nil, Prod.mk.injEq, or_false] at there
    rcases there with ⟨rfl, rfl⟩ | ⟨rfl, rfl⟩
    · exact ⟨none, none, fun r hr => by cases hr⟩
    · exact ⟨none, none, fun r hr => by cases hr; exact ⟨none, none, none, none, none⟩⟩
  refine ⟨d, r, log, built, ran, fun reports fits few few' => ?_⟩
  refine reports_return_of_run built (by decide) within ran fits fun _ => ?_
  rw [reported, dropped, UInt64.toNat_one, UInt64.toNat_zero, Nat.zero_add]
  exact ⟨few, few'⟩

end Headset
