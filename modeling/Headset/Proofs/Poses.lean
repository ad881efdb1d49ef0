import Headset.Proofs.Gauges

/-!
# Poses and the lifecycle

Whether a device is in use, streams or makes frames has no influence on the poses that it answers
with.  They rest on little of it (`Rig.basis`): the history, the offset, the pose answered last and,
of the latencies, the totals that were reported and which frames are open.  Only the steps that
concern poses change this basis (`Rig.basis_of_step?`), and they lead from the same basis to the
same basis and the same pose (`Rig.basis_congr_of_step?`).  So two runs that agree in these steps
agree in their poses (`poses_of_runs`).
-/

namespace Headset

/-- What of the latencies the offset of a pose rests on. -/
structure Latency.Basis where
  capacity : Nat
  hostPipeline : Span
  total : Window
  targets : List Span

def Latency.basis (l : Latency) : Latency.Basis where
  capacity := l.capacity
  hostPipeline := l.hostPipeline
  total := l.total
  targets := l.frames.map (·.target)

/-- What of a device a pose rests on. -/
structure Device.Basis where
  config : Config
  related : Bool
  poseOffset : Int
  lastPose : Option DevicePose
  latency : Latency.Basis

def Device.basis (d : Device) : Device.Basis where
  config := d.config
  related := d.relays.isSome
  poseOffset := d.poseOffset
  lastPose := d.lastPose
  latency := d.latency.basis

/-- What of a rig a pose rests on. -/
def Rig.basis (r : Rig) : Device.Basis × History := (r.device.basis, r.history)

/-- Whether a step asks for a pose or brings in what poses are made from. -/
def Step.concernsPoses : Step → Bool
  | .call .getPose => true
  | .call .poseUpdated => true
  | .call (.setPoseOffset _) => true
  | .call (.tracking _) => true
  | .call (.clientReport _) => true
  | .pushHistory _ => true
  | .clearHistory => true
  | _ => false

/-- The steps of a run that concern poses, each with the time it is taken at. -/
def poseSteps (steps : List (Step × Answers)) : List (Step × Span) :=
  (steps.filter (·.1.concernsPoses)).map fun step => (step.1, step.2.now)

def Reply.pose? : Reply → Option DevicePose
  | .pose p => some p
  | _ => Option.none

/-- Of each step of a run that concerns poses, the pose it answers with, if it answers with one,
and the offset after it. -/
def Rig.poseTrace (r : Rig) : List (Step × Answers) → List (Option DevicePose × Int)
  | [] => []
  | (s, a) :: steps => match r.step? s a with
    | none => []
    | some (m, _, reply) =>
      if s.concernsPoses then (reply.pose?, m.device.poseOffset) :: m.poseTrace steps
      else m.poseTrace steps

/-! ## Latencies -/

namespace Latency

variable {l m l' m' : Latency} {target now now' : Span} {r : ClientReport}
  {network network' : Option Span}

theorem basis_update (l : Latency) (target : Span) {change : OpenFrame → OpenFrame}
    (h : ∀ f, (change f).target = f.target) : (l.update target change).basis = l.basis := by
  simp [basis, update, apply_ite OpenFrame.target, h]

theorem basis_presented (l : Latency) (target now : Span) :
    (l.presented target now).basis = l.basis :=
  l.basis_update target fun _ => rfl

theorem basis_encoded (l : Latency) (target now : Span) (bytes : Nat) (keyframe : Bool) :
    (l.encoded target now bytes keyframe).basis = l.basis :=
  l.basis_update target fun _ => rfl

theorem basis_framePresented (l : Latency) (t : FrameTiming) :
    (l.framePresented t).basis = l.basis := by
  unfold framePresented
  split
  · exact l.basis_presented ..
  · rfl

/-- When a sample came in makes no difference. -/
theorem basis_received_congr (same : l.basis = m.basis) (target now now' : Span) :
    (l.received target now).basis = (m.received target now').basis := by
  have targets : l.frames.map (·.target) = m.frames.map (·.target) := congrArg Basis.targets same
  have capacity : l.capacity = m.capacity := congrArg Basis.capacity same
  by_cases there : target ∈ l.frames.map (·.target)
  · rw [received_of_mem there, received_of_mem (targets ▸ there), same]
  · have absent : target ∉ m.frames.map (·.target) := targets ▸ there
    rw [received_of_not_mem there, received_of_not_mem absent]
    simp only [basis, List.map_take, List.map_cons, targets, capacity, Basis.mk.injEq, and_true,
      true_and]
    exact ⟨congrArg Basis.hostPipeline same, congrArg Basis.total same⟩

theorem basis_reported_congr (same : l.basis = m.basis) (hl : l.reported? r = some (l', network))
    (hm : m.reported? r = some (m', network')) :
    l'.basis = m'.basis ∧ network.isSome = network'.isSome := by
  have targets : l.frames.map (·.target) = m.frames.map (·.target) := congrArg Basis.targets same
  have known : l.frame? r.target = none ↔ m.frame? r.target = none := by
    rw [frame?_eq_none_iff, frame?_eq_none_iff, targets]
  rcases reported?_cases hl with ⟨absent, rfl, rfl⟩ | ⟨f, n, there, -, -, rfl, rfl⟩ <;>
    rcases reported?_cases hm with
      ⟨absent', rfl, rfl⟩ | ⟨f', n', there', -, -, rfl, rfl⟩
  · exact ⟨same, rfl⟩
  · rw [known.1 absent] at there'
    cases there'
  · rw [known.2 absent'] at there
    cases there
  · refine ⟨?_, rfl⟩
    have total : l.total = m.total := congrArg Basis.total same
    simp only [basis, submit, targets, total, Basis.mk.injEq, and_true]
    exact ⟨congrArg Basis.capacity same, congrArg Basis.hostPipeline same⟩

theorem poseOffset?_congr (same : l.basis = m.basis) : l.poseOffset? = m.poseOffset? := by
  have total : l.total = m.total := congrArg Basis.total same
  have hostPipeline : l.hostPipeline = m.hostPipeline := congrArg Basis.hostPipeline same
  rw [poseOffset?, poseOffset?, total, hostPipeline]

end Latency

namespace Device

variable {d e d' e' : Device} {a b : Answers} {h : History}

/-! ## Calls that do not concern poses -/

/-- What of what outlasts activations a pose rests on. -/
def Lasting.basis (l : Lasting) : Basis where
  config := l.config
  related := l.related
  poseOffset := l.poseOffset
  lastPose := l.lastPose
  latency := l.latency.basis

theorem basis_eq (d : Device) : d.basis = d.lasting.basis := rfl

theorem basis_of_lasting (same : e.lasting = d.lasting) : e.basis = d.basis := by
  rw [basis_eq, same, ← basis_eq]

theorem basis_refresh (d : Device) (p : Pacer) (a : Answers) :
    (d.refresh p a).device.basis = d.basis := by
  unfold refresh
  split
  · simp only [basis, Latency.basis_framePresented]
  · rfl

theorem basis_tick (d : Device) (a : Answers) : (d.tick a).device.basis = d.basis := by
  unfold tick
  split
  · rfl
  · next p _ => exact d.basis_refresh p a

theorem basis_strayTick (d : Device) (age : Nat) (a : Answers) :
    (d.strayTick age a).device.basis = d.basis := by
  unfold strayTick
  split
  · rfl
  · next p _ => exact d.basis_refresh p a

theorem Ticks.basis {log : List Effect} (k : d.Ticks a e log) : e.basis = d.basis := by
  cases k with
  | unheard => rfl
  | inTime => exact d.basis_tick a
  | stray age => exact d.basis_strayTick age a

theorem basis_updateControllers (d : Device) (packet : TrackingPacket) (a : Answers) :
    (d.updateControllers packet a).device.basis = d.basis :=
  basis_of_lasting (d.lasting_updateControllers packet a)

theorem basis_frameEncoded (d : Device) (target : Span) (bytes : Nat) (keyframe : Bool)
    (a : Answers) : (d.frameEncoded target bytes keyframe a).basis = d.basis := by
  simp only [basis, frameEncoded, Latency.basis_encoded]

/-! ## Poses -/

/-- The pose that rests on a sample, if there is one for the time. -/
def found? (d : Device) (h : History) (now : Span) : Option DevicePose :=
  if d.relays.isSome then
    (d.poseTarget? now).bind fun target => (chooseSample h target).1.map fun s =>
      .tracked (s.predict target d.config.tracking.maxPredictionSpan)
  else none

/-- A pose that rests on a sample is remembered; without one the last such pose is the answer. -/
theorem getPose?_eq_some {o : Outcome DevicePose} (ho : d.getPose? h a = some o) :
    o.answer = ((d.found? h a.now).or d.lastPose).getD .untracked ∧
      o.device.basis = { d.basis with lastPose := (d.found? h a.now).or d.lastPose } := by
  unfold getPose? at ho
  dsimp only at ho
  split at ho
  · next unrelated =>
    have absent : d.relays = none := by simpa using unrelated
    cases ho
    simp [found?, absent, fallbackPose, basis]
  next related =>
  have there : d.relays.isSome := by simpa [Option.isSome_iff_ne_none] using related
  obtain ⟨target, htarget, rfl⟩ := Option.map_eq_some_iff.1 ho
  have asked : d.poseTarget? a.now = some target := htarget
  split
  · next log hc => simp [found?, there, asked, hc, fallbackPose, basis]
  · next s log hc => simp [found?, there, asked, hc, basis]

theorem found?_congr (same : d.basis = e.basis) (h : History) (now : Span) :
    d.found? h now = e.found? h now := by
  have config : d.config = e.config := congrArg Basis.config same
  have related : d.relays.isSome = e.relays.isSome := congrArg Basis.related same
  have offset : d.poseOffset = e.poseOffset := congrArg Basis.poseOffset same
  simp only [found?, poseTarget?, config, related, offset]

theorem getPose?_congr (same : d.basis = e.basis) (now : a.now = b.now)
    {o p : Outcome DevicePose} (hd : d.getPose? h a = some o) (he : e.getPose? h b = some p) :
    o.device.basis = p.device.basis ∧ o.answer = p.answer := by
  obtain ⟨answer, basis⟩ := getPose?_eq_some hd
  obtain ⟨answer', basis'⟩ := getPose?_eq_some he
  have lastPose : d.lastPose = e.lastPose := congrArg Basis.lastPose same
  rw [basis, basis', answer, answer', found?_congr same, now, lastPose, same]
  exact ⟨rfl, rfl⟩

theorem basis_markFresh (d : Device) (h : History) : (d.markFresh h).device.basis = d.basis :=
  basis_of_lasting (d.lasting_markFresh h)

theorem poseUpdated?_congr (same : d.basis = e.basis) (now : a.now = b.now) {o p : Outcome Unit}
    (hd : d.poseUpdated? h a = some o) (he : e.poseUpdated? h b = some p) :
    o.device.basis = p.device.basis := by
  obtain ⟨q, hq, rfl⟩ := Option.map_eq_some_iff.1 hd
  obtain ⟨q', hq', rfl⟩ := Option.map_eq_some_iff.1 he
  show (q.device.markFresh h).device.basis = (q'.device.markFresh h).device.basis
  rw [basis_markFresh, basis_markFresh]
  exact (getPose?_congr same now hq hq').1

theorem basis_withOffset_congr (same : d.basis = e.basis) (offset : Int) :
    ({ d with poseOffset := offset } : Device).basis =
      ({ e with poseOffset := offset } : Device).basis :=
  congrArg (fun b : Basis => { b with poseOffset := offset }) same

theorem basis_withLatency_congr (same : d.basis = e.basis) {l m : Latency}
    (latency : l.basis = m.basis) :
    ({ d with latency := l } : Device).basis = ({ e with latency := m } : Device).basis := by
  have changed := congrArg (fun b : Basis => { b with latency := l.basis }) same
  exact changed.trans (congrArg (fun b => { e.basis with latency := b }) latency)

theorem setPoseOffset_congr (same : d.basis = e.basis) (ms : Float32) :
    (d.setPoseOffset ms).basis = (e.setPoseOffset ms).basis := by
  unfold setPoseOffset
  split
  · exact basis_withOffset_congr same _
  · exact same

theorem tracking?_congr (same : d.basis = e.basis) (now : a.now = b.now) {packet : TrackingPacket}
    {o p : History × Outcome Unit} (hd : d.tracking? h packet a = some o)
    (he : e.tracking? h packet b = some p) :
    (o.2.device.basis, o.1) = (p.2.device.basis, p.1) := by
  have related : d.relays.isNone = e.relays.isNone := by
    rw [← Option.not_isSome, ← Option.not_isSome]
    exact congrArg (!Basis.related ·) same
  unfold tracking? at hd he
  split at hd
  · next headless =>
    simp only [headless, Option.some.injEq] at hd he
    cases hd
    cases he
    simp only [basis_updateControllers, same]
  next head found =>
  simp only [found] at he
  split at hd
  · next unrelated =>
    rw [if_pos (related ▸ unrelated)] at he
    cases hd
    cases he
    rw [same]
  next there =>
  rw [if_neg (related ▸ there)] at he
  obtain ⟨q, hq, rfl⟩ := Option.map_eq_some_iff.1 hd
  obtain ⟨q', hq', rfl⟩ := Option.map_eq_some_iff.1 he
  simp only [basis_updateControllers]
  -- the frame is opened first, with an arrival that may differ
  rw [poseUpdated?_congr ?_ now hq hq']
  exact basis_withLatency_congr same
    (Latency.basis_received_congr (congrArg Basis.latency same) packet.target a.arrival b.arrival)

theorem clientReport?_congr {r : ClientReport} (same : d.basis = e.basis)
    (hd : d.clientReport? r = some d') (he : e.clientReport? r = some e') :
    d'.basis = e'.basis := by
  obtain ⟨⟨l, network⟩, hl, hd⟩ := Option.bind_eq_some_iff.1 hd
  obtain ⟨⟨m, network'⟩, hm, he⟩ := Option.bind_eq_some_iff.1 he
  obtain ⟨latency, answered⟩ := Latency.basis_reported_congr (congrArg Basis.latency same) hl hm
  have adaptive : d.config.tracking.adaptiveOffset = e.config.tracking.adaptiveOffset :=
    congrArg (·.config.tracking.adaptiveOffset) same
  have same' := basis_withLatency_congr same latency
  dsimp only at hd he
  rw [answered, adaptive] at hd
  -- both devices know the frame or neither does, so both adapt or neither does
  split at hd
  · next adapts =>
    rw [if_pos adapts] at he
    obtain ⟨offset, hoffset, hd⟩ := Option.bind_eq_some_iff.1 hd
    obtain ⟨offset', hoffset', he⟩ := Option.bind_eq_some_iff.1 he
    rw [Latency.poseOffset?_congr latency, hoffset', Option.some.injEq] at hoffset
    cases hd
    cases he
    rw [hoffset]
    exact basis_withOffset_congr same' _
  · next keeps =>
    rw [if_neg keeps] at he
    cases hd
    cases he
    exact same'

end Device

/-! ## Steps -/

namespace Rig

variable {r r' q q' : Rig} {s : Step} {a b : Answers} {l m : List Effect} {x y : Reply}

/-- Only steps that concern poses change what poses rest on, as long as the driver does not go
away. -/
theorem basis_of_step? (h : r.device.Coherent) (hs : s.concernsPoses = false)
    (stays : s ≠ .call .shutDown) (step : r.step? s a = some (r', l, x)) : r'.basis = r.basis := by
  cases lasts : s.concernsLasting with
  | false =>
    obtain ⟨device, history⟩ := lasting_of_step? h lasts step
    rw [basis, basis, Device.basis_of_lasting device, history]
  | true =>
    -- what concerns the latencies but no pose: the stamps of frames
    cases s with
    | call c =>
      cases c with
      | frameEncoded =>
        cases step
        exact congrArg (·, r.history) (Device.basis_frameEncoded ..)
      | shutDown => exact absurd rfl stays
      | getPose | poseUpdated | setPoseOffset | tracking | clientReport => cases hs
      | _ => cases lasts
    | tick | lateTick | strayTick =>
      obtain ⟨ticks, history⟩ := ticks_of_step? rfl step
      rw [basis, basis, ticks.basis, history]
    | pushHistory | clearHistory => cases hs

/-- A step that concerns poses leads from the same basis to the same basis, with the same answer. -/
theorem basis_congr_of_step? (same : r.basis = q.basis) (hs : s.concernsPoses = true)
    (now : a.now = b.now) (hr : r.step? s a = some (r', l, x))
    (hq : q.step? s b = some (q', m, y)) :
    r'.basis = q'.basis ∧ x.pose? = y.pose? := by
  have device : r.device.basis = q.device.basis := congrArg Prod.fst same
  have history : r.history = q.history := congrArg Prod.snd same
  -- the replies agree because the basis holds all that the chosen sample and the time depend on
  cases s with
  | call c =>
    cases c with
    | getPose =>
      obtain ⟨o, ho, hr⟩ := Option.map_eq_some_iff.1 hr
      obtain ⟨p, hp, hq⟩ := Option.map_eq_some_iff.1 hq
      cases hr
      cases hq
      rw [history] at ho
      obtain ⟨after, answer⟩ := Device.getPose?_congr device now ho hp
      exact ⟨congrArg₂ Prod.mk after history, congrArg some answer⟩
    | poseUpdated =>
      obtain ⟨o, ho, hr⟩ := Option.map_eq_some_iff.1 hr
      obtain ⟨p, hp, hq⟩ := Option.map_eq_some_iff.1 hq
      cases hr
      cases hq
      rw [history] at ho
      exact ⟨congrArg₂ Prod.mk (Device.poseUpdated?_congr device now ho hp) history, rfl⟩
    | setPoseOffset ms =>
      cases hr
      cases hq
      exact ⟨congrArg₂ Prod.mk (Device.setPoseOffset_congr device ms) history, rfl⟩
    | tracking packet =>
      obtain ⟨⟨h, o⟩, ho, hr⟩ := Option.map_eq_some_iff.1 hr
      obtain ⟨⟨h', p⟩, hp, hq⟩ := Option.map_eq_some_iff.1 hq
      cases hr
      cases hq
      rw [history] at ho
      exact ⟨Device.tracking?_congr device now ho hp, rfl⟩
    | clientReport report =>
      obtain ⟨d, hd, hr⟩ := Option.map_eq_some_iff.1 hr
      obtain ⟨e, he, hq⟩ := Option.map_eq_some_iff.1 hq
      cases hr
      cases hq
      exact ⟨congrArg₂ Prod.mk (Device.clientReport?_congr device hd he) history, rfl⟩
    | _ => cases hs
  | pushHistory sample =>
    cases hr
    cases hq
    exact ⟨congrArg₂ Prod.mk device (congrArg (·.push sample) history), rfl⟩
  | clearHistory =>
    cases hr
    cases hq
    exact ⟨congrArg₂ Prod.mk device (congrArg (·.clear) history), rfl⟩
  | tick | lateTick | strayTick => cases hs

end Rig

/-! ## Runs -/

/-- Steps that concern poses lead from one basis to another, with a trace. -/
inductive Poses : Device.Basis × History → List (Step × Span) → List (Option DevicePose × Int) →
    Device.Basis × History → Prop
  | nil (basis : Device.Basis × History) : Poses basis [] [] basis
  | cons {basis last : Device.Basis × History} {r r' : Rig} {s : Step} {a : Answers} {now : Span}
    {l : List Effect} {reply : Reply} {steps : List (Step × Span)}
    {trace : List (Option DevicePose × Int)} (first : r.basis = basis) (time : a.now = now)
    (concerns : s.concernsPoses = true) (step : r.step? s a = some (r', l, reply))
    (rest : Poses r'.basis steps trace last) :
    Poses basis ((s, now) :: steps) ((reply.pose?, r'.device.poseOffset) :: trace) last

/-- The basis and the steps leave no choice. -/
theorem Poses.unique {basis last last' : Device.Basis × History} {steps : List (Step × Span)}
    {trace trace' : List (Option DevicePose × Int)} (h : Poses basis steps trace last)
    (k : Poses basis steps trace' last') : trace = trace' ∧ last = last' := by
  induction h generalizing trace' last' with
  | nil basis =>
    cases k
    exact ⟨rfl, rfl⟩
  | cons first time concerns step rest ih =>
    cases k with
    | cons first' time' _ step' rest' =>
      obtain ⟨same, answer⟩ := Rig.basis_congr_of_step? (first.trans first'.symm) concerns
        (time.trans time'.symm) step step'
      have offset := congrArg (·.1.poseOffset) same
      obtain ⟨rfl, rfl⟩ := ih (same ▸ rest')
      exact ⟨congrArg₂ List.cons (congrArg₂ Prod.mk answer offset) rfl, rfl⟩

/-- The other steps of a run make no difference. -/
theorem Rig.poses_of_run? {r r' : Rig} {steps : List (Step × Answers)} {log : List Effect}
    (h : r.device.Coherent) (stays : ∀ a, (.call .shutDown, a) ∉ steps)
    (ran : r.run? steps = some (r', log)) :
    Poses r.basis (poseSteps steps) (r.poseTrace steps) r'.basis := by
  induction steps generalizing r log with
  | nil =>
    cases ran
    exact .nil _
  | cons first steps ih =>
    obtain ⟨s, a⟩ := first
    rw [run?_cons] at ran
    obtain ⟨⟨m, l, reply⟩, step, ran⟩ := Option.bind_eq_some_iff.1 ran
    obtain ⟨⟨r'', log'⟩, later, hr⟩ := Option.map_eq_some_iff.1 ran
    cases hr
    have rest := ih ((takes_of_step? h.quiet step).coherent h)
      (fun a called => stays a (List.mem_cons_of_mem _ called)) later
    -- between two steps that concern poses the basis stands still
    cases hs : s.concernsPoses with
    | true => simpa [poseSteps, poseTrace, step, hs] using Poses.cons rfl rfl hs step rest
    | false =>
      have same := basis_of_step? h hs (fun down => stays a (by simp [down])) step
      simpa [poseSteps, poseTrace, step, hs, same] using rest

theorem Device.basis_of_build? {config : Config} {equipment equipment' : Equipment}
    {d e : Device} (hd : Device.build? config equipment = some (.ok d))
    (he : Device.build? config equipment' = some (.ok e)) : d.basis = e.basis := by
  obtain ⟨-, interval, hi, lasting⟩ := lasting_of_build? hd
  obtain ⟨-, interval', hi', lasting'⟩ := lasting_of_build? he
  obtain rfl : interval = interval' := Option.some.inj (hi.symm.trans hi')
  -- what becomes of full counts may differ, and is not in the basis
  rw [basis_eq, basis_eq, lasting, lasting']
  rfl

/-- Two devices of one configuration, whatever else they are built with, are run without the driver
going away.  If the runs have the same steps that concern poses, at the same times, then these give
the same poses and the same offsets, whatever other steps stand between them and however the
collaborators answer. -/
theorem poses_of_runs {config : Config} {equipment equipment' : Equipment} {d e : Device}
    {capacity : Nat} {steps steps' : List (Step × Answers)} {r r' : Rig}
    {log log' : List Effect}
    (built : Device.build? config equipment = some (.ok d))
    (built' : Device.build? config equipment' = some (.ok e))
    (ran : (Rig.ofDevice d capacity).run? steps = some (r, log))
    (ran' : (Rig.ofDevice e capacity).run? steps' = some (r', log'))
    (stays : ∀ a, (.call .shutDown, a) ∉ steps) (stays' : ∀ a, (.call .shutDown, a) ∉ steps')
    (same : poseSteps steps = poseSteps steps') :
    (Rig.ofDevice d capacity).poseTrace steps = (Rig.ofDevice e capacity).poseTrace steps' ∧
      r.device.poseOffset = r'.device.poseOffset := by
  have poses := Rig.poses_of_run? (r := Rig.ofDevice d capacity)
    (Device.fresh_of_build? built).coherent stays ran
  have poses' := Rig.poses_of_run? (r := Rig.ofDevice e capacity)
    (Device.fresh_of_build? built').coherent stays' ran'
  have start : (Rig.ofDevice d capacity).basis = (Rig.ofDevice e capacity).basis :=
    congrArg (·, History.empty capacity) (Device.basis_of_build? built built')
  rw [start, same] at poses
  obtain ⟨trace, last⟩ := poses.unique poses'
  exact ⟨trace, congrArg (·.1.poseOffset) last⟩

/-- A run that has one sample, and asks for a pose. -/
def Rig.query : List (Step × Answers) :=
  [(.pushHistory default, .willing), (.call .getPose, .willing)]

theorem poses_while_streaming :
    ∃ r log r' log', (Rig.ofDevice .standard 4).run? Rig.query = some (r, log) ∧
      (Rig.ofDevice .standard 4).run? (Rig.upToStream ++ (.tick, .willing) :: Rig.query) =
        some (r', log') ∧
      r.device.state = .inactive ∧ r'.device.isStreaming = true ∧
      (Rig.ofDevice .standard 4).poseTrace Rig.query =
        (Rig.ofDevice .standard 4).poseTrace (Rig.upToStream ++ (.tick, .willing) :: Rig.query) ∧
      ((Rig.ofDevice .standard 4).poseTrace Rig.query).length = 2 := by
  have idle : ((Rig.ofDevice .standard 4).run? Rig.query).any fun x =>
      decide (x.1.device.state = .inactive) := by
    decide +kernel
  have streams : ((Rig.ofDevice .standard 4).run?
      (Rig.upToStream ++ (.tick, .willing) :: Rig.query)).any fun x => x.1.device.isStreaming := by
    decide +kernel
  have length : ((Rig.ofDevice .standard 4).poseTrace Rig.query).length = 2 := by
    decide +kernel
  obtain ⟨⟨r, log⟩, ran, idle⟩ := (Option.any_eq_true _ _).1 idle
  obtain ⟨⟨r', log'⟩, ran', streams⟩ := (Option.any_eq_true _ _).1 streams
  obtain ⟨trace, -⟩ := poses_of_runs Device.build?_standard Device.build?_standard ran ran'
    (by simp [Rig.query]) (by simp [Rig.query, Rig.upToStream]) rfl
  exact ⟨r, log, r', log', ran, ran', by simpa using idle, streams, trace, length⟩

end Headset
