import Headset.Proofs.Offset
import Headset.Proofs.Poses
import Headset.Proofs.Tally

/-!
# Answers to queries

Until the driver goes away, a query for the pose is answered from the history: a sample is chosen
for the time of the query (`IsTarget`, `History.AnswersFor`) and carried to it.  While the history
is empty the answer is the one of the last query that found a sample, whoever asked then, and before
any such query it is the untracked pose (`answers_of_run`).
-/

namespace Headset

/-! ## What a query should be answered with -/

/-- `target` is `now` with an offset added, or the start of the clock if that lies before it. -/
def IsTarget (now : Span) (micros : Int) (target : Span) : Prop :=
  target.nanos = (now.nanos + 1000 * micros).toNat

/-- The sample that answers for a time: the newest one up to then, or the newest of all if all are
later. -/
inductive History.AnswersFor (samples : List Sample) (target : Span) (s : Sample) : Prop
  | reached (newest : IsNewest (fun t => t.time ≤ target) samples s)
  | later (after : ∀ t ∈ samples, target < t.time) (newest : IsNewest (fun _ => True) samples s)

/-- A call that tells of the pose `p`, if it tells of one: the host hears of `p`, and the tracker of
its motion if it is valid. -/
def Effect.Tells (p : DevicePose) : Effect → Prop
  | .poseUpdated _ q => q = p
  | .trackerUpdate motion => p.valid = true ∧ motion = p.motion
  | _ => True

namespace Moment

/-- What the device replies, if it is a call that goes through. -/
def reply? (x : Moment) : Option Reply := (x.before.step? x.step x.answers).map (·.2.2)

/-- The answer to the query for a pose in a step, if there is one. -/
def pose? (x : Moment) : Option DevicePose :=
  if x.queriesPose then (x.before.device.getPose? x.after.history x.answers).map (·.answer)
  else none

/-- A query that is answered with `p`, and `p` is predicted from the sample for its time. -/
def Sights (max : Span) (x : Moment) (p : DevicePose) : Prop :=
  x.pose? = some p ∧ ∃ target s, IsTarget x.answers.now x.before.device.poseOffset target ∧
    History.AnswersFor x.after.history.samples target s ∧ p = .tracked (s.predict target max)

/-- `p` is the answer that a query gets, and nobody hears of another one. -/
structure Gives (x : Moment) (p : DevicePose) : Prop where
  pose : x.pose? = some p
  reply : x.step = .call .getPose → x.reply? = some (.pose p)
  told : ∀ y ∈ x.log, y.Tells p

end Moment

/-- The last query that was answered from a sample was answered with `p`. -/
def LastSighted (max : Span) (moments : List Moment) (p : DevicePose) : Prop :=
  Since (·.Sights max p) (fun x => ∀ q, ¬ x.Sights max q) moments

/-- The answer that a query should get, by what happened earlier. -/
inductive Answered (max : Span) (earlier : List Moment) (x : Moment) (p : DevicePose) : Prop
  | sighted (found : x.Sights max p)
  | recalled (empty : x.after.history.isEmpty = true) (last : LastSighted max earlier p)
  | untracked (empty : x.after.history.isEmpty = true)
    (unsighted : ∀ y ∈ earlier, ∀ q, ¬ y.Sights max q) (same : p = .untracked)

/-! ## The sample that is found -/

namespace Device

variable {d e : Device} {h : History} {now target : Span} {p : DevicePose} {a : Answers}

theorem poseTarget?_eq_some_iff (least : -1000000 ≤ d.poseOffset) :
    d.poseTarget? now = some target ↔ IsTarget now d.poseOffset target := by
  have bound := target.nanos_lt
  have held (n : ℕ) : Span.ofNanos? n = some target ↔ n = target.nanos := by
    by_cases short : n < Span.limit
    · rw [Span.ofNanos?_of_lt short, Option.some.injEq, ← Span.nanos_inj]
    · rw [Span.ofNanos?_of_le (Nat.le_of_not_lt short)]
      simp only [Span.limit] at short
      simp only [reduceCtorEq, false_iff]
      omega
  unfold poseTarget? IsTarget Span.ofMicros?
  cases offset : d.poseOffset with
  | ofNat micros =>
    by_cases short : micros * 1000 < Span.limit
    · simp only [Span.ofNanos?_of_lt short, Option.bind_some, Span.add?, held, Int.ofNat_eq_natCast]
      omega
    · simp only [Span.ofNanos?_of_le (Nat.le_of_not_lt short), Option.bind_none,
        Int.ofNat_eq_natCast, reduceCtorEq, false_iff]
      simp only [Span.limit] at short
      omega
  | negSucc micros =>
    have short : (micros + 1) * 1000 < Span.limit := by
      simp only [Span.limit]
      omega
    simp only [Span.ofNanos?_of_lt short, Option.map_some, Option.some.injEq, ← Span.nanos_inj,
      Span.nanos_sub, Int.negSucc_eq]
    omega

theorem chooseSample_eq_some_iff (sorted : History.Sorted h.samples) (target : Span) (s : Sample) :
    (chooseSample h target).1 = some s ↔ History.AnswersFor h.samples target s := by
  have newest : h.latest = some s ↔ History.IsNewest (fun _ => True) h.samples s := by
    rw [History.latest, sorted.getLast?_eq_some_iff]
    simp [History.IsNewest]
  unfold chooseSample
  split
  · next t reached =>
    have isNewest := (sorted.sampleAt_eq_some_iff target t).1 reached
    rw [← reached, sorted.sampleAt_eq_some_iff]
    refine ⟨.reached, fun answers => ?_⟩
    cases answers with
    | reached newest => exact newest
    | later after => exact absurd isNewest.1.2 (Nat.not_le.2 (after t isNewest.1.1))
  · next late =>
    have late := (sorted.sampleAt_eq_none_iff target).1 late
    rw [newest]
    refine ⟨.later fun t ht => Nat.not_le.1 (late t ht), fun answers => ?_⟩
    cases answers with
    | reached newest => exact absurd newest.1.2 (late s newest.1.1)
    | later after newest => exact newest

theorem found?_eq_some_iff (there : d.relays.isSome) (least : -1000000 ≤ d.poseOffset)
    (sorted : History.Sorted h.samples) : d.found? h now = some p ↔
      ∃ target s, IsTarget now d.poseOffset target ∧ History.AnswersFor h.samples target s ∧
        p = .tracked (s.predict target d.config.tracking.maxPredictionSpan) := by
  rw [found?, if_pos there, Option.bind_eq_some_iff]
  constructor
  · rintro ⟨target, asked, found⟩
    obtain ⟨s, chosen, rfl⟩ := Option.map_eq_some_iff.1 found
    exact ⟨target, s, (poseTarget?_eq_some_iff least).1 asked,
      (chooseSample_eq_some_iff sorted target s).1 chosen, rfl⟩
  · rintro ⟨target, s, asked, chosen, rfl⟩
    exact ⟨target, (poseTarget?_eq_some_iff least).2 asked,
      Option.map_eq_some_iff.2 ⟨s, (chooseSample_eq_some_iff sorted target s).2 chosen, rfl⟩⟩

/-- A query that is answered without a sample found the history empty. -/
theorem isEmpty_of_found? (there : d.relays.isSome) {o : Outcome DevicePose}
    (ho : d.getPose? h a = some o) (unfound : d.found? h a.now = none) : h.isEmpty = true := by
  have related : ¬ d.relays.isNone := by simpa [Option.isSome_iff_ne_none] using there
  simp only [getPose?, if_neg related] at ho
  obtain ⟨target, asked, -⟩ := Option.map_eq_some_iff.1 ho
  have asked : d.poseTarget? a.now = some target := asked
  rw [found?, if_pos there, asked, Option.bind_some, Option.map_eq_none_iff] at unfound
  exact (chooseSample_eq_none_iff h target).1 unfound

/-! ## One query -/

/-- A query is answered with `p`; what is left of it in a step that leads to `e`. -/
structure Queried (d : Device) (h : History) (a : Answers) (e : Device) (log : List Effect)
    (p : DevicePose) : Prop where
  asked : (d.getPose? h a).map (·.answer) = some p
  answer : p = ((d.found? h a.now).or d.lastPose).getD .untracked
  lastPose : e.lastPose = (d.found? h a.now).or d.lastPose
  told : ∀ x ∈ log, x.Tells p

/-- A query goes through if its time is in range. -/
theorem isSome_getPose? (d : Device) (h : History) (a : Answers) :
    (d.getPose? h a).isSome = (d.relays.isNone || (d.poseTarget? a.now).isSome) := by
  unfold getPose?
  dsimp only
  split
  · next unrelated => simp [unrelated]
  · next related =>
    rw [Bool.eq_false_iff.2 related, Bool.false_or, Option.isSome_map]
    rfl

theorem answer_getPose? (d : Device) (h : History) (a : Answers) :
    (d.getPose? h a).map (·.answer) = if d.relays.isNone || (d.poseTarget? a.now).isSome then
      some (((d.found? h a.now).or d.lastPose).getD .untracked) else none := by
  rw [← isSome_getPose? d h a]
  cases ho : d.getPose? h a with
  | none => rfl
  | some o => exact congrArg some (getPose?_eq_some ho).1

/-- The answer does not rest on the latencies. -/
theorem answer_getPose?_withLatency (d : Device) (l : Latency) (h : History) (a : Answers) :
    (({ d with latency := l } : Device).getPose? h a).map (·.answer) =
      (d.getPose? h a).map (·.answer) := by
  rw [answer_getPose?, answer_getPose?]
  rfl

/-- A query calls on nobody but the history. -/
theorem log_getPose? {o : Outcome DevicePose} (ho : d.getPose? h a = some o) :
    ∀ x ∈ o.log, x = .historyLatest ∨ ∃ time, x = .historySampleAt time := by
  have looks (target : Span) : ∀ x ∈ (chooseSample h target).2,
      x = .historyLatest ∨ ∃ time, x = .historySampleAt time := by
    unfold chooseSample
    split <;> simp
  unfold getPose? at ho
  dsimp only at ho
  split at ho
  · cases ho
    simp [fallbackPose]
  · obtain ⟨target, -, rfl⟩ := Option.map_eq_some_iff.1 ho
    have looks := looks target
    split
    · next log hs => simpa [hs, fallbackPose] using looks
    · next s log hs => simpa [hs] using looks

theorem log_markFresh (d : Device) (h : History) :
    ∀ x ∈ (d.markFresh h).log, x = .historyLatest := by
  unfold markFresh
  split
  · simp
  · split <;> simp

theorem log_updateHand (d : Device) (relays : Relays) (packet : TrackingPacket) (hand : Hand)
    (a : Answers) : ∀ x ∈ (d.updateHand relays packet hand a).log,
      (∃ n active, x = .controllerIsActive n active) ∨
        ∃ n tracking target, x = .controllerUpdate n tracking target := by
  unfold updateHand
  split
  · split <;> simp
  · simp

theorem log_updateControllers (d : Device) (packet : TrackingPacket) (a : Answers) :
    ∀ x ∈ (d.updateControllers packet a).log,
      (∃ n active, x = .controllerIsActive n active) ∨
        ∃ n tracking target, x = .controllerUpdate n tracking target := by
  unfold updateControllers
  split
  · simp
  · exact List.forall_mem_append.2 ⟨log_updateHand _ _ _ _ _, log_updateHand _ _ _ _ _⟩

theorem queried_getPose? {o : Outcome DevicePose} (ho : d.getPose? h a = some o) :
    d.Queried h a o.device o.log o.answer := by
  obtain ⟨answer, basis⟩ := getPose?_eq_some ho
  refine ⟨by rw [ho]; rfl, answer, congrArg Basis.lastPose basis, fun x hx => ?_⟩
  rcases log_getPose? ho x hx with rfl | ⟨time, rfl⟩ <;> trivial

theorem queried_poseUpdated? {o : Outcome Unit} (ho : d.poseUpdated? h a = some o) :
    ∃ p, d.Queried h a o.device o.log p := by
  obtain ⟨q, hq, rfl⟩ := Option.map_eq_some_iff.1 ho
  have queried := queried_getPose? hq
  have kept : (q.device.markFresh h).device.lastPose = q.device.lastPose :=
    congrArg Lasting.lastPose (q.device.lasting_markFresh h)
  refine ⟨q.answer, { queried with lastPose := kept.trans queried.lastPose, told := ?_ }⟩
  simp only [List.forall_mem_append]
  refine ⟨⟨⟨queried.told, ?_⟩, ?_⟩, fun x hx => ?_⟩
  · split <;> simp [Effect.Tells]
  · split
    · split
      · next valid => simp [Effect.Tells, (Bool.and_eq_true_iff.1 valid).1]
      · simp
    · simp
  · rw [log_markFresh _ _ x hx]
    trivial

/-- A packet with a head is a query on the history that has its sample. -/
theorem queried_tracking? {packet : TrackingPacket} {h' : History} {o : Outcome Unit}
    (headed : packet.head.isSome) (there : d.relays.isSome)
    (ho : d.tracking? h packet a = some (h', o)) : ∃ p, d.Queried h' a o.device o.log p := by
  cases tracking?_cases ho with
  | headless headless => simp [headless] at headed
  | lost _ gone => simp [gone] at there
  | @relayed head u _ _ hu =>
    obtain ⟨p, queried⟩ := queried_poseUpdated? hu
    have kept : (u.device.updateControllers packet a).device.lastPose = u.device.lastPose :=
      congrArg Lasting.lastPose (u.device.lasting_updateControllers packet a)
    refine ⟨p, ⟨?_, queried.answer, kept.trans queried.lastPose, ?_⟩⟩
    · exact (d.answer_getPose?_withLatency _ _ a).symm.trans queried.asked
    · simp only [List.cons_append, List.forall_mem_cons, List.forall_mem_append]
      refine ⟨trivial, queried.told, fun x hx => ?_⟩
      rcases log_updateControllers _ _ _ x hx with
        ⟨n, active, rfl⟩ | ⟨n, tracking, target, rfl⟩ <;> trivial

theorem lastPose_setPoseOffset (d : Device) (ms : Float32) :
    (d.setPoseOffset ms).lastPose = d.lastPose := by
  unfold setPoseOffset
  split <;> rfl

theorem lastPose_clientReport? {r : ClientReport} (he : d.clientReport? r = some e) :
    e.lastPose = d.lastPose := by
  obtain ⟨latency, poseOffset, rfl⟩ := clientReport?_eq he
  rfl

end Device

/-! ## Steps -/

namespace Rig

variable {r r' : Rig} {s : Step} {a : Answers} {l : List Effect} {reply : Reply}

theorem queried_of_step? (h : r.device.Coherent) (up : r.device.isShutDown = false)
    (step : r.step? s a = some (r', l, reply))
    (queries : Moment.queriesPose ⟨r, s, a, l, r'⟩ = true) :
    ∃ p, r.device.Queried r'.history a r'.device l p ∧
      (s = .call .getPose → reply = .pose p) := by
  cases s with
  | call c =>
    cases c with
    | getPose =>
      obtain ⟨o, ho, step⟩ := Option.map_eq_some_iff.1 step
      cases step
      exact ⟨o.answer, Device.queried_getPose? ho, fun _ => rfl⟩
    | poseUpdated =>
      obtain ⟨o, ho, step⟩ := Option.map_eq_some_iff.1 step
      cases step
      obtain ⟨p, queried⟩ := Device.queried_poseUpdated? ho
      exact ⟨p, queried, by simp⟩
    | tracking packet =>
      obtain ⟨⟨history, o⟩, ho, step⟩ := Option.map_eq_some_iff.1 step
      cases step
      have headed : packet.head.isSome := (Bool.and_eq_true_iff.1 queries).1
      obtain ⟨p, queried⟩ := Device.queried_tracking? headed (h.relays_isSome_iff.2 up) ho
      exact ⟨p, queried, by simp⟩
    | _ => cases queries
  | _ => cases queries

/-- Between queries the last answer that had a sample stays what it is. -/
theorem lastPose_of_step? (h : r.device.Coherent) (up : r.device.isShutDown = false)
    (step : r.step? s a = some (r', l, reply)) (stays : s ≠ .call .shutDown)
    (other : Moment.queriesPose ⟨r, s, a, l, r'⟩ = false) :
    r'.device.lastPose = r.device.lastPose := by
  cases hs : s.concernsPoses with
  | false => exact congrArg (·.1.lastPose) (basis_of_step? h hs stays step)
  | true =>
    cases s with
    | call c =>
      cases c with
      | getPose | poseUpdated => cases other
      | setPoseOffset ms =>
        cases step
        exact Device.lastPose_setPoseOffset ..
      | tracking packet =>
        obtain ⟨⟨history, o⟩, ho, step⟩ := Option.map_eq_some_iff.1 step
        cases step
        have headless : packet.head = none := by simpa [Moment.queriesPose, up] using other
        simp only [Device.tracking?, headless, Option.some.injEq, Prod.mk.injEq] at ho
        obtain ⟨-, rfl⟩ := ho
        exact congrArg Device.Lasting.lastPose (Device.lasting_updateControllers _ packet a)
      | clientReport report =>
        obtain ⟨e, he, step⟩ := Option.map_eq_some_iff.1 step
        cases step
        exact Device.lastPose_clientReport? he
      | _ => cases hs
    | pushHistory | clearHistory => cases step; rfl
    | _ => cases hs

end Rig

/-! ## What a device remembers -/

namespace Moment

/-- The pose that a sample gives to the query of a step, if there are both. -/
def sighting? (x : Moment) : Option DevicePose :=
  if x.queriesPose then x.before.device.found? x.after.history x.answers.now else none

/-- What a step is for the memory of its device. -/
structure Minds (max : Span) (x : Moment) : Prop where
  sights : ∀ p, x.sighting? = some p ↔ x.Sights max p
  isEmpty : x.queriesPose = true → x.sighting? = none → x.after.history.isEmpty = true
  lastPose : x.after.device.lastPose = x.sighting?.or x.before.device.lastPose
  gives : x.queriesPose = true →
    x.Gives ((x.sighting?.or x.before.device.lastPose).getD .untracked)

end Moment

/-- A device remembers the answer of the last query that found a sample. -/
structure Device.Recalls (max : Span) (d : Device) (moments : List Moment) : Prop where
  lastPose : ∀ p, d.lastPose = some p ↔ LastSighted max moments p
  unsighted : d.lastPose = none → ∀ y ∈ moments, ∀ q, ¬ y.Sights max q
  valid : ∀ y ∈ moments, ∀ q, y.pose? = some q → q.valid = true → d.lastPose.isSome

namespace Device.Recalls

variable {max : Span} {x : Moment} {moments : List Moment}

theorem nil {d : Device} (unasked : d.lastPose = none) : d.Recalls max [] where
  lastPose p := by simp [unasked, LastSighted, not_since_nil]
  unsighted := by simp
  valid := by simp

theorem concat (h : x.before.device.Recalls max moments) (k : x.Minds max) :
    x.after.device.Recalls max (moments ++ [x]) where
  lastPose p := by
    rw [LastSighted, since_concat, ← k.sights p, k.lastPose, Option.or_eq_some_iff, h.lastPose p]
    refine or_congr_right ⟨fun ⟨unsighted, last⟩ => ⟨last, fun q sighted => ?_⟩,
      fun ⟨last, passed⟩ => ⟨?_, last⟩⟩
    · rw [← k.sights q, unsighted] at sighted
      cases sighted
    · exact Option.eq_none_iff_forall_ne_some.2 fun q => (k.sights q).not.2 (passed q)
  unsighted none y hy q := by
    rw [k.lastPose, Option.or_eq_none_iff] at none
    rcases List.mem_append.1 hy with hy | hy
    · exact h.unsighted none.2 y hy q
    · obtain rfl : y = x := by simpa using hy
      rw [← k.sights q, none.1]
      simp
  valid y hy q pose valid := by
    rw [k.lastPose, Option.isSome_or, Bool.or_eq_true]
    rcases List.mem_append.1 hy with hy | hy
    · exact .inr (h.valid y hy q pose valid)
    · obtain rfl : y = x := by simpa using hy
      cases queries : y.queriesPose with
      | false => simp [Moment.pose?, queries] at pose
      | true =>
        -- the untracked pose is not valid, so the answer was remembered
        obtain rfl := Option.some.inj (pose.symm.trans (k.gives queries).pose)
        rw [← Bool.or_eq_true, ← Option.isSome_or]
        cases answer : y.sighting?.or y.before.device.lastPose with
        | none => simp [answer, DevicePose.untracked] at valid
        | some _ => rfl

/-- The answer to a query, by what is remembered. -/
theorem answered (h : x.before.device.Recalls max moments) (k : x.Minds max)
    (queries : x.queriesPose = true) :
    Answered max moments x ((x.sighting?.or x.before.device.lastPose).getD .untracked) := by
  cases sighted : x.sighting? with
  | some p => exact .sighted ((k.sights p).1 sighted)
  | none =>
    have empty := k.isEmpty queries sighted
    rw [Option.none_or]
    cases last : x.before.device.lastPose with
    | some p => exact .recalled empty ((h.lastPose p).1 last)
    | none => exact .untracked empty (h.unsighted last) rfl

/-- What is remembered is valid. -/
theorem valid_of_lastPose {d : Device} (h : d.Recalls max moments) {p : DevicePose}
    (last : d.lastPose = some p) : p.valid = true := by
  obtain ⟨-, y, -, -, ⟨-, target, s, -, -, rfl⟩, -⟩ := (h.lastPose p).1 last
  rfl

/-- After a valid answer every answer is valid. -/
theorem valid_of_valid (h : x.before.device.Recalls max moments) (k : x.Minds max)
    {y : Moment} {q : DevicePose} (hy : y ∈ moments) (pose : y.pose? = some q)
    (valid : q.valid = true) :
    ((x.sighting?.or x.before.device.lastPose).getD .untracked).valid = true := by
  obtain ⟨p, last⟩ := Option.isSome_iff_exists.1 (h.valid y hy q pose valid)
  cases sighted : x.sighting? with
  | none => simpa [last] using h.valid_of_lastPose last
  | some p =>
    obtain ⟨-, target, s, -, -, rfl⟩ := (k.sights p).1 sighted
    rfl

end Device.Recalls

namespace Rig

variable {start r r' : Rig} {steps : List (Step × Answers)} {s : Step} {a : Answers}
  {log l : List Effect} {reply : Reply} {grant : Span}

theorem minds_of_step? (h : r.device.Coherent) (up : r.device.isShutDown = false)
    (limited : r.device.Limited grant) (sorted : History.Sorted r'.history.samples)
    (step : r.step? s a = some (r', l, reply)) (stays : s ≠ .call .shutDown) :
    Moment.Minds r.device.config.tracking.maxPredictionSpan ⟨r, s, a, l, r'⟩ := by
  have related := h.relays_isSome_iff.2 up
  cases queries : Moment.queriesPose ⟨r, s, a, l, r'⟩ with
  | false =>
    have unsighted : Moment.sighting? ⟨r, s, a, l, r'⟩ = none := by simp [Moment.sighting?, queries]
    exact {
      sights := fun p => by simp [unsighted, Moment.Sights, Moment.pose?, queries]
      isEmpty := fun asks => by simp [queries] at asks
      lastPose := by simpa [unsighted] using lastPose_of_step? h up step stays queries
      gives := fun asks => by simp [queries] at asks }
  | true =>
    obtain ⟨p, queried, replied⟩ := queried_of_step? h up step queries
    have sighting : Moment.sighting? ⟨r, s, a, l, r'⟩ = r.device.found? r'.history a.now := by
      simp [Moment.sighting?, queries]
    have pose : Moment.pose? ⟨r, s, a, l, r'⟩ = some p := by
      simpa [Moment.pose?, queries] using queried.asked
    obtain ⟨o, ho, -⟩ := Option.map_eq_some_iff.1 queried.asked
    exact {
      sights := fun q => by
        have found : r.device.found? r'.history a.now = some q ↔ _ :=
          Device.found?_eq_some_iff related limited.least sorted
        rw [sighting, Moment.Sights, ← found, pose, queried.answer]
        constructor
        · intro sighted
          simp [sighted]
        · exact And.right
      isEmpty := fun _ unsighted =>
        Device.isEmpty_of_found? related ho (sighting.symm.trans unsighted)
      lastPose := by rw [sighting]; exact queried.lastPose
      gives := fun _ => by
        rw [sighting, ← queried.answer]
        exact {
          pose
          reply := fun called => by simp [Moment.reply?, step, replied called]
          told := queried.told } }

/-- Until the driver goes away the device remembers, and its queries are answered as they should
be. -/
theorem recalls_of_run? {max : Span} (h : start.device.Coherent)
    (up : start.device.isShutDown = false) (limited : start.device.Limited grant)
    (sorted : History.Sorted start.history.samples)
    (span : start.device.config.tracking.maxPredictionSpan = max)
    (unasked : start.device.lastPose = none) (ran : start.run? steps = some (r, log)) :
    ((∀ y ∈ start.moments steps, y.step ≠ .call .shutDown) →
      r.device.isShutDown = false ∧ r.device.Recalls max (start.moments steps)) ∧
    AtEach (fun earlier x => (∀ y ∈ earlier, y.step ≠ .call .shutDown) → x.queriesPose = true →
      ∃ p, x.Gives p ∧ Answered max earlier x p ∧
        ∀ y ∈ earlier, ∀ q, y.pose? = some q → q.valid = true → p.valid = true)
      (start.moments steps) := by
  refine run?_induction (motive := fun steps r _ =>
    ((∀ y ∈ start.moments steps, y.step ≠ .call .shutDown) →
      r.device.isShutDown = false ∧ r.device.Recalls max (start.moments steps)) ∧
    AtEach _ (start.moments steps)) ⟨fun _ => ⟨up, .nil unasked⟩, atEach_nil⟩ ?_ ran
  intro steps m before s a r l reply ran ⟨recalls, answers⟩ step
  have coherent := coherent_of_run? h ran
  have sorted := sorted_of_step? (sorted_of_run? sorted ran) step
  have config : m.device.config.tracking.maxPredictionSpan = max := by
    rw [(built_of_run? h ran).1, span]
  have minds (up : m.device.isShutDown = false) (stays : s ≠ .call .shutDown) :
      Moment.Minds max ⟨m, s, a, l, r⟩ :=
    config ▸ minds_of_step? coherent up (limited_of_run? h limited ran) sorted step stays
  rw [moments_concat ran step, atEach_concat]
  refine ⟨fun stays => ?_, answers, fun stays queries => ?_⟩
  · obtain ⟨up, recalls⟩ := recalls fun y hy => stays y (by simp [hy])
    have stays : s ≠ .call .shutDown := stays ⟨m, s, a, l, r⟩ (by simp)
    refine ⟨?_, recalls.concat (x := ⟨m, s, a, l, r⟩) (minds up stays)⟩
    have down := Device.isShutDown_of_takes (takes_of_step? coherent.quiet step) coherent
    simpa [up, stays] using down
  · obtain ⟨up, recalls⟩ := recalls stays
    have minds := minds up (by rintro rfl; cases queries)
    exact ⟨_, minds.gives queries, recalls.answered minds queries,
      fun y hy q pose valid => recalls.valid_of_valid minds hy pose valid⟩

end Rig

/-- Queries in every run of a device, until the driver goes away.  Each is answered with the pose
predicted from the sample for its time; if the history is empty, with the answer of the last query
that found a sample; and if there was none, with the untracked pose.  Nobody hears of another pose,
and after a valid answer all answers are valid.  A direct query goes through if its time is in
range, or if the driver went away. -/
theorem answers_of_run {config : Config} {equipment : Equipment} {d : Device} {capacity : Nat}
    {r : Rig} {steps : List (Step × Answers)} {log : List Effect}
    (built : Device.build? config equipment = some (.ok d))
    (ran : (Rig.ofDevice d capacity).run? steps = some (r, log)) :
    ((Rig.ofDevice d capacity).moments steps).map (fun x => (x.step, x.answers)) = steps ∧
    AtEach (fun earlier x => (∀ y ∈ earlier, y.step ≠ .call .shutDown) → x.queriesPose = true →
      ∃ p, x.Gives p ∧ Answered config.tracking.maxPredictionSpan earlier x p ∧
        ∀ y ∈ earlier, ∀ q, y.pose? = some q → q.valid = true → p.valid = true)
      ((Rig.ofDevice d capacity).moments steps) ∧
    ∀ a, (r.step? (.call .getPose) a).isSome = true ↔
      (∃ y ∈ (Rig.ofDevice d capacity).moments steps, y.step = .call .shutDown) ∨
        ∃ target, IsTarget a.now r.device.poseOffset target := by
  have fresh : (Rig.ofDevice d capacity).device.Fresh config equipment :=
    Device.fresh_of_build? built
  obtain ⟨uncounted, up⟩ := Device.uncounted_of_build? built
  obtain ⟨-, interval, -, lasting⟩ := Device.lasting_of_build? built
  have bound := Device.natAbs_poseOffset_of_build? built
  have limited : (Rig.ofDevice d capacity).device.Limited d.latency.hostPipeline :=
    ⟨rfl, by show _ ≤ d.poseOffset; omega, .inl (by show d.poseOffset ≤ _; omega)⟩
  have unfilled : History.Sorted (Rig.ofDevice d capacity).history.samples := List.Pairwise.nil
  obtain ⟨-, answers⟩ := Rig.recalls_of_run? fresh.coherent up limited unfilled
    (by rw [fresh.config]) (congrArg Device.Lasting.lastPose lasting) ran
  refine ⟨(Rig.moments_of_run? ran).1, answers, fun a => ?_⟩
  have coherent := Rig.coherent_of_run? fresh.coherent ran
  have tallied := Rig.tallied_of_run? fresh.coherent uncounted fresh.state up ran
  have limited := Rig.limited_of_run? fresh.coherent limited ran
  have asked : (r.device.poseTarget? a.now).isSome = true ↔
      ∃ target, IsTarget a.now r.device.poseOffset target := by
    rw [Option.isSome_iff_exists]
    exact exists_congr fun target => Device.poseTarget?_eq_some_iff limited.least
  rw [← tallied.isShutDown, ← asked, ← coherent.relays_isNone, ← Bool.or_eq_true,
    ← Device.isSome_getPose? r.device r.history]
  simp [Rig.step?, Rig.call?]

/-- A query that finds a sample, and one after the sample is gone. -/
def Rig.recalledQuery : List (Step × Answers) :=
  [(.pushHistory default, .willing), (.call .getPose, .willing), (.clearHistory, .willing),
    (.call .getPose, .willing)]

theorem answers_of_recalledQuery : ∃ r log, ∃ earlier : List Moment, ∃ x p,
    (Rig.ofDevice .standard 4).run? Rig.recalledQuery = some (r, log) ∧
      (Rig.ofDevice .standard 4).moments Rig.recalledQuery = earlier ++ [x] ∧
      x.after.history.isEmpty = true ∧ x.Gives p ∧ p.valid = true ∧
      LastSighted Device.standard.config.tracking.maxPredictionSpan earlier p := by
  have ran : ((Rig.ofDevice .standard 4).run? Rig.recalledQuery).isSome := by decide +kernel
  have recalls : ((Rig.ofDevice .standard 4).moments Rig.recalledQuery).getLast?.any fun x =>
      x.after.history.isEmpty && x.queriesPose && x.pose?.any (·.valid) := by
    decide +kernel
  obtain ⟨⟨r, log⟩, ran⟩ := Option.isSome_iff_exists.1 ran
  obtain ⟨x, last, recalls⟩ := (Option.any_eq_true _ _).1 recalls
  obtain ⟨earlier, split⟩ := List.getLast?_eq_some_iff.1 last
  simp only [Bool.and_eq_true] at recalls
  obtain ⟨⟨empty, queries⟩, valid⟩ := recalls
  obtain ⟨all, answers, -⟩ := answers_of_run Device.build?_standard ran
  have stays : ∀ y ∈ earlier, y.step ≠ .call .shutDown := by
    intro y hy down
    have taken : (y.step, y.answers) ∈ Rig.recalledQuery := by
      rw [← all, split]
      exact List.mem_map.2 ⟨y, by simp [hy], rfl⟩
    simp [Rig.recalledQuery, down] at taken
  obtain ⟨p, gives, answered, -⟩ := answers earlier x [] split stays queries
  have valid : p.valid = true := by simpa [gives.pose] using valid
  refine ⟨r, log, earlier, x, p, ran, split, empty, gives, valid, ?_⟩
  have nothing : x.after.history.samples = [] := by simpa [History.isEmpty] using empty
  rw [(Device.fresh_of_build? Device.build?_standard).config]
  cases answered with
  | sighted found =>
    obtain ⟨-, target, s, -, chosen, -⟩ := found
    cases chosen <;> simp_all [History.IsNewest]
  | recalled _ last => exact last
  | untracked _ _ same => simp [same, DevicePose.untracked] at valid

end Headset
