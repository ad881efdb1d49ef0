import Headset.Proofs.Publication

/-!
# Fresh poses

Once a pose came in, the next frame of the activation is fresh and tells the time of the newest
sample then, as far as 64 bits of nanoseconds hold it: a later time is told as the last but one
value.  The last value stands for no time, and a sample of just that time is told as none
(`freshness_of_run`, `untimed_frame`).
-/

namespace Headset

/-! ## What is held of a time -/

namespace Pacer

/-- A time is held, but not beyond the last value but one; the last value itself is lost. -/
theorem nanos_hold? (time : Span) : (hold? time).map Span.nanos =
    if time.nanos = 0xffffffffffffffff then none
    else some (min time.nanos 0xfffffffffffffffe) := by
  unfold hold?
  by_cases short : time.nanos < 0xffffffffffffffff
  · rw [dif_pos short, if_neg (Nat.ne_of_lt short), Option.map_some]
    congr 1
    show time.nanos = _
    omega
  · rw [dif_neg short]
    split
    · rfl
    · rw [Option.map_some]
      congr 1
      show 0xfffffffffffffffe = _
      omega

end Pacer

/-! ## Steps and runs -/

namespace Rig

variable {start r r' : Rig} {steps : List (Step × Answers)} {s : Step} {a : Answers}
  {log l : List Effect} {reply : Reply} {b : Pacer.Book}

/-- A device that is in use has had its timer started. -/
theorem timerStarted_of_run? (h : start.device.Coherent) (unused : start.device.state = .inactive)
    (ran : start.run? steps = some (r, log)) (used : r.device.state ≠ .inactive) :
    r.timerStarted = true := by
  refine run?_induction (motive := fun _ r _ => r.device.state ≠ .inactive → r.timerStarted = true)
    (fun used => absurd unused used) ?_ ran used
  intro steps m before s a r l reply ran ih step used
  have coherent := coherent_of_run? h ran
  cases Device.assigns_of_takes (takes_of_step? coherent.quiet step) coherent with
  | keeps index use other => exact timerStarted_of_step? (ih (use.not.1 used)) step
  | activates activates used index =>
    obtain ⟨rfl, ok⟩ := activates
    obtain ⟨n, -, -, timer⟩ := coherent.activate_ok ok
    cases step
    simp [timer]
  | withdraws index unused other => exact absurd unused used

/-- A step that brings in a pose to a device in use notes it in the book. -/
theorem book_of_bringsPose (h : r.device.Coherent) (started : r.timerStarted = true)
    (used : r.device.state ≠ .inactive) (brings : s.bringsPose = true)
    (step : r.step? s a = some (r', l, reply)) : ∃ b, r.device.book? = some b ∧
      r'.device.book? = some (b.noted (r'.history.latest.map (·.time))) := by
  obtain ⟨p, hp⟩ := Option.isSome_iff_exists.1 (h.pipeline_isSome_iff.2 used)
  have hb : r.device.book? = some p.book := by rw [Device.book?, hp]; rfl
  have stays : s ≠ .call .deactivate ∧ s ≠ .call .shutDown := by
    constructor <;> rintro rfl <;> cases brings
  obtain ⟨b', hb', turns⟩ := turns_of_step? h started hb stays step
  cases turns with
  | presents refreshes => simp [Step.bringsPose_of_isRefresh refreshes] at brings
  | notes => exact ⟨p.book, hb, hb'⟩
  | keeps unbrought => simp [brings] at unbrought

/-- Until the first frame the book stays as it is, and the first frame is the one in the book. -/
theorem firstFrame_of_run? (h : start.device.Coherent) (started : start.timerStarted = true)
    (hb : start.device.book? = some b)
    (stays : ∀ x ∈ steps,
      x.1.bringsPose = false ∧ x.1 ≠ .call .deactivate ∧ x.1 ≠ .call .shutDown)
    (ran : start.run? steps = some (r, log)) :
    framesOf log = [] ∧ r.device.book? = some b ∨
      ∃ now, (framesOf log).head? = some (b.frame now) := by
  refine (run?_induction (motive := fun steps r log =>
    (∀ x ∈ steps, x.1.bringsPose = false ∧ x.1 ≠ .call .deactivate ∧ x.1 ≠ .call .shutDown) →
      r.timerStarted = true ∧ (framesOf log = [] ∧ r.device.book? = some b ∨
        ∃ now, (framesOf log).head? = some (b.frame now)))
    (fun _ => ⟨started, .inl ⟨rfl, hb⟩⟩) ?_ ran stays).2
  intro steps m before s a r l reply ran ih step stays
  obtain ⟨started, so⟩ := ih fun x hx => stays x (List.mem_append_left _ hx)
  obtain ⟨unbrought, stays⟩ := stays (s, a) (by simp)
  refine ⟨timerStarted_of_step? started step, ?_⟩
  rw [framesOf_append]
  rcases so with ⟨unframed, hb⟩ | ⟨now, first⟩
  · obtain ⟨b', hb', turns⟩ := turns_of_step? (coherent_of_run? h ran) started hb stays step
    rw [unframed, List.nil_append]
    cases turns with
    | presents refreshes streams frames =>
      have frames : framesOf l = [b.frame a.now] := frames
      exact .inr ⟨a.now, by rw [frames]; rfl⟩
    | notes brings => simp [unbrought] at brings
    | keeps _ idle frames => exact .inl ⟨frames, hb'⟩
  · exact .inr ⟨now, by rw [List.head?_append, first]; rfl⟩

end Rig

/-- A pose comes in to a device that is in use, while `newest` is the time of the newest sample.
Then, as long as no other pose comes in and the device stays in use, the next frame is fresh; and it
tells `newest`, or the last value but one if it is later than that fits, but nothing if `newest` is
the last value itself. -/
theorem freshness_of_run {config : Config} {equipment : Equipment} {d : Device} {capacity : Nat}
    {r r' q : Rig} {before during : List (Step × Answers)} {log log' l : List Effect} {s : Step}
    {a : Answers} {reply : Reply} {newest : Span} {n : Nat} {frame : FrameTiming}
    (built : Device.build? config equipment = some (.ok d))
    (ran : (Rig.ofDevice d capacity).run? before = some (r, log))
    (used : r.device.state = .active ∨ r.device.state = .standby) (brings : s.bringsPose = true)
    (step : r.step? s a = some (r', l, reply))
    (there : ∃ sample ∈ r'.history.samples, sample.time = newest)
    (latest : ∀ sample ∈ r'.history.samples, sample.time ≤ newest)
    (stays : ∀ x ∈ during,
      x.1.bringsPose = false ∧ x.1 ≠ .call .deactivate ∧ x.1 ≠ .call .shutDown)
    (ran' : r'.run? during = some (q, log')) (next : (framesOf log').head? = some (n, frame)) :
    frame.freshPose = true ∧ frame.poseTime.map Span.nanos =
      if newest.nanos = 0xffffffffffffffff then none
      else some (min newest.nanos 0xfffffffffffffffe) := by
  have fresh : (Rig.ofDevice d capacity).device.Fresh config equipment :=
    Device.fresh_of_build? built
  have coherent := Rig.coherent_of_run? fresh.coherent ran
  have used : r.device.state ≠ .inactive := by rcases used with hs | hs <;> simp [hs]
  have started := Rig.timerStarted_of_run? fresh.coherent fresh.state ran used
  have unfilled : History.Sorted (Rig.ofDevice d capacity).history.samples := List.Pairwise.nil
  have sorted := Rig.sorted_of_step? (Rig.sorted_of_run? unfilled ran) step
  -- the sample that the history calls its latest is of the newest time
  have latest : r'.history.latest.map (·.time) = some newest := by
    obtain ⟨sample, hsample, rfl⟩ := there
    rw [History.latest, sorted.getLast?_eq_some_iff.2 ⟨hsample, latest⟩]
    rfl
  obtain ⟨b, -, noted⟩ := Rig.book_of_bringsPose coherent started used brings step
  rw [latest] at noted
  have coherent' := (Rig.takes_of_step? coherent.quiet step).coherent coherent
  rcases Rig.firstFrame_of_run? coherent' (Rig.timerStarted_of_step? started step) noted stays ran'
    with ⟨unframed, -⟩ | ⟨now, first⟩
  · simp [unframed] at next
  · rw [first] at next
    cases next
    exact ⟨rfl, Pacer.nanos_hold? newest⟩

/-- A stream, and a sample of some time in the history. -/
def Rig.sampledStream (time : Span) : List (Step × Answers) :=
  Rig.upToStream ++ [(.pushHistory ⟨time, default⟩, .willing)]

theorem fresh_frame_of_longest : ∃ r log r' l reply q log' n frame,
    (Rig.ofDevice .standard 4).run? (Rig.sampledStream .longest) = some (r, log) ∧
      r.step? (.call .poseUpdated) .willing = some (r', l, reply) ∧
      r'.history.latest.map (·.time) = some .longest ∧
      r'.run? [(.tick, .willing)] = some (q, log') ∧
      (framesOf log').head? = some (n, frame) ∧ frame.freshPose = true ∧
      frame.poseTime.map Span.nanos = some 0xfffffffffffffffe := by
  have goesOn : ((Rig.ofDevice .standard 4).run? (Rig.sampledStream .longest)).any fun x =>
      decide (x.1.device.state = .active) &&
        (x.1.step? (.call .poseUpdated) .willing).any fun y =>
          decide (y.1.history.samples.map (·.time) = [.longest]) &&
            (y.1.run? [(.tick, .willing)]).any fun z => (framesOf z.2).head?.isSome := by
    decide +kernel
  obtain ⟨⟨r, log⟩, ran, goesOn⟩ := (Option.any_eq_true _ _).1 goesOn
  obtain ⟨active, goesOn⟩ := Bool.and_eq_true_iff.1 goesOn
  obtain ⟨⟨r', l, reply⟩, step, goesOn⟩ := (Option.any_eq_true _ _).1 goesOn
  obtain ⟨times, goesOn⟩ := Bool.and_eq_true_iff.1 goesOn
  obtain ⟨⟨q, log'⟩, ran', framed⟩ := (Option.any_eq_true _ _).1 goesOn
  obtain ⟨⟨n, frame⟩, next⟩ := Option.isSome_iff_exists.1 framed
  obtain ⟨sample, samples, time⟩ : ∃ sample, r'.history.samples = [sample] ∧
      sample.time = .longest := List.map_eq_singleton_iff.1 (of_decide_eq_true times)
  obtain ⟨fresh, told⟩ := freshness_of_run Device.build?_standard ran
    (.inl (of_decide_eq_true active)) rfl step ⟨sample, by simp [samples], time⟩
    (by simp [samples, time, Span.le_iff]) (by simp [Step.bringsPose]) ran' next
  exact ⟨r, log, r', l, reply, q, log', n, frame, ran, step,
    by simp [History.latest, samples, time], ran', next, fresh, told⟩

/-- The newest sample is of the last value that 64 bits hold: the next frame is fresh, but tells no
time. -/
theorem untimed_frame : ∃ time : Span, ∃ r log r' l reply q log' n frame,
    time.nanos = 0xffffffffffffffff ∧
      (Rig.ofDevice .standard 4).run? (Rig.sampledStream time) = some (r, log) ∧
      r.step? (.call .poseUpdated) .willing = some (r', l, reply) ∧
      r'.history.latest.map (·.time) = some time ∧
      r'.run? [(.tick, .willing)] = some (q, log') ∧
      (framesOf log').head? = some (n, frame) ∧ frame.freshPose = true ∧
      frame.poseTime = none := by
  have goesOn : ((Rig.ofDevice .standard 4).run?
      (Rig.sampledStream ⟨0xffffffffffffffff, by decide⟩)).any fun x =>
        (x.1.step? (.call .poseUpdated) .willing).any fun y =>
          decide (y.1.history.latest.map (·.time) = some ⟨0xffffffffffffffff, by decide⟩) &&
            (y.1.run? [(.tick, .willing)]).any fun z => (framesOf z.2).head?.any fun f =>
              f.2.freshPose && decide (f.2.poseTime = none) := by
    decide +kernel
  obtain ⟨⟨r, log⟩, ran, goesOn⟩ := (Option.any_eq_true _ _).1 goesOn
  obtain ⟨⟨r', l, reply⟩, step, goesOn⟩ := (Option.any_eq_true _ _).1 goesOn
  obtain ⟨time, goesOn⟩ := Bool.and_eq_true_iff.1 goesOn
  obtain ⟨⟨q, log'⟩, ran', framed⟩ := (Option.any_eq_true _ _).1 goesOn
  obtain ⟨⟨n, frame⟩, next, told⟩ := (Option.any_eq_true _ _).1 framed
  obtain ⟨fresh, untimed⟩ := Bool.and_eq_true_iff.1 told
  exact ⟨_, r, log, r', l, reply, q, log', n, frame, rfl, ran, step, of_decide_eq_true time, ran',
    next, fresh, of_decide_eq_true untimed⟩

end Headset
