import Headset.Device.Rig
import Mathlib.Data.List.Induction

/-!
# Runs

A run is a left fold of steps, so what holds of every run is shown by induction on its end
(`run?_induction`): it holds before the first step, and each step keeps it.  `Device.standard` and
`Answers.willing` are there for runs that show that such a statement speaks of something.
-/

namespace Headset.Rig

theorem run?_nil (r : Rig) : r.run? [] = some (r, []) := rfl

theorem run?_concat (r : Rig) (steps : List (Step × Answers)) (s : Step) (a : Answers) :
    r.run? (steps ++ [(s, a)]) = (r.run? steps).bind fun (r', log) =>
      (r'.step? s a).map fun (r'', l, _) => (r'', log ++ l) := by
  simp [run?, List.foldlM_append]

/-- A run that ends with a step is a shorter run, followed by that step. -/
theorem run?_concat_eq_some {r r' : Rig} {steps : List (Step × Answers)} {s : Step} {a : Answers}
    {log : List Effect} :
    r.run? (steps ++ [(s, a)]) = some (r', log) ↔
      ∃ m before l reply, r.run? steps = some (m, before) ∧ m.step? s a = some (r', l, reply) ∧
        log = before ++ l := by
  rw [run?_concat, Option.bind_eq_some_iff]
  constructor
  · rintro ⟨⟨m, before⟩, hm, h⟩
    obtain ⟨⟨r'', l, reply⟩, hl, h⟩ := Option.map_eq_some_iff.1 h
    cases h
    exact ⟨m, before, l, reply, hm, hl, rfl⟩
  · rintro ⟨m, before, l, reply, hm, hl, rfl⟩
    exact ⟨(m, before), hm, by simp [hl]⟩

/-- A run goes on from the log that is there already. -/
theorem foldlM_step?_eq (r : Rig) (before : List Effect) (steps : List (Step × Answers)) :
    steps.foldlM (fun (r, log) (s, a) => (r.step? s a).map fun (r, l, _) => (r, log ++ l))
        (r, before) =
      (r.run? steps).map fun (r', log) => (r', before ++ log) := by
  induction steps using List.reverseRecOn with
  | nil => simp [run?]
  | append_singleton steps last ih =>
    rw [run?_concat, List.foldlM_append, ih]
    cases r.run? steps with
    | none => rfl
    | some m => cases h : m.1.step? last.1 last.2 <;> simp [h]

theorem run?_cons (r : Rig) (s : Step) (a : Answers) (steps : List (Step × Answers)) :
    r.run? ((s, a) :: steps) = (r.step? s a).bind fun (m, l, _) =>
      (m.run? steps).map fun (r', log) => (r', l ++ log) := by
  rw [run?, List.foldlM_cons]
  cases h : r.step? s a with
  | none => simp only [h, Option.map_none, Option.bind_eq_bind, Option.bind_none]
  | some o => simp only [h, Option.map_some, Option.bind_eq_bind, Option.bind_some,
      List.nil_append, foldlM_step?_eq]

/-- What holds before the first step and is kept by each step holds after every run. -/
theorem run?_induction {start : Rig} {motive : List (Step × Answers) → Rig → List Effect → Prop}
    (nil : motive [] start [])
    (concat : ∀ {steps m before s a r l reply}, start.run? steps = some (m, before) →
      motive steps m before → m.step? s a = some (r, l, reply) →
      motive (steps ++ [(s, a)]) r (before ++ l))
    {steps : List (Step × Answers)} {r : Rig} {log : List Effect}
    (ran : start.run? steps = some (r, log)) : motive steps r log := by
  induction steps using List.reverseRecOn generalizing r log with
  | nil =>
    cases ran
    exact nil
  | append_singleton steps last ih =>
    obtain ⟨s, a⟩ := last
    obtain ⟨m, before, l, reply, hm, hl, rfl⟩ := run?_concat_eq_some.1 ran
    exact concat hm (ih hm) hl

end Headset.Rig

/-! ## A device to run -/

namespace Headset

/-- A backend for direct mode, and no controllers. -/
def Equipment.direct : Equipment := ⟨default, some "direct", .wraps⟩

/-- The device of the default configuration, with a backend. -/
def Device.standard : Device := ((Device.build? {} .direct).bind Except.toOption).getD default

theorem Device.build?_of_toOption {config : Config} {equipment : Equipment} {d : Device}
    (h : (Device.build? config equipment).bind Except.toOption = some d) :
    Device.build? config equipment = some (.ok d) := by
  obtain ⟨_ | _, hb, h⟩ := Option.bind_eq_some_iff.1 h
  · cases h
  · cases h
    exact hb

theorem Device.build?_standard : Device.build? {} .direct = some (.ok .standard) := by
  have built : ((Device.build? {} .direct).bind Except.toOption).isSome := by decide +kernel
  obtain ⟨d, h⟩ := Option.isSome_iff_exists.1 built
  rw [standard, h]
  exact build?_of_toOption h

/-- Collaborators that do what they are asked to do. -/
def Answers.willing : Answers where
  arrival := .zero
  now := .zero
  connected := true
  adapter := .ok default
  display := none
  render := none
  encoder := .ok 0
  vsync := .ok 0
  vsyncStart := none
  streamConfig := none
  encoderStart := none
  controllerActive _ := true

theorem Device.activate_standard : (Device.standard.activate 0 .willing).answer = .ok () := by
  have succeeds : (Device.standard.activate 0 .willing).answer.isOk = true := by decide +kernel
  cases answer : (Device.standard.activate 0 .willing).answer with
  | ok => rfl
  | error e => simp [answer, Except.isOk, Except.toBool] at succeeds

/-- A run that puts the device into use and starts its stream. -/
def Rig.upToStream : List (Step × Answers) :=
  [(.call (.activate 0), .willing), (.call .startStreaming, .willing)]

theorem Rig.run?_upToStream : ∃ r log, (Rig.ofDevice .standard 4).run? upToStream = some (r, log) ∧
    r.device.isStreaming = true ∧ r.device.state = .active ∧ r.device.render.isSome := by
  have streams : ((Rig.ofDevice .standard 4).run? upToStream).any fun x =>
      x.1.device.isStreaming && decide (x.1.device.state = .active) &&
        x.1.device.render.isSome := by
    decide +kernel
  obtain ⟨⟨r, log⟩, ran, streams⟩ := (Option.any_eq_true _ _).1 streams
  simp only [Bool.and_eq_true, decide_eq_true_eq, and_assoc] at streams
  exact ⟨r, log, ran, streams⟩

end Headset
