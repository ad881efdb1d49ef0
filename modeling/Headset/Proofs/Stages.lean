import Headset.Proofs.Operations
import Headset.Proofs.Resource

/-!
# The stages of an activation

`Device.stageFault?` tells of each stage what it would fail with.  An allocation fails at the first
stage that does (`Allocation.failsAt`), and is done if none does (`Allocation.stageFault?_of_ok`).
-/

namespace Headset

/-- The place of a stage in the order of an activation. -/
def Stage.rank : Stage → Nat
  | .adapter => 0
  | .display => 1
  | .renderBackend => 2
  | .encoder => 3
  | .vsync => 4

/-- The stage that a call belongs to. -/
def Effect.stage? : Effect → Option Stage
  | .resolveAdapter _ _ => some .adapter
  | .registerDisplay _ _ _ => some .display
  | .renderInitialize _ _ => some .renderBackend
  | .createEncoder _ _ _ => some .encoder
  | .createVsync _ _ => some .vsync
  | .vsyncStart _ _ _ => some .vsync
  | _ => none

/-- Every call of a log that belongs to a stage belongs to `s` or to an earlier one. -/
def UpTo (s : Stage) (log : List Effect) : Prop :=
  ∀ x ∈ log, ∀ t, x.stage? = some t → t.rank ≤ s.rank

/-- What a log has created and initialised it has shut down, once. -/
def Undoes (log : List Effect) : Prop :=
  (∀ ad stream n, .createEncoder ad stream (.ok n) ∈ log → Resource.encoder.releases n log = 1) ∧
    ∀ ad, .renderInitialize ad none ∈ log → Resource.backend.releases () log = 1

/-- What a collaborator fails with. -/
def faultOf? {α : Type} : Except Fault α → Option Fault
  | .error f => some f
  | .ok _ => none

variable {s : Stage} {l m : List Effect}

theorem UpTo.append (h : UpTo s l) (k : UpTo s m) : UpTo s (l ++ m) := by
  intro x hx
  rcases List.mem_append.1 hx with hx | hx
  · exact h x hx
  · exact k x hx

theorem UpTo.cons {x : Effect} (h : ∀ t, x.stage? = some t → t.rank ≤ s.rank) (k : UpTo s l) :
    UpTo s (x :: l) := by
  intro y hy
  rcases List.mem_cons.1 hy with rfl | hy
  · exact h
  · exact k y hy

namespace Device

/-- What a stage fails with, if the activation gets to it.  An adapter that is known is not asked
for, and a device without a backend initialises none. -/
def stageFault? (d : Device) (a : Answers) : Stage → Option Fault
  | .adapter => if d.adapter.isSome then none else faultOf? a.adapter
  | .display => a.display
  | .renderBackend => if d.render.isSome then a.render else none
  | .encoder => faultOf? a.encoder
  | .vsync => (faultOf? a.vsync).or a.vsyncStart

/-- A stage fails, and no stage before it. -/
structure FailsAt (d : Device) (a : Answers) (s : Stage) (f : Fault) : Prop where
  fault : d.stageFault? a s = some f
  earlier : ∀ t, t.rank < s.rank → d.stageFault? a t = none

/-- Whether every stage succeeds. -/
def allocates (d : Device) (a : Answers) : Bool :=
  [Stage.adapter, .display, .renderBackend, .encoder, .vsync].all fun s =>
    (d.stageFault? a s).isNone

variable {d : Device} {a : Answers} {index : UInt32}

theorem allocates_iff : d.allocates a = true ↔ ∀ s, d.stageFault? a s = none := by
  simp only [allocates, List.all_cons, List.all_nil, Bool.and_true, Bool.and_eq_true,
    Option.isNone_iff_eq_none]
  constructor
  · rintro ⟨adapter, display, render, encoder, vsync⟩ s
    cases s <;> assumption
  · intro h
    exact ⟨h _, h _, h _, h _, h _⟩

theorem Resolves.stageFault? {ad : Adapter} (h : d.Resolves a ad l) :
    d.stageFault? a .adapter = none := by
  cases h with
  | known hd => simp [Device.stageFault?, hd]
  | asked hd ha => simp [Device.stageFault?, hd, ha, faultOf?]

theorem stageFault?_renderBackend (hb : d.render.isSome → a.render = none) :
    d.stageFault? a .renderBackend = none := by
  by_cases h : d.render.isSome
  · simp [stageFault?, h, hb h]
  · simp [stageFault?, h]

theorem stageFault?_of_rank_lt_vsync {ad : Adapter} {n : Nat} {s : Stage} (hr : d.Resolves a ad l)
    (hdisplay : a.display = none) (hb : d.render.isSome → a.render = none)
    (he : a.encoder = .ok n) (hs : s.rank < Stage.vsync.rank) : d.stageFault? a s = none := by
  cases s with
  | adapter => exact hr.stageFault?
  | display => exact hdisplay
  | renderBackend => exact stageFault?_renderBackend hb
  | encoder => simp [stageFault?, he, faultOf?]
  | vsync => simp at hs

/-- An activation that does not succeed fails at the first stage that does not. -/
theorem Allocation.failsAt {o : Outcome (Except DriverError Pacer)} {e : DriverError}
    (h : d.Allocation index a o) (he : o.answer = .error e) :
    ∃ s f, e = .initialization s f ∧ d.FailsAt a s f := by
  cases h with
  | adapter hd ha =>
    cases he
    refine ⟨_, _, rfl, by simp [stageFault?, hd, ha, faultOf?], fun t ht => ?_⟩
    cases t <;> simp [Stage.rank] at ht
  | display hr hf =>
    cases he
    refine ⟨_, _, rfl, hf, fun t ht => ?_⟩
    cases t <;> simp [Stage.rank] at ht
    exact hr.stageFault?
  | renderBackend hr hdisplay hb hf =>
    cases he
    refine ⟨_, _, rfl, by simp [stageFault?, hb, hf], fun t ht => ?_⟩
    cases t <;> simp [Stage.rank] at ht
    · exact hr.stageFault?
    · exact hdisplay
  | encoder hr hdisplay hb hf =>
    cases he
    refine ⟨_, _, rfl, by simp [stageFault?, hf, faultOf?], fun t ht => ?_⟩
    cases t <;> simp [Stage.rank] at ht
    · exact hr.stageFault?
    · exact hdisplay
    · exact stageFault?_renderBackend hb
  | timer hr hdisplay hb hencoder hf =>
    cases he
    exact ⟨_, _, rfl, by simp [stageFault?, hf, faultOf?],
      fun t => stageFault?_of_rank_lt_vsync hr hdisplay hb hencoder⟩
  | timerStart hr hdisplay hb hencoder ht hf =>
    cases he
    exact ⟨_, _, rfl, by simp [stageFault?, ht, hf, faultOf?],
      fun t => stageFault?_of_rank_lt_vsync hr hdisplay hb hencoder⟩
  | done => cases he

theorem Allocation.stageFault?_of_ok {o : Outcome (Except DriverError Pacer)} {p : Pacer}
    (h : d.Allocation index a o) (hp : o.answer = .ok p) (s : Stage) :
    d.stageFault? a s = none := by
  cases h with
  | done hr hdisplay hb he ht hs =>
    by_cases last : s.rank < Stage.vsync.rank
    · exact stageFault?_of_rank_lt_vsync hr hdisplay hb he last
    · cases s <;> simp [Stage.rank] at last
      simp [stageFault?, ht, hs, faultOf?]
  | _ => cases hp

theorem Allocation.allocates_iff_ok {o : Outcome (Except DriverError Pacer)}
    (h : d.Allocation index a o) : d.allocates a = true ↔ ∃ p, o.answer = .ok p := by
  constructor
  · intro succeeds
    cases ho : o.answer with
    | ok p => exact ⟨p, rfl⟩
    | error e =>
      obtain ⟨s, f, -, fails⟩ := h.failsAt ho
      have fine := allocates_iff.1 succeeds s
      rw [fails.fault] at fine
      cases fine
  · rintro ⟨p, hp⟩
    exact allocates_iff.2 (h.stageFault?_of_ok hp)

/-! ## What a failure leaves behind -/

theorem Resolves.upTo {ad : Adapter} (h : d.Resolves a ad l) (s : Stage) : UpTo s l := by
  cases h with
  | known hd => simp [UpTo]
  | asked hd ha => simp [UpTo, Effect.stage?, Stage.rank]

theorem upTo_opening {ad : Adapter} (h : d.Resolves a ad l)
    (hs : Stage.renderBackend.rank ≤ s.rank) :
    UpTo s (d.opening index ad l) := by
  have display : Stage.display.rank ≤ s.rank := Nat.le_trans (by decide) hs
  refine (h.upTo s).append (.cons (by simpa [Effect.stage?] using display) ?_)
  unfold backendUp
  split <;> simp [UpTo, Effect.stage?, hs]

theorem upTo_backendDown (s : Stage) : UpTo s d.backendDown := by
  unfold backendDown
  split <;> simp [UpTo, Effect.stage?]

/-- No stage after the one that fails is attempted. -/
theorem Allocation.upTo {o : Outcome (Except DriverError Pacer)} {f : Fault}
    (h : d.Allocation index a o) (he : o.answer = .error (.initialization s f)) : UpTo s o.log := by
  cases h with
  | adapter hd ha =>
    cases he
    simp [UpTo, Effect.stage?]
  | display hr hf =>
    cases he
    exact (hr.upTo _).append (by simp [UpTo, Effect.stage?])
  | renderBackend hr hdisplay hb hf =>
    cases he
    exact (hr.upTo _).append (by simp [UpTo, Effect.stage?, Stage.rank])
  | encoder hr hdisplay hb hf =>
    cases he
    exact (upTo_opening hr (by decide)).append
      (.cons (by simp [Effect.stage?]) (upTo_backendDown _))
  | timer | timerStart =>
    cases he
    -- no stage comes after the timer
    intro x hx t ht
    cases t <;> decide
  | done => cases he

/-- The calls between the opening and the end of the backend only have to undo what they do. -/
theorem undoes_around {ad : Adapter} (h : d.Resolves a ad l) (undoes : Undoes m)
    (quiet : Resource.backend.releases () m = 0) (inside : ∀ ad, .renderInitialize ad none ∉ m) :
    Undoes (d.opening index ad l ++ (m ++ d.backendDown)) := by
  have first : ∀ n, Resource.encoder.releases n (d.opening index ad l) = 0 ∧
      Resource.backend.releases () (d.opening index ad l) = 0 ∧
      ∀ ad' stream, .createEncoder ad' stream (.ok n) ∉ d.opening index ad l := by
    intro n
    cases h <;> by_cases up : d.render.isSome <;>
      simp [opening, backendUp, up, Resource.releases, Resource.encoder, Resource.backend]
  have last : ∀ n, Resource.encoder.releases n d.backendDown = 0 ∧
      ∀ ad' stream, .createEncoder ad' stream (.ok n) ∉ d.backendDown := by
    intro n
    by_cases up : d.render.isSome <;> simp [backendDown, up, Resource.releases, Resource.encoder]
  constructor
  · intro ad' stream n created
    simp only [List.mem_append, (first n).2.2, (last n).2, or_false, false_or] at created
    rw [Resource.releases_append, Resource.releases_append, (first n).1, (last n).1,
      undoes.1 _ _ _ created]
  · intro ad' initialised
    have up : d.render.isSome := by
      by_contra down
      have absent : .renderInitialize ad' none ∉ d.opening index ad l := by
        cases h <;> simp [opening, backendUp, down]
      simp [absent, inside, backendDown, down] at initialised
    rw [Resource.releases_append, Resource.releases_append, (first 0).2.1, quiet]
    simp [backendDown, up, Resource.releases, Resource.backend]

theorem Allocation.undoes {o : Outcome (Except DriverError Pacer)} {e : DriverError}
    (h : d.Allocation index a o) (he : o.answer = .error e) : Undoes o.log := by
  cases h with
  | adapter hd ha => simp [Undoes]
  | display hr hf => cases hr <;> simp [Undoes]
  | renderBackend hr hdisplay hb hf => cases hr <;> simp [Undoes]
  | @encoder ad _ f hr hdisplay hb hf =>
    refine undoes_around (m := [.createEncoder ad d.config.stream (.error f)]) hr ?_ ?_ ?_
    all_goals simp +contextual [Undoes, Resource.releases, Resource.encoder, Resource.backend]
  | @timer ad _ n f hr hdisplay hb hencoder hf =>
    refine undoes_around (m := [.createEncoder ad d.config.stream (.ok n),
      .createVsync d.config.display.refreshRate (.error f), .encoderShutdown n]) hr ?_ ?_ ?_
    all_goals simp +contextual [Undoes, Resource.releases, Resource.encoder, Resource.backend]
  | @timerStart ad _ n t f hr hdisplay hb hencoder ht hf =>
    refine undoes_around (m := [.createEncoder ad d.config.stream (.ok n),
      .createVsync d.config.display.refreshRate (.ok t), .vsyncStart t n (some f),
      .encoderShutdown n]) hr ?_ ?_ ?_
    all_goals simp +contextual [Undoes, Resource.releases, Resource.encoder, Resource.backend]
  | done => cases he

end Device

end Headset
