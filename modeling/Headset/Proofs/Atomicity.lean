import Headset.Proofs.Ledger
import Headset.Proofs.Stages

/-!
# Activations that fail

An activation that fails leaves the device as it was, up to the adapter that it came to know and
the line that tells the situation.  It fails at the first stage that does, goes no further and
gives back what the stages before acquired; the adapter is not asked for again
(`atomicity_of_activation`).
-/

namespace Headset

/-- The adapter that a call hands to a collaborator. -/
def Effect.adapter? : Effect → Option Adapter
  | .renderInitialize ad _ => some ad
  | .createEncoder ad _ _ => some ad
  | _ => none

/-- After the call that makes the adapter known, it is not asked for again, and every call that
hands over an adapter hands over this one. -/
def KeepsAdapter (log : List Effect) : Prop :=
  ∀ before preferred ad after, log = before ++ .resolveAdapter preferred (.ok ad) :: after →
    ∀ x ∈ after, (∀ p answer, x ≠ .resolveAdapter p answer) ∧
      ∀ ad', x.adapter? = some ad' → ad' = ad

theorem Ledger.Follows.keepsAdapter {l m : Ledger} {log : List Effect} (h : l.Follows log m) :
    KeepsAdapter log := by
  rintro before preferred ad after rfl x hx
  obtain ⟨k, -, -, rest⟩ := h.split
  obtain ⟨k, known, allowed⟩ := rest.allows_of_adapter rfl x hx
  constructor
  · rintro p answer rfl
    have unknown : k.adapter = none := allowed
    simp [known] at unknown
  · intro ad' had
    cases x with
    | renderInitialize ad'' fault =>
      cases had
      exact Option.some.inj (allowed.1.symm.trans known)
    | createEncoder ad'' stream answer =>
      cases had
      exact Option.some.inj (allowed.1.symm.trans known)
    | _ => cases had

namespace Device

variable {d : Device} {a : Answers} {index : UInt32} {e : DriverError}

/-- Only the adapter is left of an allocation that failed. -/
theorem Allocation.device_eq {o : Outcome (Except DriverError Pacer)}
    (h : d.Allocation index a o) (he : o.answer = .error e) :
    ∃ ad, o.device = { d with adapter := ad } := by
  cases h with
  | adapter hd ha => exact ⟨d.adapter, rfl⟩
  | display | renderBackend | encoder | timer | timerStart => exact ⟨_, rfl⟩
  | done => cases he

/-- The ways an activation of a coherent device fails. -/
theorem Coherent.activate_error (h : d.Coherent) (he : (d.activate index a).answer = .error e) :
    (e = .shutDown ∨ e = .invalidState .activate d.state) ∧
        (d.activate index a).device = d ∧ (d.activate index a).log = [] ∨
      ∃ s f ad, e = .initialization s f ∧ d.FailsAt a s f ∧
        UpTo s (d.activate index a).log ∧ Undoes (d.activate index a).log ∧
        (d.activate index a).device =
          { d with adapter := ad, status := Status.line d.serial "failed to activate" } := by
  have way := activate_cases h.in_use_of_renderReady index a
  generalize d.activate index a = o at way he ⊢
  cases way with
  | shutDown down =>
    cases he
    exact .inl ⟨.inl rfl, rfl, rfl⟩
  | refused up hs =>
    cases he
    exact .inl ⟨.inr rfl, rfl, rfl⟩
  | failed up hs ho answer =>
    cases he
    obtain ⟨s, f, rfl, fails⟩ := ho.failsAt answer
    obtain ⟨ad, device⟩ := ho.device_eq answer
    refine .inr ⟨s, f, ad, rfl, ⟨fails.fault, fails.earlier⟩, ho.upTo answer, ho.undoes answer, ?_⟩
    rw [device, ← hs]
    rfl
  | done => cases he

end Device

/-- After every run of a device, an activation that fails leaves the history, and the device but
for the adapter that it knows and its line for people.  If it is refused nothing changes and no
collaborator is called.  Otherwise the first stage that fails is the one it tells, later stages are
not attempted, and what the earlier ones acquired is given back.  From the time the adapter is
known, however the run goes on, it is not asked for again and is the one that is used. -/
theorem atomicity_of_activation {config : Config} {equipment : Equipment} {d : Device}
    {capacity : Nat} {r r' : Rig} {steps : List (Step × Answers)} {log l : List Effect}
    {index : UInt32} {a : Answers} {e : DriverError}
    (built : Device.build? config equipment = some (.ok d))
    (ran : (Rig.ofDevice d capacity).run? steps = some (r, log))
    (failed : r.step? (.call (.activate index)) a = some (r', l, .result (.error e))) :
    r'.history = r.history ∧
    r'.device =
      { r.device with adapter := r'.device.adapter, status := r'.device.status } ∧
    (e = .shutDown ∨ e = .invalidState .activate r.device.state ∨
      ∃ s f, e = .initialization s f) ∧
    ((e = .shutDown ∨ ∃ c s, e = .invalidState c s) → r' = r ∧ l = []) ∧
    (∀ s f, e = .initialization s f → r.device.FailsAt a s f ∧ UpTo s l ∧ Undoes l) ∧
    ∀ later r'' log', r'.run? later = some (r'', log') → KeepsAdapter (log ++ l ++ log') := by
  have fresh : (Rig.ofDevice d capacity).device.Fresh config equipment :=
    Device.fresh_of_build? built
  have coherent := Rig.coherent_of_run? fresh.coherent ran
  have takes := Rig.takes_of_step? coherent.quiet failed
  have coherent' := takes.coherent coherent
  have follows : r.device.ledger.Follows l r'.device.ledger :=
    coherent.follows_parts (takes.parts coherent.in_use_of_renderReady)
  have keeps : ∀ later r'' log', r'.run? later = some (r'', log') →
      KeepsAdapter (log ++ l ++ log') := fun later r'' log' ran' =>
    (((Rig.follows_of_run? fresh.coherent ran).append follows).append
      (Rig.follows_of_run? coherent' ran')).keepsAdapter
  simp only [Rig.step?, Rig.call?, Rig.settle, Option.some.injEq, Prod.mk.injEq,
    Reply.result.injEq] at failed
  obtain ⟨rfl, rfl, answer⟩ := failed
  rcases coherent.activate_error answer with
    ⟨refused, device, silent⟩ | ⟨s, f, ad, rfl, fails, upTo, undoes, device⟩
  · refine ⟨rfl, ?_, refused.imp_right .inl, fun _ => ⟨?_, silent⟩, ?_, keeps⟩
    · simp [device]
    · simp [device, silent]
    · rintro s f rfl
      simp at refused
  · refine ⟨rfl, ?_, .inr (.inr ⟨s, f, rfl⟩), ?_, ?_, keeps⟩
    · simp [device]
    · simp
    · rintro s' f' h
      cases h
      exact ⟨fails, upTo, undoes⟩

theorem atomicity_without_encoder :
    ∃ r' l s f, (Rig.ofDevice .standard 4).step? (.call (.activate 0))
        { Answers.willing with encoder := .error default } =
          some (r', l, .result (.error (.initialization s f))) ∧
      r'.device.state = .inactive ∧ UpTo s l ∧ Undoes l := by
  have inactive : Device.standard.state = .inactive :=
    (Device.fresh_of_build? Device.build?_standard).state
  generalize ho :
    Device.standard.activate 0 { Answers.willing with encoder := .error default } = o
  have fails : o.answer.toBool = false ∧ o.log ≠ [] := by
    rw [← ho]
    decide +kernel
  obtain ⟨device, log, e | ok⟩ := o
  · have failed : (Rig.ofDevice .standard 4).step? (.call (.activate 0))
        { Answers.willing with encoder := .error default } =
          some ({ Rig.ofDevice .standard 4 with
            device, timerStarted := log.any Effect.isTimerStart }, log, .result (.error e)) := by
      simp [Rig.step?, Rig.call?, Rig.settle, Rig.ofDevice, ho]
    obtain ⟨-, same, kind, silent, stages, -⟩ :=
      atomicity_of_activation Device.build?_standard (Rig.run?_nil _) failed
    rcases kind with rfl | rfl | ⟨s, f, rfl⟩
    · exact absurd (silent (.inl rfl)).2 fails.2
    · exact absurd (silent (.inr ⟨_, _, rfl⟩)).2 fails.2
    · obtain ⟨-, upTo, undoes⟩ := stages s f rfl
      refine ⟨_, log, s, f, failed, ?_, upTo, undoes⟩
      rw [same]
      exact inactive
  · cases fails.1

end Headset
