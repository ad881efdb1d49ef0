import Headset.Proofs.Tally

/-!
# Refusals

A device that was shut down is not put to use again.  An activation and the starts of the stream
look for the shutdown and name it as the reason.  Standby and the return from it look at the state
alone: they are refused as out of place, as on a device that was never activated
(`refusals_after_shutDown`, `misplaced_after_shutDown`).
-/

namespace Headset

namespace Rig

variable {r : Rig}

/-- Standby is for devices in use, and this one is not. -/
theorem enterStandby_of_gone (h : r.device.Gone) (a : Answers) :
    r.step? (.call .enterStandby) a =
      some (r, [], .result (.error (.invalidState .enterStandby .inactive))) := by
  simp [step?, call?, settle, h.enterStandby]

/-- There is no standby to return from. -/
theorem resume_of_gone (h : r.device.Gone) (a : Answers) :
    r.step? (.call .resume) a =
      some (r, [], .result (.error (.invalidState .resume .inactive))) := by
  simp [step?, call?, settle, h.resume]

/-- A shutdown in a run from a device that was just built leaves nothing to reach. -/
theorem gone_of_called {config : Config} {equipment : Equipment} {d : Device} {capacity : Nat}
    {steps : List (Step × Answers)} {log : List Effect}
    (built : Device.build? config equipment = some (.ok d))
    (ran : (ofDevice d capacity).run? steps = some (r, log))
    (called : ∃ b, (.call .shutDown, b) ∈ steps) : r.device.Gone := by
  have coherent : (ofDevice d capacity).device.Coherent := (Device.fresh_of_build? built).coherent
  have up : (ofDevice d capacity).device.isShutDown = false := (Device.uncounted_of_build? built).2
  have down := (isShutDown_iff_of_run? coherent up ran).2 called
  exact gone_of_run? coherent (Device.deviceIndex_of_build? built) ran down

end Rig

/-- After every run with a shutdown in it, whatever came before and after the shutdown, each of five
calls is refused; it calls no one and changes nothing.  An activation and both starts of the stream
are refused for the shutdown, with its code.  Standby and the return from it are refused as out of
place on a device that is inactive, with the code of a device that was not activated. -/
theorem refusals_after_shutDown {config : Config} {equipment : Equipment} {d : Device}
    {capacity : Nat} {r : Rig} {steps : List (Step × Answers)} {log : List Effect}
    (built : Device.build? config equipment = some (.ok d))
    (ran : (Rig.ofDevice d capacity).run? steps = some (r, log))
    (called : ∃ b, (.call .shutDown, b) ∈ steps) (a : Answers) :
    (∀ index, r.step? (.call (.activate index)) a = some (r, [], .result (.error .shutDown))) ∧
    r.step? (.call .startStreaming) a = some (r, [], .result (.error .shutDown)) ∧
    r.step? (.call .streamStart) a = some (r, [], .result (.error .shutDown)) ∧
    activationCode (.error .shutDown) = .shutDown ∧
    r.step? (.call .enterStandby) a =
      some (r, [], .result (.error (.invalidState .enterStandby .inactive))) ∧
    r.step? (.call .resume) a =
      some (r, [], .result (.error (.invalidState .resume .inactive))) ∧
    ∀ c, activationCode (.error (.invalidState c .inactive)) = .notInitialized := by
  have gone := Rig.gone_of_called built ran called
  have closed := Rig.closed_of_gone gone
  exact ⟨fun index => closed.activate index a, closed.startStreaming a, closed.streamStart a, rfl,
    Rig.enterStandby_of_gone gone a, Rig.resume_of_gone gone a, fun _ => rfl⟩

/-- A stream that a shutdown ends, and a deactivation and an activation that come too late. -/
def Rig.endedStream : List (Step × Answers) :=
  Rig.upToStream ++ [(.call .shutDown, .willing), (.call .deactivate, .willing),
    (.call (.activate 1), .willing)]

theorem refusals_after_endedStream : ∃ r log,
    (Rig.ofDevice .standard 4).run? Rig.endedStream = some (r, log) ∧
      r.step? (.call (.activate 0)) .willing = some (r, [], .result (.error .shutDown)) ∧
      r.step? (.call .resume) .willing =
        some (r, [], .result (.error (.invalidState .resume .inactive))) := by
  have runs : ((Rig.ofDevice .standard 4).run? Rig.endedStream).isSome := by decide +kernel
  obtain ⟨⟨r, log⟩, ran⟩ := Option.isSome_iff_exists.1 runs
  obtain ⟨activate, -, -, -, -, resume, -⟩ := refusals_after_shutDown Device.build?_standard ran
    ⟨.willing, by simp [Rig.endedStream]⟩ .willing
  exact ⟨r, log, ran, activate 0, resume⟩

/-- Standby is not refused for the shutdown, nor is the return from it, and the host gets the code
of a device that was not activated. -/
theorem misplaced_after_shutDown : ∃ r log,
    (Rig.ofDevice .standard 4).run? [(.call .shutDown, .willing)] = some (r, log) ∧
      (¬ ∃ r' l, r.step? (.call .enterStandby) .willing =
        some (r', l, .result (.error .shutDown))) ∧
      (¬ ∃ r' l, r.step? (.call .resume) .willing = some (r', l, .result (.error .shutDown))) ∧
      activationCode (.error (.invalidState .enterStandby .inactive)) ≠ .shutDown := by
  have runs : ((Rig.ofDevice .standard 4).run? [(.call .shutDown, .willing)]).isSome := by
    decide +kernel
  obtain ⟨⟨r, log⟩, ran⟩ := Option.isSome_iff_exists.1 runs
  have gone := Rig.gone_of_called Device.build?_standard ran ⟨.willing, by simp⟩
  refine ⟨r, log, ran, ?_, ?_, by decide⟩
  · rintro ⟨r', l, refused⟩
    rw [Rig.enterStandby_of_gone gone] at refused
    cases refused
  · rintro ⟨r', l, refused⟩
    rw [Rig.resume_of_gone gone] at refused
    cases refused

end Headset
