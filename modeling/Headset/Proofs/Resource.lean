import Headset.Device.Effect
import Headset.Proofs.Since

/-!
# Resources in a log

A device acquires things from its collaborators and gives them back: encoders, streams, timers, the
backend for direct mode; the adapter it keeps.  `Resource.Held` says from a log alone what is held
at its end, and `Resource.Alternates` that one is acquired only while none is held and released
only while it is. `Resource.Tracks` keeps the same account step by step; what it arrives at is what
is held (`Tracks.eq_some_iff`), and it has counted right (`Tracks.acquisitions_eq`).
-/

namespace Headset

/-- Every call of a log is as `P` demands of it after the calls before it. -/
def Throughout (P : List Effect → Effect → Prop) (log : List Effect) : Prop :=
  ∀ before e after, log = before ++ e :: after → P before e

/-- A kind of thing that is acquired by some calls and given back by others. -/
structure Resource (κ : Type) where
  /-- The one that a call acquires. -/
  acquired : Effect → Option κ
  /-- The one that a call gives back. -/
  released : Effect → Option κ

namespace Resource

/-- The adapter is asked for, and kept for good. -/
def adapter : Resource Adapter where
  acquired
    | .resolveAdapter _ (.ok a) => some a
    | _ => none
  released _ := none

/-- The backend for direct mode is initialised and shut down. -/
def backend : Resource Unit where
  acquired
    | .renderInitialize _ none => some ()
    | _ => none
  released
    | .renderShutdown => some ()
    | _ => none

/-- An encoder is created and shut down. -/
def encoder : Resource Nat where
  acquired
    | .createEncoder _ _ (.ok n) => some n
    | _ => none
  released
    | .encoderShutdown n => some n
    | _ => none

/-- An encoder is started and stopped. -/
def stream : Resource Nat where
  acquired
    | .encoderStart n none => some n
    | _ => none
  released
    | .encoderStop n => some n
    | _ => none

/-- A timer is started and stopped. -/
def timer : Resource Nat where
  acquired
    | .vsyncStart t _ none => some t
    | _ => none
  released
    | .vsyncStop t => some t
    | _ => none

variable {κ : Type} (ρ : Resource κ)

/-- At the end of a log, `k` has been acquired and has not been released since. -/
def Held (k : κ) (log : List Effect) : Prop :=
  ∃ before e since, log = before ++ e :: since ∧ ρ.acquired e = some k ∧
    ∀ x ∈ since, ρ.released x ≠ some k

/-- One is acquired only while none is held, and released only while it is held. -/
def Alternates (log : List Effect) : Prop :=
  Throughout (fun before e =>
    (∀ k, ρ.acquired e = some k → ∀ j, ¬ ρ.Held j before) ∧
      ∀ k, ρ.released e = some k → ρ.Held k before) log

/-- How often `k` is acquired. -/
def acquisitions [DecidableEq κ] (k : κ) (log : List Effect) : Nat :=
  log.countP fun x => ρ.acquired x = some k

/-- How often `k` is released. -/
def releases [DecidableEq κ] (k : κ) (log : List Effect) : Nat :=
  log.countP fun x => ρ.released x = some k

/-- Nothing is held at the end, and each was released as often as it was acquired. -/
def Settled [DecidableEq κ] (log : List Effect) : Prop :=
  ∀ k, ¬ ρ.Held k log ∧ ρ.releases k log = ρ.acquisitions k log

end Resource

/-! ## The end of a log -/

theorem throughout_nil (P : List Effect → Effect → Prop) : Throughout P [] :=
  atEach_nil

theorem throughout_concat {P : List Effect → Effect → Prop} {log : List Effect} {e : Effect}
    (h : Throughout P log) (last : P log e) : Throughout P (log ++ [e]) :=
  atEach_concat.2 ⟨h, last⟩

namespace Resource

variable {κ : Type} {ρ : Resource κ} {k : κ} {log : List Effect} {e : Effect}

theorem held_iff_since :
    ρ.Held k log ↔ Since (ρ.acquired · = some k) (ρ.released · ≠ some k) log :=
  Iff.rfl

theorem not_held_nil : ¬ ρ.Held k [] := not_since_nil

theorem held_concat :
    ρ.Held k (log ++ [e]) ↔ ρ.acquired e = some k ∨ ρ.Held k log ∧ ρ.released e ≠ some k := by
  rw [held_iff_since, since_concat, held_iff_since]

theorem releases_append [DecidableEq κ] (l m : List Effect) :
    ρ.releases k (l ++ m) = ρ.releases k l + ρ.releases k m :=
  List.countP_append

theorem releases_cons [DecidableEq κ] (x : Effect) (l : List Effect) :
    ρ.releases k (x :: l) = ρ.releases k l + if ρ.released x = some k then 1 else 0 := by
  simp [releases, List.countP_cons]

/-! ## The account of one resource -/

/-- A call acquires only while nothing is held, and releases only what is held. -/
def Allows (ρ : Resource κ) (slot : Option κ) (e : Effect) : Prop :=
  (∀ k, ρ.acquired e = some k → slot = none) ∧ ∀ k, ρ.released e = some k → slot = some k

/-- What is held after a call, of what was held before it. -/
def next (ρ : Resource κ) (slot : Option κ) (e : Effect) : Option κ :=
  match ρ.acquired e with
  | some k => some k
  | none => if (ρ.released e).isSome then none else slot

/-- A log whose calls are all in order, with what is held at its end. -/
inductive Tracks (ρ : Resource κ) : List Effect → Option κ → Prop
  | nil : ρ.Tracks [] none
  | concat {log : List Effect} {slot : Option κ} {e : Effect} (h : ρ.Tracks log slot)
    (allowed : ρ.Allows slot e) : ρ.Tracks (log ++ [e]) (ρ.next slot e)

theorem Allows.next_eq_some_iff {slot : Option κ} (h : ρ.Allows slot e) :
    ρ.next slot e = some k ↔ ρ.acquired e = some k ∨ slot = some k ∧ ρ.released e ≠ some k := by
  unfold next
  cases ha : ρ.acquired e with
  | some j => simp [h.1 j ha]
  | none =>
    cases hr : ρ.released e with
    | none => simp
    | some j =>
      have held := h.2 j hr
      simp [held]

/-- What an account arrives at is what is held. -/
theorem Tracks.eq_some_iff {slot : Option κ} (h : ρ.Tracks log slot) :
    slot = some k ↔ ρ.Held k log := by
  induction h with
  | nil => simp [not_held_nil]
  | concat h allowed ih => rw [allowed.next_eq_some_iff, held_concat, ih]

theorem Tracks.alternates {slot : Option κ} (h : ρ.Tracks log slot) : ρ.Alternates log := by
  induction h with
  | nil => exact throughout_nil _
  | concat h allowed ih =>
    refine throughout_concat ih ⟨fun k hk j held => ?_, fun k hk => ?_⟩
    · have slot := h.eq_some_iff.2 held
      simp [allowed.1 k hk] at slot
    · exact h.eq_some_iff.1 (allowed.2 k hk)

theorem Tracks.acquisitions_eq [DecidableEq κ] {slot : Option κ} (h : ρ.Tracks log slot) :
    ρ.acquisitions k log = ρ.releases k log + if slot = some k then 1 else 0 := by
  induction h with
  | nil => simp [acquisitions, releases]
  | @concat log slot e h allowed ih =>
    have acquired : ρ.acquisitions k (log ++ [e]) =
        ρ.acquisitions k log + if ρ.acquired e = some k then 1 else 0 := by
      simp [acquisitions, List.countP_append, List.countP_cons]
    have released : ρ.releases k (log ++ [e]) =
        ρ.releases k log + if ρ.released e = some k then 1 else 0 := by
      rw [releases_append, releases_cons]
      simp [releases]
    have first : ρ.acquired e = some k → slot ≠ some k := fun ha => by simp [allowed.1 k ha]
    have last := allowed.2 k
    rw [acquired, released, ih]
    simp only [allowed.next_eq_some_iff]
    by_cases hs : slot = some k
    · have ha : ρ.acquired e ≠ some k := fun ha => first ha hs
      by_cases hr : ρ.released e = some k <;> simp [ha, hs, hr]
    · have hr : ρ.released e ≠ some k := fun hr => hs (last hr)
      by_cases ha : ρ.acquired e = some k <;> simp [ha, hs, hr]

theorem Tracks.settled [DecidableEq κ] (h : ρ.Tracks log none) : ρ.Settled log := by
  intro k
  refine ⟨fun held => ?_, ?_⟩
  · simpa using h.eq_some_iff.2 held
  · rw [h.acquisitions_eq]
    simp

end Resource

end Headset
