import Headset.Proofs.Coherence
import Headset.Proofs.Resource

/-!
# The ledger

A ledger holds what has been acquired and not released at some point of a log, and tells which
calls are in order there (`Ledger.Allows`).  What a coherent device has in its fields is such a
ledger, and the calls that it makes follow it: from the ledger of the device before a part of a
call to the ledger of the device after it (`Coherent.follows_part`).  A run starts with an empty
ledger, so its whole log is in order (`follows_of_run?`).
-/

namespace Headset

/-- What is held of the collaborators. -/
structure Ledger where
  adapter : Option Adapter
  backend : Option Unit
  encoder : Option Nat
  stream : Option Nat
  timer : Option Nat

namespace Ledger

def empty : Ledger := ⟨none, none, none, none, none⟩

/-- The calls that are in order.  The adapter is asked for once, and goes to the backend and the
encoder.  Backend, encoder, timer and stream are acquired while there is none, and released while
they are there; a timer and a stream belong to the encoder, which outlives both. -/
def Allows (l : Ledger) : Effect → Prop
  | .resolveAdapter _ _ => l.adapter = none
  | .renderInitialize a _ => l.adapter = some a ∧ l.backend = none
  | .renderShutdown => l.backend = some ()
  | .createEncoder a _ _ => l.adapter = some a ∧ l.encoder = none
  | .vsyncStart _ n _ => l.encoder = some n ∧ l.timer = none
  | .vsyncStop t => l.timer = some t
  | .encoderStart n _ => l.encoder = some n ∧ l.stream = none
  | .encoderStop n => l.encoder = some n ∧ l.stream = some n
  | .presentFrame n _ => l.encoder = some n ∧ l.stream = some n
  | .hostFrame n _ => l.encoder = some n ∧ l.stream = some n
  | .requestKeyframe n => l.encoder = some n
  | .encoderShutdown n => l.encoder = some n ∧ l.stream = none ∧ l.timer = none
  | _ => True

/-- The ledger after a call. -/
def next (l : Ledger) (e : Effect) : Ledger where
  adapter := Resource.adapter.next l.adapter e
  backend := Resource.backend.next l.backend e
  encoder := Resource.encoder.next l.encoder e
  stream := Resource.stream.next l.stream e
  timer := Resource.timer.next l.timer e

/-- The calls of a log are in order one after another, and lead from one ledger to another. -/
def Follows (l : Ledger) : List Effect → Ledger → Prop
  | [], m => m = l
  | e :: log, m => l.Allows e ∧ (l.next e).Follows log m

variable {l m : Ledger} {log : List Effect} {e : Effect}

theorem follows_append {log' : List Effect} :
    l.Follows (log ++ log') m ↔ ∃ k, l.Follows log k ∧ k.Follows log' m := by
  induction log generalizing l with
  | nil => simp [Follows]
  | cons e log ih => simp [Follows, ih, and_assoc]

theorem Follows.append {k : Ledger} {log' : List Effect} (h : l.Follows log k)
    (h' : k.Follows log' m) : l.Follows (log ++ log') m :=
  follows_append.2 ⟨k, h, h'⟩

theorem follows_singleton : l.Follows [e] m ↔ l.Allows e ∧ m = l.next e := by
  simp [Follows]

/-- Calls that are in order and change nothing. -/
theorem follows_of_forall (h : ∀ e ∈ log, l.Allows e ∧ l.next e = l) : l.Follows log l := by
  induction log with
  | nil => rfl
  | cons e log ih =>
    obtain ⟨allowed, same⟩ := h e (by simp)
    refine ⟨allowed, ?_⟩
    rw [same]
    exact ih fun x hx => h x (by simp [hx])

theorem Allows.adapter_next {ad : Adapter} (h : l.Allows e) (known : l.adapter = some ad) :
    (l.next e).adapter = some ad := by
  cases e with
  | resolveAdapter preferred answer =>
    have unknown : l.adapter = none := h
    rw [known] at unknown
    cases unknown
  | _ => exact known

/-- The adapter stays the same from the call that acquires it. -/
theorem Follows.allows_of_adapter {ad : Adapter} (h : l.Follows log m)
    (known : l.adapter = some ad) :
    ∀ x ∈ log, ∃ k : Ledger, k.adapter = some ad ∧ k.Allows x := by
  induction log generalizing l with
  | nil => simp
  | cons e log ih =>
    obtain ⟨allowed, rest⟩ := h
    intro x hx
    rcases List.mem_cons.1 hx with rfl | hx
    · exact ⟨l, known, allowed⟩
    · exact ih rest (allowed.adapter_next known) x hx

/-! ## Calls that acquire or release -/

section Rules

variable {a : Option Adapter} {b : Option Unit} {x s t : Option Nat} {ad : Adapter} {n k : Nat}

theorem follows_resolveAdapter {preferred : Option String} :
    Follows ⟨none, b, x, s, t⟩ [.resolveAdapter preferred (.ok ad)] ⟨some ad, b, x, s, t⟩ :=
  ⟨rfl, rfl⟩

theorem follows_renderInitialize :
    Follows ⟨some ad, none, x, s, t⟩ [.renderInitialize ad none] ⟨some ad, some (), x, s, t⟩ :=
  ⟨⟨rfl, rfl⟩, rfl⟩

theorem follows_renderShutdown :
    Follows ⟨a, some (), x, s, t⟩ [.renderShutdown] ⟨a, none, x, s, t⟩ :=
  ⟨rfl, rfl⟩

theorem follows_createEncoder {stream : StreamConfig} :
    Follows ⟨some ad, b, none, s, t⟩ [.createEncoder ad stream (.ok n)]
      ⟨some ad, b, some n, s, t⟩ :=
  ⟨⟨rfl, rfl⟩, rfl⟩

theorem follows_vsyncStart :
    Follows ⟨a, b, some n, s, none⟩ [.vsyncStart k n none] ⟨a, b, some n, s, some k⟩ :=
  ⟨⟨rfl, rfl⟩, rfl⟩

theorem follows_vsyncStop : Follows ⟨a, b, x, s, some k⟩ [.vsyncStop k] ⟨a, b, x, s, none⟩ :=
  ⟨rfl, rfl⟩

theorem follows_encoderStart :
    Follows ⟨a, b, some n, none, t⟩ [.encoderStart n none] ⟨a, b, some n, some n, t⟩ :=
  ⟨⟨rfl, rfl⟩, rfl⟩

theorem follows_encoderStop :
    Follows ⟨a, b, some n, some n, t⟩ [.encoderStop n] ⟨a, b, some n, none, t⟩ :=
  ⟨⟨rfl, rfl⟩, rfl⟩

theorem follows_encoderShutdown :
    Follows ⟨a, b, some n, none, none⟩ [.encoderShutdown n] ⟨a, b, none, none, none⟩ :=
  ⟨⟨rfl, rfl, rfl⟩, rfl⟩

/-- Whatever is held can be released: first the timer, then the stream, then the encoder, then the
backend. -/
theorem follows_release_timer : Follows ⟨a, b, x, s, t⟩ (t.map .vsyncStop).toList
    ⟨a, b, x, s, none⟩ := by
  cases t with
  | none => rfl
  | some k => exact follows_vsyncStop

theorem follows_release_stream (h : ∀ n, s = some n → x = some n) :
    Follows ⟨a, b, x, s, t⟩ (s.map .encoderStop).toList ⟨a, b, x, none, t⟩ := by
  cases s with
  | none => rfl
  | some n =>
    rw [h n rfl]
    exact follows_encoderStop

theorem follows_release_encoder : Follows ⟨a, b, x, none, none⟩ (x.map .encoderShutdown).toList
    ⟨a, b, none, none, none⟩ := by
  cases x with
  | none => rfl
  | some n => exact follows_encoderShutdown

theorem follows_release_backend {up : Bool} :
    Follows ⟨a, if up then some () else none, x, s, t⟩ (if up then [.renderShutdown] else [])
      ⟨a, none, x, s, t⟩ := by
  cases up with
  | false => rfl
  | true => exact follows_renderShutdown

end Rules

/-- Each call of a log is in order after the calls before it. -/
theorem Follows.split {before after : List Effect} (h : l.Follows (before ++ e :: after) m) :
    ∃ k, l.Follows before k ∧ k.Allows e ∧ (k.next e).Follows after m := by
  obtain ⟨k, first, allowed, rest⟩ := follows_append.1 h
  exact ⟨k, first, allowed, rest⟩

/-! ## One resource of the ledger -/

theorem Allows.backend (h : l.Allows e) : Resource.backend.Allows l.backend e := by
  constructor <;> intro k hk <;> simp only [Resource.backend] at hk <;> split at hk
  · exact h.2
  · cases hk
  · exact h
  · cases hk

theorem Allows.encoder (h : l.Allows e) : Resource.encoder.Allows l.encoder e := by
  constructor <;> intro k hk <;> simp only [Resource.encoder] at hk <;> split at hk
  · exact h.2
  · cases hk
  · exact hk ▸ h.1
  · cases hk

theorem Allows.stream (h : l.Allows e) : Resource.stream.Allows l.stream e := by
  constructor <;> intro k hk <;> simp only [Resource.stream] at hk <;> split at hk
  · exact h.2
  · cases hk
  · exact hk ▸ h.2
  · cases hk

theorem Allows.timer (h : l.Allows e) : Resource.timer.Allows l.timer e := by
  constructor <;> intro k hk <;> simp only [Resource.timer] at hk <;> split at hk
  · exact h.2
  · cases hk
  · exact hk ▸ h
  · cases hk

/-- A slot of the ledger keeps the account of its resource. -/
theorem Follows.tracks {κ : Type} {ρ : Resource κ} (slot : Ledger → Option κ)
    (start : slot empty = none) (next : ∀ l e, slot (Ledger.next l e) = ρ.next (slot l) e)
    (allows : ∀ {l e}, Ledger.Allows l e → ρ.Allows (slot l) e) (h : empty.Follows log l) :
    ρ.Tracks log (slot l) := by
  induction log using List.reverseRecOn generalizing l with
  | nil =>
    obtain rfl : l = empty := h
    rw [start]
    exact .nil
  | append_singleton log e ih =>
    obtain ⟨k, first, last⟩ := follows_append.1 h
    obtain ⟨allowed, rfl⟩ := follows_singleton.1 last
    rw [next]
    exact (ih first).concat (allows allowed)

theorem Follows.backend (h : empty.Follows log l) : Resource.backend.Tracks log l.backend :=
  h.tracks Ledger.backend rfl (fun _ _ => rfl) Allows.backend

theorem Follows.encoder (h : empty.Follows log l) : Resource.encoder.Tracks log l.encoder :=
  h.tracks Ledger.encoder rfl (fun _ _ => rfl) Allows.encoder

theorem Follows.stream (h : empty.Follows log l) : Resource.stream.Tracks log l.stream :=
  h.tracks Ledger.stream rfl (fun _ _ => rfl) Allows.stream

theorem Follows.timer (h : empty.Follows log l) : Resource.timer.Tracks log l.timer :=
  h.tracks Ledger.timer rfl (fun _ _ => rfl) Allows.timer

end Ledger

/-! ## The ledger of a device -/

namespace Device

variable {d e : Device} {log : List Effect}

/-- What a device holds. -/
def ledger (d : Device) : Ledger where
  adapter := d.adapter
  backend := if d.renderReady && d.render.isSome then some () else none
  encoder := d.encoder?
  stream := d.stream?
  timer := d.vsync

theorem encoder?_of_stream? {n : Nat} (h : d.stream? = some n) : d.encoder? = some n := by
  obtain ⟨p, hp, hn⟩ := Option.map_eq_some_iff.1 h
  obtain ⟨hp, -⟩ := Option.filter_eq_some_iff.1 hp
  rw [encoder?_of_pipeline hp, hn]

/-- A call that acquires and releases nothing is in order, and leaves the ledger as it is. -/
theorem allows_of_mayPass {x : Effect} (h : d.MayPass x) :
    d.ledger.Allows x ∧ d.ledger.next x = d.ledger := by
  cases x with
  | encoderStart n fault =>
    cases fault with
    | none => exact h.elim
    | some f => exact ⟨h, rfl⟩
  | presentFrame n t => exact ⟨⟨encoder?_of_stream? h, h⟩, rfl⟩
  | hostFrame n ordinal => exact ⟨⟨encoder?_of_stream? h, h⟩, rfl⟩
  | _ => first | exact h.elim | exact ⟨h, rfl⟩

theorem follows_of_passes (h : ∀ x ∈ log, d.MayPass x) : d.ledger.Follows log d.ledger :=
  Ledger.follows_of_forall fun x hx => allows_of_mayPass (h x hx)

theorem ledger_eq_of_sameFooting (h : d.SameFooting e) : e.ledger = d.ledger := by
  simp [ledger, h.adapter, h.renderReady, h.render, h.encoder?, h.stream?, h.vsync]

theorem follows_begins (h : d.Begins e log) : d.ledger.Follows log e.ledger := by
  obtain @⟨p, before, hp, -, idle, -, passes⟩ := h
  refine (follows_of_passes passes).append ?_
  have quiet : d.ledger = ⟨d.adapter, d.ledger.backend, some p.encoder, none, d.vsync⟩ := by
    simp [ledger, encoder?, stream?, hp, idle, Option.filter]
  rw [quiet]
  exact Ledger.follows_encoderStart

theorem follows_haltStream (d : Device) :
    d.ledger.Follows d.haltStream.log d.haltStream.device.ledger := by
  have halted : d.haltStream.device.ledger = { d.ledger with stream := none } := by
    simp only [ledger, stream?_haltStream]
    rw [haltStream_device]
    simp [encoder?, Function.comp_def]
  rw [halted, haltStream_log]
  exact Ledger.follows_release_stream fun n => encoder?_of_stream?

theorem follows_teardown (d : Device) :
    d.ledger.Follows d.teardown.log d.teardown.device.ledger := by
  have torn : d.teardown.device.ledger = ⟨d.adapter, none, none, none, none⟩ := by
    rw [teardown_device]
    rfl
  rw [torn, teardown_log]
  exact ((Ledger.follows_release_timer.append
    (Ledger.follows_release_stream fun n => encoder?_of_stream?)).append
    Ledger.follows_release_encoder).append Ledger.follows_release_backend

/-! ## Activations -/

/-- The ledger of a device that is not in use. -/
theorem Coherent.ledger_eq (h : d.Coherent) (hs : d.state = .inactive) :
    d.ledger = ⟨d.adapter, none, none, none, none⟩ := by
  simp [ledger, encoder?, stream?, h.pipeline_eq_none hs, h.vsync_eq_none hs, h.not_renderReady hs]

theorem Resolves.follows {a : Answers} {ad : Adapter} (h : d.Resolves a ad log) :
    Ledger.Follows ⟨d.adapter, none, none, none, none⟩ log ⟨some ad, none, none, none, none⟩ := by
  cases h with
  | known hd =>
    rw [hd]
    rfl
  | asked hd ha =>
    rw [hd]
    exact Ledger.follows_resolveAdapter

/-- The ledger while the stages of an activation go on: the adapter is known, and the backend is
initialised if there is one. -/
def opened (d : Device) (ad : Adapter) : Ledger :=
  ⟨some ad, if d.render.isSome then some () else none, none, none, none⟩

theorem follows_opening {index : UInt32} {a : Answers} {ad : Adapter} (h : d.Resolves a ad log) :
    Ledger.Follows ⟨d.adapter, none, none, none, none⟩ (d.opening index ad log)
      (d.opened ad) := by
  refine h.follows.append ⟨trivial, ?_⟩
  unfold backendUp opened
  split
  · exact Ledger.follows_renderInitialize
  · rfl

theorem follows_backendDown (d : Device) (ad : Adapter) : (d.opened ad).Follows d.backendDown
    ⟨some ad, none, none, none, none⟩ :=
  Ledger.follows_release_backend

theorem follows_undone (d : Device) (ad : Adapter) (n : Nat) :
    Ledger.Follows { d.opened ad with encoder := some n } (.encoderShutdown n :: d.backendDown)
      ⟨some ad, none, none, none, none⟩ :=
  Ledger.follows_encoderShutdown.append (d.follows_backendDown ad)

theorem ledger_activated (d : Device) (index : UInt32) (n : Nat) :
    (d.activated index (.ofEncoder n)).ledger =
      { d.ledger with encoder := some n, stream := none } :=
  rfl

/-- An activation that fails gives back what it has acquired, apart from the adapter. -/
theorem Allocation.follows {index : UInt32} {a : Answers}
    {o : Outcome (Except DriverError Pacer)} (h : d.Allocation index a o)
    (idle : d.ledger = ⟨d.adapter, none, none, none, none⟩) :
    (∀ e, o.answer = .error e → d.ledger.Follows o.log o.device.ledger) ∧
      ∀ p, o.answer = .ok p → d.ledger.Follows o.log (o.device.activated index p).ledger := by
  have idleWith : ∀ ad, ({ d with adapter := some ad } : Device).ledger =
      ⟨some ad, none, none, none, none⟩ := fun ad =>
    congrArg (fun l => { l with adapter := some ad }) idle
  rw [idle]
  cases h with
  | adapter hd ha =>
    refine ⟨fun _ _ => ?_, by simp⟩
    simp only [idle, hd]
    exact ⟨rfl, rfl⟩
  | display hr hf =>
    refine ⟨fun _ _ => ?_, by simp⟩
    rw [idleWith]
    exact hr.follows.append ⟨trivial, rfl⟩
  | renderBackend hr hdisplay hb hf =>
    refine ⟨fun _ _ => ?_, by simp⟩
    rw [idleWith]
    exact hr.follows.append ⟨trivial, ⟨rfl, rfl⟩, rfl⟩
  | @encoder ad _ _ hr hdisplay hb hf =>
    refine ⟨fun _ _ => ?_, by simp⟩
    rw [idleWith]
    exact (follows_opening hr).append ⟨⟨rfl, rfl⟩, d.follows_backendDown ad⟩
  | @timer ad _ n _ hr hdisplay hb he hf =>
    refine ⟨fun _ _ => ?_, by simp⟩
    rw [idleWith]
    exact (follows_opening hr).append (Ledger.follows_createEncoder.append
      ⟨trivial, d.follows_undone ad n⟩)
  | @timerStart ad _ n _ _ hr hdisplay hb he ht hf =>
    refine ⟨fun _ _ => ?_, by simp⟩
    rw [idleWith]
    exact (follows_opening hr).append (Ledger.follows_createEncoder.append
      ⟨trivial, ⟨rfl, rfl⟩, d.follows_undone ad n⟩)
  | @done ad _ n t hr hdisplay hb he ht hs =>
    refine ⟨by simp, fun p hp => ?_⟩
    cases hp
    have backend : (d.opened ad).backend =
        if d.render.isSome && d.render.isSome then some () else none := by simp [opened]
    refine (follows_opening hr).append (Ledger.follows_createEncoder.append
      ⟨trivial, ?_⟩)
    rw [ledger_activated, ledger, ← backend]
    exact Ledger.follows_vsyncStart

/-! ## Parts, calls and runs -/

/-- The calls that a part makes are in order. -/
theorem Coherent.follows_part (h : d.Coherent) (k : d.Part e log) :
    d.ledger.Follows log e.ledger := by
  cases k with
  | stays k =>
    rw [ledger_eq_of_sameFooting k.footing]
    exact follows_of_passes k.passes
  | begins k => exact follows_begins k
  | halts => exact follows_haltStream d
  | tearsDown used => exact follows_teardown d
  | fails up hs ho he => exact (ho.follows (h.ledger_eq hs)).1 _ he
  | activates up hs ho hp => exact (ho.follows (h.ledger_eq hs)).2 _ hp
  | queues | forgets | resumes | rests | leaves => rfl

theorem Coherent.follows_parts (h : d.Coherent) (k : d.Parts e log) :
    d.ledger.Follows log e.ledger := by
  induction k with
  | nil d => rfl
  | cons first rest ih => exact (h.follows_part first).append (ih (h.part first))

/-- The owner lets go of a device: what it held is given back. -/
theorem Coherent.follows_drop (h : d.Coherent) :
    d.ledger.Follows d.drop.log ⟨d.adapter, none, none, none, none⟩ := by
  unfold drop
  split
  · have torn : d.teardown.device.ledger = ⟨d.adapter, none, none, none, none⟩ := by
      rw [teardown_device]
      rfl
    rw [← torn]
    exact follows_teardown d
  · next idle =>
    have hs : d.state = .inactive := by
      by_contra used
      exact idle (.inl (h.vsync_isSome_iff.2 used))
    exact (h.ledger_eq hs).symm

end Device

/-- The log of a run is in order, and leads to what the device holds at its end. -/
theorem Rig.follows_of_run? {start r : Rig} {steps : List (Step × Answers)} {log : List Effect}
    (h : start.device.Coherent) (ran : start.run? steps = some (r, log)) :
    start.device.ledger.Follows log r.device.ledger := by
  refine run?_induction (motive := fun _ r log => start.device.ledger.Follows log r.device.ledger)
    rfl ?_ ran
  intro steps m before s a r l reply hm ih hl
  have coherent := coherent_of_run? h hm
  have parts := (takes_of_step? coherent.quiet hl).parts coherent.in_use_of_renderReady
  exact ih.append (coherent.follows_parts parts)

theorem Device.Fresh.ledger_eq {d : Device} {config : Config} {equipment : Equipment}
    (h : d.Fresh config equipment) : d.ledger = .empty := by
  rw [h.coherent.ledger_eq h.state, h.adapter]
  rfl

end Headset
