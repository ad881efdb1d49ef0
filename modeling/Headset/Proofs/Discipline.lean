import Headset.Proofs.Ledger

/-!
# The discipline of a log

What a device may do with its collaborators, said of the log of their calls alone.  A log that
follows the ledger from its empty start is disciplined (`Ledger.Follows.disciplined`), and it is
settled once nothing is held (`Ledger.Follows.settled`).  So every run of a device is disciplined,
and is settled whenever the device is out of use (`discipline_of_run`).
-/

namespace Headset

/-- The encoder that a call is made on. -/
def Effect.encoder? : Effect → Option Nat
  | .encoderStart n _ => some n
  | .encoderStop n => some n
  | .presentFrame n _ => some n
  | .hostFrame n _ => some n
  | .requestKeyframe n => some n
  | .encoderShutdown n => some n
  | _ => none

/-- The encoder that a call hands a frame to. -/
def Effect.framed? : Effect → Option Nat
  | .presentFrame n _ => some n
  | .hostFrame n _ => some n
  | _ => none

/-- The collaborators are called in order. -/
structure Disciplined (log : List Effect) : Prop where
  encoder : Resource.encoder.Alternates log
  stream : Resource.stream.Alternates log
  timer : Resource.timer.Alternates log
  backend : Resource.backend.Alternates log
  /-- An encoder is called only between its creation and its shutdown. -/
  called : Throughout (fun before e =>
    ∀ n, e.encoder? = some n → Resource.encoder.Held n before) log
  /-- An encoder is handed a frame only between its start and the next stop. -/
  framed : Throughout (fun before e =>
    ∀ n, e.framed? = some n → Resource.stream.Held n before) log
  /-- A timer starts on the encoder that is there. -/
  timed : Throughout (fun before e =>
    ∀ t n f, e = .vsyncStart t n f → Resource.encoder.Held n before) log
  /-- No timer runs and no stream is on when an encoder is shut down. -/
  last : Throughout (fun before e => ∀ n, e = .encoderShutdown n →
    (∀ t, ¬ Resource.timer.Held t before) ∧ ∀ m, ¬ Resource.stream.Held m before) log

/-- Everything that was acquired has been released, once each. -/
structure Settled (log : List Effect) : Prop where
  encoder : Resource.encoder.Settled log
  stream : Resource.stream.Settled log
  timer : Resource.timer.Settled log
  backend : Resource.backend.Settled log

/-! ## The ledger and the log -/

namespace Ledger

variable {l : Ledger} {log : List Effect}

/-- What calls need of the ledger they need of the log before them. -/
theorem Follows.throughout {P : List Effect → Effect → Prop} (h : empty.Follows log l)
    (step : ∀ {before l e}, empty.Follows before l → Ledger.Allows l e → P before e) :
    Throughout P log := by
  rintro before e after rfl
  obtain ⟨k, first, allowed, -⟩ := h.split
  exact step first allowed

theorem Allows.encoder_eq {e : Effect} {n : Nat} (h : l.Allows e) (he : e.encoder? = some n) :
    l.encoder = some n := by
  cases e with
  | requestKeyframe m =>
    cases he
    exact h
  | encoderStart | encoderStop | presentFrame | hostFrame | encoderShutdown =>
    cases he
    exact h.1
  | _ => cases he

theorem Allows.stream_eq {e : Effect} {n : Nat} (h : l.Allows e) (he : e.framed? = some n) :
    l.stream = some n := by
  cases e with
  | presentFrame | hostFrame =>
    cases he
    exact h.2
  | _ => cases he

theorem Follows.disciplined (h : empty.Follows log l) : Disciplined log where
  encoder := h.encoder.alternates
  stream := h.stream.alternates
  timer := h.timer.alternates
  backend := h.backend.alternates
  called := h.throughout fun first allowed n he =>
    first.encoder.eq_some_iff.1 (allowed.encoder_eq he)
  framed := h.throughout fun first allowed n he =>
    first.stream.eq_some_iff.1 (allowed.stream_eq he)
  timed := h.throughout fun first allowed t n f he => by
    subst he
    exact first.encoder.eq_some_iff.1 allowed.1
  last := h.throughout fun first allowed n he => by
    subst he
    obtain ⟨-, noStream, noTimer⟩ := allowed
    refine ⟨fun t held => ?_, fun m held => ?_⟩
    · simpa [noTimer] using first.timer.eq_some_iff.2 held
    · simpa [noStream] using first.stream.eq_some_iff.2 held

/-- A log that leads to a ledger without anything but the adapter is settled. -/
theorem Follows.settled {a : Option Adapter} (h : empty.Follows log ⟨a, none, none, none, none⟩) :
    Settled log where
  encoder := h.encoder.settled
  stream := h.stream.settled
  timer := h.timer.settled
  backend := h.backend.settled

end Ledger

/-! ## Teardowns -/

namespace Device

variable {d : Device}

/-- The calls that take a device out of use: the timer stops before the stream does, and the encoder
is shut down before the backend. -/
def closing (d : Device) (timer encoder : Nat) : List Effect :=
  .vsyncStop timer :: (if d.isStreaming then [.encoderStop encoder] else []) ++
    .encoderShutdown encoder :: d.backendDown

theorem stream?_of_encoder? {n : Nat} (hn : d.encoder? = some n) :
    d.stream? = if d.isStreaming then some n else none := by
  obtain ⟨p, hp, rfl⟩ := Option.map_eq_some_iff.1 hn
  cases hs : p.streaming <;> simp [stream?, isStreaming, hp, hs, Option.filter]

theorem Coherent.teardown_log_eq {t n : Nat} (h : d.Coherent) (ht : d.vsync = some t)
    (hn : d.encoder? = some n) : d.teardown.log = d.closing t n := by
  have used : d.state ≠ .inactive := h.vsync_isSome_iff.1 (by simp [ht])
  have backend : (d.renderReady && d.render.isSome) = d.render.isSome := by
    cases hb : d.render.isSome with
    | false => simp
    | true => simp [h.renderReady_iff.2 ⟨used, hb⟩]
  rw [teardown_log, ht, hn, stream?_of_encoder? hn, backend]
  cases hs : d.isStreaming <;> simp [closing, backendDown, hs]

/-- A device in use is taken out of use by a teardown, whoever does it. -/
theorem deactivate_eq_teardown (used : d.state ≠ .inactive) : d.deactivate = d.teardown := by
  simp [deactivate, used]

theorem shutDown_log_eq_teardown (used : d.state ≠ .inactive) :
    d.shutDown.log = d.teardown.log := by
  have marked : ({ d with isShutDown := true } : Device).teardown.log = d.teardown.log := by
    rw [teardown_log, teardown_log]
    rfl
  simp [shutDown, used, marked]

theorem Coherent.drop_eq_teardown (h : d.Coherent) (used : d.state ≠ .inactive) :
    d.drop = d.teardown := by
  simp [drop, h.vsync_isSome_iff.2 used]

end Device

/-- In every run of a device its collaborators are called in order, also when its owner lets go of
it at the end.  -/
theorem discipline_of_run {config : Config} {equipment : Equipment} {d : Device} {capacity : Nat}
    {r : Rig} {steps : List (Step × Answers)} {log : List Effect}
    (built : Device.build? config equipment = some (.ok d))
    (ran : (Rig.ofDevice d capacity).run? steps = some (r, log)) :
    Disciplined log ∧ Disciplined (log ++ r.device.drop.log) ∧
    (r.device.state = .inactive → Settled log) ∧ Settled (log ++ r.device.drop.log) ∧
    (r.device.state ≠ .inactive → ∃ t n, Resource.timer.Held t log ∧ Resource.encoder.Held n log ∧
      r.device.deactivate.log = r.device.closing t n ∧
      r.device.shutDown.log = r.device.closing t n ∧ r.device.drop.log = r.device.closing t n) := by
  have fresh : (Rig.ofDevice d capacity).device.Fresh config equipment :=
    Device.fresh_of_build? built
  have coherent := Rig.coherent_of_run? fresh.coherent ran
  have follows : Ledger.empty.Follows log r.device.ledger := by
    rw [← fresh.ledger_eq]
    exact Rig.follows_of_run? fresh.coherent ran
  have dropped := follows.append coherent.follows_drop
  refine ⟨follows.disciplined, dropped.disciplined, fun hs => ?_, dropped.settled, fun used => ?_⟩
  · rw [coherent.ledger_eq hs] at follows
    exact follows.settled
  · obtain ⟨t, ht⟩ := Option.isSome_iff_exists.1 (coherent.vsync_isSome_iff.2 used)
    obtain ⟨p, hp⟩ := Option.isSome_iff_exists.1 (coherent.pipeline_isSome_iff.2 used)
    have hn := Device.encoder?_of_pipeline hp
    have closing := coherent.teardown_log_eq ht hn
    refine ⟨t, p.encoder, follows.timer.eq_some_iff.1 ht, follows.encoder.eq_some_iff.1 hn,
      ?_, ?_, ?_⟩
    · rw [Device.deactivate_eq_teardown used]
      exact closing
    · rw [Device.shutDown_log_eq_teardown used]
      exact closing
    · rw [coherent.drop_eq_teardown used]
      exact closing

theorem discipline_while_streaming :
    ∃ r log t n, (Rig.ofDevice .standard 4).run? Rig.upToStream = some (r, log) ∧
      Disciplined log ∧ Resource.timer.Held t log ∧ Resource.encoder.Held n log ∧
      r.device.drop.log =
        [.vsyncStop t, .encoderStop n, .encoderShutdown n, .renderShutdown] := by
  obtain ⟨r, log, ran, streaming, hs, render⟩ := Rig.run?_upToStream
  obtain ⟨disciplined, -, -, -, teardowns⟩ := discipline_of_run Device.build?_standard ran
  obtain ⟨t, n, timer, encoder, -, -, closing⟩ := teardowns (by simp [hs])
  refine ⟨r, log, t, n, ran, disciplined, timer, encoder, ?_⟩
  simp [closing, Device.closing, Device.backendDown, streaming, render]

end Headset
