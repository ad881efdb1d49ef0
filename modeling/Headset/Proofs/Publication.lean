import Headset.Proofs.Queries
import Headset.Proofs.Shutdown

/-!
# The index of a device

The host knows a device that is in use by the index of its last activation, and a device out of use
by none.  The largest index stands for no index: a device that is activated with it is in use, but
has none.  Updates of the pose and of the views reach the host under the index, and not at all
without one (`publication_of_run`).
-/

namespace Headset

/-- What the host is told of a pose or of views. -/
def Effect.isAnnouncement : Effect → Bool
  | .poseUpdated .. => true
  | .eyeGeometryChanged .. => true
  | _ => false

namespace Device

/-- An activation with this index that succeeds. -/
def ActivatesAs (d : Device) (s : Step) (a : Answers) (index : UInt32) : Prop :=
  s = .call (.activate index) ∧ (d.activate index a).answer = .ok ()

/-- What a step does to the index of a device. -/
inductive Assigns (d : Device) (a : Answers) (s : Step) (e : Device) : Prop
  | keeps (index : e.deviceIndex = d.deviceIndex) (use : e.state = .inactive ↔ d.state = .inactive)
    (other : ∀ i, ¬ d.ActivatesAs s a i)
  | activates {i : UInt32} (activates : d.ActivatesAs s a i) (used : e.state ≠ .inactive)
    (index : e.deviceIndex = indexOf? i)
  | withdraws (index : e.deviceIndex = none) (unused : e.state = .inactive)
    (other : ∀ i, ¬ d.ActivatesAs s a i)

end Device

def Moment.ActivatesAs (x : Moment) (index : UInt32) : Prop :=
  x.before.device.ActivatesAs x.step x.answers index

/-- The last activation that succeeded was the one with this index. -/
def LastActivation (index : UInt32) (moments : List Moment) : Prop :=
  Since (·.ActivatesAs index) (fun x => ∀ i, ¬ x.ActivatesAs i) moments

/-! ## One step -/

namespace Device

variable {d e : Device} {a : Answers} {s : Step} {index : UInt32} {log : List Effect}

theorem ActivatesAs.unique {i j : UInt32} (h : d.ActivatesAs s a i) (k : d.ActivatesAs s a j) :
    i = j := by
  obtain ⟨rfl, -⟩ := h
  obtain ⟨same, -⟩ := k
  cases same
  rfl

theorem aside_deviceIndex : Aside deviceIndex := fun _ _ _ _ _ => rfl

theorem Activation.assigns {o : Outcome (Except DriverError Unit)} (h : d.Activation index a o)
    (same : d.activate index a = o) : d.Assigns a (.call (.activate index)) o.device := by
  have other (failed : o.answer ≠ .ok ()) (i : UInt32) :
      ¬ d.ActivatesAs (.call (.activate index)) a i := by
    rintro ⟨hs, ok⟩
    cases hs
    exact failed (same ▸ ok)
  cases h with
  | shutDown | refused => exact .keeps rfl .rfl (other (by simp))
  | failed up hs ho he =>
    refine .keeps ?_ ?_ (other (by simp))
    · cases ho <;> rfl
    · simp [withStatus, hs]
  | done up hs ho hp =>
    refine .activates ⟨rfl, by rw [same]⟩ ?_ (aside_deviceIndex.startPending ..)
    simp [state_startPending, activated, withStatus]

theorem assigns_of_takes (h : d.Takes a s e log) (coherent : d.Coherent) : d.Assigns a s e := by
  have state := coherent.state_of_takes h
  have keeps (other : ∀ i, s ≠ .call (.activate i)) (index : e.deviceIndex = d.deviceIndex)
      (use : d.state.advance (d.operation? a s) = .inactive ↔ d.state = .inactive) :
      d.Assigns a s e :=
    .keeps index (by rw [state, use]) fun i activates => other i activates.1
  cases h with
  | activate index => exact (activate_cases coherent.in_use_of_renderReady index a).assigns rfl
  | deactivate =>
    unfold deactivate
    split
    · exact .keeps rfl .rfl (by simp [ActivatesAs])
    · rw [teardown_device]
      exact .withdraws rfl rfl (by simp [ActivatesAs])
  | enterStandby =>
    refine keeps (by simp) (aside_deviceIndex.enterStandby d) ?_
    cases d.state <;> simp [operation?, ActivationState.advance, transition]
  | resume =>
    refine keeps (by simp) (aside_deviceIndex.resume d a) ?_
    cases d.state <;> simp [operation?, ActivationState.advance, transition]
  | shutDown =>
    unfold shutDown
    dsimp only
    split
    · rw [teardown_device]
      exact .withdraws rfl rfl (by simp [ActivatesAs])
    · exact .keeps rfl .rfl (by simp [ActivatesAs])
  | startStreaming => exact keeps (by simp) (aside_deviceIndex.startStreaming d a) .rfl
  | stopStreaming => exact keeps (by simp) (aside_deviceIndex.stopStreaming d) .rfl
  | streamStart =>
    refine keeps (by simp) (aside_deviceIndex.streamStart d a) ?_
    cases hs : d.state <;> simp [operation?, ActivationState.advance, transition, hs]
  | other hs stays =>
    refine keeps ?_ stays.footing.deviceIndex (by rw [operation?_of_not_steers hs]; rfl)
    rintro i rfl
    cases hs

/-! ## Announcements -/

/-- A pose that came in is announced under the index, and so is nothing else. -/
theorem announced_poseUpdated? {h : History} {o : Outcome Unit} {p : DevicePose}
    (asked : (d.getPose? h a).map (·.answer) = some p) (ho : d.poseUpdated? h a = some o) :
    o.log.filter Effect.isAnnouncement = (d.deviceIndex.map (.poseUpdated · p)).toList := by
  obtain ⟨q, hq, rfl⟩ := Option.map_eq_some_iff.1 ho
  have index : q.device.deviceIndex = d.deviceIndex := (stays_getPose? hq).footing.deviceIndex
  obtain rfl : q.answer = p := by simpa [hq] using asked
  have looks : q.log.filter Effect.isAnnouncement = [] := by
    refine List.filter_eq_nil_iff.2 fun x hx => ?_
    rcases log_getPose? hq x hx with rfl | ⟨time, rfl⟩ <;> simp [Effect.isAnnouncement]
  have marks : (q.device.markFresh h).log.filter Effect.isAnnouncement = [] := by
    refine List.filter_eq_nil_iff.2 fun x hx => ?_
    simp [log_markFresh _ _ x hx, Effect.isAnnouncement]
  simp only [List.filter_append, looks, marks, index, List.nil_append, List.append_nil]
  refine (congrArg₂ (· ++ ·) ?_ ?_).trans (List.append_nil _)
  · cases d.deviceIndex <;> rfl
  · split
    · split <;> rfl
    · rfl

theorem announced_tracking? {h h' : History} {packet : TrackingPacket} {o : Outcome Unit}
    {p : DevicePose} (headed : packet.head.isSome) (there : d.relays.isSome)
    (asked : (d.getPose? h' a).map (·.answer) = some p)
    (ho : d.tracking? h packet a = some (h', o)) :
    o.log.filter Effect.isAnnouncement = (d.deviceIndex.map (.poseUpdated · p)).toList := by
  cases tracking?_cases ho with
  | headless headless => simp [headless] at headed
  | lost _ gone => simp [gone] at there
  | @relayed head u _ _ hu =>
    have announced :=
      announced_poseUpdated? ((d.answer_getPose?_withLatency _ _ a).trans asked) hu
    have handled :
        (u.device.updateControllers packet a).log.filter Effect.isAnnouncement = [] := by
      refine List.filter_eq_nil_iff.2 fun x hx => ?_
      rcases log_updateControllers _ _ _ x hx with
        ⟨n, active, rfl⟩ | ⟨n, tracking, target, rfl⟩ <;> simp [Effect.isAnnouncement]
    rw [List.cons_append, List.filter_cons_of_neg (by simp [Effect.isAnnouncement]),
      List.filter_append, handled, List.append_nil, announced]

/-- Views that are valid are announced under the index. -/
theorem announced_setViews (d : Device) {views : Views} (valid : views.isValid = true) :
    (d.setViews views).log.filter Effect.isAnnouncement =
      (d.deviceIndex.map (.eyeGeometryChanged · views)).toList := by
  simp only [setViews, Display.publish?, if_pos valid]
  cases d.deviceIndex <;> rfl

end Device

/-! ## Runs -/

/-- A device in use has the index of its last activation, and one out of use has none. -/
structure Device.Published (d : Device) (moments : List Moment) : Prop where
  used : d.state ≠ .inactive →
    ∃ i, LastActivation i moments ∧ d.deviceIndex = Device.indexOf? i
  unused : d.state = .inactive → d.deviceIndex = none

theorem Device.Published.concat {x : Moment} {moments : List Moment}
    (h : x.before.device.Published moments)
    (assigns : x.before.device.Assigns x.answers x.step x.after.device) :
    x.after.device.Published (moments ++ [x]) := by
  cases assigns with
  | keeps index use other =>
    constructor
    · intro used
      obtain ⟨i, last, indexed⟩ := h.used (use.not.1 used)
      exact ⟨i, since_concat.2 (.inr ⟨last, other⟩), index.trans indexed⟩
    · exact fun unused => index.trans (h.unused (use.1 unused))
  | activates activates used index =>
    exact ⟨fun _ => ⟨_, since_concat.2 (.inl activates), index⟩, fun unused => absurd unused used⟩
  | withdraws index unused other => exact ⟨fun used => absurd unused used, fun _ => index⟩

theorem LastActivation.unique {i j : UInt32} {moments : List Moment} (h : LastActivation i moments)
    (k : LastActivation j moments) : i = j :=
  since_unique (P := fun i x => Moment.ActivatesAs x i) Device.ActivatesAs.unique h k

namespace Rig

variable {start r r' : Rig} {steps : List (Step × Answers)} {s : Step} {a : Answers}
  {log l : List Effect} {reply : Reply}

theorem published_of_run? (h : start.device.Coherent) (unused : start.device.state = .inactive)
    (unindexed : start.device.deviceIndex = none) (ran : start.run? steps = some (r, log)) :
    r.device.Published (start.moments steps) := by
  refine run?_induction (motive := fun steps r _ => r.device.Published (start.moments steps))
    ⟨fun used => absurd unused used, fun _ => unindexed⟩ ?_ ran
  intro steps m before s a r l reply ran published step
  have coherent := coherent_of_run? h ran
  rw [moments_concat ran step]
  exact Device.Published.concat (x := ⟨m, s, a, l, r⟩) published
    (Device.assigns_of_takes (takes_of_step? coherent.quiet step) coherent)

theorem queriesPose_of_bringsPose {x : Moment} (up : x.before.device.isShutDown = false)
    (brings : x.step.bringsPose = true) : x.queriesPose = true := by
  obtain ⟨before, s, a, l, after⟩ := x
  cases s with
  | call c =>
    cases c with
    | poseUpdated => rfl
    | tracking packet =>
      have headed : packet.head.isSome = true := brings
      simpa [Moment.queriesPose, headed] using up
    | _ => cases brings
  | _ => cases brings

/-- A step that brings in a pose has it announced, as it answers for it. -/
theorem announced_of_bringsPose (h : r.device.Coherent) (up : r.device.isShutDown = false)
    (brings : s.bringsPose = true) (step : r.step? s a = some (r', l, reply)) :
    ∃ p, Moment.pose? ⟨r, s, a, l, r'⟩ = some p ∧ l.filter Effect.isAnnouncement =
      (r.device.deviceIndex.map (.poseUpdated · p)).toList := by
  have queries := queriesPose_of_bringsPose (x := ⟨r, s, a, l, r'⟩) up brings
  obtain ⟨p, queried, -⟩ := queried_of_step? h up step queries
  refine ⟨p, by simpa [Moment.pose?, queries] using queried.asked, ?_⟩
  cases s with
  | call c =>
    cases c with
    | poseUpdated =>
      obtain ⟨o, ho, step⟩ := Option.map_eq_some_iff.1 step
      cases step
      exact Device.announced_poseUpdated? queried.asked ho
    | tracking packet =>
      obtain ⟨⟨history, o⟩, ho, step⟩ := Option.map_eq_some_iff.1 step
      cases step
      exact Device.announced_tracking? brings (h.relays_isSome_iff.2 up) queried.asked ho
    | _ => cases brings
  | _ => cases brings

end Rig

/-- After every run a device has the index `i` if and only if it is in use, was last activated with
`i`, and `i` is not the largest index.  While it is in use, a pose that comes in is announced to the
host under the index of the last activation, and so are views that are valid; if that is the largest
index, neither is announced. -/
theorem publication_of_run {config : Config} {equipment : Equipment} {d : Device} {capacity : Nat}
    {r : Rig} {steps : List (Step × Answers)} {log : List Effect}
    (built : Device.build? config equipment = some (.ok d))
    (ran : (Rig.ofDevice d capacity).run? steps = some (r, log)) :
    ((Rig.ofDevice d capacity).moments steps).map (fun x => (x.step, x.answers)) = steps ∧
    (∀ i, r.device.deviceIndex = some i ↔ (r.device.state = .active ∨ r.device.state = .standby) ∧
      LastActivation i ((Rig.ofDevice d capacity).moments steps) ∧ i ≠ 0xffffffff) ∧
    (r.device.state = .active ∨ r.device.state = .standby →
      ∃ i, LastActivation i ((Rig.ofDevice d capacity).moments steps) ∧
        ∀ s a r' l reply, r.step? s a = some (r', l, reply) →
          (s.bringsPose = true → ∃ p, Moment.pose? ⟨r, s, a, l, r'⟩ = some p ∧
            l.filter Effect.isAnnouncement =
              if i = 0xffffffff then [] else [.poseUpdated i p]) ∧
          ∀ views, s = .call (.setViews views) → views.isValid = true →
            l.filter Effect.isAnnouncement =
              if i = 0xffffffff then [] else [.eyeGeometryChanged i views]) := by
  have fresh : (Rig.ofDevice d capacity).device.Fresh config equipment :=
    Device.fresh_of_build? built
  have coherent := Rig.coherent_of_run? fresh.coherent ran
  have published := Rig.published_of_run? fresh.coherent fresh.state
    (Device.deviceIndex_of_build? built) ran
  have used : (r.device.state = .active ∨ r.device.state = .standby) ↔
      r.device.state ≠ .inactive := by
    have settled := coherent.settled
    cases hs : r.device.state <;> simp_all
  have listed (i : UInt32) (news : UInt32 → Effect) :
      ((Device.indexOf? i).map news).toList = if i = 0xffffffff then [] else [news i] := by
    unfold Device.indexOf?
    split <;> rfl
  refine ⟨(Rig.moments_of_run? ran).1, fun i => ?_, fun active => ?_⟩
  · rw [used]
    constructor
    · intro index
      have used : r.device.state ≠ .inactive := fun unused => by
        simp [published.unused unused] at index
      obtain ⟨j, last, indexed⟩ := published.used used
      rw [index, Device.indexOf?] at indexed
      split at indexed
      · cases indexed
      · next small =>
        cases indexed
        exact ⟨used, last, small⟩
    · rintro ⟨used, last, small⟩
      obtain ⟨j, last', indexed⟩ := published.used used
      rw [indexed, last'.unique last, Device.indexOf?, if_neg small]
  · have used := used.1 active
    obtain ⟨i, last, indexed⟩ := published.used used
    refine ⟨i, last, fun s a r' l reply step => ⟨fun brings => ?_, ?_⟩⟩
    · obtain ⟨p, pose, announced⟩ :=
        Rig.announced_of_bringsPose coherent (coherent.up_of_used used) brings step
      exact ⟨p, pose, by rw [announced, indexed, listed]⟩
    · rintro views rfl valid
      cases step
      exact (Device.announced_setViews _ valid).trans (by rw [indexed, listed])

theorem publication_while_streaming : ∃ r log r' l reply p,
    (Rig.ofDevice .standard 4).run? Rig.upToStream = some (r, log) ∧
      LastActivation 0 ((Rig.ofDevice .standard 4).moments Rig.upToStream) ∧
      r.device.deviceIndex = some 0 ∧
      r.step? (.call .poseUpdated) .willing = some (r', l, reply) ∧
      l.filter Effect.isAnnouncement = [.poseUpdated 0 p] := by
  have goesOn : ((Rig.ofDevice .standard 4).run?
      (Rig.upToStream ++ [(.call .poseUpdated, .willing)])).isSome := by decide +kernel
  have indexed : ((Rig.ofDevice .standard 4).run? Rig.upToStream).any fun x =>
      decide (x.1.device.deviceIndex = some 0) := by
    decide +kernel
  obtain ⟨⟨r', log'⟩, ran'⟩ := Option.isSome_iff_exists.1 goesOn
  obtain ⟨r, log, l, reply, ran, step, -⟩ := Rig.run?_concat_eq_some.1 ran'
  have indexed : r.device.deviceIndex = some 0 := by simpa [ran] using indexed
  obtain ⟨-, index, announces⟩ := publication_of_run Device.build?_standard ran
  obtain ⟨used, last, -⟩ := (index 0).1 indexed
  obtain ⟨i, last', announces⟩ := announces used
  obtain rfl := last'.unique last
  obtain ⟨p, -, announced⟩ := (announces _ _ _ _ _ step).1 rfl
  exact ⟨r, log, r', l, reply, p, ran, last, indexed, step, announced⟩

/-- A device that is activated with the largest index is in use, but has no index, and a pose that
comes in is not announced. -/
theorem unpublished_with_largest_index : ∃ r log r' l reply,
    (Rig.ofDevice .standard 4).run? [(.call (.activate 0xffffffff), .willing)] = some (r, log) ∧
      LastActivation 0xffffffff
        ((Rig.ofDevice .standard 4).moments [(.call (.activate 0xffffffff), .willing)]) ∧
      r.device.state = .active ∧ r.device.deviceIndex = none ∧
      r.step? (.call .poseUpdated) .willing = some (r', l, reply) ∧
      l.filter Effect.isAnnouncement = [] := by
  have fresh : (Rig.ofDevice .standard 4).device.Fresh {} .direct :=
    Device.fresh_of_build? Device.build?_standard
  have goesOn : ((Rig.ofDevice .standard 4).run?
      ([(.call (.activate 0xffffffff), .willing)] ++ [(.call .poseUpdated, .willing)])).isSome := by
    decide +kernel
  have active : ((Rig.ofDevice .standard 4).run? [(.call (.activate 0xffffffff), .willing)]).any
      fun x => decide (x.1.device.state = .active ∧ x.1.device.deviceIndex = none) := by
    decide +kernel
  obtain ⟨⟨r', log'⟩, ran'⟩ := Option.isSome_iff_exists.1 goesOn
  obtain ⟨r, log, l, reply, ran, step, -⟩ := Rig.run?_concat_eq_some.1 ran'
  have active : r.device.state = .active ∧ r.device.deviceIndex = none := by
    simpa [ran] using active
  obtain ⟨active, unindexed⟩ := active
  have used : r.device.state ≠ .inactive := by simp [active]
  have coherent := Rig.coherent_of_run? fresh.coherent ran
  -- the only index that is held as none is the largest
  obtain ⟨i, last, indexed⟩ := (Rig.published_of_run? fresh.coherent fresh.state
    (Device.deviceIndex_of_build? Device.build?_standard) ran).used used
  have largest : i = 0xffffffff := by
    by_contra small
    rw [unindexed, Device.indexOf?, if_neg small] at indexed
    cases indexed
  obtain ⟨p, -, announced⟩ :=
    Rig.announced_of_bringsPose coherent (coherent.up_of_used used) rfl step
  exact ⟨r, log, r', l, reply, ran, largest ▸ last, active, unindexed, step,
    by rw [announced, unindexed]; rfl⟩

end Headset
