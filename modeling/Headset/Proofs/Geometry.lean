import Headset.Proofs.Packing
import Headset.Proofs.Publication

/-!
# Published views

A single that is finite stands for a number, and singles compare as their numbers do, so views are
valid if and only if their angles and entries are numbers in range (`Views.isValid_iff`).  Whatever
else happens to a device, its display shows the last valid views of the client, or the default ones
as long as there were none (`views_of_run`).
-/

namespace Headset

open Float.Model (Format UnpackedFloat)
open Float.Model.UnpackedFloat

/-! ## Numbers -/

section

variable {spec : Format} {s s' : Sign} {v v' q q' : ℚ} {f g : UnpackedFloat} {x y : Float32}

/-- The number of a sign and a size. -/
def signed : Sign → ℚ → ℚ
  | .positive, v => v
  | .negative, v => -v

theorem abs_signed (s : Sign) (v : ℚ) : |signed s v| = |v| := by
  cases s
  · exact abs_neg v
  · rfl

/-- Numbers on the other side of zero compare the other way round. -/
theorem compare_neg_neg (v v' : ℚ) : compare (-v) (-v') = (compare v v').swap := by
  rw [← Std.OrientedOrd.eq_swap]
  rcases lt_trichotomy v v' with lt | rfl | gt
  · rw [compare_gt_iff_gt.2 lt, compare_gt_iff_gt.2 (neg_lt_neg lt)]
  · rw [compare_eq_iff_eq.2 rfl, compare_eq_iff_eq.2 rfl]
  · rw [compare_lt_iff_lt.2 gt, compare_lt_iff_lt.2 (neg_lt_neg gt)]

theorem Sized.nonneg (h : Sized spec s v f) : 0 ≤ v := by
  cases h with
  | zero => exact le_rfl
  | finite => positivity

theorem Sized.unique (h : Sized spec s v f) (k : Sized spec s' v' f) : s = s' ∧ v = v' := by
  cases h <;> cases k <;> exact ⟨rfl, rfl⟩

/-- Floats compare as the numbers that they stand for. -/
theorem Sized.compare_signed (hf : Sized spec s v f) (hg : Sized spec s' v' g) :
    f.compare g = some (compare (signed s v) (signed s' v')) := by
  cases s with
  | positive =>
    cases s' with
    | positive => exact hf.compare_eq hg
    | negative =>
      -- the signs tell all but two zeros apart
      cases hf <;> cases hg <;> refine congrArg some (Eq.symm ?_) <;> unfold signed
      · exact compare_eq_iff_eq.2 neg_zero.symm
      · exact compare_gt_iff_gt.2 (neg_lt_zero.2 (by positivity))
      · exact compare_gt_iff_gt.2 (neg_zero.trans_lt (by positivity))
      · exact compare_gt_iff_gt.2 ((neg_lt_zero.2 (by positivity)).trans (by positivity))
  | negative =>
    cases s' with
    | positive =>
      cases hf <;> cases hg <;> refine congrArg some (Eq.symm ?_) <;> unfold signed
      · exact compare_eq_iff_eq.2 neg_zero
      · exact compare_lt_iff_lt.2 (neg_zero.trans_lt (by positivity))
      · exact compare_lt_iff_lt.2 (neg_lt_zero.2 (by positivity))
      · exact compare_lt_iff_lt.2 ((neg_lt_zero.2 (by positivity)).trans (by positivity))
    | negative =>
      have turned : f.compare g = (f.abs.compare g.abs).map Ordering.swap := by
        cases hf <;> cases hg <;> rfl
      rw [turned, hf.abs.compare_eq hg.abs, Option.map_some, ← compare_neg_neg]
      rfl

/-- Every size is below the range of singles. -/
theorem IsSingle.lt_range (h : IsSingle x s v) : v < 2 ^ 128 := by
  unfold IsSingle at h
  rcases @sized_unpack .binary32 x.toModel.toBits.toBitVec (by decide) with
    nan | ⟨s', infinite⟩ | ⟨s', v', sized, small⟩
  · have nan : x.toModel.unpack = .notANumber := nan
    rw [nan] at h
    cases h
  · have infinite : x.toModel.unpack = .infinity s' := infinite
    rw [infinite] at h
    cases h
  · rw [(h.unique sized).2]
    exact small

theorem IsSingle.abs (h : IsSingle x s v) : IsSingle x.abs .positive v :=
  isSingle_pack (Sized.abs h) h.lt_range

/-- A single that stands for a number. -/
def Denotes (x : Float32) (q : ℚ) : Prop := ∃ s v, IsSingle x s v ∧ q = signed s v

/-- What is finite stands for a number, and nothing else does. -/
theorem isFinite_iff : x.isFinite = true ↔ ∃ q, Denotes x q := by
  constructor
  · intro finite
    have finite : x.toModel.unpack.isFinite = true := finite
    rcases @sized_unpack .binary32 x.toModel.toBits.toBitVec (by decide) with
      nan | ⟨s, infinite⟩ | ⟨s, v, sized, -⟩
    · have nan : x.toModel.unpack = .notANumber := nan
      rw [nan] at finite
      cases finite
    · have infinite : x.toModel.unpack = .infinity s := infinite
      rw [infinite] at finite
      cases finite
    · exact ⟨signed s v, s, v, sized, rfl⟩
  · rintro ⟨q, s, v, sized, -⟩
    show x.toModel.unpack.isFinite = true
    unfold IsSingle at sized
    generalize x.toModel.unpack = f at sized
    cases sized <;> rfl

theorem Denotes.lt_iff (hx : Denotes x q) (hy : Denotes y q') : x < y ↔ q < q' := by
  obtain ⟨s, v, hx, rfl⟩ := hx
  obtain ⟨s', v', hy, rfl⟩ := hy
  have decided : x.toModel.unpack.lt y.toModel.unpack = true ↔ signed s v < signed s' v' := by
    rw [UnpackedFloat.lt, Sized.compare_signed hx hy, beq_iff_eq, Option.some.injEq,
      compare_lt_iff_lt]
  exact decide_eq_true_iff.trans decided

theorem Denotes.abs (hx : Denotes x q) : Denotes x.abs |q| := by
  obtain ⟨s, v, hx, rfl⟩ := hx
  refine ⟨.positive, v, hx.abs, ?_⟩
  rw [abs_signed]
  exact abs_of_nonneg (Sized.nonneg hx)

end

/-! ## Valid views -/

namespace Fov

/-- The number that the single nearest to a quarter turn stands for. -/
def quarterTurnSize : ℚ := 13176795 / 2 ^ 23

theorem denotes_quarterTurn : Denotes quarterTurn quarterTurnSize := by
  have size : ((13176795 : ℕ) : ℚ) * 2 ^ (-23 : ℤ) = quarterTurnSize := by
    norm_num [quarterTurnSize]
  refine ⟨.positive, quarterTurnSize, ?_, rfl⟩
  rw [← size]
  show Sized .binary32 .positive _ (.finite .positive 13176795 (-23) (by decide))
  exact .finite rfl

/-- A field of view that is not empty, with angles of less than a quarter turn. -/
inductive Proper (f : Fov) : Prop
  | intro {left right up down : ℚ} (hl : Denotes f.left left) (hr : Denotes f.right right)
    (hu : Denotes f.up up) (hd : Denotes f.down down)
    (within : ∀ q ∈ [left, right, up, down], |q| < quarterTurnSize) (across : left < right)
    (upright : down < up)

theorem isValid_iff {f : Fov} : f.isValid = true ↔ f.Proper := by
  have angle {x : Float32} {q : ℚ} (h : Denotes x q) :
      (x.isFinite = true ∧ x.abs < quarterTurn) ↔ |q| < quarterTurnSize := by
    rw [h.abs.lt_iff denotes_quarterTurn, isFinite_iff, and_iff_right ⟨q, h⟩]
  have opened : f.isValid = true ↔
      (∀ x ∈ f.toList, x.isFinite = true ∧ x.abs < quarterTurn) ∧
        f.left < f.right ∧ f.down < f.up := by
    simp only [isValid, Bool.and_eq_true_iff, List.all_eq_true, decide_eq_true_iff, and_assoc]
  rw [opened]
  constructor
  · rintro ⟨angles, across, upright⟩
    have number {x : Float32} (hx : x ∈ f.toList) : ∃ q, Denotes x q :=
      isFinite_iff.1 (angles x hx).1
    obtain ⟨left, hl⟩ := number (x := f.left) (by simp [toList])
    obtain ⟨right, hr⟩ := number (x := f.right) (by simp [toList])
    obtain ⟨up, hu⟩ := number (x := f.up) (by simp [toList])
    obtain ⟨down, hd⟩ := number (x := f.down) (by simp [toList])
    refine .intro hl hr hu hd ?_ ((hl.lt_iff hr).1 across) ((hd.lt_iff hu).1 upright)
    simpa [toList, ← angle hl, ← angle hr, ← angle hu, ← angle hd] using angles
  · rintro ⟨hl, hr, hu, hd, within, across, upright⟩
    refine ⟨?_, (hl.lt_iff hr).2 across, (hd.lt_iff hu).2 upright⟩
    simpa [toList, ← angle hl, ← angle hr, ← angle hu, ← angle hd] using within

end Fov

namespace Views

/-- Views whose fields of view are proper and whose entries are all numbers. -/
structure Proper (v : Views) : Prop where
  fov : ∀ eye, (v.fov.get eye).Proper
  placed : ∀ eye, ∀ x ∈ (v.eyeToHead.get eye).toList, ∃ q, Denotes x q

/-- Views are taken if and only if they are proper. -/
theorem isValid_iff {v : Views} : v.isValid = true ↔ v.Proper := by
  simp only [isValid, Bool.and_eq_true_iff, Fov.isValid_iff, List.all_eq_true, isFinite_iff]
  constructor
  · rintro ⟨⟨⟨fovLeft, fovRight⟩, left⟩, right⟩
    exact ⟨fun eye => by cases eye <;> assumption, fun eye => by cases eye <;> assumption⟩
  · rintro ⟨fov, placed⟩
    exact ⟨⟨⟨fov .left, fov .right⟩, placed .left⟩, placed .right⟩

instance (v : Views) : Decidable v.Proper := decidable_of_iff _ isValid_iff

theorem proper_default : Views.default.Proper := by decide +kernel

end Views

/-! ## The display along a step -/

namespace Device

variable {d e : Device} {h h' : History} {a : Answers} {log : List Effect}

theorem aside_display : Aside display := fun _ _ _ _ _ => rfl

theorem display_teardown (d : Device) : d.teardown.device.display = d.display := by
  rw [teardown_device]

theorem display_deactivate (d : Device) : d.deactivate.device.display = d.display := by
  unfold deactivate
  split
  · rfl
  · exact d.display_teardown

theorem display_shutDown (d : Device) : d.shutDown.device.display = d.display := by
  unfold shutDown
  dsimp only
  split
  · exact display_teardown { d with isShutDown := true }
  · rfl

theorem Activation.display {index : UInt32} {o : Outcome (Except DriverError Unit)}
    (k : d.Activation index a o) : o.device.display = d.display := by
  cases k with
  | shutDown down => rfl
  | refused up hs => rfl
  | failed up hs ho he => cases ho <;> rfl
  | done up hs ho hp =>
    rw [aside_display.startPending]
    cases ho <;> rfl

theorem display_requestKeyframe (d : Device) : d.requestKeyframe.device.display = d.display := by
  unfold requestKeyframe
  split
  · rfl
  · split <;> rfl

theorem display_getPose? {o : Outcome DevicePose} (ho : d.getPose? h a = some o) :
    o.device.display = d.display := by
  unfold getPose? at ho
  dsimp only at ho
  split at ho
  · cases ho
    rfl
  · obtain ⟨target, -, rfl⟩ := Option.map_eq_some_iff.1 ho
    split <;> rfl

theorem display_markFresh (d : Device) (h : History) :
    (d.markFresh h).device.display = d.display := by
  unfold markFresh
  split
  · rfl
  · split <;> rfl

theorem display_poseUpdated? {o : Outcome Unit} (ho : d.poseUpdated? h a = some o) :
    o.device.display = d.display := by
  obtain ⟨p, hp, rfl⟩ := Option.map_eq_some_iff.1 ho
  exact (display_markFresh ..).trans (display_getPose? hp)

theorem display_setPoseOffset (d : Device) (ms : Float32) :
    (d.setPoseOffset ms).display = d.display := by
  unfold setPoseOffset
  split <;> rfl

theorem display_updateHand (d : Device) (relays : Relays) (packet : TrackingPacket) (hand : Hand)
    (a : Answers) : (d.updateHand relays packet hand a).device.display = d.display := by
  unfold updateHand
  split
  · split <;> rfl
  · rfl

theorem display_updateControllers (d : Device) (packet : TrackingPacket) (a : Answers) :
    (d.updateControllers packet a).device.display = d.display := by
  unfold updateControllers
  split
  · rfl
  · exact (display_updateHand ..).trans (display_updateHand ..)

theorem display_tracking? {packet : TrackingPacket} {o : Outcome Unit}
    (ho : d.tracking? h packet a = some (h', o)) : o.device.display = d.display := by
  cases tracking?_cases ho with
  | headless => exact d.display_updateControllers packet a
  | lost => rfl
  | @relayed _ o _ _ hq =>
    have same := display_poseUpdated? hq
    exact (o.device.display_updateControllers packet a).trans same

theorem display_clientReport? {r : ClientReport} (he : d.clientReport? r = some e) :
    e.display = d.display := by
  obtain ⟨latency, poseOffset, rfl⟩ := clientReport?_eq he
  rfl

theorem display_debug? {request : String} {buffer : List UInt8} {o : Outcome (Nat × List UInt8)}
    (ho : d.debug? request buffer = some o) : o.device.display = d.display := by
  obtain ⟨text, -, rfl⟩ := Option.map_eq_some_iff.1 ho
  dsimp only
  split
  · exact d.display_requestKeyframe
  · rfl

theorem display_refresh (d : Device) (p : Pacer) (a : Answers) :
    (d.refresh p a).device.display = d.display := by
  unfold refresh
  split <;> rfl

theorem Ticks.display (k : d.Ticks a e log) : e.display = d.display := by
  cases k with
  | unheard => rfl
  | inTime =>
    unfold tick
    split
    · rfl
    · exact d.display_refresh _ a
  | stray age =>
    unfold strayTick
    split
    · rfl
    · exact d.display_refresh _ a

end Device

/-- A step by which the client publishes views that are proper. -/
def Step.Publishes (s : Step) (views : Views) : Prop :=
  s = .call (.setViews views) ∧ views.Proper

theorem Step.Publishes.unique {s : Step} {v w : Views} (h : s.Publishes v) (k : s.Publishes w) :
    v = w := by
  obtain ⟨rfl, -⟩ := h
  obtain ⟨same, -⟩ := k
  cases same
  rfl

namespace Rig

variable {r r' : Rig} {s : Step} {a : Answers} {l : List Effect} {reply : Reply}

/-- Only the client changes what the display shows. -/
theorem display_of_step? (h : r.device.Coherent) (other : ∀ views, s ≠ .call (.setViews views))
    (step : r.step? s a = some (r', l, reply)) : r'.device.display = r.device.display := by
  cases s with
  | call c =>
    cases c with
    | activate index =>
      cases step
      exact (Device.activate_cases h.in_use_of_renderReady index a).display
    | deactivate => cases step; exact Device.display_deactivate _
    | enterStandby => cases step; exact Device.aside_display.enterStandby _
    | resume => cases step; exact Device.aside_display.resume ..
    | shutDown => cases step; exact Device.display_shutDown _
    | startStreaming => cases step; exact Device.aside_display.startStreaming ..
    | stopStreaming => cases step; exact Device.aside_display.stopStreaming _
    | streamStart => cases step; exact Device.aside_display.streamStart ..
    | packetLoss | requestKeyframe => cases step; exact Device.display_requestKeyframe _
    | runFrame => cases step; rfl
    | getPose =>
      obtain ⟨o, ho, step⟩ := Option.map_eq_some_iff.1 step
      cases step
      exact Device.display_getPose? ho
    | poseUpdated =>
      obtain ⟨o, ho, step⟩ := Option.map_eq_some_iff.1 step
      cases step
      exact Device.display_poseUpdated? ho
    | setPoseOffset ms => cases step; exact Device.display_setPoseOffset ..
    | tracking packet =>
      obtain ⟨⟨history, o⟩, ho, step⟩ := Option.map_eq_some_iff.1 step
      cases step
      exact Device.display_tracking? ho
    | updateControllers packet => cases step; exact Device.display_updateControllers ..
    | frameEncoded => cases step; rfl
    | clientReport report =>
      obtain ⟨e, he, step⟩ := Option.map_eq_some_iff.1 step
      cases step
      exact Device.display_clientReport? he
    | setViews views => exact absurd rfl (other views)
    | debug request buffer =>
      obtain ⟨o, ho, step⟩ := Option.map_eq_some_iff.1 step
      cases step
      exact Device.display_debug? ho
  | tick | lateTick | strayTick => exact (ticks_of_step? rfl step).1.display
  | pushHistory | clearHistory => cases step; rfl

/-- Views that are not proper are left out. -/
theorem step?_of_improper (r : Rig) {views : Views} (improper : ¬ views.Proper) (a : Answers) :
    r.step? (.call (.setViews views)) a = some (r, [], .none) := by
  have refused : ¬ views.isValid = true := mt Views.isValid_iff.1 improper
  have kept : r.device.setViews views = ⟨r.device, [], ()⟩ := by
    rw [Device.setViews, Display.publish?, if_neg refused]
  show some (r.settle (r.device.setViews views) fun _ => .none) = _
  rw [kept]
  simp [settle]

/-- Proper views are shown, counted, and announced under the index. -/
theorem step?_of_proper (r : Rig) {views : Views} (proper : views.Proper) (a : Answers) :
    r.step? (.call (.setViews views)) a = some (
      { r with device := { r.device with
          display := ⟨r.device.display.config, views, true⟩
          counters := { r.device.counters with
            viewsUpdates := r.device.counters.viewsUpdates + 1 } } },
      (r.device.deviceIndex.map (.eyeGeometryChanged · views)).toList, .none) := by
  have taken : views.isValid = true := Views.isValid_iff.2 proper
  show some (r.settle (r.device.setViews views) fun _ => .none) = _
  rw [Device.setViews, Display.publish?, if_pos taken]
  cases hi : r.device.deviceIndex <;> simp [settle, Effect.isTimerStart, hi]

end Rig

/-! ## Runs -/

/-- The last proper views that the client published are these. -/
def LastViews (views : Views) (steps : List (Step × Answers)) : Prop :=
  Since (·.1.Publishes views) (fun x => ∀ v, ¬ x.1.Publishes v) steps

theorem LastViews.unique {v w : Views} {steps : List (Step × Answers)} (h : LastViews v steps)
    (k : LastViews w steps) : v = w :=
  since_unique (P := fun v (x : Step × Answers) => x.1.Publishes v) Step.Publishes.unique h k

/-- What a display shows after some steps: the last views of the client, or the default ones. -/
inductive Display.Shows (config : DisplayConfig) (steps : List (Step × Answers)) : Display → Prop
  | initial (none : ∀ x ∈ steps, ∀ v, ¬ x.1.Publishes v) :
    Shows config steps ⟨config, .default, false⟩
  | client {views : Views} (last : LastViews views steps) : Shows config steps ⟨config, views, true⟩

namespace Display.Shows

variable {config : DisplayConfig} {steps : List (Step × Answers)} {d : Display} {s : Step}
  {a : Answers}

theorem config_eq (h : d.Shows config steps) : d.config = config := by
  cases h <;> rfl

/-- A step that publishes nothing leaves the display as it was. -/
theorem keeps (h : d.Shows config steps) (none : ∀ v, ¬ s.Publishes v) :
    d.Shows config (steps ++ [(s, a)]) := by
  cases h with
  | initial before =>
    exact .initial (List.forall_mem_append.2 ⟨before, List.forall_mem_singleton.2 none⟩)
  | client last => exact .client (since_concat.2 (.inr ⟨last, none⟩))

theorem hasClientViews_iff (h : d.Shows config steps) :
    d.hasClientViews = true ↔ ∃ x ∈ steps, ∃ v, x.1.Publishes v := by
  cases h with
  | initial none =>
    refine iff_of_false (by simp) ?_
    rintro ⟨x, hx, v, publishes⟩
    exact none x hx v publishes
  | client last =>
    obtain ⟨before, x, since, rfl, publishes, -⟩ := last
    exact iff_of_true rfl ⟨x, by simp, _, publishes⟩

/-- Whatever is shown is valid. -/
theorem isValid (h : d.Shows config steps) : d.views.isValid = true := by
  cases h with
  | initial => exact Views.isValid_iff.2 Views.proper_default
  | client last =>
    obtain ⟨before, x, since, rfl, publishes, -⟩ := last
    exact Views.isValid_iff.2 publishes.2

end Display.Shows

theorem Rig.shows_of_run? {start r : Rig} {steps : List (Step × Answers)} {log : List Effect}
    {config : DisplayConfig} (h : start.device.Coherent)
    (display : start.device.display = .ofConfig config) (ran : start.run? steps = some (r, log)) :
    r.device.display.Shows config steps := by
  refine run?_induction (motive := fun steps r _ => r.device.display.Shows config steps) ?_ ?_ ran
  · rw [display]
    exact .initial (by simp)
  intro steps m before s a r l reply ran shows step
  by_cases sets : ∃ views, s = .call (.setViews views)
  · obtain ⟨views, rfl⟩ := sets
    by_cases proper : views.Proper
    · rw [m.step?_of_proper proper a] at step
      cases step
      rw [shows.config_eq]
      exact .client (since_concat.2 (.inl ⟨rfl, proper⟩))
    · rw [m.step?_of_improper proper a] at step
      cases step
      refine shows.keeps ?_
      rintro v ⟨same, taken⟩
      cases same
      exact proper taken
  · have other (views : Views) : s ≠ .call (.setViews views) := fun same => sets ⟨views, same⟩
    rw [display_of_step? (coherent_of_run? h ran) other step]
    exact shows.keeps fun v publishes => other v publishes.1

theorem Device.display_of_build? {config : Config} {equipment : Equipment} {d : Device}
    (built : build? config equipment = some (.ok d)) : d.display = .ofConfig config.display := by
  obtain ⟨-, interval, -, latency, -, rfl⟩ := build?_eq_ok_iff.1 built
  rfl

/-- After every run the display shows the last proper views that the client published, or the
default ones if there were none.  So it always shows valid views, and the projection for each eye is
that of these views.  Views that are not proper change nothing and are not passed on; proper ones
are shown, counted, and announced once to the host if the device has an index.  No other step
changes what is shown. -/
theorem views_of_run {config : Config} {equipment : Equipment} {d : Device} {capacity : Nat}
    {r : Rig} {steps : List (Step × Answers)} {log : List Effect}
    (built : Device.build? config equipment = some (.ok d))
    (ran : (Rig.ofDevice d capacity).run? steps = some (r, log)) :
    r.device.display.Shows config.display steps ∧
    (r.device.display.hasClientViews = true ↔ ∃ x ∈ steps, ∃ v, x.1.Publishes v) ∧
    r.device.display.views.isValid = true ∧
    (∀ eye, r.device.display.projection eye =
      let fov := r.device.display.views.fov.get eye
      ⟨tan32 fov.left, tan32 fov.right, -tan32 fov.up, -tan32 fov.down⟩) ∧
    (∀ views a, ¬ views.Proper →
      r.step? (.call (.setViews views)) a = some (r, [], .none)) ∧
    (∀ views a, views.Proper → ∃ r',
      r.step? (.call (.setViews views)) a =
        some (r', (r.device.deviceIndex.map (.eyeGeometryChanged · views)).toList, .none) ∧
      r' = { r with device := { r.device with
        display := ⟨config.display, views, true⟩
        counters := { r.device.counters with
          viewsUpdates := r.device.counters.viewsUpdates + 1 } } }) ∧
    (∀ s a r' l reply, (∀ views, s ≠ .call (.setViews views)) →
      r.step? s a = some (r', l, reply) → r'.device.display = r.device.display) := by
  have coherent : (Rig.ofDevice d capacity).device.Coherent :=
    (Device.fresh_of_build? built).coherent
  have shows := Rig.shows_of_run? coherent (Device.display_of_build? built) ran
  refine ⟨shows, shows.hasClientViews_iff, shows.isValid, fun eye => rfl,
    fun views a improper => r.step?_of_improper improper a, fun views a proper => ⟨_, ?_, rfl⟩,
    fun s a r' l reply other step => ?_⟩
  · rw [r.step?_of_proper proper a, shows.config_eq]
  · exact Rig.display_of_step? (Rig.coherent_of_run? coherent ran) other step

/-- Eyes that are farther apart and see farther to the sides. -/
def Views.wide : Views := .ofDistance 0.07 (.both ⟨-1.5, 1.5, 1, -1⟩)

/-- Eyes that see nothing, since left is right of right. -/
def Views.crossed : Views := .ofDistance 0.07 (.both ⟨1.5, -1.5, 1, -1⟩)

/-- A run in which the client publishes wide views, then crossed ones, before the driver goes. -/
def Rig.upToCrossedViews : List (Step × Answers) :=
  [(.call (.activate 0), .willing), (.call (.setViews .wide), .willing),
    (.call (.setViews .crossed), .willing), (.call .shutDown, .willing)]

/-- The wide views stay, and wide views are not announced any more. -/
theorem views_of_crossedViews : ∃ r log,
    (Rig.ofDevice .standard 4).run? Rig.upToCrossedViews = some (r, log) ∧
      r.device.display = ⟨({} : Config).display, .wide, true⟩ ∧ r.device.deviceIndex = none ∧
      r.step? (.call (.setViews .crossed)) .willing = some (r, [], .none) ∧
      ∃ r', r.step? (.call (.setViews .wide)) .willing = some (r', [], .none) := by
  have wide : Views.wide.Proper := by decide +kernel
  have crossed : ¬ Views.crossed.Proper := by decide +kernel
  have computed : ((Rig.ofDevice .standard 4).run? Rig.upToCrossedViews).any fun x =>
      decide (x.1.device.deviceIndex = none) := by
    decide +kernel
  obtain ⟨⟨r, log⟩, ran, gone⟩ := (Option.any_eq_true _ _).1 computed
  have gone : r.device.deviceIndex = none := of_decide_eq_true gone
  have last : LastViews .wide Rig.upToCrossedViews := by
    refine ⟨[_], _, [_, _], rfl, ⟨rfl, wide⟩, ?_⟩
    simpa [Step.Publishes] using crossed
  obtain ⟨shows, -, -, -, leaves, takes, -⟩ := views_of_run Device.build?_standard ran
  refine ⟨r, log, ran, ?_, gone, leaves _ _ crossed, ?_⟩
  · generalize r.device.display = shown at shows
    cases shows with
    | initial none =>
      have published : (.call (.setViews .wide), .willing) ∈ Rig.upToCrossedViews := by
        simp [Rig.upToCrossedViews]
      exact absurd ⟨rfl, wide⟩ (none _ published .wide)
    | client last' => rw [last'.unique last]
  · obtain ⟨r', step, -⟩ := takes .wide .willing wide
    rw [gone] at step
    exact ⟨r', step⟩

end Headset
