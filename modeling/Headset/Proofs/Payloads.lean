import Headset.Proofs.Exchange

/-!
# What is exchanged with the client

The outline of each type that the client and the driver exchange, and that its values are carried
(`carries_of_readsBack`).  Times and whole numbers are carried whatever they are; of a single it is
asked that it is read back by itself, since its digits are rounded on the way.
-/

namespace Headset

open Json Wire

/-! ## Times and reports -/

namespace Span

def wire : Wire Span := ⟨toJson, ofJson?, .record [("secs", .leaf), ("nanos", .leaf)]⟩

def slots : List (Slot Span) :=
  [⟨"secs", leaf ofNat (toNat? 0x10000000000000000), secs⟩,
    ⟨"nanos", leaf ofNat (toNat? 0x100000000), subsecNanos⟩]

theorem secs_lt (s : Span) : s.secs < 0x10000000000000000 :=
  Nat.div_lt_of_lt_mul (by rw [Nat.mul_comm]; exact s.nanos_lt)

theorem subsecNanos_lt (s : Span) : s.subsecNanos < 0x100000000 :=
  Nat.lt_trans (Nat.mod_lt _ (by decide)) (by decide)

theorem sound_slots : ∀ p ∈ slots, p.Sound fun _ => True := by
  simp only [slots, List.forall_mem_cons]
  exact ⟨⟨_, sound_nat (Nat.le_refl _), fun s _ => s.secs_lt⟩,
    ⟨_, sound_nat (by decide), fun s _ => s.subsecNanos_lt⟩, List.forall_mem_nil _⟩

/-- Whole seconds and the nanoseconds past them make up the time. -/
theorem ofNanos?_slots (s : Span) : ofNanos? (s.secs * 1000000000 + s.subsecNanos) = some s := by
  have whole : s.secs * 1000000000 + s.subsecNanos = s.nanos := by
    rw [secs, subsecNanos, Nat.mul_comm]
    exact Nat.div_add_mod _ _
  rw [whole]
  exact ofNanos?_of_lt s.nanos_lt

theorem rebuild?_slots (f : Nat → Nat → Option Span) (s : Span) :
    Slot.rebuild? slots f s = f s.secs s.subsecNanos :=
  rfl

theorem isRecord : wire.IsRecord slots true
    fun secs nanos => ofNanos? (secs * 1000000000 + nanos) where
  keys := by decide
  unique := by decide
  writes _ := rfl
  outline := rfl
  reader _ := rfl
  builds s := (rebuild?_slots _ s).trans s.ofNanos?_slots

theorem sound : wire.Sound fun _ => True := isRecord.sound sound_slots

end Span

namespace ClientReport

def wire : Wire ClientReport :=
  ⟨toJson, ofJson?, .record [("target_timestamp", Span.wire.outline),
    ("total_pipeline_latency", Span.wire.outline), ("video_decode", Span.wire.outline),
    ("video_decoder_queue", Span.wire.outline), ("rendering", Span.wire.outline),
    ("vsync_queue", Span.wire.outline), ("frames_dropped", .leaf)]⟩

def slots : List (Slot ClientReport) :=
  [⟨"target_timestamp", Span.wire, target⟩, ⟨"total_pipeline_latency", Span.wire, total⟩,
    ⟨"video_decode", Span.wire, decode⟩, ⟨"video_decoder_queue", Span.wire, decoderQueue⟩,
    ⟨"rendering", Span.wire, rendering⟩, ⟨"vsync_queue", Span.wire, vsyncQueue⟩,
    ⟨"frames_dropped", leaf (ofNat ·.toNat) toUInt32?, dropped⟩]

theorem sound_slots : ∀ p ∈ slots, p.Sound fun _ => True := by
  have time (name : String) (get : ClientReport → Span) :
      Slot.Sound ⟨name, Span.wire, get⟩ fun _ => True :=
    ⟨_, Span.sound, fun _ _ => trivial⟩
  simp only [slots, List.forall_mem_cons]
  exact ⟨time .., time .., time .., time .., time .., time ..,
    ⟨_, sound_uint32, fun _ _ => trivial⟩, List.forall_mem_nil _⟩

theorem isRecord : wire.IsRecord slots false
    fun target total decode decoderQueue rendering vsyncQueue dropped =>
      some ⟨target, total, decode, decoderQueue, rendering, vsyncQueue, dropped⟩ where
  keys := by decide
  unique := by decide
  writes _ := rfl
  outline := rfl
  reader _ := rfl
  builds _ := rfl

theorem sound : wire.Sound fun _ => True := isRecord.sound sound_slots

end ClientReport

/-! ## Motions -/

namespace Vector3

def wire : Wire Vector3 := ⟨toJson, ofJson?, .array (List.replicate 3 .leaf)⟩

theorem sound : wire.Sound fun v => ∀ x ∈ v.toList, ReadsBack x := by
  refine sound_array sound_single toList 3 (fun _ => rfl) (fun _ => rfl) rfl (fun j => ?_)
    (fun _ => rfl) fun _ => triple?_eq_none mk
  rcases j with _ | _ | _ | _ | items | _ <;> try rfl
  rcases items with _ | ⟨x, _ | ⟨y, _ | ⟨z, _ | _⟩⟩⟩ <;> rfl

end Vector3

namespace Rotation

def wire : Wire Rotation := ⟨toJson, ofJson?, .array (List.replicate 4 .leaf)⟩

theorem sound : wire.Sound fun q => ∀ x ∈ q.toList, ReadsBack x := by
  refine sound_array sound_single toList 4 (fun _ => rfl) (fun _ => rfl) rfl (fun j => ?_)
    (fun _ => rfl) fun _ => quadruple?_eq_none mk
  rcases j with _ | _ | _ | _ | items | _ <;> try rfl
  rcases items with _ | ⟨x, _ | ⟨y, _ | ⟨z, _ | ⟨w, _ | _⟩⟩⟩⟩ <;> rfl

end Rotation

namespace Pose

def toList (p : Pose) : List Float32 := p.position.toList ++ p.orientation.toList

def wire : Wire Pose :=
  ⟨toJson, ofJson?, .record [("position", Vector3.wire.outline),
    ("orientation", Rotation.wire.outline)]⟩

def slots : List (Slot Pose) :=
  [⟨"position", Vector3.wire, position⟩, ⟨"orientation", Rotation.wire, orientation⟩]

theorem sound_slots : ∀ p ∈ slots, p.Sound fun p => ∀ x ∈ p.toList, ReadsBack x := by
  simp only [slots, List.forall_mem_cons, toList, List.forall_mem_append]
  exact ⟨⟨_, Vector3.sound, fun _ back => back.1⟩, ⟨_, Rotation.sound, fun _ back => back.2⟩,
    List.forall_mem_nil _⟩

theorem isRecord : wire.IsRecord slots false
    fun position orientation => some ⟨position, orientation⟩ where
  keys := by decide
  unique := by decide
  writes _ := rfl
  outline := rfl
  reader _ := rfl
  builds _ := rfl

theorem sound : wire.Sound fun p => ∀ x ∈ p.toList, ReadsBack x := isRecord.sound sound_slots

end Pose

namespace Velocity

def toList (v : Velocity) : List Float32 := v.linear.toList ++ v.angular.toList

def wire : Wire Velocity :=
  ⟨toJson, ofJson?, .record [("linear", Vector3.wire.outline), ("angular", Vector3.wire.outline)]⟩

def slots : List (Slot Velocity) :=
  [⟨"linear", Vector3.wire, linear⟩, ⟨"angular", Vector3.wire, angular⟩]

theorem sound_slots : ∀ p ∈ slots, p.Sound fun v => ∀ x ∈ v.toList, ReadsBack x := by
  simp only [slots, List.forall_mem_cons, toList, List.forall_mem_append]
  exact ⟨⟨_, Vector3.sound, fun _ back => back.1⟩, ⟨_, Vector3.sound, fun _ back => back.2⟩,
    List.forall_mem_nil _⟩

theorem isRecord : wire.IsRecord slots false fun linear angular => some ⟨linear, angular⟩ where
  keys := by decide
  unique := by decide
  writes _ := rfl
  outline := rfl
  reader _ := rfl
  builds _ := rfl

theorem sound : wire.Sound fun v => ∀ x ∈ v.toList, ReadsBack x := isRecord.sound sound_slots

end Velocity

namespace Motion

def wire : Wire Motion :=
  ⟨toJson, ofJson?, .record [("pose", Pose.wire.outline), ("velocity", Velocity.wire.outline)]⟩

def slots : List (Slot Motion) :=
  [⟨"pose", Pose.wire, pose⟩, ⟨"velocity", Velocity.wire, velocity⟩]

theorem sound_slots : ∀ p ∈ slots, p.Sound fun m => ∀ x ∈ m.toList, ReadsBack x := by
  have split (m : Motion) : m.toList = m.pose.toList ++ m.velocity.toList := by
    simp [toList, Pose.toList, Velocity.toList]
  simp only [slots, List.forall_mem_cons, split, List.forall_mem_append]
  exact ⟨⟨_, Pose.sound, fun _ back => back.1⟩, ⟨_, Velocity.sound, fun _ back => back.2⟩,
    List.forall_mem_nil _⟩

theorem isRecord : wire.IsRecord slots false fun pose velocity => some ⟨pose, velocity⟩ where
  keys := by decide
  unique := by decide
  writes _ := rfl
  outline := rfl
  reader _ := rfl
  builds _ := rfl

theorem sound : wire.Sound fun m => ∀ x ∈ m.toList, ReadsBack x := isRecord.sound sound_slots

end Motion

/-! ## Streams and views -/

namespace StreamConfig

def wire : Wire StreamConfig :=
  ⟨toJson, ofJson?, .record [("codec", .leaf), ("width", .leaf), ("height", .leaf),
    ("refresh_rate_hz", .leaf)]⟩

def slots : List (Slot StreamConfig) :=
  [⟨"codec", leaf (ofString ·.name) (toName? VideoCodec.names), codec⟩,
    ⟨"width", leaf (ofNat ·.toNat) toUInt32?, width⟩,
    ⟨"height", leaf (ofNat ·.toNat) toUInt32?, height⟩,
    ⟨"refresh_rate_hz", leaf ofSingle toSingle?, refreshRate⟩]

theorem sound_codec :
    (leaf (ofString ·.name) (toName? VideoCodec.names)).Sound fun _ => True := by
  refine sound_leaf (fun _ => rfl) (fun c _ => ?_) (fun c _ => ?_) (invariant_toName? _) <;>
    cases c <;> decide

theorem sound_slots : ∀ p ∈ slots, p.Sound fun c => ReadsBack c.refreshRate := by
  simp only [slots, List.forall_mem_cons]
  exact ⟨⟨_, sound_codec, fun _ _ => trivial⟩, ⟨_, sound_uint32, fun _ _ => trivial⟩,
    ⟨_, sound_uint32, fun _ _ => trivial⟩, ⟨_, sound_single, fun _ back => back⟩,
    List.forall_mem_nil _⟩

theorem isRecord : wire.IsRecord slots false
    fun codec width height refreshRate => some ⟨codec, width, height, refreshRate⟩ where
  keys := by decide
  unique := by decide
  writes _ := rfl
  outline := rfl
  reader _ := rfl
  builds _ := rfl

theorem sound : wire.Sound fun c => ReadsBack c.refreshRate := isRecord.sound sound_slots

end StreamConfig

namespace Transform

def Row.wire : Wire Row := ⟨Row.toJson, Row.ofJson?, .array (List.replicate 4 .leaf)⟩

theorem Row.sound : Row.wire.Sound fun r => ∀ x ∈ r.toList, ReadsBack x := by
  refine sound_array sound_single Row.toList 4 (fun _ => rfl) (fun _ => rfl) rfl (fun j => ?_)
    (fun _ => rfl) fun _ => quadruple?_eq_none Row.mk
  rcases j with _ | _ | _ | _ | items | _ <;> try rfl
  rcases items with _ | ⟨a, _ | ⟨b, _ | ⟨c, _ | ⟨d, _ | _⟩⟩⟩⟩ <;> rfl

def wire : Wire Transform := ⟨toJson, ofJson?, .array (List.replicate 3 Row.wire.outline)⟩

theorem sound : wire.Sound fun t => ∀ x ∈ t.toList, ReadsBack x := by
  have rows : wire.Sound fun t => ∀ r ∈ [t.x, t.y, t.z], ∀ x ∈ r.toList, ReadsBack x := by
    refine sound_array Row.sound (fun t : Transform => [t.x, t.y, t.z]) 3 (fun _ => rfl)
      (fun _ => rfl) rfl (fun j => ?_) (fun _ => rfl) fun _ => triple?_eq_none mk
    rcases j with _ | _ | _ | _ | items | _ <;> try rfl
    rcases items with _ | ⟨x, _ | ⟨y, _ | ⟨z, _ | _⟩⟩⟩ <;> rfl
  refine rows.mono fun t back => ?_
  simpa [toList, List.forall_mem_append, and_assoc, or_imp, forall_and] using back

end Transform

namespace Fov

def wire : Wire Fov :=
  ⟨toJson, ofJson?, .record [("left", .leaf), ("right", .leaf), ("up", .leaf), ("down", .leaf)]⟩

def slots : List (Slot Fov) :=
  [⟨"left", leaf ofSingle toSingle?, left⟩, ⟨"right", leaf ofSingle toSingle?, right⟩,
    ⟨"up", leaf ofSingle toSingle?, up⟩, ⟨"down", leaf ofSingle toSingle?, down⟩]

theorem sound_slots : ∀ p ∈ slots, p.Sound fun f => ∀ x ∈ f.toList, ReadsBack x := by
  simp only [slots, List.forall_mem_cons, toList]
  exact ⟨⟨_, sound_single, fun _ back => back.1⟩, ⟨_, sound_single, fun _ back => back.2.1⟩,
    ⟨_, sound_single, fun _ back => back.2.2.1⟩, ⟨_, sound_single, fun _ back => back.2.2.2.1⟩,
    List.forall_mem_nil _⟩

theorem isRecord : wire.IsRecord slots false
    fun left right up down => some ⟨left, right, up, down⟩ where
  keys := by decide
  unique := by decide
  writes _ := rfl
  outline := rfl
  reader _ := rfl
  builds _ := rfl

theorem sound : wire.Sound fun f => ∀ x ∈ f.toList, ReadsBack x := isRecord.sound sound_slots

end Fov

namespace PerEye

variable {α : Type}

def wire (w : Wire α) : Wire (PerEye α) :=
  ⟨toJson w.toJson, ofJson? w.ofJson?, .array (List.replicate 2 w.outline)⟩

theorem sound {w : Wire α} {Back : α → Prop} (h : w.Sound Back) :
    (wire w).Sound fun p => ∀ a ∈ [p.left, p.right], Back a := by
  refine sound_array h (fun p : PerEye α => [p.left, p.right]) 2 (fun _ => rfl) (fun _ => rfl) rfl
    (fun j => ?_) (fun _ => rfl) fun _ => pair?_eq_none mk
  rcases j with _ | _ | _ | _ | items | _ <;> try rfl
  rcases items with _ | ⟨l, _ | ⟨r, _ | _⟩⟩ <;> rfl

end PerEye

namespace Views

def toList (v : Views) : List Float32 :=
  v.eyeToHead.left.toList ++ v.eyeToHead.right.toList ++ v.fov.left.toList ++ v.fov.right.toList

def wire : Wire Views :=
  ⟨toJson, ofJson?, .record [("eye_to_head", (PerEye.wire Transform.wire).outline),
    ("fov", (PerEye.wire Fov.wire).outline)]⟩

def slots : List (Slot Views) :=
  [⟨"eye_to_head", PerEye.wire Transform.wire, eyeToHead⟩, ⟨"fov", PerEye.wire Fov.wire, fov⟩]

theorem sound_slots : ∀ p ∈ slots, p.Sound fun v => ∀ x ∈ v.toList, ReadsBack x := by
  simp only [slots, List.forall_mem_cons, toList, List.forall_mem_append, and_assoc]
  refine ⟨⟨_, PerEye.sound Transform.sound, fun v back => ?_⟩,
    ⟨_, PerEye.sound Fov.sound, fun v back => ?_⟩, List.forall_mem_nil _⟩
  · exact List.forall_mem_cons.2 ⟨back.1, List.forall_mem_singleton.2 back.2.1⟩
  · exact List.forall_mem_cons.2 ⟨back.2.2.1, List.forall_mem_singleton.2 back.2.2.2⟩

theorem isRecord : wire.IsRecord slots false fun eyeToHead fov => some ⟨eyeToHead, fov⟩ where
  keys := by decide
  unique := by decide
  writes _ := rfl
  outline := rfl
  reader _ := rfl
  builds _ := rfl

theorem sound : wire.Sound fun v => ∀ x ∈ v.toList, ReadsBack x := isRecord.sound sound_slots

end Views

/-! ## All of them -/

/-- Every report is carried, whatever its times and its count are; and so is every pose, velocity,
motion, stream, transform, field of view and pair of views, if each of its singles is read back by
itself. -/
theorem carries_of_readsBack :
    (∀ r : ClientReport, ClientReport.wire.Carries r) ∧
      (∀ p : Pose, (∀ x ∈ p.toList, ReadsBack x) → Pose.wire.Carries p) ∧
      (∀ v : Velocity, (∀ x ∈ v.toList, ReadsBack x) → Velocity.wire.Carries v) ∧
      (∀ m : Motion, (∀ x ∈ m.toList, ReadsBack x) → Motion.wire.Carries m) ∧
      (∀ c : StreamConfig, ReadsBack c.refreshRate → StreamConfig.wire.Carries c) ∧
      (∀ t : Transform, (∀ x ∈ t.toList, ReadsBack x) → Transform.wire.Carries t) ∧
      (∀ f : Fov, (∀ x ∈ f.toList, ReadsBack x) → Fov.wire.Carries f) ∧
      ∀ v : Views, (∀ x ∈ v.toList, ReadsBack x) → Views.wire.Carries v :=
  ⟨fun _ => ClientReport.sound.carries trivial, fun _ => Pose.sound.carries,
    fun _ => Velocity.sound.carries, fun _ => Motion.sound.carries,
    fun _ => StreamConfig.sound.carries, fun _ => Transform.sound.carries,
    fun _ => Fov.sound.carries, fun _ => Views.sound.carries⟩

/-- A motion with a number that no digits give, a zero with a sign, and the least number above
zero. -/
def Motion.extreme : Motion where
  pose := ⟨⟨0.1, -0.0, Float32.ofBits 1⟩, .identity⟩
  velocity := ⟨⟨-1e30, 0, 1⟩, .zero⟩

/-- The same motion without one of its velocities. -/
def Motion.halfWritten : Json :=
  record [("velocity", record [("linear", Motion.extreme.velocity.linear.toJson)]),
    ("pose", Motion.extreme.pose.toJson)]

theorem faulty_halfWritten : Faulty Motion.wire.outline Motion.halfWritten := by
  refine .field (.tail _ (.head _)) (.head _) (Escape.spells_escape "velocity".toList) ?_
  exact @Faulty.missing _ _ "angular" (.tail _ (.head _)) (by decide +kernel)

theorem carries_extreme : Motion.wire.Carries Motion.extreme ∧
    (∀ text, Motion.halfWritten.Spells text → Motion.wire.decode text = none) ∧
    Pose.wire.Carries Motion.extreme.pose ∧ Velocity.wire.Carries Motion.extreme.velocity ∧
    StreamConfig.wire.Carries ⟨.av1, 0, 1, 59.94⟩ ∧ Fov.wire.Carries .standard ∧
    Transform.wire.Carries Views.default.eyeToHead.left ∧ Views.wire.Carries .default := by
  obtain ⟨-, pose, velocity, motion, stream, transform, fov, views⟩ := carries_of_readsBack
  have whole : Motion.wire.Carries Motion.extreme := motion _ (by decide +kernel)
  exact ⟨whole, whole.strict _ faulty_halfWritten, pose _ (by decide +kernel),
    velocity _ (by decide +kernel), stream _ (by decide +kernel), fov _ (by decide +kernel),
    transform _ (by decide +kernel), views _ (by decide +kernel)⟩

end Headset
