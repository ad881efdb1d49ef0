import Headset.Config.Document
import Headset.Proofs.Records

/-!
# Partial configurations

The values that a document gives to some of the fields of a configuration (`ConfigPatch`), and what
reading such a document gives: the defaults with these values in their places, if they are in range
(`Config.read_of_object`).  The order of the members and the members of other names do not matter,
and no document is read in which a section or a field is repeated.
-/

namespace Headset

open Json

/-! ## Sections -/

/-- An object whose members give a value. -/
inductive IsObject {α : Type} (Given : α → List (List Char × Json) → Prop) : Json → α → Prop
  | intro {a : α} {members : List (List Char × Json)} (h : Given a members) :
    IsObject Given (.object members) a

/-- The values given to the fields of an identity. -/
structure IdentityPatch where
  serial : Option String := none
  deviceClass : Option DeviceClass := none
  adapter : Option (Option String) := none

namespace IdentityPatch

def apply (p : IdentityPatch) (c : IdentityConfig) : IdentityConfig where
  serial := p.serial.getD c.serial
  deviceClass := p.deviceClass.getD c.deviceClass
  adapter := p.adapter.getD c.adapter

/-- The members of an object give these values and no others. -/
structure Given (p : IdentityPatch) (members : List (List Char × Json)) : Prop where
  keyed : Keyed members
  serial : Field IsText "serial_number" members p.serial
  deviceClass : Field (IsName DeviceClass.names) "device_class" members p.deviceClass
  adapter : Field IsOptionalText "adapter_name" members p.adapter

theorem ofJson?_eq {p : IdentityPatch} {j : Json} (h : IsObject Given j p) :
    IdentityConfig.ofJson? j = some (p.apply {}) := by
  obtain ⟨h⟩ := h
  have read := fields?_eq ["serial_number", "device_class", "adapter_name"] h.keyed
    (by simp [h.serial.not_twice, h.deviceClass.not_twice, h.adapter.not_twice])
  simp [IdentityConfig.ofJson?, read, apply,
    h.serial.optional_eq read (by simp) readBy_isText,
    h.deviceClass.optional_eq read (by simp) (readBy_isName _),
    h.adapter.optional_eq read (by simp) readBy_isOptionalText]

end IdentityPatch

/-- The values given to the fields of a display. -/
structure DisplayPatch where
  width : Option UInt32 := none
  height : Option UInt32 := none
  windowX : Option Int32 := none
  windowY : Option Int32 := none
  refreshRate : Option Float32 := none

namespace DisplayPatch

def apply (p : DisplayPatch) (c : DisplayConfig) : DisplayConfig where
  width := p.width.getD c.width
  height := p.height.getD c.height
  windowX := p.windowX.getD c.windowX
  windowY := p.windowY.getD c.windowY
  refreshRate := p.refreshRate.getD c.refreshRate

structure Given (p : DisplayPatch) (members : List (List Char × Json)) : Prop where
  keyed : Keyed members
  width : Field (IsNat UInt32.toNat) "render_width" members p.width
  height : Field (IsNat UInt32.toNat) "render_height" members p.height
  windowX : Field (IsInt Int32.toInt) "window_x" members p.windowX
  windowY : Field (IsInt Int32.toInt) "window_y" members p.windowY
  refreshRate : Field IsNumber "refresh_rate_hz" members p.refreshRate

theorem ofJson?_eq {p : DisplayPatch} {j : Json} (h : IsObject Given j p) :
    DisplayConfig.ofJson? j = some (p.apply {}) := by
  obtain ⟨h⟩ := h
  have read := fields?_eq
    ["render_width", "render_height", "window_x", "window_y", "refresh_rate_hz"] h.keyed
    (by simp [h.width.not_twice, h.height.not_twice, h.windowX.not_twice, h.windowY.not_twice,
      h.refreshRate.not_twice])
  simp [DisplayConfig.ofJson?, read, apply,
    h.width.optional_eq read (by simp) readBy_isUInt32,
    h.height.optional_eq read (by simp) readBy_isUInt32,
    h.windowX.optional_eq read (by simp) readBy_isInt32,
    h.windowY.optional_eq read (by simp) readBy_isInt32,
    h.refreshRate.optional_eq read (by simp) readBy_isNumber]

end DisplayPatch

/-- The values given to the fields of tracking. -/
structure TrackingPatch where
  poseOffset : Option Float32 := none
  maxPrediction : Option Float32 := none
  adaptiveOffset : Option Bool := none
  hostPipelineFrames : Option Float32 := none
  latencyHistory : Option UInt64 := none

namespace TrackingPatch

def apply (p : TrackingPatch) (c : TrackingConfig) : TrackingConfig where
  poseOffset := p.poseOffset.getD c.poseOffset
  maxPrediction := p.maxPrediction.getD c.maxPrediction
  adaptiveOffset := p.adaptiveOffset.getD c.adaptiveOffset
  hostPipelineFrames := p.hostPipelineFrames.getD c.hostPipelineFrames
  latencyHistory := p.latencyHistory.getD c.latencyHistory

structure Given (p : TrackingPatch) (members : List (List Char × Json)) : Prop where
  keyed : Keyed members
  poseOffset : Field IsNumber "pose_time_offset_ms" members p.poseOffset
  maxPrediction : Field IsNumber "max_prediction_ms" members p.maxPrediction
  adaptiveOffset : Field IsBool "adaptive_pose_offset" members p.adaptiveOffset
  hostPipelineFrames : Field IsNumber "host_pipeline_frames" members p.hostPipelineFrames
  latencyHistory : Field (IsNat UInt64.toNat) "latency_history" members p.latencyHistory

theorem ofJson?_eq {p : TrackingPatch} {j : Json} (h : IsObject Given j p) :
    TrackingConfig.ofJson? j = some (p.apply {}) := by
  obtain ⟨h⟩ := h
  have read := fields?_eq ["pose_time_offset_ms", "max_prediction_ms", "adaptive_pose_offset",
    "host_pipeline_frames", "latency_history"] h.keyed
    (by simp [h.poseOffset.not_twice, h.maxPrediction.not_twice, h.adaptiveOffset.not_twice,
      h.hostPipelineFrames.not_twice, h.latencyHistory.not_twice])
  simp [TrackingConfig.ofJson?, read, apply,
    h.poseOffset.optional_eq read (by simp) readBy_isNumber,
    h.maxPrediction.optional_eq read (by simp) readBy_isNumber,
    h.adaptiveOffset.optional_eq read (by simp) readBy_isBool,
    h.hostPipelineFrames.optional_eq read (by simp) readBy_isNumber,
    h.latencyHistory.optional_eq read (by simp) readBy_isUInt64]

end TrackingPatch

/-- The values given to the fields of streaming. -/
structure StreamingPatch where
  startOnClientReady : Option Bool := none
  codec : Option VideoCodec := none

namespace StreamingPatch

def apply (p : StreamingPatch) (c : StreamingConfig) : StreamingConfig where
  startOnClientReady := p.startOnClientReady.getD c.startOnClientReady
  codec := p.codec.getD c.codec

structure Given (p : StreamingPatch) (members : List (List Char × Json)) : Prop where
  keyed : Keyed members
  startOnClientReady : Field IsBool "start_on_client_ready" members p.startOnClientReady
  codec : Field (IsName VideoCodec.names) "codec" members p.codec

theorem ofJson?_eq {p : StreamingPatch} {j : Json} (h : IsObject Given j p) :
    StreamingConfig.ofJson? j = some (p.apply {}) := by
  obtain ⟨h⟩ := h
  have read := fields?_eq ["start_on_client_ready", "codec"] h.keyed
    (by simp [h.startOnClientReady.not_twice, h.codec.not_twice])
  simp [StreamingConfig.ofJson?, read, apply,
    h.startOnClientReady.optional_eq read (by simp) readBy_isBool,
    h.codec.optional_eq read (by simp) (readBy_isName _)]

end StreamingPatch

/-! ## Configurations -/

/-- The sections that a document has, with the values that it gives to their fields. -/
structure ConfigPatch where
  identity : Option IdentityPatch := none
  display : Option DisplayPatch := none
  tracking : Option TrackingPatch := none
  streaming : Option StreamingPatch := none

namespace ConfigPatch

def apply (p : ConfigPatch) (c : Config) : Config where
  identity := (p.identity.map (·.apply c.identity)).getD c.identity
  display := (p.display.map (·.apply c.display)).getD c.display
  tracking := (p.tracking.map (·.apply c.tracking)).getD c.tracking
  streaming := (p.streaming.map (·.apply c.streaming)).getD c.streaming

structure Given (p : ConfigPatch) (members : List (List Char × Json)) : Prop where
  keyed : Keyed members
  identity : Field (IsObject IdentityPatch.Given) "identity" members p.identity
  display : Field (IsObject DisplayPatch.Given) "display" members p.display
  tracking : Field (IsObject TrackingPatch.Given) "tracking" members p.tracking
  streaming : Field (IsObject StreamingPatch.Given) "streaming" members p.streaming

theorem ofJson?_eq {p : ConfigPatch} {j : Json} (h : IsObject Given j p) :
    Config.ofJson? j = some (p.apply {}) := by
  obtain ⟨h⟩ := h
  have read := fields?_eq ["identity", "display", "tracking", "streaming"] h.keyed
    (by simp [h.identity.not_twice, h.display.not_twice, h.tracking.not_twice,
      h.streaming.not_twice])
  have identity :=
    h.identity.optional_eq read (by simp) (fun _ _ => IdentityPatch.ofJson?_eq) {}
  have display :=
    h.display.optional_eq read (by simp) (fun _ _ => DisplayPatch.ofJson?_eq) {}
  have tracking :=
    h.tracking.optional_eq read (by simp) (fun _ _ => TrackingPatch.ofJson?_eq) {}
  have streaming :=
    h.streaming.optional_eq read (by simp) (fun _ _ => StreamingPatch.ofJson?_eq) {}
  simp [Config.ofJson?, read, apply, identity, display, tracking, streaming]

end ConfigPatch

/-! ## Repetitions -/

/-- The names of the sections, each with those of its fields. -/
def Config.sections : List (String × List String) :=
  [("identity", ["serial_number", "device_class", "adapter_name"]),
    ("display", ["render_width", "render_height", "window_x", "window_y", "refresh_rate_hz"]),
    ("tracking", ["pose_time_offset_ms", "max_prediction_ms", "adaptive_pose_offset",
      "host_pipeline_frames", "latency_history"]),
    ("streaming", ["start_on_client_ready", "codec"])]

/-- A section occurs twice in the document, or a field twice in a section of it. -/
inductive Repeats (members : List (List Char × Json)) : Prop
  | ofSection {s : String × List String} (hs : s ∈ Config.sections) (twice : Twice s.1 members)
  | ofField {s : String × List String} {key : List Char} {inner : List (List Char × Json)}
    {name : String} (hs : s ∈ Config.sections) (hm : (key, .object inner) ∈ members)
    (named : Named s.1 (key, .object inner)) (hn : name ∈ s.2) (twice : Twice name inner)

theorem Repeats.ofJson? {members : List (List Char × Json)} (h : Repeats members) :
    Config.ofJson? (.object members) = none := by
  cases read : fields? false ["identity", "display", "tracking", "streaming"] (.object members) with
  | none => simp [Config.ofJson?, read]
  | some fields =>
    cases h with
    | @ofSection s hs twice =>
      have hn : s.1 ∈ ["identity", "display", "tracking", "streaming"] := List.mem_map_of_mem hs
      rw [fields?_eq_none_of_twice false hn twice] at read
      cases read
    | ofField hs hm named hn twice =>
      have unread := fields?_eq_none_of_twice false hn twice
      simp only [Config.sections, List.mem_cons, List.not_mem_nil, or_false] at hs
      rcases hs with rfl | rfl | rfl | rfl
      · have unread : Json.optional {} IdentityConfig.ofJson? fields "identity" = none := by
          rw [optional_of_mem read (by simp) hm named, IdentityConfig.ofJson?, unread]
          rfl
        simp [Config.ofJson?, read, unread]
      · have unread : Json.optional {} DisplayConfig.ofJson? fields "display" = none := by
          rw [optional_of_mem read (by simp) hm named, DisplayConfig.ofJson?, unread]
          rfl
        simp [Config.ofJson?, read, unread]
      · have unread : Json.optional {} TrackingConfig.ofJson? fields "tracking" = none := by
          rw [optional_of_mem read (by simp) hm named, TrackingConfig.ofJson?, unread]
          rfl
        simp [Config.ofJson?, read, unread]
      · have unread : Json.optional {} StreamingConfig.ofJson? fields "streaming" = none := by
          rw [optional_of_mem read (by simp) hm named, StreamingConfig.ofJson?, unread]
          rfl
        simp [Config.ofJson?, read, unread]

/-- A document that gives values to some fields is read as the defaults with these values in their
places, if they are in range; one that repeats a section or a field is not read. -/
theorem Config.read_of_object {text : String} {members : List (List Char × Json)}
    (spells : (Json.object members).Spells text) :
    (∀ p : ConfigPatch, p.Given members → Config.read text = (p.apply {}).validate) ∧
      (Repeats members → Config.read text = .error .malformed) := by
  constructor
  · intro p given
    simp [Config.read, spells.parse?, ConfigPatch.ofJson?_eq (.intro given)]
  · intro repeats
    simp [Config.read, spells.parse?, repeats.ofJson?]

/-- A display under a spelling with an escape, with a member of another name that holds half of a
pair. -/
def Config.wide : List Char × Json :=
  ("disp\\u006cay".toList,
    .object [("note".toList, .string "\\udc00".toList), ("render_width".toList, ofNat 2000)])

/-- A document with this display behind a member of another name. -/
def Config.sparse : List (List Char × Json) :=
  [("x".toList, .array [.object [("\\ud800".toList, .null)], .bool false]), Config.wide]

/-- A document with a second display in front. -/
def Config.twofold : List (List Char × Json) := ("display".toList, .object []) :: Config.sparse

theorem Config.read_of_sparse :
    Config.read (" " ++ (Json.object Config.sparse).render) = .ok { display := { width := 2000 } } ∧
      Config.read (Json.object Config.twofold).render = .error .malformed := by
  have spells : (Json.object Config.sparse).Spells (" " ++ (Json.object Config.sparse).render) := by
    obtain ⟨legible, layout⟩ := spells_render (j := .object Config.sparse) (by decide +kernel)
    refine ⟨legible, ?_⟩
    rw [String.toList_append]
    exact .blank (by decide) layout
  have inner : DisplayPatch.Given { width := some 2000 }
      [("note".toList, .string "\\udc00".toList), ("render_width".toList, ofNat 2000)] :=
    { keyed := by decide +kernel
      width := @Field.present _ _ _ [_] [] _ _ (by decide +kernel) rfl (by decide +kernel)
      height := .absent (by decide +kernel)
      windowX := .absent (by decide +kernel)
      windowY := .absent (by decide +kernel)
      refreshRate := .absent (by decide +kernel) }
  have given : ConfigPatch.Given { display := some { width := some 2000 } } Config.sparse :=
    { keyed := by decide +kernel
      identity := .absent (by decide +kernel)
      display :=
        @Field.present _ _ _ [_] [] _ _ (by decide +kernel) (.intro inner) (by decide +kernel)
      tracking := .absent (by decide +kernel)
      streaming := .absent (by decide +kernel) }
  have twice : Twice "display" Config.twofold :=
    ⟨("display".toList, .object []), Config.wide,
      .cons_cons _ (List.singleton_sublist.2 (by simp [Config.sparse])), by decide +kernel,
      by decide +kernel⟩
  have repeats : Repeats Config.twofold := .ofSection (List.mem_cons_of_mem _ (.head _)) twice
  constructor
  · rw [(Config.read_of_object spells).1 _ given]
    exact Config.validate_eq_ok_iff.2 (Option.isNone_iff_eq_none.1 (by decide +kernel))
  · exact (Config.read_of_object (spells_render (by decide +kernel))).2 repeats

end Headset
