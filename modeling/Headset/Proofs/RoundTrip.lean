import Headset.Proofs.Defaults

/-!
# Reading what was written

The written form of a configuration gives a value to every field, and each is read back as it was
(`Config.read_render`); for singles this is asked for, since their digits are rounded on the way
back.
-/

namespace Headset

namespace Json

/-! ## Values -/

theorem isText_ofString (s : String) : IsText (ofString s) s :=
  .intro (Escape.spells_escape s.toList)

theorem isOptionalText_ofOption (s : Option String) : IsOptionalText (ofOption ofString s) s := by
  cases s with
  | none => exact .none
  | some s => exact .some (isText_ofString s)

theorem isName_ofString {α : Type} {names : List (String × α)} {name : String} {a : α}
    (known : names.lookup name = some a) : IsName names (ofString name) a :=
  .text (isText_ofString name) known

/-- The written form of a single is read as that single. -/
def ReadsBack (x : Float32) : Prop := (ofSingle x).toSingle? = some x

instance (x : Float32) : Decidable (ReadsBack x) :=
  inferInstanceAs (Decidable ((ofSingle x).toSingle? = some x))

theorem isNumber_ofSingle {x : Float32} (h : ReadsBack x) : IsNumber (ofSingle x) x := by
  obtain ⟨v, hv, rounded⟩ := Option.map_eq_some_iff.1 h
  cases written : ofSingle x with
  | number text =>
    rw [written] at hv
    obtain ⟨n, hn, value⟩ := Option.bind_eq_some_iff.1 hv
    rw [← rounded]
    exact .intro (Numeral.read?_eq_some_iff.1 hn) value
  | _ =>
    rw [written] at hv
    cases hv

/-! ## Legibility -/

theorem legible_of_tokens {j : Json} {t : Token} (h : j.tokens = [t]) (ht : t.Legible) :
    j.Legible := by
  rw [Legible, h]
  exact List.forall_mem_singleton.2 ht

theorem legible_number {text : List Char} {n : Numeral} (h : Numeral.Spelled text n) :
    (number text).Legible :=
  legible_of_tokens rfl ⟨n, h⟩

theorem legible_ofNat (n : Nat) : (ofNat n).Legible := by
  apply legible_number
  rw [Nat.toList_repr]
  exact Numeral.spelled_toDigits n

theorem legible_ofInt (n : Int) : (ofInt n).Legible := by
  cases n with
  | ofNat n => exact legible_ofNat n
  | negSucc n =>
    apply legible_number
    rw [Nat.toList_repr]
    exact Numeral.spelled_minus_toDigits (n + 1)

theorem legible_bool (b : Bool) : (bool b).Legible := legible_of_tokens rfl trivial

theorem IsNumber.legible {j : Json} {x : Float32} (h : IsNumber j x) : j.Legible := by
  obtain ⟨spelled, -⟩ := h
  exact legible_number spelled

theorem IsText.legible {j : Json} {s : String} (h : IsText j s) : j.Legible := by
  cases h with
  | intro spelled => exact legible_of_tokens rfl spelled.body

theorem IsOptionalText.legible {j : Json} {s : Option String} (h : IsOptionalText j s) :
    j.Legible := by
  cases h with
  | none => decide
  | some h => exact h.legible

theorem legible_record {fields : List (String × Json)} (h : ∀ f ∈ fields, f.2.Legible) :
    (record fields).Legible := by
  refine (forall_tokens_object legible_marks _).2 (List.forall_mem_map.2 fun f hf => ?_)
  exact ⟨(Escape.spells_escape f.1.toList).body, h f hf⟩

/-! ## Records -/

theorem keyed_record (fields : List (String × Json)) :
    Keyed (fields.map fun f => (Escape.escape f.1.toList, f.2)) := by
  intro m hm
  obtain ⟨f, -, rfl⟩ := List.mem_map.1 hm
  exact ⟨f.1, Escape.spells_escape f.1.toList⟩

/-- All fields of a record are found in it, in their order. -/
theorem fields?_record (closed : Bool) {fields : List (String × Json)}
    (unique : (fields.map Prod.fst).Nodup) :
    fields? closed (fields.map Prod.fst) (record fields) = some fields := by
  have spelled (f : String × Json) : nameOf (Escape.escape f.1.toList, f.2) = f.1 :=
    Named.nameOf_eq (Escape.spells_escape f.1.toList)
  have found : known (fields.map Prod.fst)
      (fields.map fun f => (Escape.escape f.1.toList, f.2)) = fields := by
    rw [known, List.map_map, List.filter_eq_self.2]
    · simp [Function.comp_def, spelled]
    · simp only [Function.comp_def, spelled, List.map_id', List.contains_iff_mem]
      exact fun f hf => List.mem_map_of_mem hf
  rw [record, fields?_object, found, if_pos ⟨keyed_record fields, unique, fun _ => by simp⟩]

/-- A record gives each of its fields the value that it holds. -/
theorem field_record {α : Type} {Holds : Json → α → Prop} {fields : List (String × Json)}
    (unique : (fields.map Prod.fst).Nodup) {name : String} {j : Json} (h : (name, j) ∈ fields)
    {a : α} (holds : Holds j a) :
    Field Holds name (fields.map fun f => (Escape.escape f.1.toList, f.2)) (some a) := by
  obtain ⟨before, after, rfl⟩ := List.append_of_mem h
  rw [List.map_append, List.map_cons]
  refine .present (Escape.spells_escape name.toList) holds fun m hm named => ?_
  rw [← List.map_append] at hm
  obtain ⟨f, hf, rfl⟩ := List.mem_map.1 hm
  have spells : Named f.1 (Escape.escape f.1.toList, f.2) := Escape.spells_escape f.1.toList
  obtain rfl : f.1 = name := spells.nameOf_eq.symm.trans named.nameOf_eq
  rw [List.map_append, List.map_cons, List.nodup_middle, List.nodup_cons,
    ← List.map_append] at unique
  have again : f.1 ∈ (before ++ after).map Prod.fst := List.mem_map_of_mem hf
  exact unique.1 again

end Json

open Json

/-! ## Configurations -/

namespace IdentityConfig

theorem given_toJson (c : IdentityConfig) :
    IsObject IdentityPatch.Given c.toJson ⟨some c.serial, some c.deviceClass, some c.adapter⟩ := by
  have deviceClass : DeviceClass.names.lookup c.deviceClass.name = some c.deviceClass := by
    cases c.deviceClass <;> decide
  exact .intro
    { keyed := keyed_record _
      serial := field_record (by simp) (by simp) (isText_ofString c.serial)
      deviceClass := field_record (by simp) (by simp) (isName_ofString deviceClass)
      adapter := field_record (by simp) (by simp) (isOptionalText_ofOption c.adapter) }

theorem legible_toJson (c : IdentityConfig) : c.toJson.Legible := by
  apply legible_record
  simp [(isText_ofString c.serial).legible, (isText_ofString c.deviceClass.name).legible,
    (isOptionalText_ofOption c.adapter).legible]

end IdentityConfig

namespace DisplayConfig

variable (c : DisplayConfig) (refreshRate : ReadsBack c.refreshRate)

include refreshRate

theorem given_toJson : IsObject DisplayPatch.Given c.toJson
    ⟨some c.width, some c.height, some c.windowX, some c.windowY, some c.refreshRate⟩ :=
  .intro
    { keyed := keyed_record _
      width := field_record (by simp) (by simp) rfl
      height := field_record (by simp) (by simp) rfl
      windowX := field_record (by simp) (by simp) rfl
      windowY := field_record (by simp) (by simp) rfl
      refreshRate := field_record (by simp) (by simp) (isNumber_ofSingle refreshRate) }

theorem legible_toJson : c.toJson.Legible := by
  apply legible_record
  simp [legible_ofNat, legible_ofInt, (isNumber_ofSingle refreshRate).legible]

end DisplayConfig

namespace TrackingConfig

variable (c : TrackingConfig) (poseOffset : ReadsBack c.poseOffset)
  (maxPrediction : ReadsBack c.maxPrediction) (hostPipelineFrames : ReadsBack c.hostPipelineFrames)

include poseOffset maxPrediction hostPipelineFrames

theorem given_toJson : IsObject TrackingPatch.Given c.toJson
    ⟨some c.poseOffset, some c.maxPrediction, some c.adaptiveOffset, some c.hostPipelineFrames,
      some c.latencyHistory⟩ :=
  .intro
    { keyed := keyed_record _
      poseOffset := field_record (by simp) (by simp) (isNumber_ofSingle poseOffset)
      maxPrediction := field_record (by simp) (by simp) (isNumber_ofSingle maxPrediction)
      adaptiveOffset := field_record (by simp) (by simp) rfl
      hostPipelineFrames := field_record (by simp) (by simp) (isNumber_ofSingle hostPipelineFrames)
      latencyHistory := field_record (by simp) (by simp) rfl }

theorem legible_toJson : c.toJson.Legible := by
  apply legible_record
  simp [(isNumber_ofSingle poseOffset).legible, (isNumber_ofSingle maxPrediction).legible,
    legible_bool, (isNumber_ofSingle hostPipelineFrames).legible, legible_ofNat]

end TrackingConfig

namespace StreamingConfig

theorem given_toJson (c : StreamingConfig) :
    IsObject StreamingPatch.Given c.toJson ⟨some c.startOnClientReady, some c.codec⟩ := by
  have codec : VideoCodec.names.lookup c.codec.name = some c.codec := by
    cases c.codec <;> decide
  exact .intro
    { keyed := keyed_record _
      startOnClientReady := field_record (by simp) (by simp) rfl
      codec := field_record (by simp) (by simp) (isName_ofString codec) }

theorem legible_toJson (c : StreamingConfig) : c.toJson.Legible := by
  apply legible_record
  simp [legible_bool, (isText_ofString c.codec.name).legible]

end StreamingConfig

namespace Config

variable (c : Config) (refreshRate : ReadsBack c.display.refreshRate)
  (poseOffset : ReadsBack c.tracking.poseOffset)
  (maxPrediction : ReadsBack c.tracking.maxPrediction)
  (hostPipelineFrames : ReadsBack c.tracking.hostPipelineFrames)

include refreshRate poseOffset maxPrediction hostPipelineFrames

/-- The written form gives a value to every field. -/
theorem given_toJson : IsObject ConfigPatch.Given c.toJson
    { identity := some ⟨some c.identity.serial, some c.identity.deviceClass,
        some c.identity.adapter⟩
      display := some ⟨some c.display.width, some c.display.height, some c.display.windowX,
        some c.display.windowY, some c.display.refreshRate⟩
      tracking := some ⟨some c.tracking.poseOffset, some c.tracking.maxPrediction,
        some c.tracking.adaptiveOffset, some c.tracking.hostPipelineFrames,
        some c.tracking.latencyHistory⟩
      streaming := some ⟨some c.streaming.startOnClientReady, some c.streaming.codec⟩ } :=
  .intro
    { keyed := keyed_record _
      identity := field_record (by simp) (by simp) c.identity.given_toJson
      display := field_record (by simp) (by simp) (c.display.given_toJson refreshRate)
      tracking := field_record (by simp) (by simp)
        (c.tracking.given_toJson poseOffset maxPrediction hostPipelineFrames)
      streaming := field_record (by simp) (by simp) c.streaming.given_toJson }

theorem legible_toJson : c.toJson.Legible := by
  apply legible_record
  simp [c.identity.legible_toJson, c.display.legible_toJson refreshRate,
    c.tracking.legible_toJson poseOffset maxPrediction hostPipelineFrames,
    c.streaming.legible_toJson]

/-- A configuration whose values are in range is read from its written form. -/
theorem read_render (valid : c.validate = .ok c) : read c.render = .ok c := by
  have spells := spells_render
    (c.legible_toJson refreshRate poseOffset maxPrediction hostPipelineFrames)
  have given := c.given_toJson refreshRate poseOffset maxPrediction hostPipelineFrames
  have read : ofJson? c.toJson = some c := ConfigPatch.ofJson?_eq given
  simp [Config.read, render, spells.parse?, read, valid]

end Config

/-- A configuration with a quote, a zero character and a solidus in its serial number. -/
def Config.quoted : Config where
  identity := { serial := "\"\x00\\", adapter := some "" }
  display := { windowX := -1 }

theorem Config.read_render_quoted : Config.read Config.quoted.render = .ok Config.quoted := by
  have inRange : Config.quoted.fault?.isNone := by decide +kernel
  apply Config.read_render
  · decide +kernel
  · decide +kernel
  · decide +kernel
  · decide +kernel
  · exact Config.validate_eq_ok_iff.2 (Option.isNone_iff_eq_none.1 inRange)

end Headset
