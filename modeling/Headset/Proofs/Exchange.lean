import Headset.Proofs.Outlines
import Headset.Proofs.Reordering
import Headset.Proofs.RoundTrip
import Headset.Wire

/-!
# Exchanged documents

The types that are both written and read (`Wire`), and what can be relied on when a value of one is
written and read again (`Wire.Carries`).  This follows from what holds of the reader and the writer
apart from any text (`Wire.Sound`), which is proved for arrays and for records once
(`Wire.sound_array`, `Wire.IsRecord.sound`) and then for each type from its parts.
-/

namespace Headset

open Json

/-- A token without blanks that is spelled as it should be. -/
def Token.Tight (t : Token) : Prop := t.Legible ∧ ∀ c ∈ t.text, Token.isBlank c = false

-- decided by the characters of the text, not by all that there are
instance (t : Token) : Decidable t.Tight :=
  have : Decidable (∀ c ∈ t.text, Token.isBlank c = false) := List.decidableBAll _ t.text
  inferInstanceAs (Decidable (t.Legible ∧ ∀ c ∈ t.text, Token.isBlank c = false))

theorem Token.isBlank_of_isWordChar {c : Char} (h : isWordChar c = true) : isBlank c = false := by
  rw [← Bool.not_eq_true]
  intro blank
  have among : c ∈ [' ', '\t', '\n', '\r'] := by simpa [isBlank, or_assoc] using blank
  rw [not_isWordChar (List.mem_append_left ['"'] among)] at h
  cases h

theorem Json.tight_number {text : List Char} {n : Numeral} (h : Numeral.Spelled text n) :
    ∀ t ∈ (number text).tokens, t.Tight := by
  intro t ht
  obtain rfl := List.mem_singleton.1 ht
  exact ⟨⟨n, h⟩, fun c hc => Token.isBlank_of_isWordChar (Token.isWordChar_of_spelled h c hc)⟩

theorem Json.IsNumber.tight {j : Json} {x : Float32} (h : IsNumber j x) :
    ∀ t ∈ j.tokens, t.Tight := by
  obtain ⟨spelled, -⟩ := h
  exact tight_number spelled

theorem Json.tight_ofNat (n : Nat) : ∀ t ∈ (ofNat n).tokens, t.Tight := by
  obtain ⟨numeral, spelled⟩ := legible_ofNat n _ (.head _)
  exact tight_number spelled

theorem Json.tight_marks : ∀ t ∈ marks, t.Tight := by decide

/-- How the values of a type are written and read, and which fields they have. -/
structure Wire (α : Type) where
  toJson : α → Json
  ofJson? : Json → Option α
  outline : Outline

namespace Wire

variable {α β : Type}

/-- The text of a value. -/
def encode (w : Wire α) (v : α) : String := (w.toJson v).render

/-- The value of a text. -/
def decode (w : Wire α) (text : String) : Option α := (Json.parse? text).bind w.ofJson?

/-- What can be relied on when a value is written and read. -/
structure Carries (w : Wire α) (v : α) : Prop where
  /-- The text is of a document with the fields in their order, at all depths. -/
  ordered : (w.toJson v).Spells (w.encode v) ∧ (w.toJson v).outline = w.outline
  tight : ∀ c ∈ (w.encode v).toList, Token.isBlank c = false
  roundTrip : w.decode (w.encode v) = some v
  /-- The same document with its members in any other order has a text, and all its texts are read
  as the value. -/
  reordered : ∀ j, Reordered (w.toJson v) j →
    j.Spells j.render ∧ ∀ text, j.Spells text → w.decode text = some v
  /-- A document in which any field is missing or repeated is not read. -/
  strict : ∀ j, Faulty w.outline j → ∀ text, j.Spells text → w.decode text = none

/-- What holds of a writer and a reader of documents, for values that can be read back. -/
structure Sound (w : Wire α) (Back : α → Prop) : Prop where
  ordered : ∀ v, (w.toJson v).outline = w.outline
  tight : ∀ v, Back v → ∀ t ∈ (w.toJson v).tokens, t.Tight
  reads : ∀ v, Back v → w.ofJson? (w.toJson v) = some v
  invariant : Invariant w.ofJson?
  rejects : Rejects w.outline w.ofJson?

theorem Sound.mono {w : Wire α} {Back Back' : α → Prop} (h : w.Sound Back)
    (le : ∀ v, Back' v → Back v) : w.Sound Back' :=
  { h with
    tight := fun v back => h.tight v (le v back)
    reads := fun v back => h.reads v (le v back) }

theorem Sound.carries {w : Wire α} {Back : α → Prop} (h : w.Sound Back) {v : α} (back : Back v) :
    w.Carries v := by
  have legible : (w.toJson v).Legible := fun t ht => (h.tight v back t ht).1
  have reordered (j : Json) (same : Reordered (w.toJson v) j) (text : String)
      (spells : j.Spells text) : w.decode text = some v := by
    rw [decode, spells.parse?, Option.bind_some, ← h.invariant same]
    exact h.reads v back
  exact
    { ordered := ⟨spells_render legible, h.ordered v⟩
      tight := by
        intro c hc
        rw [encode, render, String.toList_ofList] at hc
        obtain ⟨t, ht, hc⟩ := List.mem_flatMap.1 hc
        exact (h.tight v back t ht).2 c hc
      roundTrip := reordered _ (.refl _) _ (spells_render legible)
      reordered := fun j same => ⟨spells_render (same.legible legible), reordered j same⟩
      strict := by
        intro j faulty text spells
        rw [decode, spells.parse?, Option.bind_some]
        exact h.rejects faulty }

/-! ## Values -/

/-- A wire of what has no fields. -/
def leaf (f : α → Json) (g : Json → Option α) : Wire α := ⟨f, g, .leaf⟩

theorem sound_leaf {f : α → Json} {g : Json → Option α} {Back : α → Prop}
    (ordered : ∀ v, (f v).outline = .leaf) (tight : ∀ v, Back v → ∀ t ∈ (f v).tokens, t.Tight)
    (reads : ∀ v, Back v → g (f v) = some v) (invariant : Invariant g) :
    (leaf f g).Sound Back where
  ordered := ordered
  tight := tight
  reads := reads
  invariant := invariant
  rejects := rejects_leaf g

theorem sound_single : (leaf ofSingle toSingle?).Sound ReadsBack :=
  sound_leaf outline_ofSingle (fun _ back => (isNumber_ofSingle back).tight) (fun _ back => back)
    invariant_toSingle?

theorem sound_nat {bound : Nat} (fits : bound ≤ 0x10000000000000000) :
    (leaf ofNat (toNat? bound)).Sound (· < bound) :=
  sound_leaf (fun _ => rfl) (fun n _ => tight_ofNat n) (fun _ h => toNat?_ofNat h fits)
    (invariant_toNat? bound)

theorem sound_uint32 : (leaf (ofNat ·.toNat) toUInt32?).Sound fun _ => True :=
  sound_leaf (fun _ => rfl) (fun n _ => tight_ofNat n.toNat) (fun n _ => toUInt32?_ofNat n)
    invariant_toUInt32?

/-! ## Arrays -/

/-- What two items make, if both are read. -/
def pair? (make : β → β → α) : List (Option β) → Option α
  | [x, y] => do return make (← x) (← y)
  | _ => none

/-- What three items make. -/
def triple? (make : β → β → β → α) : List (Option β) → Option α
  | [x, y, z] => do return make (← x) (← y) (← z)
  | _ => none

/-- What four items make. -/
def quadruple? (make : β → β → β → β → α) : List (Option β) → Option α
  | [x, y, z, w] => do return make (← x) (← y) (← z) (← w)
  | _ => none

theorem pair?_eq_none (make : β → β → α) {os : List (Option β)} (h : none ∈ os) :
    pair? make os = none := by
  rcases os with _ | ⟨x, _ | ⟨y, _ | _⟩⟩ <;> try rfl
  simp only [List.mem_cons, List.not_mem_nil, or_false] at h
  rcases h with rfl | rfl <;> simp [pair?]

theorem triple?_eq_none (make : β → β → β → α) {os : List (Option β)} (h : none ∈ os) :
    triple? make os = none := by
  rcases os with _ | ⟨x, _ | ⟨y, _ | ⟨z, _ | _⟩⟩⟩ <;> try rfl
  simp only [List.mem_cons, List.not_mem_nil, or_false] at h
  rcases h with rfl | rfl | rfl <;> simp [triple?]

theorem quadruple?_eq_none (make : β → β → β → β → α) {os : List (Option β)} (h : none ∈ os) :
    quadruple? make os = none := by
  rcases os with _ | ⟨x, _ | ⟨y, _ | ⟨z, _ | ⟨w, _ | _⟩⟩⟩⟩ <;> try rfl
  simp only [List.mem_cons, List.not_mem_nil, or_false] at h
  rcases h with rfl | rfl | rfl | rfl <;> simp [quadruple?]

/-- An array of so many items, read from what each of them is read as. -/
theorem sound_array {item : Wire β} {Back : β → Prop} (hi : item.Sound Back) {w : Wire α}
    (items : α → List β) (n : Nat) (count : ∀ v, (items v).length = n)
    (writes : ∀ v, w.toJson v = .array ((items v).map item.toJson))
    (outline : w.outline = .array (List.replicate n item.outline))
    {g : List (Option β) → Option α} (reader : ∀ j, w.ofJson? j = (itemsBy item.ofJson? j).bind g)
    (makes : ∀ v, g ((items v).map some) = some v) (rejects : ∀ os, none ∈ os → g os = none) :
    w.Sound fun v => ∀ x ∈ items v, Back x where
  ordered v := by
    rw [writes, outline, outline_array, List.map_map, ← count v, ← List.map_const]
    exact congrArg Outline.array (List.map_congr_left fun x _ => hi.ordered x)
  tight v back := by
    rw [writes]
    exact (forall_tokens_array tight_marks _).2
      (List.forall_mem_map.2 fun x hx => hi.tight x (back x hx))
  reads v back := by
    rw [writes, reader, itemsBy, List.map_map, Option.bind_some]
    have each : (items v).map (item.ofJson? ∘ item.toJson) = (items v).map some :=
      List.map_congr_left fun x hx => hi.reads x (back x hx)
    rw [each, makes]
  invariant j k h := by rw [reader, reader, invariant_itemsBy hi.invariant h]
  rejects := by
    intro j faulty
    rw [outline] at faulty
    cases faulty with
    | item within faulty =>
      obtain ⟨ho, hj⟩ := List.of_mem_zip within
      obtain rfl := List.eq_of_mem_replicate ho
      rw [reader, itemsBy, Option.bind_some]
      exact rejects _ (List.mem_map.2 ⟨_, hj, hi.rejects faulty⟩)

/-! ## Records -/

/-- A field of a record: its name, how it is written and read, and its value. -/
structure Slot (α : Type) where
  name : String
  {β : Type}
  wire : Wire β
  get : α → β

namespace Slot

/-- The value of a field as it is found among others. -/
def find? (p : Slot α) (es : List (String × Json)) : Option p.β :=
  required p.wire.ofJson? es p.name

/-- A field whose type can be read back where the record can. -/
def Sound (p : Slot α) (Back : α → Prop) : Prop :=
  ∃ Back' : p.β → Prop, p.wire.Sound Back' ∧ ∀ v, Back v → Back' (p.get v)

/-- What makes a record of its fields, if they fit. -/
def Builder : List (Slot α) → Type
  | [] => Option α
  | p :: slots => p.β → Builder slots

/-- The record made of the fields that are found. -/
def build? : (slots : List (Slot α)) → Builder slots → List (String × Json) → Option α
  | [], b, _ => b
  | p :: slots, b, es => (p.find? es).bind fun x => build? slots (b x) es

/-- The record made of the fields of a value. -/
def rebuild? : (slots : List (Slot α)) → Builder slots → α → Option α
  | [], b, _ => b
  | p :: slots, b, v => rebuild? slots (b (p.get v)) v

variable {es fs : List (String × Json)}

theorem build?_eq_rebuild? {v : α} : ∀ {slots : List (Slot α)} (b : Builder slots),
    (∀ p ∈ slots, p.find? es = some (p.get v)) → build? slots b es = rebuild? slots b v
  | [], _, _ => rfl
  | p :: slots, b, h => by
    obtain ⟨found, others⟩ := List.forall_mem_cons.1 h
    rw [build?, found, Option.bind_some, build?_eq_rebuild? _ others, rebuild?]

theorem build?_congr : ∀ {slots : List (Slot α)} (b : Builder slots),
    (∀ p ∈ slots, p.find? es = p.find? fs) → build? slots b es = build? slots b fs
  | [], _, _ => rfl
  | p :: slots, b, h => by
    obtain ⟨same, others⟩ := List.forall_mem_cons.1 h
    rw [build?, build?, same]
    exact congrArg _ (funext fun x => build?_congr (b x) others)

theorem build?_eq_none {p : Slot α} (lacking : p.find? es = none) :
    ∀ {slots : List (Slot α)} (b : Builder slots), p ∈ slots → build? slots b es = none
  | q :: slots, b, h => by
    rw [build?]
    rcases List.mem_cons.1 h with rfl | h
    · rw [lacking, Option.bind_none]
    · simp only [build?_eq_none lacking _ h, Option.bind_fun_none]

end Slot

/-- A wire of records that are made of such fields. -/
structure IsRecord (w : Wire α) (slots : List (Slot α)) (closed : Bool) (b : Slot.Builder slots) :
    Prop where
  keys : ∀ p ∈ slots, (Token.string (Escape.escape p.name.toList)).Tight
  unique : (slots.map Slot.name).Nodup
  writes : ∀ v, w.toJson v = record (slots.map fun p => (p.name, p.wire.toJson (p.get v)))
  outline : w.outline = .record (slots.map fun p => (p.name, p.wire.outline))
  reader : ∀ j, w.ofJson? j = (fields? closed (slots.map Slot.name) j).bind (Slot.build? slots b)
  builds : ∀ v, Slot.rebuild? slots b v = some v

namespace IsRecord

variable {w : Wire α} {Back : α → Prop} {slots : List (Slot α)} {closed : Bool}
  {b : Slot.Builder slots} (h : w.IsRecord slots closed b) (hs : ∀ p ∈ slots, p.Sound Back)

include h hs

theorem outline_toJson (v : α) : (w.toJson v).outline = w.outline := by
  rw [h.writes, h.outline, outline_record, List.map_map]
  refine congrArg Outline.record (List.map_congr_left fun p hp => ?_)
  obtain ⟨Back', hw, -⟩ := hs p hp
  exact congrArg (Prod.mk p.name) (hw.ordered (p.get v))

theorem tight_toJson {v : α} (back : Back v) : ∀ t ∈ (w.toJson v).tokens, t.Tight := by
  rw [h.writes]
  refine (forall_tokens_object tight_marks _).2 (List.forall_mem_map.2 (List.forall_mem_map.2 ?_))
  intro p hp
  obtain ⟨Back', hw, le⟩ := hs p hp
  exact ⟨h.keys p hp, hw.tight _ (le v back)⟩

theorem ofJson?_toJson {v : α} (back : Back v) : w.ofJson? (w.toJson v) = some v := by
  let fields := slots.map fun p => (p.name, p.wire.toJson (p.get v))
  have names : fields.map Prod.fst = slots.map Slot.name := by simp [fields]
  have unique : (fields.map Prod.fst).Nodup := names ▸ h.unique
  have found := fields?_record closed unique
  rw [names] at found
  rw [h.writes, h.reader, found, Option.bind_some, ← h.builds v]
  refine Slot.build?_eq_rebuild? b fun p hp => ?_
  obtain ⟨Back', hw, le⟩ := hs p hp
  have value : fields.lookup p.name = some (p.wire.toJson (p.get v)) :=
    lookup_of_mem unique (List.mem_map.2 ⟨p, hp, rfl⟩)
  rw [Slot.find?, required, value, Option.bind_some]
  exact hw.reads _ (le v back)

theorem invariant : Invariant w.ofJson? := by
  have fields : Invariant fun j =>
      (fields? closed (slots.map Slot.name) j).bind (Slot.build? slots b) := by
    refine .of_fields? closed _ fun es fs same => Slot.build?_congr b fun p hp => ?_
    obtain ⟨Back', hw, -⟩ := hs p hp
    exact same.required hw.invariant p.name
  intro j k same
  rw [h.reader, h.reader]
  exact fields same

theorem rejects : Rejects w.outline w.ofJson? := by
  have fields := @rejects_record α closed (slots.map fun p => (p.name, p.wire.outline))
    (Slot.build? slots b)
  rw [List.map_map] at fields
  intro j faulty
  rw [h.outline] at faulty
  rw [h.reader]
  refine fields (fun es f hf lacking => ?_) faulty
  obtain ⟨p, hp, rfl⟩ := List.mem_map.1 hf
  obtain ⟨Back', hw, -⟩ := hs p hp
  exact Slot.build?_eq_none (hw.rejects.required lacking) b hp

theorem sound : w.Sound Back where
  ordered := h.outline_toJson hs
  tight _ := h.tight_toJson hs
  reads _ := h.ofJson?_toJson hs
  invariant := h.invariant hs
  rejects := h.rejects hs

end IsRecord

end Wire

end Headset
