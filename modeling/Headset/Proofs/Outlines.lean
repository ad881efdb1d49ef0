import Headset.Proofs.Records

/-!
# Outlines

An outline says which fields the objects of a document have, in their order and at all depths
(`Json.outline`).  A document is faulty for an outline if at any depth one of these fields is
missing or occurs twice (`Json.Faulty`).  Readers of records reject such documents, if their readers
of fields do (`rejects_record`).
-/

namespace Headset

/-- The names of the fields of a document, in their order and at all depths. -/
inductive Outline where
  | leaf
  | array (items : List Outline)
  | record (fields : List (String × Outline))

namespace Json

variable {α : Type}

mutual

def outline : Json → Outline
  | .array items => .array (itemOutlines items)
  | .object members => .record (memberOutlines members)
  | _ => .leaf

def itemOutlines : List Json → List Outline
  | [] => []
  | j :: rest => j.outline :: itemOutlines rest

def memberOutlines : List (List Char × Json) → List (String × Outline)
  | [] => []
  | (key, j) :: rest => (nameOf (key, j), j.outline) :: memberOutlines rest

end

theorem outline_array (items : List Json) : (array items).outline = .array (items.map outline) := by
  rw [outline]
  congr 1
  induction items with
  | nil => rfl
  | cons j rest ih => rw [itemOutlines, ih, List.map_cons]

theorem outline_record (fields : List (String × Json)) :
    (record fields).outline = .record (fields.map fun f => (f.1, f.2.outline)) := by
  rw [record, outline]
  congr 1
  induction fields with
  | nil => rfl
  | cons f rest ih =>
    have spelled : Named f.1 (Escape.escape f.1.toList, f.2) := Escape.spells_escape f.1.toList
    rw [List.map_cons, memberOutlines, ih, spelled.nameOf_eq, List.map_cons]

theorem outline_ofSingle (x : Float32) : (ofSingle x).outline = .leaf := by
  unfold ofSingle
  split <;> rfl

/-- A field of the outline is missing or occurs twice somewhere in the document. -/
inductive Faulty : Outline → Json → Prop
  | missing {fields : List (String × Outline)} {members : List (List Char × Json)} {name : String}
    (hn : name ∈ fields.map Prod.fst) (others : ∀ m ∈ members, ¬ Named name m) :
    Faulty (.record fields) (.object members)
  | repeated {fields : List (String × Outline)} {members : List (List Char × Json)} {name : String}
    (hn : name ∈ fields.map Prod.fst) (twice : Twice name members) :
    Faulty (.record fields) (.object members)
  | field {fields : List (String × Outline)} {members : List (List Char × Json)} {name : String}
    {o : Outline} {m : List Char × Json} (hn : (name, o) ∈ fields) (hm : m ∈ members)
    (named : Named name m) (faulty : Faulty o m.2) : Faulty (.record fields) (.object members)
  | item {outlines : List Outline} {items : List Json} {o : Outline} {j : Json}
    (h : (o, j) ∈ outlines.zip items) (faulty : Faulty o j) :
    Faulty (.array outlines) (.array items)

/-- A reader of nothing that is faulty for an outline. -/
def Rejects (o : Outline) (f : Json → Option α) : Prop := ∀ ⦃j : Json⦄, Faulty o j → f j = none

theorem rejects_leaf (f : Json → Option α) : Rejects .leaf f := fun _ faulty => nomatch faulty

/-- A field whose value is missing or faulty has no value. -/
theorem Rejects.required {o : Outline} {f : Json → Option α} (hf : Rejects o f)
    {es : List (String × Json)} {name : String}
    (h : ∀ j, es.lookup name = some j → Faulty o j) : required f es name = none := by
  rw [Json.required]
  cases found : es.lookup name with
  | none => rfl
  | some j => exact hf (h j found)

/-- A record is rejected if that is what its reader makes of any field that is missing or faulty. -/
theorem rejects_record (closed : Bool) {fields : List (String × Outline)}
    {g : List (String × Json) → Option α}
    (h : ∀ es, ∀ p ∈ fields, (∀ j, es.lookup p.1 = some j → Faulty p.2 j) → g es = none) :
    Rejects (.record fields) fun j => (fields? closed (fields.map Prod.fst) j).bind g := by
  intro j faulty
  rw [Option.bind_eq_none_iff]
  intro es read
  cases faulty with
  | missing hn others =>
    obtain ⟨p, hp, rfl⟩ := List.mem_map.1 hn
    refine h es p hp fun j found => ?_
    rw [lookup_of_absent read others] at found
    cases found
  | repeated hn twice =>
    rw [fields?_eq_none_of_twice closed hn twice] at read
    cases read
  | @field _ _ name o m hn hm named faulty =>
    refine h es (name, o) hn fun j found => ?_
    rw [lookup_of_fields? read (List.mem_map_of_mem hn) hm named] at found
    obtain rfl := Option.some.inj found
    exact faulty

end Json

end Headset
