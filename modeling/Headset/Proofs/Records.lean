import Headset.Proofs.Documents
import Mathlib.Data.List.Nodup

/-!
# Members of objects

What it means for a value to stand for something of the domain, and for the members of an object to
give a field a value (`Json.Field`): one of their keys spells the name of the field, or none does.
A reader of records finds exactly these values, in whatever order the members stand and whichever
others stand between them (`Field.optional_eq`), and reads no object that has a field twice
(`fields?_eq_none_of_twice`).
-/

namespace Headset.Json

variable {α β : Type}

/-! ## Values -/

/-- A string that spells a text. -/
inductive IsText : Json → String → Prop
  | intro {body : List Char} {s : String} (h : Escape.Spells body s.toList) :
    IsText (.string body) s

/-- A text, or null for none. -/
inductive IsOptionalText : Json → Option String → Prop
  | none : IsOptionalText .null none
  | some {j : Json} {s : String} (h : IsText j s) : IsOptionalText j (some s)

/-- One of several names: as a text, or as the key of an object that holds only null. -/
inductive IsName (names : List (String × α)) : Json → α → Prop
  | text {j : Json} {name : String} {a : α} (h : IsText j name)
    (known : names.lookup name = some a) : IsName names j a
  | key {body : List Char} {name : String} {a : α} (h : Escape.Spells body name.toList)
    (known : names.lookup name = some a) : IsName names (.object [(body, .null)]) a

/-- A number without a sign, a fraction and a power of ten. -/
def IsNat (toNat : α → Nat) (j : Json) (a : α) : Prop := j = ofNat (toNat a)

/-- A number without a fraction and a power of ten. -/
def IsInt (toInt : α → Int) (j : Json) (a : α) : Prop := j = ofInt (toInt a)

def IsBool (j : Json) (b : Bool) : Prop := j = .bool b

/-- Any number that is not past the largest double, rounded to a single. -/
inductive IsNumber : Json → Float32 → Prop
  | intro {text : List Char} {n : Numeral} {v : Numeral.Value} (h : Numeral.Spelled text n)
    (value : n.value? = some v) : IsNumber (.number text) v.toSingle

/-- A reader that gives what a value stands for. -/
def ReadBy (Holds : Json → α → Prop) (f : Json → Option α) : Prop := ∀ j a, Holds j a → f j = some a

theorem readBy_isText : ReadBy IsText toString? := by
  rintro _ s ⟨h⟩
  simp [toString?, h.unescape?]

theorem readBy_isOptionalText : ReadBy IsOptionalText (toOption? toString?) := by
  rintro _ _ (_ | @⟨_, s, ⟨h⟩⟩)
  · rfl
  · simp [toOption?, toString?, h.unescape?]

theorem readBy_isName (names : List (String × α)) : ReadBy (IsName names) (toName? names) := by
  rintro _ a (⟨⟨h⟩, known⟩ | ⟨h, known⟩) <;>
    simp [toName?, toString?, h.unescape?, known]

theorem readBy_isUInt32 : ReadBy (IsNat UInt32.toNat) toUInt32? := by
  rintro _ x rfl
  exact toUInt32?_ofNat x

theorem readBy_isUInt64 : ReadBy (IsNat UInt64.toNat) toUInt64? := by
  rintro _ x rfl
  exact toUInt64?_ofNat x

theorem readBy_isInt32 : ReadBy (IsInt Int32.toInt) toInt32? := by
  rintro _ x rfl
  exact toInt32?_ofInt x

theorem readBy_isBool : ReadBy IsBool toBool? := by
  rintro _ b rfl
  rfl

theorem readBy_isNumber : ReadBy IsNumber toSingle? := by
  rintro _ _ ⟨h, value⟩
  simp [toSingle?, toValue?, Numeral.read?_eq_some_iff.2 h, value]

/-! ## Fields -/

/-- A member whose key spells a name. -/
def Named (name : String) (m : List Char × Json) : Prop := Escape.Spells m.1 name.toList

instance (name : String) (m : List Char × Json) : Decidable (Named name m) :=
  inferInstanceAs (Decidable (Escape.Spells m.1 name.toList))

/-- Members whose keys all spell texts. -/
def Keyed (members : List (List Char × Json)) : Prop := ∀ m ∈ members, ∃ name, Named name m

theorem exists_named_iff {m : List Char × Json} :
    (∃ name, Named name m) ↔ (Escape.unescape? m.1).isSome = true := by
  rw [Option.isSome_iff_exists]
  constructor
  · rintro ⟨name, h⟩
    exact ⟨name.toList, Escape.Spells.unescape? h⟩
  · rintro ⟨text, h⟩
    refine ⟨String.ofList text, ?_⟩
    rw [Named, String.toList_ofList]
    exact Escape.spells_of_unescape? h

instance (members : List (List Char × Json)) : Decidable (Keyed members) :=
  decidable_of_iff (∀ m ∈ members, (Escape.unescape? m.1).isSome = true) (by
    simp only [Keyed, exists_named_iff])

/-- The members give a field a value, or none: one of them has its name, or none has. -/
inductive Field (Holds : Json → α → Prop) (name : String) :
    List (List Char × Json) → Option α → Prop
  | absent {members : List (List Char × Json)} (others : ∀ m ∈ members, ¬ Named name m) :
    Field Holds name members none
  | present {before after : List (List Char × Json)} {m : List Char × Json} {a : α}
    (named : Named name m) (holds : Holds m.2 a) (others : ∀ m ∈ before ++ after, ¬ Named name m) :
    Field Holds name (before ++ m :: after) (some a)

/-- Two members have the same name. -/
def Twice (name : String) (members : List (List Char × Json)) : Prop :=
  ∃ m₁ m₂, [m₁, m₂].Sublist members ∧ Named name m₁ ∧ Named name m₂

theorem Field.not_twice {Holds : Json → α → Prop} {name : String}
    {members : List (List Char × Json)} {value : Option α} (h : Field Holds name members value) :
    ¬ Twice name members := by
  rintro ⟨m₁, m₂, sub, named₁, named₂⟩
  have named {l : List (List Char × Json)} (hl : ∀ m ∈ l, ¬ Named name m) :
      l.filter (Named name) = [] :=
    List.filter_eq_nil_iff.2 fun m hm => by simpa using hl m hm
  -- at most one member has the name, so these two are not among them
  have small : (members.filter (Named name)).length ≤ 1 := by
    cases h with
    | absent others => simp [named others]
    | @present before after m a hm holds others =>
      obtain ⟨hb, ha⟩ := List.forall_mem_append.1 others
      simp [List.filter_append, named hb, named ha, hm]
  have two : 2 ≤ (members.filter (Named name)).length := by
    simpa [named₁, named₂] using (sub.filter (Named name)).length_le
  omega

/-- The name that a member's key is read as. -/
def nameOf (m : List Char × Json) : String := String.ofList ((Escape.unescape? m.1).getD [])

theorem Named.nameOf_eq {name : String} {m : List Char × Json} (h : Named name m) :
    nameOf m = name := by
  simp [nameOf, Escape.Spells.unescape? h]

theorem named_nameOf {m : List Char × Json} (h : ∃ name, Named name m) : Named (nameOf m) m := by
  obtain ⟨name, h⟩ := h
  rwa [h.nameOf_eq]

theorem members?_eq {members : List (List Char × Json)} (h : Keyed members) :
    members? members = some (members.map fun m => (nameOf m, m.2)) := by
  induction members with
  | nil => rfl
  | cons m rest ih =>
    obtain ⟨⟨name, hm⟩, hr⟩ := List.forall_mem_cons.1 h
    have others := ih hr
    rw [members?] at others
    simp [members?, hm.nameOf_eq, Escape.Spells.unescape? hm, others]

theorem members?_eq_some_iff {members : List (List Char × Json)} {es : List (String × Json)} :
    members? members = some es ↔ Keyed members ∧ es = members.map fun m => (nameOf m, m.2) := by
  constructor
  · intro h
    suffices keyed : Keyed members from
      ⟨keyed, Option.some.inj (h.symm.trans (members?_eq keyed))⟩
    induction members generalizing es with
    | nil => exact List.forall_mem_nil _
    | cons m rest ih =>
      rw [members?, List.mapM_cons] at h
      obtain ⟨e, he, h⟩ := Option.bind_eq_some_iff.1 h
      obtain ⟨es', hes, -⟩ := Option.bind_eq_some_iff.1 h
      obtain ⟨text, ht, -⟩ := Option.map_eq_some_iff.1 he
      exact List.forall_mem_cons.2
        ⟨exists_named_iff.2 (Option.isSome_iff_exists.2 ⟨text, ht⟩), ih hes⟩
  · rintro ⟨keyed, rfl⟩
    exact members?_eq keyed

/-! ## Records -/

/-- The fields with the given names that a reader finds in the members of an object. -/
def known (names : List String) (members : List (List Char × Json)) : List (String × Json) :=
  (members.map fun m => (nameOf m, m.2)).filter fun e => names.contains e.1

theorem map_fst_known (names : List String) (members : List (List Char × Json)) :
    (known names members).map Prod.fst = (members.map nameOf).filter (names.contains ·) := by
  simp [known, List.filter_map, Function.comp_def]

theorem mem_known {names : List String} {members : List (List Char × Json)} {name : String}
    {j : Json} :
    (name, j) ∈ known names members ↔ name ∈ names ∧ ∃ m ∈ members, nameOf m = name ∧ m.2 = j := by
  simp only [known, List.mem_filter, List.mem_map, Prod.mk.injEq, List.contains_iff_mem]
  rw [and_comm]

/-- An object is read if its keys are texts, no field occurs twice, and nothing else stands in it if
the record is closed. -/
theorem fields?_object (closed : Bool) (names : List String) (members : List (List Char × Json)) :
    fields? closed names (.object members) =
      if Keyed members ∧ ((known names members).map Prod.fst).Nodup ∧
        (closed = true → (known names members).length = members.length)
      then some (known names members) else none := by
  by_cases keyed : Keyed members
  · have found : fields? closed names (.object members) =
        (guard (((known names members).map Prod.fst).Nodup ∧ (closed = true →
          (known names members).length = (members.map fun m => (nameOf m, m.2)).length)) :
            Option Unit).bind fun _ => some (known names members) := by
      rw [fields?, members?_eq keyed]
      rfl
    rw [found, List.length_map]
    simp only [keyed, true_and, guard]
    split <;> rfl
  · have unread : members? members = none :=
      Option.eq_none_iff_forall_ne_some.2 fun es h => keyed (members?_eq_some_iff.1 h).1
    rw [if_neg (fun h => keyed h.1), fields?, unread]
    rfl

theorem eq_known_of_fields? {closed : Bool} {names : List String}
    {members : List (List Char × Json)} {fields : List (String × Json)}
    (h : fields? closed names (.object members) = some fields) :
    fields = known names members ∧ Keyed members ∧ (fields.map Prod.fst).Nodup := by
  rw [fields?_object] at h
  split at h
  next conds =>
    obtain rfl := Option.some.inj h
    exact ⟨rfl, conds.1, conds.2.1⟩
  next => cases h

/-- No object is read that has a field twice. -/
theorem fields?_eq_none_of_twice (closed : Bool) {names : List String}
    {members : List (List Char × Json)} {name : String} (hn : name ∈ names)
    (twice : Twice name members) : fields? closed names (.object members) = none := by
  obtain ⟨m₁, m₂, sub, named₁, named₂⟩ := twice
  rw [Option.eq_none_iff_forall_ne_some]
  intro fields h
  obtain ⟨rfl, -, nodup⟩ := eq_known_of_fields? h
  have found : [name, name].Sublist ((members.map nameOf).filter (names.contains ·)) := by
    have := (sub.map nameOf).filter (names.contains ·)
    simpa [named₁.nameOf_eq, named₂.nameOf_eq, hn] using this
  rw [map_fst_known] at nodup
  exact List.nodup_iff_sublist.1 nodup name found

/-- An object is read that has no field twice. -/
theorem fields?_eq (names : List String) {members : List (List Char × Json)}
    (keyed : Keyed members) (once : ∀ name ∈ names, ¬ Twice name members) :
    fields? false names (.object members) = some (known names members) := by
  have nodup : ((known names members).map Prod.fst).Nodup := by
    rw [map_fst_known, List.nodup_iff_sublist]
    intro name sub
    have mem : name ∈ names := by
      have := (List.mem_filter.1 (sub.subset (List.mem_cons_self ..))).2
      simpa using this
    obtain ⟨two, within, eq⟩ := List.sublist_map_iff.1 (sub.trans List.filter_sublist)
    obtain ⟨m₁, m₂, rfl⟩ := List.length_eq_two.1 (by simpa using (congrArg List.length eq).symm)
    obtain ⟨rfl, same⟩ : name = nameOf m₁ ∧ name = nameOf m₂ := by simpa using eq
    refine once _ mem ⟨m₁, m₂, within, named_nameOf (keyed m₁ (within.subset (by simp))), ?_⟩
    rw [same]
    exact named_nameOf (keyed m₂ (within.subset (by simp)))
  rw [fields?_object, if_pos ⟨keyed, nodup, nofun⟩]

theorem lookup_of_mem {es : List (String × Json)} (nodup : (es.map Prod.fst).Nodup) {name : String}
    {j : Json} (h : (name, j) ∈ es) : es.lookup name = some j := by
  obtain ⟨before, after, rfl⟩ := List.append_of_mem h
  refine List.lookup_eq_some_iff.2 ⟨before, after, rfl, fun e he => ?_⟩
  rw [List.map_append, List.nodup_append] at nodup
  have apart := nodup.2.2 e.1 (List.mem_map_of_mem he) name (by simp)
  simpa using apart.symm

section

variable {closed : Bool} {names : List String} {members : List (List Char × Json)}
  {fields : List (String × Json)}

/-- A field is the member that has its name. -/
theorem lookup_of_fields? (h : fields? closed names (.object members) = some fields) {name : String}
    (hn : name ∈ names) {m : List Char × Json} (hm : m ∈ members) (named : Named name m) :
    fields.lookup name = some m.2 := by
  obtain ⟨rfl, -, nodup⟩ := eq_known_of_fields? h
  exact lookup_of_mem nodup (mem_known.2 ⟨hn, m, hm, named.nameOf_eq, rfl⟩)

theorem optional_of_mem (h : fields? closed names (.object members) = some fields) {name : String}
    (hn : name ∈ names) {m : List Char × Json} (hm : m ∈ members) (named : Named name m)
    (f : Json → Option α) (default : α) : optional default f fields name = f m.2 := by
  simp [optional, lookup_of_fields? h hn hm named]

theorem lookup_of_absent (h : fields? closed names (.object members) = some fields) {name : String}
    (others : ∀ m ∈ members, ¬ Named name m) : fields.lookup name = none := by
  rw [List.lookup_eq_none_iff]
  rintro ⟨other, j⟩ he
  obtain ⟨rfl, keyed, -⟩ := eq_known_of_fields? h
  obtain ⟨-, m, hm, rfl, -⟩ := mem_known.1 he
  have apart : name ≠ nameOf m := by
    rintro rfl
    exact others m hm (named_nameOf (keyed m hm))
  simpa using apart

/-- A field is read as the value that the members give it, and has its default if they give none. -/
theorem Field.optional_eq (h : fields? closed names (.object members) = some fields)
    {Holds : Json → α → Prop} {name : String} {value : Option α}
    (field : Field Holds name members value) (hn : name ∈ names) {f : Json → Option β} {g : α → β}
    (reads : ∀ j a, Holds j a → f j = some (g a)) (default : β) :
    optional default f fields name = some ((value.map g).getD default) := by
  cases field with
  | absent others => simp [optional, lookup_of_absent h others]
  | present named holds others =>
    rw [optional_of_mem h hn (by simp) named, reads _ _ holds]
    rfl

end

end Headset.Json
