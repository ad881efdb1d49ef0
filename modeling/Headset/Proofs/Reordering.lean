import Headset.Proofs.Records

/-!
# The order of members

The members of an object may stand in any order, at any depth of a document (`Json.Reordered`).  A
reader made of the parts from which readers are made does not depend on it (`Invariant`): the fields
that it finds have the same names, and values that again differ in the order of members only
(`Reordered.fields?`).
-/

namespace Headset.Json

variable {α β : Type}

/-- The same document but for the order of the members of its objects. -/
inductive Reordered : Json → Json → Prop
  | refl (j : Json) : Reordered j j
  | trans {i j k : Json} (h : Reordered i j) (h' : Reordered j k) : Reordered i k
  | members {ms ms' : List (List Char × Json)} (h : ms.Perm ms') :
    Reordered (.object ms) (.object ms')
  | member {before after : List (List Char × Json)} {key : List Char} {j k : Json}
    (h : Reordered j k) :
    Reordered (.object (before ++ (key, j) :: after)) (.object (before ++ (key, k) :: after))
  | item {before after : List Json} {j k : Json} (h : Reordered j k) :
    Reordered (.array (before ++ j :: after)) (.array (before ++ k :: after))

namespace Reordered

/-- What holds of every mark holds of the tokens of both documents, or of neither. -/
theorem forall_tokens {P : Token → Prop} (all : ∀ t ∈ marks, P t) {j k : Json}
    (h : Reordered j k) : (∀ t ∈ j.tokens, P t) ↔ ∀ t ∈ k.tokens, P t := by
  induction h with
  | refl => exact Iff.rfl
  | trans _ _ ih ih' => exact ih.trans ih'
  | members h =>
    simp only [forall_tokens_object all, h.mem_iff]
  | member _ ih =>
    simp only [forall_tokens_object all, List.forall_mem_append, List.forall_mem_cons, ih]
  | item _ ih =>
    simp only [forall_tokens_array all, List.forall_mem_append, List.forall_mem_cons, ih]

theorem legible {j k : Json} (h : Reordered j k) (legible : j.Legible) : k.Legible :=
  (h.forall_tokens legible_marks).1 legible

/-- Only null is the same as null. -/
theorem eq_null_iff {j k : Json} (h : Reordered j k) : j = .null ↔ k = .null := by
  induction h with
  | refl => exact Iff.rfl
  | trans _ _ ih ih' => exact ih.trans ih'
  | members | member | item => simp

end Reordered

/-- A reader that does not depend on the order of members. -/
def Invariant (f : Json → Option α) : Prop := ∀ ⦃j k : Json⦄, Reordered j k → f j = f k

/-! ## Values -/

theorem invariant_toValue? : Invariant toValue? := by
  intro j k h
  induction h with
  | refl => rfl
  | trans _ _ ih ih' => exact ih.trans ih'
  | members | member | item => rfl

theorem invariant_toSingle? : Invariant toSingle? := by
  intro j k h
  rw [toSingle?, toSingle?, invariant_toValue? h]

theorem invariant_toNat? (bound : Nat) : Invariant (toNat? bound) := by
  intro j k h
  rw [toNat?, toNat?, invariant_toValue? h]

theorem invariant_toUInt32? : Invariant toUInt32? := by
  intro j k h
  rw [toUInt32?, toUInt32?, invariant_toNat? _ h]

/-- An object names something only if it has one member, and that is null. -/
theorem toName?_eq_none (names : List (String × α)) {members : List (List Char × Json)}
    (h : ∀ key, members ≠ [(key, .null)]) : toName? names (.object members) = none := by
  unfold toName?
  split
  next eq => exact absurd (Json.object.inj eq) (h _)
  next => rfl

theorem invariant_toName? (names : List (String × α)) : Invariant (toName? names) := by
  intro j k h
  induction h with
  | refl => rfl
  | trans _ _ ih ih' => exact ih.trans ih'
  | @members ms ms' h =>
    by_cases single : ∃ key, ms = [(key, .null)]
    · obtain ⟨key, rfl⟩ := single
      rw [List.singleton_perm.1 h]
    · have single' : ¬ ∃ key, ms' = [(key, .null)] := by
        rintro ⟨key, rfl⟩
        exact single ⟨key, List.perm_singleton.1 h⟩
      rw [toName?_eq_none names (not_exists.1 single), toName?_eq_none names (not_exists.1 single')]
  | @member before after key j k h =>
    by_cases single : before = [] ∧ after = [] ∧ j = .null
    · obtain ⟨rfl, rfl, rfl⟩ := single
      rw [h.eq_null_iff.1 rfl]
    · have single' : ¬ (before = [] ∧ after = [] ∧ k = .null) := by
        rwa [← h.eq_null_iff]
      rw [toName?_eq_none names, toName?_eq_none names]
      · intro key' eq
        obtain ⟨rfl, ⟨-, rfl⟩, rfl⟩ := by simpa [List.append_eq_singleton_iff] using eq
        exact single' ⟨rfl, rfl, rfl⟩
      · intro key' eq
        obtain ⟨rfl, ⟨-, rfl⟩, rfl⟩ := by simpa [List.append_eq_singleton_iff] using eq
        exact single ⟨rfl, rfl, rfl⟩
  | item => rfl

/-! ## Arrays -/

/-- What a reader makes of each item of an array. -/
def itemsBy (f : Json → Option α) : Json → Option (List (Option α))
  | .array items => some (items.map f)
  | _ => none

theorem invariant_itemsBy {f : Json → Option α} (hf : Invariant f) : Invariant (itemsBy f) := by
  intro j k h
  induction h with
  | refl => rfl
  | trans _ _ ih ih' => exact ih.trans ih'
  | members | member => rfl
  | item h => simp [itemsBy, hf h]

/-! ## Records -/

/-- Fields with the same names, and with values that differ in the order of members only. -/
def SameFields (es fs : List (String × Json)) : Prop :=
  ∀ name, Option.Rel Reordered (es.lookup name) (fs.lookup name)

namespace SameFields

theorem refl (es : List (String × Json)) : SameFields es es := by
  intro name
  cases es.lookup name with
  | none => exact .none
  | some j => exact .some (.refl j)

theorem trans {es fs gs : List (String × Json)} (h : SameFields es fs) (h' : SameFields fs gs) :
    SameFields es gs := by
  intro name
  have first := h name
  have second := h' name
  revert first second
  rcases es.lookup name with _ | i <;> rcases fs.lookup name with _ | j <;>
    rcases gs.lookup name with _ | k <;> rintro (h | _) (h' | _)
  · exact .none
  · exact .some (h.trans h')

theorem append {es fs es' fs' : List (String × Json)} (h : SameFields es fs)
    (h' : SameFields es' fs') : SameFields (es ++ es') (fs ++ fs') := by
  intro name
  have first := h name
  rw [List.lookup_append, List.lookup_append]
  revert first
  rcases es.lookup name with _ | j <;> rcases fs.lookup name with _ | k <;> rintro (h | _)
  · exact h' name
  · exact .some h

theorem singleton (name : String) {j k : Json} (h : Reordered j k) :
    SameFields [(name, j)] [(name, k)] := by
  intro other
  simp only [List.lookup_cons, List.lookup_nil]
  split
  · exact .some h
  · exact .none

theorem required {es fs : List (String × Json)} (h : SameFields es fs) {f : Json → Option α}
    (hf : Invariant f) (name : String) : required f es name = required f fs name := by
  have first := h name
  rw [Json.required, Json.required]
  revert first
  rcases es.lookup name with _ | j <;> rcases fs.lookup name with _ | k <;> rintro (h | _)
  · rfl
  · exact hf h

end SameFields

theorem lookup_eq_some_iff {es : List (String × Json)} (nodup : (es.map Prod.fst).Nodup)
    {name : String} {j : Json} : es.lookup name = some j ↔ (name, j) ∈ es := by
  refine ⟨fun h => ?_, lookup_of_mem nodup⟩
  obtain ⟨before, after, rfl, -⟩ := List.lookup_eq_some_iff.1 h
  exact List.mem_append_right _ (.head _)

theorem SameFields.of_perm {es fs : List (String × Json)} (nodup : (es.map Prod.fst).Nodup)
    (h : es.Perm fs) : SameFields es fs := by
  intro name
  have same : es.lookup name = fs.lookup name := by
    ext j
    rw [lookup_eq_some_iff nodup, lookup_eq_some_iff ((h.map Prod.fst).nodup_iff.1 nodup),
      h.mem_iff]
  rw [← same]
  exact SameFields.refl es name

theorem known_perm (names : List String) {ms ms' : List (List Char × Json)} (h : ms.Perm ms') :
    (known names ms).Perm (known names ms') :=
  (h.map _).filter _

theorem known_append (names : List String) (ms ms' : List (List Char × Json)) :
    known names (ms ++ ms') = known names ms ++ known names ms' := by
  simp [known]

theorem sameFields_zip {names : List String} {before after : List Json} {j k : Json}
    (h : Reordered j k) :
    SameFields (names.zip (before ++ j :: after)) (names.zip (before ++ k :: after)) := by
  induction names generalizing before with
  | nil => exact .refl _
  | cons name names ih =>
    cases before with
    | nil => exact .append (.singleton name h) (.refl _)
    | cons i before => exact .append (.singleton name (.refl i)) ih

theorem sameFields_known (names : List String) {before after : List (List Char × Json)}
    {key : List Char} {j k : Json} (h : Reordered j k) :
    SameFields (known names (before ++ (key, j) :: after))
      (known names (before ++ (key, k) :: after)) := by
  have spelled : nameOf (key, k) = nameOf (key, j) := rfl
  have one : SameFields (known names [(key, j)]) (known names [(key, k)]) := by
    by_cases named : nameOf (key, j) ∈ names
    · simpa [known, named, spelled] using SameFields.singleton (nameOf (key, j)) h
    · simpa [known, named, spelled] using SameFields.refl []
  rw [List.append_cons before (key, j), List.append_cons before (key, k)]
  simp only [known_append]
  exact ((SameFields.refl _).append one).append (.refl _)

/-- Two objects with the same names are read alike if their fields are the same. -/
theorem rel_fields?_object (closed : Bool) {names : List String}
    {ms ms' : List (List Char × Json)} (keyed : Keyed ms ↔ Keyed ms')
    (found : ((known names ms).map Prod.fst).Perm ((known names ms').map Prod.fst))
    (length : ms.length = ms'.length)
    (same : ((known names ms).map Prod.fst).Nodup → SameFields (known names ms) (known names ms')) :
    Option.Rel SameFields (fields? closed names (.object ms))
      (fields? closed names (.object ms')) := by
  have lengths : (known names ms).length = (known names ms').length := by
    simpa using found.length_eq
  rw [fields?_object, fields?_object]
  by_cases conds : Keyed ms ∧ ((known names ms).map Prod.fst).Nodup ∧
      (closed = true → (known names ms).length = ms.length)
  · rw [if_pos conds, if_pos]
    · exact .some (same conds.2.1)
    · rwa [← keyed, ← found.nodup_iff, ← lengths, ← length]
  · rw [if_neg conds, if_neg]
    · exact .none
    · rwa [← keyed, ← found.nodup_iff, ← lengths, ← length]

/-- A record is read in both documents or in neither, and its fields are the same. -/
theorem Reordered.fields? (closed : Bool) (names : List String) {j k : Json} (h : Reordered j k) :
    Option.Rel SameFields (fields? closed names j) (fields? closed names k) := by
  induction h with
  | refl j =>
    cases Json.fields? closed names j with
    | none => exact .none
    | some es => exact .some (.refl es)
  | @trans i j k _ _ ih ih' =>
    revert ih ih'
    rcases Json.fields? closed names i with _ | es <;>
      rcases Json.fields? closed names j with _ | fs <;>
      rcases Json.fields? closed names k with _ | gs <;> rintro (h | _) (h' | _)
    · exact .none
    · exact .some (h.trans h')
  | members h =>
    have perm := known_perm names h
    exact rel_fields?_object closed (by simp only [Keyed, h.mem_iff]) (perm.map _) h.length_eq
      fun nodup => .of_perm nodup perm
  | @member before after key j k h =>
    have spelled : nameOf (key, k) = nameOf (key, j) := rfl
    refine rel_fields?_object closed ?_ ?_ (by simp) fun _ => sameFields_known names h
    · simp only [Keyed, List.forall_mem_append, List.forall_mem_cons]
      rfl
    · simp only [map_fst_known, List.map_append, List.map_cons, spelled]
      rfl
  | item h =>
    rw [Json.fields?, Json.fields?]
    simp only [List.length_append, List.length_cons]
    split
    · exact .some (sameFields_zip h)
    · exact .none

/-- A reader that takes only values from the fields of a record. -/
theorem Invariant.of_fields? (closed : Bool) (names : List String)
    {g : List (String × Json) → Option α} (hg : ∀ ⦃es fs⦄, SameFields es fs → g es = g fs) :
    Invariant fun j => (Json.fields? closed names j).bind g := by
  intro j k h
  have same := h.fields? closed names
  change (Json.fields? closed names j).bind g = (Json.fields? closed names k).bind g
  revert same
  rcases Json.fields? closed names j with _ | es <;>
    rcases Json.fields? closed names k with _ | fs <;> rintro (h | _)
  · rfl
  · exact hg h

end Headset.Json
