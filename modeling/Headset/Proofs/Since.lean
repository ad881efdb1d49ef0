import Mathlib.Data.List.Induction

/-!
# Since

A list tells what happened, oldest first.  `Since P Q l` says that `P` was once and `Q` has been
ever since, `AtEach P l` that `P` holds each time, of what was earlier and of what happened then.
Both are carried on at the end of the list, by `since_concat` and `atEach_concat`.  `withEarlier l`
puts to each element what was earlier, for lists of what counts only after something else.
-/

namespace Headset

variable {α : Type}

/-- Some element of the list satisfies `P`, and all after it satisfy `Q`. -/
def Since (P Q : α → Prop) (l : List α) : Prop :=
  ∃ before x since, l = before ++ x :: since ∧ P x ∧ ∀ y ∈ since, Q y

variable {P Q : α → Prop} {l : List α} {x : α}

theorem not_since_nil : ¬ Since P Q [] := by
  rintro ⟨before, x, since, h, -⟩
  simp at h

theorem since_concat : Since P Q (l ++ [x]) ↔ P x ∨ Since P Q l ∧ Q x := by
  constructor
  · rintro ⟨before, y, since, split, hy, kept⟩
    rcases List.eq_nil_or_concat since with rfl | ⟨since, z, rfl⟩
    · obtain ⟨-, hx⟩ := List.append_inj' split rfl
      obtain rfl : x = y := by simpa using hx
      exact .inl hy
    · have split : l ++ [x] = (before ++ y :: since) ++ [z] := by simpa using split
      obtain ⟨rfl, hx⟩ := List.append_inj' split rfl
      obtain rfl : x = z := by simpa using hx
      exact .inr ⟨⟨before, y, since, rfl, hy, fun w hw => kept w (by simp [hw])⟩,
        kept x (by simp)⟩
  · rintro (hx | ⟨⟨before, y, since, rfl, hy, kept⟩, last⟩)
    · exact ⟨l, x, [], rfl, hx, by simp⟩
    · refine ⟨before, y, since ++ [x], by simp, hy, fun z hz => ?_⟩
      rcases List.mem_append.1 hz with hz | hz
      · exact kept z hz
      · obtain rfl : z = x := by simpa using hz
        exact last

/-- What was before an element that satisfies `P` does not matter. -/
theorem since_append_cons {before since : List α} (hx : P x) :
    Since P Q (before ++ x :: since) ↔ Since P Q (x :: since) := by
  induction since using List.reverseRecOn with
  | nil =>
    have alone : Since P Q ([] ++ [x]) ↔ _ := since_concat
    exact iff_of_true (since_concat.2 (.inl hx)) (alone.2 (.inl hx))
  | append_singleton since y ih =>
    rw [← List.cons_append, ← List.append_assoc, since_concat, since_concat, ih]

/-- Of some properties of which an element has one at most, one was the last. -/
theorem since_unique {ι : Type} {P : ι → α → Prop}
    (unique : ∀ {i j x}, P i x → P j x → i = j) {i j : ι}
    (h : Since (P i) (fun x => ∀ k, ¬ P k x) l) (k : Since (P j) (fun x => ∀ k, ¬ P k x) l) :
    i = j := by
  induction l using List.reverseRecOn with
  | nil => exact absurd h not_since_nil
  | append_singleton l x ih =>
    rcases since_concat.1 h with hi | ⟨hi, kept⟩
    · rcases since_concat.1 k with hj | ⟨-, kept⟩
      · exact unique hi hj
      · exact absurd hi (kept i)
    · rcases since_concat.1 k with hj | ⟨hj, -⟩
      · exact absurd hj (kept j)
      · exact ih hi hj

/-- At each element `P` holds of those before it and of itself. -/
def AtEach (P : List α → α → Prop) (l : List α) : Prop :=
  ∀ earlier x later, l = earlier ++ x :: later → P earlier x

variable {R : List α → α → Prop}

theorem atEach_nil : AtEach R [] := by
  intro earlier x later h
  simp at h

theorem atEach_concat : AtEach R (l ++ [x]) ↔ AtEach R l ∧ R l x := by
  constructor
  · intro h
    exact ⟨fun earlier y later split => h earlier y (later ++ [x]) (by simp [split]),
      h l x [] rfl⟩
  · rintro ⟨h, last⟩ earlier y later split
    rcases List.eq_nil_or_concat later with rfl | ⟨later, z, rfl⟩
    · obtain ⟨rfl, hx⟩ := List.append_inj' split rfl
      obtain rfl : x = y := by simpa using hx
      exact last
    · have split : l ++ [x] = (earlier ++ y :: later) ++ [z] := by simpa using split
      exact h earlier y later (List.append_inj' split rfl).1

/-- Each element, with those before it. -/
def withEarlier (l : List α) : List (List α × α) :=
  l.mapIdx fun i x => (l.take i, x)

theorem withEarlier_concat (l : List α) (x : α) :
    withEarlier (l ++ [x]) = withEarlier l ++ [(l, x)] := by
  have older : (l.mapIdx fun i y => ((l ++ [x]).take i, y)) = withEarlier l := by
    refine List.ext_getElem (by simp [withEarlier]) fun i short _ => ?_
    rw [List.length_mapIdx] at short
    simp [withEarlier, List.take_append_of_le_length (Nat.le_of_lt short)]
  rw [withEarlier, List.mapIdx_concat, older, List.take_left]

end Headset
