import Headset.Inquiry
import Mathlib.Data.List.Infix

/-!
# Answers in a buffer

An answer that is too long for its buffer is cut between two characters.  The places between two
characters are the ends of the fronts of the text (`isBoundary_iff`), and the search for the last of
them that leaves room for the zero byte goes back from the end of the room, past bytes that continue
a character (`Retreats`).  What stays is the longest front for which there is room, and the bytes of
the buffer behind it stay as they were (`written_write`).
-/

namespace Headset.Response

/-! ## Bytes of characters -/

theorem bytes_cons (c : Char) (text : List Char) :
    bytes (c :: text) = String.utf8EncodeChar c ++ bytes text := rfl

theorem bytes_append (front rest : List Char) : bytes (front ++ rest) = bytes front ++ bytes rest :=
  List.flatMap_append

theorem length_bytes_cons (c : Char) (text : List Char) :
    (bytes (c :: text)).length = c.utf8Size + (bytes text).length := by
  rw [bytes_cons, List.length_append, String.length_utf8EncodeChar]

/-- The bytes of a text are as many as it counts. -/
theorem length_bytes_toList (text : String) : (bytes text.toList).length = text.utf8ByteSize := by
  rw [String.utf8ByteSize, ← String.utf8Encode_toList, List.utf8Encode, List.size_toByteArray,
    bytes]

theorem bytes_front {p text : List Char} (h : p <+: text) : bytes p <+: bytes text := by
  obtain ⟨rest, rfl⟩ := h
  rw [bytes_append]
  exact List.prefix_append _ _

/-- A front of a text is told by its number of bytes. -/
theorem eq_of_length_le {p q : List Char} (h : p <+: q)
    (le : (bytes q).length ≤ (bytes p).length) : p = q := by
  obtain ⟨rest, rfl⟩ := h
  cases rest with
  | nil => rw [List.append_nil]
  | cons c rest =>
    have positive := c.utf8Size_pos
    rw [bytes_append, List.length_append, length_bytes_cons] at le
    omega

theorem isContinuation_ofNat {n : Nat} (h : n < 256) :
    isContinuation (.ofNat n) = decide (128 ≤ n ∧ n < 192) := by
  have same : (UInt8.ofNat n).toNat = n := by simpa using h
  simp [isContinuation, UInt8.le_iff_toNat_le, UInt8.lt_iff_toNat_lt, same]

/-- Of the bytes of a character all but the first continue it. -/
theorem utf8EncodeChar_eq_cons (c : Char) : ∃ first others,
    String.utf8EncodeChar c = first :: others ∧ isContinuation first = false ∧
      ∀ b ∈ others, isContinuation b = true := by
  unfold String.utf8EncodeChar
  dsimp only
  repeat' split
  all_goals
    refine ⟨_, _, rfl, ?_, ?_⟩
    · rw [isContinuation_ofNat (by omega), decide_eq_false_iff_not]
      omega
    · simp only [List.forall_mem_cons, List.not_mem_nil, false_imp_iff, implies_true, and_true]
      try refine ⟨?_, ?_, ?_⟩
      try refine ⟨?_, ?_⟩
      all_goals
        rw [isContinuation_ofNat (by omega), decide_eq_true_iff]
        omega

/-! ## Boundaries -/

theorem isBoundary_of_byte {text : List UInt8} {k : Nat} {b : UInt8} (pos : 0 < k)
    (byte : text[k]? = some b) : isBoundary text k = !isContinuation b := by
  rw [isBoundary, byte, decide_eq_false (Nat.ne_of_gt pos), Bool.false_or]

theorem isBoundary_of_none {text : List UInt8} {k : Nat} (none : text[k]? = none) :
    isBoundary text k = decide (k = text.length) := by
  have behind := List.getElem?_eq_none_iff.1 none
  rw [isBoundary, none, ← Bool.decide_or]
  exact decide_eq_decide.2 (by omega)

/-- No boundary lies within the first character. -/
theorem isBoundary_within {c : Char} {rest : List Char} {k : Nat} (pos : 0 < k)
    (lt : k < c.utf8Size) : isBoundary (bytes (c :: rest)) k = false := by
  obtain ⟨first, others, encoded, -, continued⟩ := utf8EncodeChar_eq_cons c
  have size := String.length_utf8EncodeChar c
  rw [encoded, List.length_cons] at size
  obtain ⟨j, rfl⟩ : ∃ j, k = j + 1 := ⟨k - 1, by omega⟩
  have within : j < others.length := by omega
  have byte : (bytes (c :: rest))[j + 1]? = some others[j] := by
    rw [bytes_cons, encoded, List.cons_append, List.getElem?_cons_succ,
      List.getElem?_append_left within, List.getElem?_eq_getElem within]
  rw [isBoundary_of_byte pos byte, continued _ (List.getElem_mem within), Bool.not_true]

/-- The boundaries behind the first character are those of the other ones. -/
theorem isBoundary_add (c : Char) (rest : List Char) (k : Nat) :
    isBoundary (bytes (c :: rest)) (c.utf8Size + k) = isBoundary (bytes rest) k := by
  have positive := c.utf8Size_pos
  have byte : (bytes (c :: rest))[c.utf8Size + k]? = (bytes rest)[k]? := by
    rw [bytes_cons, List.getElem?_append_right (by simp), String.length_utf8EncodeChar,
      Nat.add_sub_cancel_left]
  cases at_k : (bytes rest)[k]? with
  | none =>
    rw [at_k] at byte
    rw [isBoundary_of_none byte, isBoundary_of_none at_k, length_bytes_cons]
    exact decide_eq_decide.2 (by omega)
  | some b =>
    rw [at_k] at byte
    rw [isBoundary_of_byte (by omega) byte]
    cases k with
    | zero =>
      cases rest with
      | nil => cases at_k
      | cons d rest =>
        obtain ⟨first, others, encoded, begins, -⟩ := utf8EncodeChar_eq_cons d
        rw [bytes_cons, encoded] at at_k
        obtain rfl : first = b := Option.some.inj at_k
        rw [begins]
        rfl
    | succ k => rw [isBoundary_of_byte (Nat.succ_pos k) at_k]

/-- The boundaries of a text are the ends of its fronts. -/
theorem isBoundary_iff {text : List Char} {k : Nat} :
    isBoundary (bytes text) k = true ↔ ∃ p, p <+: text ∧ (bytes p).length = k := by
  induction text generalizing k with
  | nil =>
    simp only [List.prefix_nil, exists_eq_left]
    simp [isBoundary, bytes, eq_comm]
  | cons c rest ih =>
    constructor
    · intro boundary
      rcases Nat.eq_zero_or_pos k with rfl | pos
      · exact ⟨[], List.nil_prefix, rfl⟩
      rcases Nat.lt_or_ge k c.utf8Size with lt | ge
      · rw [isBoundary_within pos lt] at boundary
        cases boundary
      · obtain ⟨j, rfl⟩ := Nat.exists_eq_add_of_le ge
        rw [isBoundary_add] at boundary
        obtain ⟨p, front, size⟩ := ih.1 boundary
        exact ⟨c :: p, List.cons_prefix_cons.2 ⟨rfl, front⟩, by rw [length_bytes_cons, size]⟩
    · rintro ⟨p, front, rfl⟩
      cases p with
      | nil => rfl
      | cons d p =>
        obtain ⟨rfl, behind⟩ := List.cons_prefix_cons.1 front
        rw [length_bytes_cons, isBoundary_add]
        exact ih.2 ⟨p, behind, rfl⟩

/-! ## The search for the last boundary -/

/-- The search for a boundary from a place: it ends at one, and goes back by one from any other
place.  It has nowhere to go from the front. -/
inductive Retreats (text : List UInt8) : Nat → Nat → Prop
  | ends {n : Nat} (h : isBoundary text n = true) : Retreats text n n
  | back {n k : Nat} (h : isBoundary text (n + 1) = false) (rest : Retreats text n k) :
    Retreats text (n + 1) k

theorem retreats_boundary (text : List UInt8) (n : Nat) : Retreats text n (boundary text n) := by
  induction n with
  | zero => exact .ends rfl
  | succ n ih =>
    rw [boundary]
    split
    · next h => exact .ends h
    · next h => exact .back (by simpa using h) ih

namespace Retreats

variable {text : List UInt8} {n k j : Nat}

theorem le (h : Retreats text n k) : k ≤ n := by
  induction h with
  | ends => exact Nat.le_refl _
  | back _ _ ih => omega

theorem isBoundary (h : Retreats text n k) : isBoundary text k = true := by
  induction h with
  | ends h => exact h
  | back _ _ ih => exact ih

/-- What the search leaves behind is no boundary. -/
theorem le_of_isBoundary (h : Retreats text n k) (le : j ≤ n)
    (hj : Response.isBoundary text j = true) : j ≤ k := by
  induction h with
  | ends => exact le
  | @back n k none _ ih =>
    rcases Nat.lt_or_ge n j with lt | ge
    · obtain rfl : j = n + 1 := by omega
      rw [none] at hj
      cases hj
    · exact ih ge

end Retreats

/-- The search from the end of the room comes to the longest front of the text that fits. -/
theorem exists_longest (text : List Char) (room : Nat) : ∃ p, p <+: text ∧
    boundary (bytes text) (min (bytes text).length room) = (bytes p).length ∧
    (bytes p).length ≤ room ∧ ∀ q, q <+: text → (bytes q).length ≤ room → q <+: p := by
  have search := retreats_boundary (bytes text) (min (bytes text).length room)
  obtain ⟨p, front, size⟩ := isBoundary_iff.1 search.isBoundary
  have le := search.le
  refine ⟨p, front, size.symm, by omega, fun q front' fits => ?_⟩
  have within := (bytes_front front').length_le
  have last := search.le_of_isBoundary (by omega) (isBoundary_iff.2 ⟨q, front', rfl⟩)
  rcases List.prefix_or_prefix_of_prefix front front' with before | before
  · rw [eq_of_length_le before (by omega)]
  · exact before

/-! ## Answers -/

/-- What a buffer holds after an answer was written into it, and how many bytes of the answer. -/
inductive Written (buffer : List UInt8) (text : String) : Nat → List UInt8 → Prop
  | nowhere (empty : buffer = []) : Written buffer text 0 []
  | cut {p : List Char} (front : p <+: text.toList) (fits : (bytes p).length < buffer.length)
    (longest : ∀ q, q <+: text.toList → (bytes q).length < buffer.length → q <+: p) :
    Written buffer text (bytes p).length (bytes p ++ 0 :: buffer.drop ((bytes p).length + 1))

/-- This is what writing leaves in the buffer. -/
theorem written_write (buffer : List UInt8) (text : String) :
    Written buffer text (write buffer text).1 (write buffer text).2 := by
  unfold write
  split
  · next empty =>
    obtain rfl := List.length_eq_zero_iff.1 empty
    exact .nowhere rfl
  · next room size =>
    obtain ⟨p, front, found, fits, longest⟩ := exists_longest text.toList room
    have kept : (bytes text.toList).take (bytes p).length = bytes p :=
      (List.prefix_iff_eq_take.1 (bytes_front front)).symm
    dsimp only
    rw [found, kept]
    exact .cut front (by omega) fun q front' lt => longest q front' (by omega)

/-- Nothing else can be in the buffer. -/
theorem Written.write_eq {buffer written : List UInt8} {text : String} {n : Nat}
    (h : Written buffer text n written) : write buffer text = (n, written) := by
  have same := written_write buffer text
  generalize write buffer text = w at same
  obtain ⟨m, written'⟩ := w
  cases h with
  | nowhere empty =>
    subst empty
    cases same with
    | nowhere => rfl
    | cut front fits => exact absurd fits (Nat.not_lt_zero _)
  | cut front fits longest =>
    cases same with
    | nowhere empty =>
      subst empty
      exact absurd fits (Nat.not_lt_zero _)
    | cut front' fits' longest' =>
      rw [List.IsPrefix.eq_of_length_le (longest' _ front fits) (longest _ front' fits').length_le]
      rfl

/-- A text that does not fit leaves less room than its next character may need. -/
theorem lt_of_longest {p text : List Char} {room : Nat} (front : p <+: text)
    (longest : ∀ q, q <+: text → (bytes q).length ≤ room → q <+: p)
    (short : room < (bytes text).length) : room < (bytes p).length + 4 := by
  obtain ⟨rest, rfl⟩ := front
  cases rest with
  | nil =>
    rw [List.append_nil] at short
    omega
  | cons c rest =>
    have size : (bytes (p ++ [c])).length = (bytes p).length + c.utf8Size := by
      rw [bytes_append, List.length_append, length_bytes_cons]
      rfl
    have small := c.utf8Size_le_four
    by_contra more
    have within := (longest (p ++ [c]) (by simp) (by omega)).length_le
    rw [List.length_append, List.length_singleton] at within
    omega

/-- Nothing is written into an empty buffer.  Into any other one the search for the end of what fits
comes to an end, and what is written is the longest front of the text, of whole characters, that
leaves room for a zero byte; that byte follows, and then the bytes that were there.  The whole text
is written just if it fits, and otherwise less than four bytes of the room are left unused. -/
theorem write_longest (text : String) (buffer : List UInt8) :
    (buffer = [] → write buffer text = (0, [])) ∧
    (buffer ≠ [] → ∃ n written p, write buffer text = (n, written) ∧
      Retreats (bytes text.toList) (min text.utf8ByteSize (buffer.length - 1)) n ∧
      p <+: text.toList ∧ (bytes p).length = n ∧ n ≤ buffer.length - 1 ∧
      (∀ q, q <+: text.toList → (bytes q).length ≤ buffer.length - 1 → q <+: p) ∧
      written.length = buffer.length ∧ written.take n = bytes p ∧ written[n]? = some 0 ∧
      (∀ i, n < i → written[i]? = buffer[i]?) ∧
      n < buffer.length ∧ (written.take n).toByteArray.IsValidUTF8 ∧
      (n = text.utf8ByteSize ↔ text.utf8ByteSize ≤ buffer.length - 1) ∧
      (buffer.length - 1 < text.utf8ByteSize → buffer.length - 1 - n < 4)) := by
  constructor
  · rintro rfl
    rfl
  intro there
  have positive := List.length_pos_iff.2 there
  have size := length_bytes_toList text
  obtain ⟨p, front, found, fits, longest⟩ := exists_longest text.toList (buffer.length - 1)
  have search := retreats_boundary (bytes text.toList)
    (min (bytes text.toList).length (buffer.length - 1))
  rw [found, size] at search
  have holds : Written buffer text (bytes p).length
      (bytes p ++ 0 :: buffer.drop ((bytes p).length + 1)) :=
    .cut front (by omega) fun q front' lt => longest q front' (by omega)
  have taken : (bytes p ++ 0 :: buffer.drop ((bytes p).length + 1)).take (bytes p).length =
      bytes p :=
    List.take_left
  have within := (bytes_front front).length_le
  refine ⟨_, _, p, holds.write_eq, search, front, rfl, fits, longest, ?_, taken, by simp, ?_,
    by omega, ?_, ⟨by omega, fun whole => ?_⟩, fun short => ?_⟩
  · simp only [List.length_append, List.length_cons, List.length_drop]
    omega
  · intro i behind
    obtain ⟨j, rfl⟩ := Nat.exists_eq_add_of_lt behind
    have place : (bytes p).length + j + 1 - (bytes p).length = j + 1 := by omega
    rw [List.getElem?_append_right (by omega), place, List.getElem?_cons_succ, List.getElem?_drop,
      Nat.add_right_comm]
  · rw [taken]
    exact .intro p rfl
  · have all := (longest _ (List.prefix_refl _) (by omega)).length_le
    rw [front.eq_of_length_le all, size]
  · have close := lt_of_longest front longest (by omega)
    omega

/-- The second character takes two bytes, for which there is no room. -/
example : write [7, 7, 7] "aéb" = (1, [97, 0, 7]) := by decide +kernel

end Headset.Response
