import Headset.Proofs.Packing

/-!
# Parts of spans

A part of a span is worked out in doubles, and there is none if the doubles leave the range of
spans.  They do not if the span is so short that rounding to a double keeps it in range
(`Span.div?_isSome`).
-/

namespace Headset

open Float.Model.UnpackedFloat

theorem isDouble_billion : IsDouble 1e9 .positive 1000000000 := by
  have size : ((8388608000000000 : ℕ) : ℚ) * 2 ^ (-23 : ℤ) = 1000000000 := by norm_num
  rw [← size]
  show Sized .binary64 .positive _ (.finite .positive 8388608000000000 (-23) (by decide))
  exact .finite rfl

theorem roundHalfEven_le (num den : Nat) : roundHalfEven num den ≤ num / den + 1 := by
  unfold roundHalfEven
  dsimp only
  split <;> omega

namespace Span

variable {m n : ℕ} {e : ℤ} {s : Span}

/-- The longest sum, in nanoseconds, that doubles keep in range. -/
def divisible : Nat := (0x10000000000000000 - 4096) * 1000000000

theorem ofExact?_isSome (le : (m : ℚ) * 2 ^ e ≤ n) (room : n * 1000000000 + 1 < limit) :
    (ofExact? (.finite false m e)).isSome := by
  obtain ⟨whole, part⟩ := bound_of_size le
  unfold ofExact?
  dsimp only
  split
  · rfl
  rw [if_neg Bool.false_ne_true]
  split
  · next he =>
    have inRange : m * Nat.pow 2 e.toNat * 1000000000 < limit :=
      lt_of_le_of_lt (Nat.mul_le_mul_right 1000000000 (whole he)) (Nat.lt_of_succ_lt room)
    rw [ofNanos?_of_lt inRange, Option.isSome_some]
  · next he =>
    have quotient : m * 1000000000 / 2 ^ (-e).toNat ≤ n * 1000000000 :=
      Nat.div_le_of_le_mul ((Nat.mul_le_mul_right _ (part he)).trans_eq (by ring))
    have rounded := roundHalfEven_le (m * 1000000000) (2 ^ (-e).toNat)
    have inRange : roundHalfEven (m * 1000000000) (Nat.pow 2 (-e).toNat) < limit :=
      lt_of_le_of_lt (rounded.trans (Nat.succ_le_succ quotient)) room
    rw [ofNanos?_of_lt inRange, Option.isSome_some]

/-- The largest double below the range of spans, in seconds. -/
def lastSeconds : ℕ := (2 ^ 53 - 1) * 2 ^ 11

theorem holds_lastSeconds : Holds .binary64 lastSeconds := by
  have same : (lastSeconds : ℚ) = (2 ^ 53 - 1 : ℕ) * 2 ^ 11 := by
    simp only [lastSeconds]
    push_cast
    ring
  rw [same]
  exact holds_mul_two_pow (by decide) 11

/-- The seconds of a span that is not too long. -/
theorem isDouble_toSecondsDouble (le : s.nanos ≤ divisible) :
    ∃ v, IsDouble s.toSecondsDouble .positive v ∧ v ≤ lastSeconds := by
  have secs : s.secs ≤ (2 ^ 53 - 2) * 2 ^ 11 := by
    simp only [divisible] at le
    simp only [Span.secs]
    omega
  have subsec : s.subsecNanos < 1000000000 := Nat.mod_lt _ (by decide)
  obtain ⟨v, whole, rounds⟩ := isDouble_toUInt64 (secs.trans_lt (by norm_num))
  obtain ⟨u, nanos, rounds'⟩ := isDouble_toUInt32 (subsec.trans (by norm_num))
  have most : v ≤ ((2 ^ 53 - 2 : ℕ) : ℚ) * 2 ^ 11 :=
    (rounds _ (holds_mul_two_pow (by decide) 11)).1 (by exact_mod_cast secs)
  have most' : u ≤ (1000000000 : ℕ) :=
    (rounds' _ (holds_natCast (by decide))).1 (by exact_mod_cast subsec.le)
  push_cast at most most'
  -- the rest is rounded to a second at most
  obtain ⟨w, part, below⟩ := nanos.div isDouble_billion (b := (1 : ℕ)) (by norm_num)
    (holds_natCast (by decide)) (by push_cast; linarith) (by norm_num)
  rw [Nat.cast_one] at below
  have last : (lastSeconds : ℚ) = (2 ^ 53 - 1) * 2 ^ 11 := by norm_num [lastSeconds]
  exact whole.add part holds_lastSeconds (by linarith) (by norm_num [last])

/-- A span that is not too long has parts. -/
theorem div?_isSome (le : s.nanos ≤ divisible) (pos : 0 < n) (range : n < 2 ^ 64) :
    (s.div? n).isSome := by
  obtain ⟨v, whole, most⟩ := isDouble_toSecondsDouble le
  obtain ⟨u, divisor, rounds⟩ := isDouble_toUInt64 range
  have one : ((1 : ℕ) : ℚ) ≤ u :=
    (rounds _ (holds_natCast (by decide))).2 (by exact_mod_cast pos)
  rw [Nat.cast_one] at one
  have quotient : v / u ≤ lastSeconds := by
    rw [div_le_iff₀ (by linarith)]
    exact most.trans (le_mul_of_one_le_right (Nat.cast_nonneg _) one)
  obtain ⟨w, part, below⟩ := whole.div divisor (by linarith) holds_lastSeconds quotient
    (by norm_num [lastSeconds])
  obtain ⟨m, e, exact, size⟩ := part.exact_of_positive
  show (ofExact? (Exact.of64 _)).isSome
  rw [exact]
  exact ofExact?_isSome (size.trans_le below) (by decide)

end Span

end Headset
