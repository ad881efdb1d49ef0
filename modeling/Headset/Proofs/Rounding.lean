import Mathlib
import Headset.Time

/-!
# Rounding

A finite float stands for its sign and its size, a mantissa times a power of two.  An operation
rounds the exact size of its result to a neighbour that the format holds, so no rounding crosses a
size that the format holds (`RoundsTo`).  This is all that is needed to bound what is computed with
floats: a bound of the exact result that the format holds is a bound of the float
(`roundWithAccuracy_spec`).
-/

namespace Headset

open Float.Model (Format UnpackedFloat totalExponent)
open Float.Model.UnpackedFloat

/-! ## Mantissas -/

/-- A mantissa with its residual bits stands for `x`, counted in units of its last place: it is `x`
rounded down, and less than `x` if a residual bit is set. -/
structure Approximates (em : ExtendedMantissa) (x : ℚ) : Prop where
  le : em.mantissa ≤ x
  lt : x < em.mantissa + 1
  strict : (em.roundBit || em.stickyBit) = true → em.mantissa < x

namespace Approximates

variable {em : ExtendedMantissa} {x : ℚ} {k : ℕ}

theorem ofExact (m : ℕ) : Approximates (.ofMantissaAndAccuracy m .exact) m where
  le := le_rfl
  lt := lt_add_one _
  strict set := by cases set

theorem shiftRightOne (h : Approximates em x) : Approximates em.shiftRightOne (x / 2) := by
  have le := h.le
  have lt := h.lt
  have parts : ((em.mantissa / 2 : ℕ) : ℚ) * 2 + (em.mantissa % 2 : ℕ) = em.mantissa := by
    exact_mod_cast Nat.div_add_mod' em.mantissa 2
  have rest : ((em.mantissa % 2 : ℕ) : ℚ) ≤ 1 := by
    exact_mod_cast Nat.lt_succ_iff.1 (Nat.mod_lt em.mantissa two_pos)
  have nonneg : (0 : ℚ) ≤ (em.mantissa % 2 : ℕ) := Nat.cast_nonneg _
  refine ⟨?_, ?_, fun set => ?_⟩ <;> dsimp only [ExtendedMantissa.shiftRightOne] at *
  · linarith
  · linarith
  · -- the bit that leaves the mantissa was set, or one of the bits behind it
    by_cases odd : em.mantissa % 2 = 0
    · have strict := h.strict (by simpa [odd] using set)
      linarith
    · have one : (1 : ℚ) ≤ (em.mantissa % 2 : ℕ) := by exact_mod_cast Nat.pos_of_ne_zero odd
      linarith

theorem shiftRight (h : Approximates em x) (n : ℕ) : Approximates (em >>> n) (x / 2 ^ n) := by
  induction n with
  | zero =>
    rw [pow_zero, div_one]
    exact h
  | succ n ih =>
    rw [pow_succ, div_mul_eq_div_div]
    exact ih.shiftRightOne

/-- A rounded mantissa does not cross a whole number. -/
theorem le_iff_of_rounded (h : Approximates em x) (k : ℕ) :
    (x ≤ k → em.roundedMantissa ≤ k) ∧ (k ≤ x → k ≤ em.roundedMantissa) := by
  have le := h.le
  have lt := h.lt
  have rounded : em.mantissa ≤ em.roundedMantissa ∧ (em.roundedMantissa = em.mantissa ∨
      em.roundedMantissa = em.mantissa + 1 ∧ (em.roundBit || em.stickyBit) = true) := by
    obtain ⟨m, _ | _, _ | _⟩ := em <;>
      simp [ExtendedMantissa.roundedMantissa, ExtendedMantissa.accuracy,
        Accuracy.roundToNearestEven]
    omega
  constructor
  · intro below
    rcases rounded.2 with same | ⟨up, set⟩
    · rw [same]
      exact_mod_cast le.trans below
    · rw [up]
      exact_mod_cast (h.strict set).trans_le below
  · intro above
    have less : (k : ℚ) < (em.mantissa + 1 : ℕ) := by
      push_cast
      exact above.trans_lt lt
    have less : k < em.mantissa + 1 := by exact_mod_cast less
    omega

end Approximates

/-! ## Sizes -/

section

variable {spec : Format} {m r : ℕ} {e t : ℤ} {x v : ℚ} {s : Sign} {acc : Accuracy}

/-- The format holds a size: its mantissa has room, and its exponent is not too small. -/
def Holds (spec : Format) (b : ℚ) : Prop :=
  ∃ (m : ℕ) (e : ℤ), m < 2 ^ spec.mantissaBits ∧ spec.minExponent ≤ e ∧ b = m * 2 ^ e

/-- Rounding leads from the size `x` to the size `v`: it crosses no size that the format holds. -/
def RoundsTo (spec : Format) (x v : ℚ) : Prop :=
  ∀ b, Holds spec b → (x ≤ b → v ≤ b) ∧ (b ≤ x → b ≤ v)

/-- An exponent is the one under which a format keeps a mantissa. -/
def Canonical (spec : Format) (m : ℕ) (e : ℤ) : Prop :=
  e = spec.targetExponent (totalExponent m e)

/-- A float of a sign and a size, as a format keeps it. -/
inductive Sized (spec : Format) (s : Sign) : ℚ → UnpackedFloat → Prop
  | zero : Sized spec s 0 (.zero s)
  | finite {m : ℕ} {e : ℤ} {hm : 0 < m} (canonical : Canonical spec m e) :
    Sized spec s (m * 2 ^ e) (.finite s m e hm)

theorem two_le_mantissaBits (spec : Format) : 2 ≤ spec.mantissaBits := by
  have := spec.hm
  unfold Format.mantissaBits
  omega

theorem log2_eq_of_bounds {n : ℕ} (h : 2 ^ n ≤ m) (k : m < 2 ^ (n + 1)) : m.log2 = n :=
  (Nat.log2_eq_iff (by have := Nat.two_pow_pos n; omega)).2 ⟨h, k⟩

theorem log2_lt_of_lt_two_pow {n : ℕ} (pos : 0 < n) (h : m < 2 ^ n) : m.log2 < n := by
  rcases Nat.eq_zero_or_pos m with rfl | hm
  · simpa using pos
  · exact (Nat.log2_lt hm.ne').2 h

theorem log2_le_log2 {n : ℕ} (h : m ≤ n) : m.log2 ≤ n.log2 := by
  rcases Nat.eq_zero_or_pos m with rfl | hm
  · simp
  · exact (Nat.le_log2 (hm.trans_le h).ne').2 ((Nat.log2_self_le hm.ne').trans h)

/-- A mantissa that was just rounded may be one place too long.  Then it is a power of two, and the
place is dropped without loss. -/
theorem shiftToTargetExponent_exact (le : r ≤ 2 ^ spec.mantissaBits)
    (least : spec.minExponent ≤ t)
    (full : t = spec.minExponent ∨ 2 ^ (spec.mantissaBits - 1) ≤ r) :
    ∃ (em : ExtendedMantissa) (e : ℤ), shiftToTargetExponent spec r t .exact = (em, e) ∧
      (em.mantissa : ℚ) * 2 ^ e = r * 2 ^ t ∧ (0 < em.mantissa → Canonical spec em.mantissa e) := by
  have two := two_le_mantissaBits spec
  have half : (2 : ℕ) ^ spec.mantissaBits = 2 ^ (spec.mantissaBits - 1) * 2 := by
    rw [← pow_succ, Nat.sub_add_cancel (by omega)]
  rcases le.lt_or_eq with lt | rfl
  · have short := log2_lt_of_lt_two_pow (by omega) lt
    refine ⟨.ofMantissaAndAccuracy r .exact, t, ?_, rfl, fun _ => ?_⟩
    · have none : (spec.targetExponent (totalExponent r t) - t).toNat = 0 := by
        simp only [Format.targetExponent, totalExponent]
        omega
      rw [shiftToTargetExponent, shiftToExponent, none, Nat.cast_zero, add_zero]
      rfl
    · show t = max ((r.log2 : ℤ) + 1 + t - spec.mantissaBits) spec.minExponent
      rcases full with same | high
      · omega
      · have log : r.log2 = spec.mantissaBits - 1 :=
          log2_eq_of_bounds high (by rwa [Nat.sub_add_cancel (by omega)])
        omega
  · refine ⟨(ExtendedMantissa.ofMantissaAndAccuracy (2 ^ spec.mantissaBits) .exact).shiftRightOne,
      t + 1, ?_, ?_, fun _ => ?_⟩
    · have one : (spec.targetExponent (totalExponent (2 ^ spec.mantissaBits) t) - t).toNat = 1 := by
        simp only [Format.targetExponent, totalExponent, Nat.log2_two_pow]
        omega
      rw [shiftToTargetExponent, shiftToExponent, one, Nat.cast_one]
      rfl
    · show ((2 ^ spec.mantissaBits / 2 : ℕ) : ℚ) * 2 ^ (t + 1) = (2 ^ spec.mantissaBits : ℕ) * 2 ^ t
      rw [half, Nat.mul_div_cancel _ two_pos, zpow_add_one₀ two_ne_zero]
      push_cast
      ring
    · show t + 1 = max (((2 ^ spec.mantissaBits / 2).log2 : ℤ) + 1 + (t + 1) - spec.mantissaBits)
        spec.minExponent
      rw [half, Nat.mul_div_cancel _ two_pos, Nat.log2_two_pow]
      omega

/-- Shifted to the exponent of the result, the exact size fits into a mantissa, and fills it unless
the exponent is the least. -/
theorem bounds_of_shift {n : ℕ} (h : Approximates (.ofMantissaAndAccuracy m acc) x)
    (shift : spec.targetExponent (totalExponent m e) = e + n) :
    x / 2 ^ n ≤ (2 ^ spec.mantissaBits : ℕ) ∧ (e + n = spec.minExponent ∨
      ((2 ^ (spec.mantissaBits - 1) : ℕ) : ℚ) ≤ x / 2 ^ n) := by
  have two := two_le_mantissaBits spec
  have le := h.le
  have lt := h.lt
  have mantissa : (ExtendedMantissa.ofMantissaAndAccuracy m acc).mantissa = m := by
    rcases acc with _ | _ | _ | _ <;> rfl
  rw [mantissa] at le lt
  simp only [Format.targetExponent, totalExponent] at shift
  have positive : (0 : ℚ) < 2 ^ n := by positivity
  rw [div_le_iff₀ positive, le_div_iff₀ positive]
  constructor
  · have room : m + 1 ≤ 2 ^ spec.mantissaBits * 2 ^ n := by
      rw [← pow_add]
      exact Nat.lt_log2_self.trans_le (Nat.pow_le_pow_right two_pos (by omega))
    have room : ((m + 1 : ℕ) : ℚ) ≤ (2 ^ spec.mantissaBits * 2 ^ n : ℕ) := by exact_mod_cast room
    push_cast at room ⊢
    linarith
  · by_cases least : e + n = spec.minExponent
    · exact .inl least
    · right
      have log : m.log2 = spec.mantissaBits - 1 + n := by omega
      have pos : m ≠ 0 := by
        rintro rfl
        simp only [Nat.log2_zero] at log
        omega
      have full : 2 ^ (spec.mantissaBits - 1) * 2 ^ n ≤ m := by
        rw [← pow_add, ← log]
        exact Nat.log2_self_le pos
      have full : ((2 ^ (spec.mantissaBits - 1) * 2 ^ n : ℕ) : ℚ) ≤ m := by exact_mod_cast full
      push_cast at full ⊢
      linarith

/-- A size of a smaller exponent lies below all that fill the mantissa. -/
theorem lt_of_exponent_lt {u : ℤ} (room : m < 2 ^ spec.mantissaBits) (lt : u < t) :
    (m : ℚ) * 2 ^ u < (2 ^ (spec.mantissaBits - 1) : ℕ) * 2 ^ t := by
  have two := two_le_mantissaBits spec
  have room : (m : ℚ) < 2 ^ spec.mantissaBits := by exact_mod_cast room
  calc (m : ℚ) * 2 ^ u < 2 ^ spec.mantissaBits * 2 ^ u := by gcongr
    _ ≤ 2 ^ spec.mantissaBits * 2 ^ (t - 1) := by
      gcongr
      · norm_num
      · omega
    _ = (2 ^ (spec.mantissaBits - 1) : ℕ) * 2 ^ t := by
      rw [← Nat.sub_add_cancel (by omega : 1 ≤ spec.mantissaBits), pow_succ, Nat.add_sub_cancel,
        zpow_sub_one₀ two_ne_zero]
      push_cast
      field_simp

/-- A mantissa that is rounded in its place crosses no size that the format holds: one of a larger
exponent is a whole number in this place, and one of a smaller exponent lies below the place. -/
theorem roundsTo_of_approximates {em : ExtendedMantissa} (h : Approximates em x)
    (full : t = spec.minExponent ∨ ((2 ^ (spec.mantissaBits - 1) : ℕ) : ℚ) ≤ x) :
    RoundsTo spec (x * 2 ^ t) (em.roundedMantissa * 2 ^ t) := by
  rintro b ⟨m, u, room, least, rfl⟩
  have positive : (0 : ℚ) < 2 ^ t := by positivity
  rcases le_or_gt t u with le | lt
  · obtain ⟨n, hn⟩ := Int.eq_ofNat_of_zero_le (Int.sub_nonneg.2 le)
    have whole : (m : ℚ) * 2 ^ u = ((m * 2 ^ n : ℕ) : ℚ) * 2 ^ t := by
      rw [show u = t + n by omega, zpow_add₀ two_ne_zero, zpow_natCast]
      push_cast
      ring
    obtain ⟨below, above⟩ := h.le_iff_of_rounded (m * 2 ^ n)
    rw [whole]
    constructor
    · intro hx
      have := below (le_of_mul_le_mul_right hx positive)
      gcongr
    · intro hx
      have := above (le_of_mul_le_mul_right hx positive)
      gcongr
  · have filled := full.resolve_left (by omega)
    have small := lt_of_exponent_lt room lt
    have rounded : 2 ^ (spec.mantissaBits - 1) ≤ em.roundedMantissa :=
      (h.le_iff_of_rounded _).2 filled
    constructor
    · intro hx
      have : (2 ^ (spec.mantissaBits - 1) : ℕ) * (2 : ℚ) ^ t ≤ x * 2 ^ t := by gcongr
      linarith
    · intro _
      exact small.le.trans (by gcongr)

/-- A float that is rounded from an approximation of `x`, in units of `2 ^ e`, has the sign that it
is given and a size that `x` rounds to, if the approximation has all the places of the result. -/
theorem roundWithAccuracy_spec
    (h : Approximates (.ofMantissaAndAccuracy m acc) x)
    (enough : e ≤ spec.targetExponent (totalExponent m e)) :
    ∃ v, Sized spec s v (roundWithAccuracy spec s m e acc) ∧ RoundsTo spec (x * 2 ^ e) v := by
  have two := two_le_mantissaBits spec
  obtain ⟨n, hn⟩ := Int.eq_ofNat_of_zero_le (Int.sub_nonneg.2 enough)
  have shift : spec.targetExponent (totalExponent m e) = e + n := by omega
  have least : spec.minExponent ≤ e + n := by
    rw [← shift]
    exact le_max_right _ _
  obtain ⟨fits, full⟩ := bounds_of_shift h shift
  have shifted := h.shiftRight n
  have same : x / 2 ^ n * 2 ^ (e + n) = x * 2 ^ e := by
    rw [zpow_add₀ two_ne_zero, zpow_natCast]
    field_simp
  have rounds := roundsTo_of_approximates shifted full
  rw [same] at rounds
  obtain ⟨em, f, second, size, canonical⟩ :=
    shiftToTargetExponent_exact ((shifted.le_iff_of_rounded _).1 fits) least
      (full.imp_right fun full => (shifted.le_iff_of_rounded _).2 full)
  rw [← size] at rounds
  have first : shiftToTargetExponent spec m e acc =
      (ExtendedMantissa.ofMantissaAndAccuracy m acc >>> n, e + n) := by
    rw [shiftToTargetExponent, shiftToExponent, shift, add_sub_cancel_left, Int.toNat_natCast]
  simp only [roundWithAccuracy, first, second]
  refine ⟨_, ?_, rounds⟩
  split
  · next zero =>
    rw [zero, Nat.cast_zero, zero_mul]
    exact .zero
  · next pos => exact .finite (canonical (Nat.pos_of_ne_zero pos))

/-! ## Operations -/

theorem RoundsTo.refl (spec : Format) (x : ℚ) : RoundsTo spec x x :=
  fun _ _ => ⟨id, id⟩

theorem Canonical.least (h : Canonical spec m e) : spec.minExponent ≤ e :=
  h.ge.trans' (le_max_right _ _)

/-- Unless its exponent is the least, a mantissa has all its places. -/
theorem Canonical.log2 (h : Canonical spec m e) :
    e = spec.minExponent ∨ m.log2 + 1 = spec.mantissaBits := by
  simp only [Canonical, Format.targetExponent, totalExponent] at h
  omega

theorem minExponent_nonpos (spec : Format) : spec.minExponent ≤ 0 := by
  have two := two_le_mantissaBits spec
  have pow : (1 : ℤ) ≤ 2 ^ (spec.exponentBits - 1) := by exact_mod_cast Nat.one_le_two_pow
  simp only [Format.minExponent]
  omega

/-- A mantissa and an exponent are rounded after the places of the result are made. -/
theorem round_spec (spec : Format) (pos : 0 < m) (s : Sign) (e : ℤ) :
    ∃ v, Sized spec s v (UnpackedFloat.round spec s m e) ∧ RoundsTo spec (m * 2 ^ e) v := by
  obtain ⟨k, hk⟩ : ∃ k, k = (e - spec.targetExponent (totalExponent m e)).toNat := ⟨_, rfl⟩
  have log : (m <<< k).log2 = m.log2 + k := by
    rw [Nat.shiftLeft_eq]
    refine log2_eq_of_bounds ?_ ?_
    · rw [pow_add]
      exact Nat.mul_le_mul_right _ (Nat.log2_self_le pos.ne')
    · rw [add_right_comm, pow_add]
      exact Nat.mul_lt_mul_of_pos_right Nat.lt_log2_self (Nat.two_pow_pos k)
  have same : ((m <<< k : ℕ) : ℚ) * 2 ^ (e - k) = m * 2 ^ e := by
    rw [Nat.shiftLeft_eq, zpow_sub₀ two_ne_zero, zpow_natCast]
    push_cast
    field_simp
  have enough : e - k ≤ spec.targetExponent (totalExponent (m <<< k) (e - k)) := by
    have total : totalExponent (m <<< k) (e - k) = totalExponent m e := by
      simp only [totalExponent, log]
      push_cast
      ring
    rw [total]
    omega
  have rounds := roundWithAccuracy_spec (s := s) (.ofExact (m <<< k)) enough
  rw [same] at rounds
  simpa only [UnpackedFloat.round, decreaseExponent, ← hk] using rounds

/-- A natural number as a float. -/
theorem ofNat_spec (spec : Format) (n : ℕ) :
    ∃ v, Sized spec .positive v (ofNat spec n) ∧ RoundsTo spec n v := by
  rcases Nat.eq_zero_or_pos n with rfl | pos
  · exact ⟨0, .zero, by simpa using RoundsTo.refl spec 0⟩
  · have greater : compare (n : ℤ) 0 = .gt := by
      rw [compare_gt_iff_gt]
      exact_mod_cast pos
    have rounds := round_spec spec pos .positive 0
    rw [zpow_zero, mul_one] at rounds
    rwa [ofNat, ofInt, UnpackedFloat.normalize, greater]

variable {f g : UnpackedFloat} {s' : Sign} {v' : ℚ}

theorem mul_spec (hf : Sized spec s v f) (hg : Sized spec s' v' g) :
    ∃ w, Sized spec (s * s') w (mul spec f g) ∧ RoundsTo spec (v * v') w := by
  cases hf with
  | zero =>
    rw [zero_mul]
    cases hg <;> exact ⟨0, .zero, .refl _ _⟩
  | @finite m e hm canonical =>
    cases hg with
    | zero =>
      rw [mul_zero]
      exact ⟨0, .zero, .refl _ _⟩
    | @finite m' e' hm' canonical' =>
      have enough : e + e' ≤ spec.targetExponent (totalExponent (m * m') (e + e')) := by
        have log : m.log2 ≤ (m * m').log2 := log2_le_log2 (Nat.le_mul_of_pos_right m hm')
        have log' : m'.log2 ≤ (m * m').log2 := log2_le_log2 (Nat.le_mul_of_pos_left m' hm)
        have := minExponent_nonpos spec
        simp only [Format.targetExponent, totalExponent]
        rcases canonical.log2 with least | full
        · rcases canonical'.log2 with least' | full' <;> omega
        · omega
      have rounds := roundWithAccuracy_spec (s := s * s') (.ofExact (m * m')) enough
      have same : ((m * m' : ℕ) : ℚ) * 2 ^ (e + e') = m * 2 ^ e * (m' * 2 ^ e') := by
        rw [zpow_add₀ two_ne_zero]
        push_cast
        ring
      rwa [same] at rounds

/-- A mantissa for a smaller exponent. -/
theorem decreaseExponent_spec (m : ℕ) (le : t ≤ e) :
    ∃ n : ℕ, decreaseExponent m e t = (n, t) ∧ (n : ℚ) * 2 ^ t = m * 2 ^ e ∧ m ≤ n := by
  obtain ⟨k, hk⟩ := Int.eq_ofNat_of_zero_le (Int.sub_nonneg.2 le)
  have shift : (e - t).toNat = k := by omega
  refine ⟨m <<< k, ?_, ?_, ?_⟩
  · rw [decreaseExponent, shift]
    exact congrArg _ (by omega)
  · rw [Nat.shiftLeft_eq, show e = t + k by omega, zpow_add₀ two_ne_zero, zpow_natCast]
    push_cast
    ring
  · rw [Nat.shiftLeft_eq]
    exact Nat.le_mul_of_pos_right m (Nat.two_pow_pos k)

theorem add_spec (hf : Sized spec .positive v f) (hg : Sized spec .positive v' g) :
    ∃ w, Sized spec .positive w (add spec f g) ∧ RoundsTo spec (v + v') w := by
  cases hf with
  | zero =>
    rw [zero_add]
    cases hg with
    | zero => exact ⟨0, .zero, .refl _ _⟩
    | finite canonical => exact ⟨_, .finite canonical, .refl _ _⟩
  | @finite m e hm canonical =>
    cases hg with
    | zero =>
      rw [add_zero]
      exact ⟨_, .finite canonical, .refl _ _⟩
    | @finite m' e' hm' canonical' =>
      obtain ⟨a, ha, same, le⟩ := decreaseExponent_spec m (min_le_left e e')
      obtain ⟨b, hb, same', le'⟩ := decreaseExponent_spec m' (min_le_right e e')
      have greater : compare ((a : ℤ) + b) 0 = .gt := by
        rw [compare_gt_iff_gt]
        omega
      have rounds := round_spec spec (m := a + b) (by omega) .positive (min e e')
      rw [Nat.cast_add, add_mul, same, same'] at rounds
      simp only [add, ha, hb, Sign.apply, UnpackedFloat.normalize, greater]
      exact rounds

/-- A quotient of mantissas, rounded down, with what is left of it. -/
theorem approximates_div (m : ℕ) {n : ℕ} (pos : 0 < n) :
    Approximates (.ofMantissaAndAccuracy (m / n) (accuracyOfFraction (m % n) n)) (m / n) := by
  have mantissa : (ExtendedMantissa.ofMantissaAndAccuracy (m / n)
      (accuracyOfFraction (m % n) n)).mantissa = m / n := by
    rcases accuracyOfFraction (m % n) n with _ | _ | _ | _ <;> rfl
  have positive : (0 : ℚ) < n := by exact_mod_cast pos
  have parts : ((m / n : ℕ) : ℚ) * n + (m % n : ℕ) = m := by exact_mod_cast Nat.div_add_mod' m n
  have rest : ((m % n : ℕ) : ℚ) < n := by exact_mod_cast Nat.mod_lt m pos
  have nonneg : (0 : ℚ) ≤ (m % n : ℕ) := Nat.cast_nonneg _
  constructor
  · rw [mantissa, le_div_iff₀ positive]
    linarith
  · rw [mantissa, div_lt_iff₀ positive]
    linarith
  · intro set
    have left : m % n ≠ 0 := by
      intro none
      rw [none] at set
      cases set
    have left : (1 : ℚ) ≤ (m % n : ℕ) := by exact_mod_cast Nat.pos_of_ne_zero left
    rw [mantissa, lt_div_iff₀ positive]
    linarith

theorem log2_div_add_log2 (m k : ℕ) {n : ℕ} (hm : 0 < m) (hn : 0 < n) :
    m.log2 + k ≤ (m <<< k / n).log2 + 1 + n.log2 := by
  by_contra short
  have quotient : m <<< k / n < 2 ^ ((m <<< k / n).log2 + 1) := Nat.lt_log2_self
  have small : m <<< k < 2 ^ ((m <<< k / n).log2 + 1) * n := (Nat.div_lt_iff_lt_mul hn).1 quotient
  have large : 2 ^ (m.log2 + k) ≤ m <<< k := by
    rw [Nat.shiftLeft_eq, pow_add]
    exact Nat.mul_le_mul_right _ (Nat.log2_self_le hm.ne')
  have bound : 2 ^ ((m <<< k / n).log2 + 1) * n ≤ 2 ^ (m.log2 + k) :=
    calc 2 ^ ((m <<< k / n).log2 + 1) * n
        ≤ 2 ^ ((m <<< k / n).log2 + 1) * 2 ^ (n.log2 + 1) :=
          Nat.mul_le_mul_left _ Nat.lt_log2_self.le
      _ = 2 ^ ((m <<< k / n).log2 + 1 + (n.log2 + 1)) := (pow_add ..).symm
      _ ≤ 2 ^ (m.log2 + k) := Nat.pow_le_pow_right two_pos (by omega)
  omega

theorem div_spec (hf : Sized spec s v f) (hg : Sized spec s' v' g) (pos : v' ≠ 0) :
    ∃ w, Sized spec (s / s') w (div spec f g) ∧ RoundsTo spec (v / v') w := by
  cases hg with
  | zero => exact absurd rfl pos
  | @finite m' e' hm' canonical' =>
    cases hf with
    | zero =>
      rw [zero_div]
      exact ⟨0, .zero, .refl _ _⟩
    | @finite m e hm canonical =>
      obtain ⟨t, ht⟩ : ∃ t, t = min (e - e')
          (spec.targetExponent (totalExponent m e - totalExponent m' e')) := ⟨_, rfl⟩
      obtain ⟨k, hk⟩ := Int.eq_ofNat_of_zero_le
        (Int.sub_nonneg.2 (ht.le.trans (min_le_left _ _)))
      have shift : (e - e' - t).toNat = k := by omega
      have enough : t ≤ spec.targetExponent (totalExponent (m <<< k / m') t) := by
        have log := log2_div_add_log2 m k hm hm'
        have least := ht.le.trans (min_le_right _ _)
        simp only [Format.targetExponent, totalExponent] at least ⊢
        omega
      have rounds := roundWithAccuracy_spec (s := s / s') (approximates_div (m <<< k) hm') enough
      have same : ((m <<< k : ℕ) / m' : ℚ) * 2 ^ t = m * 2 ^ e / (m' * 2 ^ e') := by
        rw [Nat.shiftLeft_eq, show e = t + k + e' by omega, zpow_add₀ two_ne_zero,
          zpow_add₀ two_ne_zero, zpow_natCast]
        push_cast
        field_simp
      rw [same] at rounds
      simpa only [div, divCore, ← ht, shift] using rounds

end

end Headset
