import Headset.Proofs.Rounding

/-!
# Packing

A float is kept as bits.  A size that is not too large survives the way into the bits and back
(`unpack_pack`), and `Exact` reads the same size off the bits (`Sized.exact_ofBits`).
-/

namespace Headset

open Float.Model (Format UnpackedFloat totalExponent)
open Float.Model.UnpackedFloat

variable {spec : Format} {m : ℕ} {e : ℤ} {v : ℚ} {s : Sign} {f : UnpackedFloat}

/-! ## Fields -/

theorem minExponent_eq (spec : Format) :
    spec.minExponent = 1 - (spec.exponentBias : ℤ) - spec.mantissaBitsWithoutImplicit := by
  have pow : 1 ≤ 2 ^ (spec.exponentBits - 1) := Nat.one_le_two_pow
  simp only [Format.minExponent, Format.exponentBias, Format.mantissaBits]
  push_cast [pow]
  ring

theorem two_pow_exponentBits (spec : Format) :
    2 ^ spec.exponentBits = 2 * spec.exponentBias + 2 := by
  have pow : 1 ≤ 2 ^ (spec.exponentBits - 1) := Nat.one_le_two_pow
  have double : 2 ^ spec.exponentBits = 2 ^ (spec.exponentBits - 1) * 2 := by
    rw [← pow_succ, Nat.sub_add_cancel spec.he]
  simp only [Format.exponentBias]
  omega

theorem toNat_unpackMantissa (b : BitVec spec.numBits) :
    (unpackMantissa b).toNat = b.toNat % 2 ^ spec.mantissaBitsWithoutImplicit := by
  rw [unpackMantissa_def, BitVec.extractLsb'_toNat, Nat.shiftRight_zero]

theorem toNat_unpackExponent (b : BitVec spec.numBits) :
    (unpackExponent b).toNat =
      b.toNat / 2 ^ spec.mantissaBitsWithoutImplicit % 2 ^ spec.exponentBits := by
  rw [unpackExponent_def, BitVec.extractLsb'_toNat, Nat.shiftRight_eq_div_pow]

theorem sign_eq_negative_iff (b : BitVec spec.numBits) :
    Sign.ofBitVec (unpackSign b) = .negative ↔
      b.toNat / 2 ^ (spec.mantissaBitsWithoutImplicit + spec.exponentBits) % 2 = 1 := by
  have zero : unpackSign b = 0#1 ↔
      b.toNat / 2 ^ (spec.mantissaBitsWithoutImplicit + spec.exponentBits) % 2 = 0 := by
    rw [← BitVec.toNat_inj, unpackSign_def, BitVec.extractLsb'_toNat, Nat.shiftRight_eq_div_pow]
    rfl
  unfold Sign.ofBitVec
  split
  · next positive => simp [zero.1 positive]
  · next negative => simpa using mt zero.2 negative

theorem eq_allOnes_iff (b : BitVec spec.numBits) : unpackExponent b = -1#_ ↔
    b.toNat / 2 ^ spec.mantissaBitsWithoutImplicit % 2 ^ spec.exponentBits =
      2 ^ spec.exponentBits - 1 := by
  rw [← BitVec.toNat_inj, toNat_unpackExponent, BitVec.neg_one_eq_allOnes, BitVec.toNat_allOnes]

theorem eq_zero_iff (b : BitVec spec.numBits) : unpackExponent b = 0#_ ↔
    b.toNat / 2 ^ spec.mantissaBitsWithoutImplicit % 2 ^ spec.exponentBits = 0 := by
  rw [← BitVec.toNat_inj, toNat_unpackExponent, BitVec.toNat_zero]

theorem toNat_append_implicit {n : ℕ} (b : BitVec n) : (1#1 ++ b).toNat = 2 ^ n + b.toNat := by
  rw [BitVec.toNat_append, ← Nat.shiftLeft_add_eq_or_of_lt b.isLt]
  simp [Nat.shiftLeft_eq]

theorem zero_ne_allOnes (spec : Format) : (0#_ : BitVec spec.exponentBits) ≠ -1#_ := by
  intro same
  have same := congrArg BitVec.toNat same
  rw [BitVec.neg_one_eq_allOnes, BitVec.toNat_allOnes, BitVec.toNat_zero] at same
  have := two_pow_exponentBits spec
  omega

/-! ## There and back -/

/-- A float whose mantissa has all its places survives packing. -/
theorem unpack_pack_normal (hm : 0 < m) (full : m.log2 + 1 = spec.mantissaBits)
    (least : spec.minExponent ≤ e)
    (most : e ≤ spec.exponentBias - spec.mantissaBitsWithoutImplicit) :
    unpack spec (pack spec (.finite s m e hm)) = .finite s m e hm := by
  rw [minExponent_eq] at least
  have capacity := two_pow_exponentBits spec
  obtain ⟨b, hb⟩ : ∃ b, b = (e + spec.exponentBias + spec.mantissaBitsWithoutImplicit).toNat :=
    ⟨_, rfl⟩
  have biased : (BitVec.ofNat spec.exponentBits b).toNat = b := by
    rw [BitVec.toNat_ofNat, Nat.mod_eq_of_lt (by omega)]
  have finite : BitVec.ofNat spec.exponentBits b ≠ -1#_ := by
    rw [Ne, ← BitVec.toNat_inj, biased, BitVec.neg_one_eq_allOnes, BitVec.toNat_allOnes]
    omega
  have normal : BitVec.ofNat spec.exponentBits b ≠ 0#_ := by
    rw [Ne, ← BitVec.toNat_inj, biased, BitVec.toNat_zero]
    omega
  have mantissa : (1#1 ++ BitVec.ofNat spec.mantissaBitsWithoutImplicit m).toNat = m := by
    have places : m.log2 = spec.mantissaBitsWithoutImplicit := by
      simp only [Format.mantissaBits] at full
      omega
    have low : 2 ^ spec.mantissaBitsWithoutImplicit ≤ m := places ▸ Nat.log2_self_le hm.ne'
    have high : m < 2 ^ spec.mantissaBitsWithoutImplicit * 2 := by
      rw [← pow_succ, ← places]
      exact Nat.lt_log2_self
    rw [toNat_append_implicit, BitVec.toNat_ofNat, Nat.mod_eq_sub_mod low,
      Nat.mod_eq_of_lt (by omega)]
    omega
  have small : ¬ 2 ^ spec.exponentBits ≤ b + 1 := by omega
  simp only [pack, ← hb, if_neg small, if_pos full, unpack, unpackMantissa_packComponents,
    unpackExponent_packComponents, unpackSign_packComponents,
    Sign.ofBitVec_toBitVec, if_neg finite, if_neg normal, biased, mantissa]
  congr 1
  omega

/-- So does one of the least exponent that has fewer places. -/
theorem unpack_pack_subnormal (hm : 0 < m) (short : m.log2 + 1 < spec.mantissaBits)
    (range : 1 < spec.exponentBits) :
    unpack spec (pack spec (.finite s m spec.minExponent hm)) =
      .finite s m spec.minExponent hm := by
  have least := minExponent_eq spec
  have capacity := two_pow_exponentBits spec
  have four : 2 ^ 2 ≤ 2 ^ spec.exponentBits := Nat.pow_le_pow_right two_pos range
  have places : m < 2 ^ spec.mantissaBitsWithoutImplicit := by
    simp only [Format.mantissaBits] at short
    exact Nat.lt_log2_self.trans_le (Nat.pow_le_pow_right two_pos (by omega))
  have mantissa : (BitVec.ofNat spec.mantissaBitsWithoutImplicit m).toNat = m := by
    rw [BitVec.toNat_ofNat, Nat.mod_eq_of_lt places]
  have some : BitVec.ofNat spec.mantissaBitsWithoutImplicit m ≠ 0#_ := by
    rw [Ne, ← BitVec.toNat_inj, mantissa, BitVec.toNat_zero]
    exact hm.ne'
  have small : ¬ 2 ^ spec.exponentBits ≤
      (spec.minExponent + spec.exponentBias + spec.mantissaBitsWithoutImplicit).toNat + 1 := by
    omega
  simp only [pack, if_neg small, if_neg short.ne, unpack, unpackMantissa_packComponents,
    unpackExponent_packComponents, unpackSign_packComponents, Sign.ofBitVec_toBitVec,
    if_neg (zero_ne_allOnes spec), if_true, dif_neg some, mantissa, BitVec.toNat_zero]
  congr 1
  omega

/-- A float of a size below the range of the format survives packing. -/
theorem Sized.unpack_pack (h : Sized spec s v f) (range : 1 < spec.exponentBits)
    (small : v < 2 ^ (spec.exponentBias + 1)) : unpack spec (pack spec f) = f := by
  cases h with
  | zero => exact unpack_packedZero
  | @finite m e hm canonical =>
    by_cases full : m.log2 + 1 = spec.mantissaBits
    · refine unpack_pack_normal hm full canonical.least ?_
      have low : (2 : ℚ) ^ m.log2 ≤ m := by exact_mod_cast Nat.log2_self_le hm.ne'
      have size : (2 : ℚ) ^ (m.log2 + e) < 2 ^ ((spec.exponentBias + 1 : ℕ) : ℤ) := by
        rw [zpow_add₀ two_ne_zero, zpow_natCast, zpow_natCast]
        exact (mul_le_mul_of_nonneg_right low (by positivity)).trans_lt small
      have := (zpow_lt_zpow_iff_right₀ one_lt_two).1 size
      simp only [Format.mantissaBits] at full
      omega
    · have least := canonical.log2.resolve_right full
      obtain rfl := least
      refine unpack_pack_subnormal hm ?_ range
      have := canonical
      simp only [Canonical, Format.targetExponent, totalExponent] at this
      omega

theorem Canonical.lt_two_pow (h : Canonical spec m e) : m < 2 ^ spec.mantissaBits := by
  have log : m.log2 + 1 ≤ spec.mantissaBits := by
    simp only [Canonical, Format.targetExponent, totalExponent] at h
    omega
  exact Nat.lt_log2_self.trans_le (Nat.pow_le_pow_right two_pos log)

/-- A float of a size beyond the range of the format is packed as infinite. -/
theorem Sized.pack_of_le (h : Sized spec s v f) (large : 2 ^ (spec.exponentBias + 1) ≤ v) :
    pack spec f = packedInfinity spec s := by
  have capacity := two_pow_exponentBits spec
  cases h with
  | zero => exact absurd large (not_le.2 (by positivity))
  | @finite m e hm canonical =>
    have short : (m : ℚ) < 2 ^ spec.mantissaBits := by exact_mod_cast canonical.lt_two_pow
    have size : (2 : ℚ) ^ ((spec.exponentBias + 1 : ℕ) : ℤ) < 2 ^ (spec.mantissaBits + e) := by
      rw [zpow_add₀ two_ne_zero, zpow_natCast, zpow_natCast]
      exact large.trans_lt (by gcongr)
    have := (zpow_lt_zpow_iff_right₀ one_lt_two).1 size
    have high : 2 ^ spec.exponentBits ≤
        (e + spec.exponentBias + spec.mantissaBitsWithoutImplicit).toNat + 1 := by
      simp only [Format.mantissaBits] at this
      omega
    simp only [pack, if_pos high]

/-! ## Floats as they are read -/

theorem size_lt_of_exponent (canonical : Canonical spec m e)
    (most : e ≤ spec.exponentBias - spec.mantissaBitsWithoutImplicit) :
    (m : ℚ) * 2 ^ e < 2 ^ (spec.exponentBias + 1) := by
  have short : (m : ℚ) < 2 ^ spec.mantissaBits := by exact_mod_cast canonical.lt_two_pow
  calc (m : ℚ) * 2 ^ e < 2 ^ spec.mantissaBits * 2 ^ e := by gcongr
    _ ≤ 2 ^ spec.mantissaBits * 2 ^ (spec.exponentBias - spec.mantissaBitsWithoutImplicit : ℤ) := by
      gcongr
      norm_num
    _ = 2 ^ (spec.exponentBias + 1) := by
      rw [← zpow_natCast, ← zpow_add₀ two_ne_zero, ← zpow_natCast]
      congr 1
      simp only [Format.mantissaBits]
      push_cast
      ring

/-- Whatever bits are read, a finite float is as the format keeps it, and in its range. -/
theorem sized_unpack (b : BitVec spec.numBits) (range : 1 < spec.exponentBits) :
    unpack spec b = .notANumber ∨ (∃ s, unpack spec b = .infinity s) ∨
      ∃ s v, Sized spec s v (unpack spec b) ∧ v < 2 ^ (spec.exponentBias + 1) := by
  have mantissa := (unpackMantissa b).isLt
  have exponent := (unpackExponent b).isLt
  have two := two_le_mantissaBits spec
  have least := minExponent_eq spec
  have capacity := two_pow_exponentBits spec
  have four : 2 ^ 2 ≤ 2 ^ spec.exponentBits := Nat.pow_le_pow_right two_pos range
  have bits : spec.mantissaBits = spec.mantissaBitsWithoutImplicit + 1 := by
    rw [Format.mantissaBits, add_comm]
  unfold unpack
  dsimp only
  split
  · split
    · exact .inr (.inl ⟨_, rfl⟩)
    · exact .inl rfl
  next finite =>
  right; right
  split
  · next subnormal =>
    split
    · exact ⟨_, _, .zero, by positivity⟩
    · have short : (unpackMantissa b).toNat.log2 < spec.mantissaBitsWithoutImplicit :=
        log2_lt_of_lt_two_pow spec.hm mantissa
      rw [subnormal, BitVec.toNat_zero]
      have canonical : Canonical spec (unpackMantissa b).toNat (((0 : ℕ) : ℤ) -
          (spec.exponentBias + spec.mantissaBitsWithoutImplicit) + 1) := by
        simp only [Canonical, Format.targetExponent, totalExponent]
        omega
      exact ⟨_, _, .finite canonical, size_lt_of_exponent canonical (by omega)⟩
  · next normal =>
    have full : (1#1 ++ unpackMantissa b).toNat.log2 = spec.mantissaBitsWithoutImplicit := by
      rw [toNat_append_implicit]
      exact log2_eq_of_bounds (by omega) (by rw [pow_succ]; omega)
    have some : (unpackExponent b).toNat ≠ 0 := fun zero =>
      normal (BitVec.eq_of_toNat_eq (by rw [zero, BitVec.toNat_zero]))
    have notAll : (unpackExponent b).toNat ≠ 2 ^ spec.exponentBits - 1 := fun all =>
      finite (BitVec.eq_of_toNat_eq (by
        rw [all, BitVec.neg_one_eq_allOnes, BitVec.toNat_allOnes]))
    have canonical : Canonical spec (1#1 ++ unpackMantissa b).toNat ((unpackExponent b).toNat -
        (spec.exponentBias + spec.mantissaBitsWithoutImplicit)) := by
      simp only [Canonical, Format.targetExponent, totalExponent, full]
      omega
    exact ⟨_, _, .finite canonical, size_lt_of_exponent canonical (by omega)⟩

/-- Of two sizes as a format keeps them, the one with the larger exponent is larger. -/
theorem Canonical.lt_of_lt {m' : ℕ} {e' : ℤ} (h : Canonical spec m e) (h' : Canonical spec m' e')
    (lt : e < e') : (m : ℚ) * 2 ^ e < m' * 2 ^ e' := by
  have two := two_le_mantissaBits spec
  have least := h.least
  have full : m'.log2 + 1 = spec.mantissaBits := h'.log2.resolve_left (by omega)
  have low : 2 ^ (spec.mantissaBits - 1) ≤ m' := by
    rw [← full, Nat.add_sub_cancel]
    refine Nat.log2_self_le ?_
    rintro rfl
    simp only [Nat.log2_zero] at full
    omega
  have low : ((2 ^ (spec.mantissaBits - 1) : ℕ) : ℚ) ≤ m' := by exact_mod_cast low
  exact (lt_of_exponent_lt h.lt_two_pow lt).trans_le (by gcongr)

theorem Sized.abs (h : Sized spec s v f) : Sized spec .positive v f.abs := by
  cases h with
  | zero => exact .zero
  | finite canonical => exact .finite canonical

/-- Floats that are not negative compare as their sizes do. -/
theorem Sized.compare_eq {v' : ℚ} {g : UnpackedFloat} (hf : Sized spec .positive v f)
    (hg : Sized spec .positive v' g) : f.compare g = some (compare v v') := by
  cases hf with
  | zero =>
    cases hg with
    | zero => exact congrArg some (compare_eq_iff_eq.2 rfl).symm
    | finite => exact congrArg some (compare_lt_iff_lt.2 (by positivity)).symm
  | @finite m e hm canonical =>
    cases hg with
    | zero => exact congrArg some (compare_gt_iff_gt.2 (by positivity)).symm
    | @finite m' e' hm' canonical' =>
      refine congrArg some ?_
      rcases lt_trichotomy e e' with lt | rfl | gt
      · rw [compare_lt_iff_lt.2 lt, compare_lt_iff_lt.2 (canonical.lt_of_lt canonical' lt)]
        rfl
      · rw [compare_eq_iff_eq.2 rfl, Ordering.eq_then]
        rcases lt_trichotomy m m' with lt | rfl | gt
        · rw [compare_lt_iff_lt.2 lt, compare_lt_iff_lt.2 (by gcongr)]
        · rw [compare_eq_iff_eq.2 rfl, compare_eq_iff_eq.2 rfl]
        · rw [compare_gt_iff_gt.2 gt, compare_gt_iff_gt.2 (by gcongr)]
      · rw [compare_gt_iff_gt.2 gt, compare_gt_iff_gt.2 (canonical'.lt_of_lt canonical gt)]
        rfl

theorem Sized.le_iff {v' : ℚ} {g : UnpackedFloat} (hf : Sized spec .positive v f)
    (hg : Sized spec .positive v' g) : f.le g = true ↔ v ≤ v' := by
  rw [UnpackedFloat.le, hf.compare_eq hg, Option.any_some, Ordering.isLE_iff_ne_gt,
    compare_gt_iff_gt, not_lt]

theorem Sized.lt_iff {v' : ℚ} {g : UnpackedFloat} (hf : Sized spec .positive v f)
    (hg : Sized spec .positive v' g) : f.lt g = true ↔ v < v' := by
  rw [UnpackedFloat.lt, hf.compare_eq hg, beq_iff_eq, Option.some.injEq, compare_lt_iff_lt]

/-- The exact value that is read off the bits has the sign and the size of the float. -/
theorem Sized.exact_ofBits {b : BitVec spec.numBits} (h : Sized spec s v (unpack spec b)) :
    ∃ negative m e, Exact.ofBits ⟨spec.mantissaBitsWithoutImplicit, spec.exponentBits⟩ b.toNat =
      .finite negative m e ∧ (negative = true ↔ s = .negative) ∧ (m : ℚ) * 2 ^ e = v := by
  have least := minExponent_eq spec
  have leastExponent : (FloatFormat.leastExponent
      ⟨spec.mantissaBitsWithoutImplicit, spec.exponentBits⟩) = spec.minExponent := by
    simp only [FloatFormat.leastExponent, Nat.pow_eq, Format.minExponent, Format.mantissaBits]
    push_cast
    ring
  have sign := sign_eq_negative_iff b
  generalize hu : unpack spec b = f at h
  unfold unpack at hu
  dsimp only at hu
  split at hu
  · split at hu <;> subst hu <;> cases h
  next finite =>
  simp only [Exact.ofBits, Nat.pow_eq, if_neg (mt (eq_allOnes_iff b).2 finite)]
  split at hu
  · next subnormal =>
    rw [if_pos ((eq_zero_iff b).1 subnormal), leastExponent, ← toNat_unpackMantissa]
    split at hu
    · next empty =>
      subst hu
      cases h
      exact ⟨_, _, _, rfl, by rw [decide_eq_true_iff, sign], by simp [empty]⟩
    · subst hu
      obtain _ | canonical := h
      refine ⟨_, _, _, rfl, by rw [decide_eq_true_iff, sign], ?_⟩
      rw [subnormal, BitVec.toNat_zero]
      congr 2
      omega
  · next normal =>
    rw [if_neg (mt (eq_zero_iff b).2 normal), leastExponent, ← toNat_unpackMantissa,
      ← toNat_unpackExponent, ← toNat_append_implicit]
    subst hu
    obtain _ | canonical := h
    refine ⟨_, _, _, rfl, by rw [decide_eq_true_iff, sign], ?_⟩
    congr 2
    omega

/-! ## Singles and doubles -/

/-- A single of a sign and a size. -/
def IsSingle (x : Float32) (s : Sign) (v : ℚ) : Prop := Sized .binary32 s v x.toModel.unpack

/-- A double of a sign and a size. -/
def IsDouble (x : Float) (s : Sign) (v : ℚ) : Prop := Sized .binary64 s v x.toModel.unpack

/-- A whole number that is not too large is held, also with zeros behind it. -/
theorem holds_mul_two_pow {n : ℕ} (room : n < 2 ^ spec.mantissaBits) (k : ℕ) :
    Holds spec (n * 2 ^ k) :=
  ⟨n, k, room, (minExponent_nonpos spec).trans (Int.natCast_nonneg k), by rw [zpow_natCast]⟩

theorem holds_natCast {n : ℕ} (room : n < 2 ^ spec.mantissaBits) : Holds spec n := by
  simpa using holds_mul_two_pow room 0

theorem isSingle_pack (h : Sized .binary32 s v f) (small : v < 2 ^ 128) :
    IsSingle (.ofModel (.pack f)) s v := by
  have back := h.unpack_pack (by decide) small
  show Sized .binary32 s v (unpack .binary32 (pack .binary32 f))
  rwa [back]

theorem isDouble_pack (h : Sized .binary64 s v f) (small : v < 2 ^ 1024) :
    IsDouble (.ofModel (.pack f)) s v := by
  have back := h.unpack_pack (by decide) small
  show Sized .binary64 s v (unpack .binary64 (pack .binary64 f))
  rwa [back]

/-- A size beyond the range of singles is read as infinite. -/
theorem exact_pack_of_le (h : Sized .binary32 .positive v f) (large : 2 ^ 128 ≤ v) :
    Exact.of32 (.ofModel (.pack f)) = .infinite false := by
  show Exact.ofBits .single (pack .binary32 f).toNat = _
  rw [h.pack_of_le large]
  rfl

namespace IsSingle

variable {x y : Float32} {s' : Sign} {v' b : ℚ}

/-- A product keeps a bound that is held. -/
theorem mul (hx : IsSingle x s v) (hy : IsSingle y s' v') (bound : Holds .binary32 b)
    (le : v * v' ≤ b) (small : b < 2 ^ 128) : ∃ w, IsSingle (x * y) (s * s') w ∧ w ≤ b := by
  obtain ⟨w, sized, rounds⟩ := mul_spec hx hy
  have below := (rounds b bound).1 le
  exact ⟨w, isSingle_pack sized (below.trans_lt small), below⟩

theorem exact (h : IsSingle x s v) : ∃ negative m e, Exact.of32 x = .finite negative m e ∧
    (negative = true ↔ s = .negative) ∧ (m : ℚ) * 2 ^ e = v :=
  h.exact_ofBits

theorem exact_of_positive (h : IsSingle x .positive v) :
    ∃ m e, Exact.of32 x = .finite false m e ∧ (m : ℚ) * 2 ^ e = v := by
  obtain ⟨negative, m, e, exact, sign, size⟩ := h.exact
  obtain rfl : negative = false := by simpa using sign
  exact ⟨m, e, exact, size⟩

/-- What is bounded by a single has a size within the bound. -/
theorem of_abs_le (hy : IsSingle y .positive b) (le : x.abs ≤ y) :
    ∃ s v, IsSingle x s v ∧ v ≤ b := by
  have le : (Float32.Model.pack x.toModel.unpack.abs).unpack.le y.toModel.unpack = true :=
    of_decide_eq_true le
  unfold IsSingle at hy
  rcases @sized_unpack .binary32 x.toModel.toBits.toBitVec (by decide) with
    nan | ⟨s, infinite⟩ | ⟨s, v, sized, small⟩
  · have nan : x.toModel.unpack = .notANumber := nan
    have unordered : (Float32.Model.pack .notANumber).unpack = .notANumber := by rfl
    rw [nan, UnpackedFloat.abs, unordered] at le
    cases le
  · have infinite : x.toModel.unpack = .infinity s := infinite
    have above : (Float32.Model.pack (.infinity .positive)).unpack = .infinity .positive := by rfl
    rw [infinite, UnpackedFloat.abs, above] at le
    generalize y.toModel.unpack = g at hy le
    cases hy <;> cases le
  · have positive : Sized .binary32 .positive v x.toModel.unpack.abs := sized.abs
    have back : (Float32.Model.pack x.toModel.unpack.abs).unpack = x.toModel.unpack.abs :=
      positive.unpack_pack (by decide) small
    rw [back] at le
    exact ⟨s, v, sized, (positive.le_iff hy).1 le⟩

theorem lt_iff (hx : IsSingle x .positive v) (hy : IsSingle y .positive v') :
    x < y ↔ v < v' :=
  decide_eq_true_iff.trans (Sized.lt_iff hx hy)

theorem le_iff (hx : IsSingle x .positive v) (hy : IsSingle y .positive v') :
    x ≤ y ↔ v ≤ v' :=
  decide_eq_true_iff.trans (Sized.le_iff hx hy)

/-- What is positive and bounded by a single has a positive size within the bound. -/
theorem of_pos_of_le (hy : IsSingle y .positive b) (pos : 0 < x) (le : x ≤ y) :
    ∃ v, IsSingle x .positive v ∧ 0 < v ∧ v ≤ b := by
  have pos : UnpackedFloat.lt (.zero .positive) x.toModel.unpack = true := of_decide_eq_true pos
  have order : x.toModel.unpack.le y.toModel.unpack = true := of_decide_eq_true le
  rcases @sized_unpack .binary32 x.toModel.toBits.toBitVec (by decide) with
    nan | ⟨s, infinite⟩ | ⟨s, v, sized, -⟩
  · have nan : x.toModel.unpack = .notANumber := nan
    rw [nan] at pos
    cases pos
  · have infinite : x.toModel.unpack = .infinity s := infinite
    rw [infinite] at pos order
    unfold IsSingle at hy
    generalize y.toModel.unpack = g at hy order
    cases s with
    | negative => cases pos
    | positive => cases hy <;> cases order
  · have sized : IsSingle x s v := sized
    cases s with
    | negative =>
      unfold IsSingle at sized
      generalize x.toModel.unpack = f at pos sized
      cases sized <;> cases pos
    | positive => exact ⟨v, sized, (Sized.lt_iff .zero sized).1 pos, (sized.le_iff hy).1 le⟩

end IsSingle

theorem lt_two_pow_of_le {b : ℚ} (small : b ≤ 2 ^ 64) : b < 2 ^ 1024 :=
  small.trans_lt (pow_lt_pow_right₀ one_lt_two (by norm_num))

namespace IsDouble

variable {x y : Float} {s' : Sign} {v' b : ℚ}

/-- A sum keeps a bound that is held. -/
theorem add (hx : IsDouble x .positive v) (hy : IsDouble y .positive v')
    (bound : Holds .binary64 b) (le : v + v' ≤ b) (small : b ≤ 2 ^ 64) :
    ∃ w, IsDouble (x + y) .positive w ∧ w ≤ b := by
  obtain ⟨w, sized, rounds⟩ := add_spec hx hy
  have below := (rounds b bound).1 le
  exact ⟨w, isDouble_pack sized (lt_two_pow_of_le (below.trans small)), below⟩

/-- A quotient keeps a bound that is held. -/
theorem div (hx : IsDouble x s v) (hy : IsDouble y s' v') (pos : 0 < v')
    (bound : Holds .binary64 b) (le : v / v' ≤ b) (small : b ≤ 2 ^ 64) :
    ∃ w, IsDouble (x / y) (s / s') w ∧ w ≤ b := by
  obtain ⟨w, sized, rounds⟩ := div_spec hx hy pos.ne'
  have below := (rounds b bound).1 le
  exact ⟨w, isDouble_pack sized (lt_two_pow_of_le (below.trans small)), below⟩

theorem exact_of_positive (h : IsDouble x .positive v) :
    ∃ m e, Exact.of64 x = .finite false m e ∧ (m : ℚ) * 2 ^ e = v := by
  obtain ⟨negative, m, e, exact, sign, size⟩ := h.exact_ofBits
  obtain rfl : negative = false := by simpa using sign
  exact ⟨m, e, exact, size⟩

end IsDouble

/-- A whole number is rounded to a double. -/
theorem isDouble_ofNat {n : ℕ} (le : n ≤ 2 ^ 64) :
    ∃ w, IsDouble (.ofModel (.pack (ofNat .binary64 n))) .positive w ∧ RoundsTo .binary64 n w := by
  obtain ⟨w, sized, rounds⟩ := ofNat_spec .binary64 n
  have bound : Holds .binary64 ((1 : ℕ) * 2 ^ 64) := holds_mul_two_pow (by decide) 64
  have below : w ≤ (1 : ℕ) * 2 ^ 64 := (rounds _ bound).1 (by push_cast; exact_mod_cast le)
  rw [Nat.cast_one, one_mul] at below
  exact ⟨w, isDouble_pack sized (lt_two_pow_of_le below), rounds⟩

theorem isDouble_toUInt64 {n : ℕ} (range : n < 2 ^ 64) :
    ∃ w, IsDouble n.toUInt64.toFloat .positive w ∧ RoundsTo .binary64 n w := by
  have same : n.toUInt64.toNat = n := by
    rw [Nat.toUInt64, UInt64.toNat_ofNat', Nat.mod_eq_of_lt range]
  obtain ⟨w, sized, rounds⟩ := isDouble_ofNat (same.trans_le range.le)
  exact ⟨w, sized, same ▸ rounds⟩

theorem isDouble_toUInt32 {n : ℕ} (range : n < 2 ^ 32) :
    ∃ w, IsDouble n.toUInt32.toFloat .positive w ∧ RoundsTo .binary64 n w := by
  have same : n.toUInt32.toNat = n := by
    rw [Nat.toUInt32, UInt32.toNat_ofNat', Nat.mod_eq_of_lt range]
  obtain ⟨w, sized, rounds⟩ := isDouble_ofNat (n := n.toUInt32.toNat) (by omega)
  exact ⟨w, sized, same ▸ rounds⟩

theorem isSingle_thousand : IsSingle 1000 .positive 1000 := by
  have size : ((16384000 : ℕ) : ℚ) * 2 ^ (-14 : ℤ) = 1000 := by norm_num
  rw [← size]
  show Sized .binary32 .positive _ (.finite .positive 16384000 (-14) (by decide))
  exact .finite rfl

/-- A size of an exponent that is not negative is a whole number. -/
theorem size_of_nonneg (whole : 0 ≤ e) : (m : ℚ) * 2 ^ e = (m * 2 ^ e.toNat : ℕ) := by
  obtain ⟨k, rfl⟩ := Int.eq_ofNat_of_zero_le whole
  rw [zpow_natCast, Int.toNat_natCast]
  push_cast
  rfl

theorem size_of_neg (part : ¬ 0 ≤ e) : (m : ℚ) * 2 ^ e = m / (2 ^ (-e).toNat : ℕ) := by
  obtain ⟨k, hk⟩ := Int.eq_ofNat_of_zero_le (by omega : 0 ≤ -e)
  obtain rfl : e = -k := by omega
  rw [zpow_neg, zpow_natCast, ← div_eq_mul_inv, neg_neg, Int.toNat_natCast]
  push_cast
  rfl

/-- A bound of a size in whole numbers. -/
theorem bound_of_size {n : ℕ} (h : (m : ℚ) * 2 ^ e ≤ n) :
    (0 ≤ e → m * 2 ^ e.toNat ≤ n) ∧ (¬ 0 ≤ e → m ≤ n * 2 ^ (-e).toNat) := by
  constructor
  · intro whole
    rw [size_of_nonneg whole] at h
    exact_mod_cast h
  · intro part
    rw [size_of_neg part, div_le_iff₀ (by positivity)] at h
    exact_mod_cast h

/-- The whole part is within a bound of the size. -/
theorem Exact.natAbs_truncate_le {negative : Bool} {n : ℕ} (h : (m : ℚ) * 2 ^ e ≤ n) :
    (Exact.finite negative m e).truncate.natAbs ≤ n := by
  obtain ⟨whole, part⟩ := bound_of_size h
  have size : (if 0 ≤ e then m * Nat.pow 2 e.toNat else m / Nat.pow 2 (-e).toNat) ≤ n := by
    split
    · next he => exact whole he
    · next he => exact Nat.div_le_of_le_mul ((part he).trans_eq (mul_comm ..))
  unfold truncate
  dsimp only
  split <;> omega

end Headset
