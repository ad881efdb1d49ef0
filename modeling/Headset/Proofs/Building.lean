import Headset.Proofs.Division
import Headset.Proofs.Gauges

/-!
# What a device is built from

A configuration that is not valid is refused with its fault.  Validity asks of the refresh rate that
it is positive and at most 1000, and of the number of frames to remember that it is positive.  From
a valid configuration a device is built unless the rate is `2 ^ (-64)` or less, so that the interval
between two refreshes has no span, or there is no room for the frames.  Then no device comes of the
build, nor is the configuration refused (`build_outcomes`, `unbuilt_of_valid`).
-/

namespace Headset

open Float.Model (Format UnpackedFloat)
open Float.Model.UnpackedFloat

/-! ## Sizes next to a power of two -/

section

variable {spec : Format} {s : Sign} {v : ℚ} {f : UnpackedFloat}

/-- What a float stands for is held. -/
theorem Sized.holds (h : Sized spec s v f) : Holds spec v := by
  cases h with
  | zero =>
    have held : Holds spec ((0 : ℕ) : ℚ) := holds_natCast (by positivity)
    rwa [Nat.cast_zero] at held
  | finite canonical => exact ⟨_, _, canonical.lt_two_pow, canonical.least, rfl⟩

/-- Above a power of two, the least size that is held is one more in the last place. -/
theorem Holds.le_of_lt {t : ℤ} (h : Holds spec v)
    (above : (2 ^ (spec.mantissaBits - 1) : ℕ) * (2 : ℚ) ^ t < v) :
    ((2 ^ (spec.mantissaBits - 1) + 1 : ℕ) : ℚ) * 2 ^ t ≤ v := by
  obtain ⟨m, u, room, -, rfl⟩ := h
  rcases le_or_gt t u with le | lt
  · obtain ⟨n, -, whole, -⟩ := decreaseExponent_spec m le
    have positive : (0 : ℚ) < 2 ^ t := by positivity
    rw [← whole] at above ⊢
    have more := lt_of_mul_lt_mul_right above positive.le
    have more : 2 ^ (spec.mantissaBits - 1) < n := by exact_mod_cast more
    gcongr
    exact more
  · exact absurd above (not_lt.2 (lt_of_exponent_lt room lt).le)

end

theorem isSingle_one : IsSingle 1 .positive 1 := by
  have size : ((8388608 : ℕ) : ℚ) * 2 ^ (-23 : ℤ) = 1 := by norm_num
  rw [← size]
  show Sized .binary32 .positive _ (.finite .positive 8388608 (-23) (by decide))
  exact .finite rfl

/-! ## Spans of seconds -/

namespace Span

variable {m : ℕ} {e : ℤ} {r : Float32} {v : ℚ} {f : UnpackedFloat}

theorem le_roundHalfEven (num den : Nat) : num / den ≤ roundHalfEven num den := by
  unfold roundHalfEven
  dsimp only
  split <;> omega

/-- From `2 ^ 64` seconds on there is no span. -/
theorem ofExact?_eq_none (large : (2 : ℚ) ^ 64 ≤ m * 2 ^ e) :
    ofExact? (.finite false m e) = none := by
  have some : m ≠ 0 := by
    rintro rfl
    norm_num at large
  unfold ofExact?
  dsimp only
  rw [if_neg some, if_neg Bool.false_ne_true]
  split
  · next whole =>
    rw [size_of_nonneg whole] at large
    have large : 2 ^ 64 ≤ m * 2 ^ e.toNat := by exact_mod_cast large
    exact ofNanos?_of_le (Nat.mul_le_mul_right 1000000000 large)
  · next part =>
    rw [size_of_neg part, le_div_iff₀ (by positivity)] at large
    have large : 2 ^ 64 * 2 ^ (-e).toNat ≤ m := by exact_mod_cast large
    have quotient : 2 ^ 64 * 1000000000 ≤ m * 1000000000 / 2 ^ (-e).toNat := by
      rw [Nat.le_div_iff_mul_le (Nat.two_pow_pos _)]
      calc 2 ^ 64 * 1000000000 * 2 ^ (-e).toNat = 2 ^ 64 * 2 ^ (-e).toNat * 1000000000 := by ring
        _ ≤ m * 1000000000 := Nat.mul_le_mul_right _ large
    exact ofNanos?_of_le (quotient.trans (le_roundHalfEven _ _))

/-- The largest single below `2 ^ 64`. -/
def lastSingle : ℕ := (2 ^ 24 - 1) * 2 ^ 40

theorem holds_lastSingle : Holds .binary32 lastSingle := by
  have same : (lastSingle : ℚ) = (2 ^ 24 - 1 : ℕ) * 2 ^ 40 := by
    simp only [lastSingle]
    push_cast
    ring
  rw [same]
  exact holds_mul_two_pow (by decide) 40

theorem ofSeconds?_isSome (h : Sized .binary32 .positive v f) (last : v ≤ lastSingle) :
    (ofSeconds? (.ofModel (.pack f))).isSome := by
  have single := isSingle_pack h (last.trans_lt (by norm_num [lastSingle]))
  obtain ⟨m, e, exact, size⟩ := single.exact_of_positive
  rw [ofSeconds?, exact]
  exact ofExact?_isSome (size.trans_le last) (by decide)

theorem ofSeconds?_eq_none (h : Sized .binary32 .positive v f) (large : 2 ^ 64 ≤ v) :
    ofSeconds? (.ofModel (.pack f)) = none := by
  rw [ofSeconds?]
  rcases lt_or_ge v (2 ^ 128) with finite | beyond
  · obtain ⟨m, e, exact, size⟩ := (isSingle_pack h finite).exact_of_positive
    rw [exact]
    exact ofExact?_eq_none (large.trans_eq size.symm)
  · rw [exact_pack_of_le h beyond]
    rfl

/-- The reciprocal of a size above `2 ^ (-64)` is not rounded up to `2 ^ 64`. -/
theorem one_div_le_lastSingle (held : Holds .binary32 v) (above : (2 : ℚ) ^ (-64 : ℤ) < v) :
    1 / v ≤ lastSingle := by
  have next : ((2 ^ 23 + 1 : ℕ) : ℚ) * 2 ^ (-87 : ℤ) ≤ v :=
    held.le_of_lt (t := -87) (above.trans_le' (by norm_num [Format.mantissaBits]))
  have pos : 0 < v := above.trans' (by positivity)
  rw [div_le_iff₀ pos]
  calc (1 : ℚ) ≤ lastSingle * ((2 ^ 23 + 1 : ℕ) * 2 ^ (-87 : ℤ)) := by norm_num [lastSingle]
    _ ≤ lastSingle * v := by gcongr

/-- The interval of a refresh rate has a span just if the rate is above `2 ^ (-64)`. -/
theorem isSome_ofSeconds?_one_div (rate : IsSingle r .positive v) (pos : 0 < v) :
    (ofSeconds? (1 / r)).isSome ↔ (2 : ℚ) ^ (-64 : ℤ) < v := by
  obtain ⟨w, sized, rounds⟩ := div_spec isSingle_one rate pos.ne'
  rcases lt_or_ge ((2 : ℚ) ^ (-64 : ℤ)) v with above | below
  · have last := (rounds _ holds_lastSingle).1 (one_div_le_lastSingle rate.holds above)
    exact iff_of_true (ofSeconds?_isSome sized last) above
  · have long : ((1 : ℕ) : ℚ) * 2 ^ 64 ≤ 1 / v := by
      rw [le_div_iff₀ pos]
      calc ((1 : ℕ) : ℚ) * 2 ^ 64 * v ≤ (1 : ℕ) * 2 ^ 64 * 2 ^ (-64 : ℤ) := by gcongr
        _ = 1 := by norm_num
    have large := (rounds _ (holds_mul_two_pow (by decide) 64)).2 long
    have none : ofSeconds? (1 / r) = none :=
      ofSeconds?_eq_none sized (large.trans_eq' (by norm_num))
    exact iff_of_false (by simp [none]) below.not_gt

end Span

/-! ## Building -/

/-- The highest refresh rate whose interval has no span, `2 ^ (-64)`. -/
def DisplayConfig.stillRate : Float32 := .ofBits 0x1f800000

theorem isSingle_stillRate : IsSingle DisplayConfig.stillRate .positive (2 ^ (-64 : ℤ)) := by
  have size : ((8388608 : ℕ) : ℚ) * 2 ^ (-87 : ℤ) = 2 ^ (-64 : ℤ) := by norm_num
  rw [← size]
  show Sized .binary32 .positive _ (.finite .positive 8388608 (-87) (by decide))
  exact .finite rfl

/-- A valid configuration of which a device comes: the interval of its refresh rate has a span, and
there is room for the frames it remembers. -/
structure Config.Buildable (c : Config) : Prop where
  valid : c.validate = .ok c
  rate : DisplayConfig.stillRate < c.display.refreshRate
  room : c.tracking.latencyHistory.toNat ≤ Latency.mostFrames

section

variable {c : Config} {equipment : Equipment}

theorem Config.isSome_interval_iff (valid : c.fault? = none) :
    (Span.ofSeconds? (1 / c.display.refreshRate)).isSome ↔
      DisplayConfig.stillRate < c.display.refreshRate := by
  obtain ⟨-, -, ⟨pos, most⟩, -⟩ := Config.fault?_eq_none_iff.1 valid
  obtain ⟨v, rate, pos, -⟩ := isSingle_thousand.of_pos_of_le pos most
  rw [Span.isSome_ofSeconds?_one_div rate pos, isSingle_stillRate.lt_iff rate]

theorem Device.exists_build?_eq_ok_iff :
    (∃ d, build? c equipment = some (.ok d)) ↔ c.Buildable := by
  simp only [build?_eq_ok_iff, Latency.allocate?_eq_some_iff]
  constructor
  · rintro ⟨d, valid, interval, span, latency, ⟨room, -⟩, -⟩
    have rate := (Config.isSome_interval_iff valid).1 (by rw [span, Option.isSome_some])
    exact ⟨Config.validate_eq_ok_iff.2 valid, rate, room⟩
  · rintro ⟨valid, rate, room⟩
    have valid := Config.validate_eq_ok_iff.1 valid
    obtain ⟨interval, span⟩ :=
      Option.isSome_iff_exists.1 ((Config.isSome_interval_iff valid).2 rate)
    exact ⟨_, valid, interval, span, _, ⟨room, rfl⟩, rfl⟩

theorem Device.build?_eq_error_iff {e : ConfigError} :
    build? c equipment = some (.error e) ↔ c.validate = .error e := by
  rw [Config.validate_eq_error_iff]
  unfold build?
  cases c.fault? with
  | some e => simp
  | none => simp [Option.bind_eq_some_iff]

end

/-- A configuration that is not valid is refused with its fault, and no other is.  From a valid one
a device is built if the interval of its refresh rate has a span and there is room for the frames
it remembers; otherwise nothing comes of the build. -/
theorem build_outcomes (c : Config) (equipment : Equipment) :
    (∀ e, Device.build? c equipment = some (.error e) ↔ c.validate = .error e) ∧
      ((∃ d, Device.build? c equipment = some (.ok d)) ↔ c.Buildable) ∧
      (Device.build? c equipment = none ↔ c.validate = .ok c ∧ ¬ c.Buildable) := by
  refine ⟨fun e => Device.build?_eq_error_iff, Device.exists_build?_eq_ok_iff, ?_⟩
  have built := @Device.exists_build?_eq_ok_iff c equipment
  rw [← built, Config.validate_eq_ok_iff]
  have refused := @Device.build?_eq_error_iff c equipment
  simp only [Config.validate_eq_error_iff] at refused
  cases hb : Device.build? c equipment with
  | none =>
    cases hf : c.fault? with
    | none => simp
    | some e => cases hb.symm.trans (refused.2 hf)
  | some result =>
    cases result with
    | ok d => simp
    | error e => simp [refused.1 hb]

/-- A configuration whose refresh rate is very small. -/
def Config.still : Config where
  display := { refreshRate := 1e-20 }

/-- A configuration that remembers very many frames. -/
def Config.boundless : Config where
  tracking := { latencyHistory := 0x8000000000000000 }

/-- Both configurations are valid, and neither is refused, but no device comes of them. -/
theorem unbuilt_of_valid :
    (Config.still.validate = .ok .still ∧ Device.build? .still .direct = none) ∧
      Config.boundless.validate = .ok .boundless ∧ Device.build? .boundless .direct = none := by
  simp only [Config.validate_eq_ok_iff, ← Option.isNone_iff_eq_none]
  decide +kernel

end Headset
