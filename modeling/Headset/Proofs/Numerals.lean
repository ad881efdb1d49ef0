import Headset.Json.Codec
import Mathlib.Data.List.TakeWhile
import Mathlib.Data.Option.Basic

/-!
# Spellings of numbers

A number is spelled by a sign, digits without a zero in front, a fraction and a power of ten
(`Numeral.Spelled`); reading a text gives exactly the numeral that it spells
(`read?_eq_some_iff`).  The written form of a whole number is read as that number, as long as it
fits 64 bits.
-/

namespace Headset.Numeral

/-! ## Spellings -/

def IsDigits (ds : List Char) : Prop := ds ≠ [] ∧ ∀ c ∈ ds, c.isDigit = true

/-- Digits without a zero in front, but for zero itself. -/
def IsWhole (ds : List Char) : Prop := IsDigits ds ∧ (ds.head? = some '0' → ds.length = 1)

/-- A fraction behind its point, or none. -/
inductive IsFraction : List Char → Option (List Char) → Prop
  | none : IsFraction [] none
  | some {ds : List Char} (h : IsDigits ds) : IsFraction ('.' :: ds) (some ds)

/-- A power of ten behind its mark, or none. -/
inductive IsPower : List Char → Option (Bool × List Char) → Prop
  | none : IsPower [] none
  | bare {mark : Char} {ds : List Char} (hm : mark = 'e' ∨ mark = 'E') (h : IsDigits ds) :
    IsPower (mark :: ds) (some (false, ds))
  | plus {mark : Char} {ds : List Char} (hm : mark = 'e' ∨ mark = 'E') (h : IsDigits ds) :
    IsPower (mark :: '+' :: ds) (some (false, ds))
  | minus {mark : Char} {ds : List Char} (hm : mark = 'e' ∨ mark = 'E') (h : IsDigits ds) :
    IsPower (mark :: '-' :: ds) (some (true, ds))

/-- A text that spells a numeral. -/
inductive Spelled : List Char → Numeral → Prop
  | plain {whole f p : List Char} {fraction : Option (List Char)}
    {exponent : Option (Bool × List Char)} (hw : IsWhole whole) (hf : IsFraction f fraction)
    (hp : IsPower p exponent) : Spelled (whole ++ (f ++ p)) ⟨false, whole, fraction, exponent⟩
  | negative {whole f p : List Char} {fraction : Option (List Char)}
    {exponent : Option (Bool × List Char)} (hw : IsWhole whole) (hf : IsFraction f fraction)
    (hp : IsPower p exponent) :
    Spelled ('-' :: (whole ++ (f ++ p))) ⟨true, whole, fraction, exponent⟩

/-! ## Reading the parts -/

/-- A text that does not go on with a digit. -/
def Ends (text : List Char) : Prop := ∀ c, text.head? = some c → c.isDigit = false

theorem digits_append {ds rest : List Char} (h : ∀ c ∈ ds, c.isDigit = true) (ends : Ends rest) :
    digits (ds ++ rest) = (ds, rest) := by
  rw [digits, List.takeWhile_append_of_pos h, List.dropWhile_append_of_pos h]
  cases rest with
  | nil => simp
  | cons c rest => simp [ends c rfl]

/-- Digits in front are split off, and nothing is lost. -/
theorem of_digits_eq {text ds rest : List Char} (h : digits text = (ds, rest)) :
    text = ds ++ rest ∧ ∀ c ∈ ds, c.isDigit = true := by
  cases h
  exact ⟨List.takeWhile_append_dropWhile.symm, fun c hc => List.mem_takeWhile_imp hc⟩

theorem IsPower.ends {p : List Char} {exponent : Option (Bool × List Char)}
    (h : IsPower p exponent) : Ends p := by
  intro c hc
  cases h with
  | none => cases hc
  | bare hm | plus hm | minus hm =>
    obtain rfl : _ = c := by simpa using hc
    rcases hm with rfl | rfl <;> rfl

theorem IsFraction.ends {f p : List Char} {fraction : Option (List Char)}
    (h : IsFraction f fraction) (hp : Ends p) : Ends (f ++ p) := by
  cases h with
  | none => exact hp
  | some h =>
    intro c hc
    obtain rfl : '.' = c := by simpa using hc
    rfl

theorem IsPower.ne_point {p rest : List Char} {exponent : Option (Bool × List Char)}
    (h : IsPower p exponent) : p ≠ '.' :: rest := by
  rintro rfl
  cases h with
  | bare hm | plus hm | minus hm => simp at hm

theorem readFraction?_append {f p : List Char} {fraction : Option (List Char)}
    {exponent : Option (Bool × List Char)} (hf : IsFraction f fraction) (hp : IsPower p exponent) :
    readFraction? (f ++ p) = some (fraction, p) := by
  cases hf with
  | none =>
    unfold readFraction?
    split
    · next hr => exact absurd hr hp.ne_point
    · rfl
  | @some ds h =>
    simp only [List.cons_append, readFraction?, digits_append h.2 hp.ends]
    split
    · next hn => exact absurd (Prod.mk.inj hn).1 h.1
    · next hs =>
      cases hs
      rfl

theorem isFraction_of_readFraction? {text rest : List Char} {fraction : Option (List Char)}
    (h : readFraction? text = some (fraction, rest)) :
    ∃ f, IsFraction f fraction ∧ text = f ++ rest := by
  unfold readFraction? at h
  split at h
  · next after =>
    split at h
    · cases h
    · next ds rest' nonempty hd =>
      cases h
      obtain ⟨rfl, isDigit⟩ := of_digits_eq hd
      exact ⟨'.' :: ds, .some ⟨nonempty, isDigit⟩, rfl⟩
  · cases h
    exact ⟨[], .none, rfl⟩

theorem readSign_of_isDigits {ds : List Char} (h : IsDigits ds) : readSign ds = (false, ds) := by
  unfold readSign
  split
  · exact absurd (h.2 '-' (by simp)) (by decide)
  · exact absurd (h.2 '+' (by simp)) (by decide)
  · rfl

theorem readExponent?_of_readSign {mark : Char} {rest ds : List Char} {negative : Bool}
    (hm : mark = 'e' ∨ mark = 'E') (hs : readSign rest = (negative, ds)) (h : IsDigits ds) :
    readExponent? (mark :: rest) = some (some (negative, ds), []) := by
  have all : digits ds = (ds, []) := by
    have ends : Ends [] := by simp [Ends]
    simpa using digits_append h.2 ends
  simp only [readExponent?, if_pos hm, hs, all]
  split
  · next hn => exact absurd (Prod.mk.inj hn).1 h.1
  · next heq =>
    cases heq
    rfl

theorem readExponent?_eq {p : List Char} {exponent : Option (Bool × List Char)}
    (h : IsPower p exponent) : readExponent? p = some (exponent, []) := by
  cases h with
  | none => rfl
  | bare hm h => exact readExponent?_of_readSign hm (readSign_of_isDigits h) h
  | plus hm h => exact readExponent?_of_readSign hm rfl h
  | minus hm h => exact readExponent?_of_readSign hm rfl h

theorem isPower_of_readExponent? {text : List Char} {exponent : Option (Bool × List Char)}
    (h : readExponent? text = some (exponent, [])) : IsPower text exponent := by
  unfold readExponent? at h
  split at h
  · cases h
    exact .none
  · next mark rest =>
    split at h
    · next hm =>
      dsimp only at h
      split at h
      · cases h
      · next ds left nonempty hd =>
        cases h
        obtain ⟨same, hd⟩ := of_digits_eq hd
        have isDigits : IsDigits ds := ⟨nonempty, hd⟩
        rw [List.append_nil] at same
        unfold readSign at same ⊢
        split at same
        · subst same
          exact .minus hm isDigits
        · subst same
          exact .plus hm isDigits
        · subst same
          exact .bare hm isDigits
    · cases h

/-! ## Reading a number -/

/-- What is read behind the sign. -/
def readSize? (negative : Bool) (text : List Char) : Option Numeral := do
  let (whole, text) := digits text
  guard (whole ≠ [] ∧ (whole.head? = some '0' → whole.length = 1))
  let (fraction, text) ← readFraction? text
  let (exponent, text) ← readExponent? text
  guard (text = [])
  return ⟨negative, whole, fraction, exponent⟩

theorem read?_minus (text : List Char) : read? ('-' :: text) = readSize? true text := rfl

theorem read?_unsigned {text : List Char} (h : text.head? ≠ some '-') :
    read? text = readSize? false text := by
  cases text with
  | nil => rfl
  | cons c text =>
    have unsigned : c ≠ '-' := by simpa using h
    simp [read?, readSize?, unsigned]

theorem readSize?_append {whole f p : List Char} {fraction : Option (List Char)}
    {exponent : Option (Bool × List Char)} (hw : IsWhole whole) (hf : IsFraction f fraction)
    (hp : IsPower p exponent) (negative : Bool) :
    readSize? negative (whole ++ (f ++ p)) = some ⟨negative, whole, fraction, exponent⟩ := by
  have split := digits_append hw.1.2 (hf.ends hp.ends)
  have leads : (guard (whole ≠ [] ∧ (whole.head? = some '0' → whole.length = 1)) : Option Unit) =
      some () := (Option.guard_eq_some' _).2 ⟨hw.1.1, hw.2⟩
  simp only [readSize?, split, leads, readFraction?_append hf hp, Option.bind_eq_bind,
    Option.bind_some, readExponent?_eq hp]
  rfl

theorem of_readSize? {negative : Bool} {text : List Char} {n : Numeral}
    (h : readSize? negative text = some n) :
    ∃ whole f p fraction exponent, IsWhole whole ∧ IsFraction f fraction ∧ IsPower p exponent ∧
      text = whole ++ (f ++ p) ∧ n = ⟨negative, whole, fraction, exponent⟩ := by
  obtain ⟨_, hg, h⟩ := Option.bind_eq_some_iff.1 h
  obtain ⟨⟨fraction, rest⟩, hf, h⟩ := Option.bind_eq_some_iff.1 h
  obtain ⟨⟨exponent, left⟩, hp, h⟩ := Option.bind_eq_some_iff.1 h
  obtain ⟨_, he, h⟩ := Option.bind_eq_some_iff.1 h
  obtain ⟨nonempty, leads⟩ := (Option.guard_eq_some' _).1 hg
  obtain rfl : left = [] := (Option.guard_eq_some' _).1 he
  obtain ⟨same, isDigit⟩ := of_digits_eq (rfl : digits text = _)
  obtain ⟨f, hf, behind⟩ := isFraction_of_readFraction? hf
  refine ⟨_, f, rest, fraction, exponent, ⟨⟨nonempty, isDigit⟩, leads⟩, hf,
    isPower_of_readExponent? hp, ?_, (Option.some.inj h).symm⟩
  rw [← behind]
  exact same

/-- Reading gives the numeral that a text spells, and nothing else. -/
theorem read?_eq_some_iff {text : List Char} {n : Numeral} :
    read? text = some n ↔ Spelled text n := by
  constructor
  · intro h
    by_cases sign : text.head? = some '-'
    · obtain ⟨rest, rfl⟩ : ∃ rest, text = '-' :: rest := by
        cases text with
        | nil => cases sign
        | cons c rest => exact ⟨rest, by simpa using sign⟩
      rw [read?_minus] at h
      obtain ⟨whole, f, p, fraction, exponent, hw, hf, hp, rfl, rfl⟩ := of_readSize? h
      exact .negative hw hf hp
    · rw [read?_unsigned sign] at h
      obtain ⟨whole, f, p, fraction, exponent, hw, hf, hp, rfl, rfl⟩ := of_readSize? h
      exact .plain hw hf hp
  · intro h
    cases h with
    | @plain whole f p fraction exponent hw hf hp =>
      rw [read?_unsigned, readSize?_append hw hf hp]
      intro sign
      cases whole with
      | nil => exact hw.1.1 rfl
      | cons c ds =>
        obtain rfl : c = '-' := by simpa using sign
        exact absurd (hw.1.2 '-' (by simp)) (by decide)
    | negative hw hf hp => rw [read?_minus, readSize?_append hw hf hp]

/-! ## Whole numbers -/

theorem le_ofDigitChars (ds : List Char) (start : Nat) :
    start ≤ Nat.ofDigitChars 10 ds start := by
  induction ds generalizing start with
  | nil => exact Nat.le_refl start
  | cons c ds ih => exact Nat.le_trans (by omega) (ih (10 * start + (c.toNat - '0'.toNat)))

/-- A number that fits 64 bits has none of its digits left over. -/
theorem significand_of_lt {ds : List Char} {start : Nat}
    (h : Nat.ofDigitChars 10 ds start < 0x10000000000000000) :
    significand start ds = (Nat.ofDigitChars 10 ds start, []) := by
  induction ds generalizing start with
  | nil => rfl
  | cons c ds ih =>
    have fits := Nat.lt_of_le_of_lt (le_ofDigitChars ds _) h
    rw [significand, if_pos fits]
    exact ih h

theorem head?_toDigits {n : Nat} (h : (Nat.toDigits 10 n).head? = some '0') : n = 0 := by
  induction n using Nat.strongRecOn with
  | _ n ih =>
    by_cases small : n < 10
    · rw [Nat.toDigits_of_lt_base small] at h
      have all : ∀ n < 10, n.digitChar = '0' → n = 0 := by decide
      exact all n small (by simpa using h)
    · obtain ⟨c, ds, leading⟩ := List.exists_cons_of_ne_nil (Nat.toDigits_ne_nil (n := n / 10))
      rw [Nat.toDigits_of_base_le (by omega) (by omega), leading] at h
      have := ih (n / 10) (by omega) (by simpa [leading] using h)
      omega

theorem isWhole_toDigits (n : Nat) : IsWhole (Nat.toDigits 10 n) := by
  refine ⟨⟨Nat.toDigits_ne_nil, fun c hc => ?_⟩, fun h => ?_⟩
  · exact Nat.isDigit_of_mem_toDigits (by omega) (by omega) hc
  · rw [head?_toDigits h]
    rfl

theorem spelled_toDigits (n : Nat) :
    Spelled (Nat.toDigits 10 n) ⟨false, Nat.toDigits 10 n, none, none⟩ := by
  have spelled := Spelled.plain (isWhole_toDigits n) .none .none
  simpa using spelled

theorem spelled_minus_toDigits (n : Nat) :
    Spelled ('-' :: Nat.toDigits 10 n) ⟨true, Nat.toDigits 10 n, none, none⟩ := by
  have spelled := Spelled.negative (isWhole_toDigits n) .none .none
  simpa using spelled

theorem significand_toDigits {n : Nat} (h : n < 0x10000000000000000) :
    significand 0 (Nat.toDigits 10 n) = (n, []) := by
  have fits : Nat.ofDigitChars 10 (Nat.toDigits 10 n) 0 < 0x10000000000000000 := by
    rwa [Nat.ofDigitChars_ten_toDigits]
  rw [significand_of_lt fits, Nat.ofDigitChars_ten_toDigits]

end Headset.Numeral

namespace Headset.Json

/-- The written form of a whole number of 64 bits is read as that number. -/
theorem toValue?_ofNat {n : Nat} (h : n < 0x10000000000000000) :
    (ofNat n).toValue? = some (.whole n) := by
  have kept := Numeral.significand_toDigits h
  have read := Numeral.read?_eq_some_iff.2 (Numeral.spelled_toDigits n)
  simp [toValue?, ofNat, Nat.toList_repr, read, Numeral.value?, kept]

/-- The same of a negative one that is not below the least of 64 bits. -/
theorem toValue?_ofInt_negSucc {n : Nat} (h : n + 1 ≤ 0x8000000000000000) :
    (ofInt (.negSucc n)).toValue? = some (.whole (.negSucc n)) := by
  have kept := Numeral.significand_toDigits (n := n + 1) (by omega)
  have read := Numeral.read?_eq_some_iff.2 (Numeral.spelled_minus_toDigits (n + 1))
  have fits : ¬ 0x8000000000000000 < n + 1 := by omega
  simp [toValue?, ofInt, Nat.toList_repr, read, Numeral.value?, kept, fits, Int.negSucc_eq]

theorem toNat?_ofNat {bound n : Nat} (h : n < bound) (fits : bound ≤ 0x10000000000000000) :
    (ofNat n).toNat? bound = some n := by
  have value : (ofNat n).toValue? = some (.whole (.ofNat n)) :=
    toValue?_ofNat (Nat.lt_of_lt_of_le h fits)
  rw [toNat?, value, Option.bind_some, Numeral.Value.toNat?, if_pos h]

theorem toUInt32?_ofNat (x : UInt32) : (ofNat x.toNat).toUInt32? = some x := by
  rw [toUInt32?, toNat?_ofNat x.toNat_lt (by decide)]
  simp

theorem toUInt64?_ofNat (x : UInt64) : (ofNat x.toNat).toUInt64? = some x := by
  rw [toUInt64?, toNat?_ofNat x.toNat_lt (by decide)]
  simp

theorem toInt32?_ofInt (x : Int32) : (ofInt x.toInt).toInt32? = some x := by
  have least := x.le_toInt
  have greatest := x.toInt_lt
  have value : (ofInt x.toInt).toValue? = some (.whole x.toInt) := by
    cases hx : x.toInt with
    | ofNat n =>
      have size : x.toInt = (n : Int) := hx
      exact toValue?_ofNat (by omega)
    | negSucc n => exact toValue?_ofInt_negSucc (by omega)
  have within : -0x80000000 ≤ x.toInt ∧ x.toInt < 0x80000000 := by omega
  rw [toInt32?, value, Option.bind_some, Numeral.Value.toInt32?, if_pos within]
  simp

end Headset.Json
