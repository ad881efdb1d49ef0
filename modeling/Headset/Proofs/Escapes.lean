import Headset.Json.Escape

/-!
# Spellings of strings

Between the quotes of a string a character stands for itself, or is spelled by an escape of two
letters or by one or two units of UTF-16 in hexadecimal digits (`Escape.Spells`).  Every spelling is
read as the text that it spells, and nothing else is read (`unescape?_eq_some_iff`); the written
form of a text is one of its spellings (`spells_escape`).  `Escape.Body` has all that may stand
between quotes, also halves of pairs that spell no character.
-/

namespace Headset.Escape

/-- The letters of the escapes of two letters, each with the character it stands for. -/
def letters : List (Char × Char) :=
  [('"', '"'), ('\\', '\\'), ('/', '/'), ('b', '\x08'), ('f', '\x0c'), ('n', '\n'), ('r', '\r'),
    ('t', '\t')]

/-- The hexadecimal digits with their values. -/
def hexDigits : List (Char × Nat) :=
  [('0', 0), ('1', 1), ('2', 2), ('3', 3), ('4', 4), ('5', 5), ('6', 6), ('7', 7), ('8', 8),
    ('9', 9), ('a', 10), ('b', 11), ('c', 12), ('d', 13), ('e', 14), ('f', 15), ('A', 10),
    ('B', 11), ('C', 12), ('D', 13), ('E', 14), ('F', 15)]

/-- Four hexadecimal digits and their value. -/
inductive IsUnit : Char → Char → Char → Char → Nat → Prop
  | intro {a b c d : Char} {w x y z : Nat} (ha : (a, w) ∈ hexDigits) (hb : (b, x) ∈ hexDigits)
    (hc : (c, y) ∈ hexDigits) (hd : (d, z) ∈ hexDigits) :
    IsUnit a b c d (((w * 16 + x) * 16 + y) * 16 + z)

/-- What may stand between quotes. -/
inductive Body : List Char → Prop
  | nil : Body []
  | plain {c : Char} {rest : List Char} (printable : 0x20 ≤ c.toNat) (quote : c ≠ '"')
    (escape : c ≠ '\\') (h : Body rest) : Body (c :: rest)
  | letter {l c : Char} {rest : List Char} (hl : (l, c) ∈ letters) (h : Body rest) :
    Body ('\\' :: l :: rest)
  | unit {a b c d : Char} {u : Nat} {rest : List Char} (hu : IsUnit a b c d u) (h : Body rest) :
    Body ('\\' :: 'u' :: a :: b :: c :: d :: rest)

/-- What stands between quotes, and the text that it spells. -/
inductive Spells : List Char → List Char → Prop
  | nil : Spells [] []
  | plain {c : Char} {rest text : List Char} (printable : 0x20 ≤ c.toNat) (quote : c ≠ '"')
    (escape : c ≠ '\\') (h : Spells rest text) : Spells (c :: rest) (c :: text)
  | letter {l c : Char} {rest text : List Char} (hl : (l, c) ∈ letters) (h : Spells rest text) :
    Spells ('\\' :: l :: rest) (c :: text)
  | unit {a b c d x : Char} {rest text : List Char} (hu : IsUnit a b c d x.toNat)
    (h : Spells rest text) : Spells ('\\' :: 'u' :: a :: b :: c :: d :: rest) (x :: text)
  | pair {a b c d e f g k x : Char} {u v : Nat} {rest text : List Char} (hu : IsUnit a b c d u)
    (hv : IsUnit e f g k v) (high : 0xd800 ≤ u ∧ u < 0xdc00) (low : 0xdc00 ≤ v ∧ v < 0xe000)
    (hx : x.toNat = 0x10000 + (u - 0xd800) * 0x400 + (v - 0xdc00)) (h : Spells rest text) :
    Spells ('\\' :: 'u' :: a :: b :: c :: d :: '\\' :: 'u' :: e :: f :: g :: k :: rest)
      (x :: text)

/-! ## Reading -/

theorem ofLetter?_of_mem {l c : Char} (h : (l, c) ∈ letters) : ofLetter? l = some c := by
  have all : ∀ e ∈ letters, ofLetter? e.1 = some e.2 := by decide
  exact all _ h

theorem ne_u_of_mem {l c : Char} (h : (l, c) ∈ letters) : l ≠ 'u' := by
  have all : ∀ e ∈ letters, e.1 ≠ 'u' := by decide
  exact all _ h

theorem hexValue?_of_mem {c : Char} {n : Nat} (h : (c, n) ∈ hexDigits) : hexValue? c = some n := by
  have all : ∀ e ∈ hexDigits, hexValue? e.1 = some e.2 := by decide
  exact all _ h

theorem IsUnit.unit? {a b c d : Char} {u : Nat} (h : IsUnit a b c d u) :
    Escape.unit? a b c d = some u := by
  obtain ⟨ha, hb, hc, hd⟩ := h
  simp [Escape.unit?, hexValue?_of_mem ha, hexValue?_of_mem hb, hexValue?_of_mem hc,
    hexValue?_of_mem hd]

theorem not_isControl {c : Char} (h : 0x20 ≤ c.toNat) : isControl c = false := by
  simp [isControl, h]

theorem Body.isBody {body : List Char} (h : Body body) : Escape.isBody body = true := by
  induction h with
  | nil => rfl
  | plain printable quote escape h ih =>
    simp [Escape.isBody, quote, escape, not_isControl printable, ih]
  | letter hl h ih => simp [Escape.isBody, ne_u_of_mem hl, ofLetter?_of_mem hl, ih]
  | unit hu h ih => simp [Escape.isBody, hu.unit?, ih]

theorem Spells.body {body text : List Char} (h : Spells body text) : Body body := by
  induction h with
  | nil => exact .nil
  | plain printable quote escape h ih => exact .plain printable quote escape ih
  | letter hl h ih => exact .letter hl ih
  | unit hu h ih => exact .unit hu ih
  | pair hu hv high low hx h ih => exact .unit hu (.unit hv ih)

/-- No character is half of a pair. -/
theorem not_surrogate (x : Char) : isLow x.toNat = false ∧ isHigh x.toNat = false := by
  have valid := x.valid
  simp only [UInt32.isValidChar, Nat.isValidChar] at valid
  have same : x.val.toNat = x.toNat := rfl
  simp only [isLow, isHigh, Bool.and_eq_false_iff, decide_eq_false_iff_not]
  omega

theorem Spells.unescape? {body text : List Char} (h : Spells body text) :
    Escape.unescape? body = some text := by
  induction h with
  | nil => rfl
  | plain printable quote escape h ih =>
    simp [Escape.unescape?, quote, escape, not_isControl printable, ih]
  | letter hl h ih => simp [Escape.unescape?, ne_u_of_mem hl, ofLetter?_of_mem hl, ih]
  | @unit a b c d x rest text hu h ih =>
    simp [Escape.unescape?, hu.unit?, not_surrogate x, ih]
  | @pair a b c d e f g k x u v rest text hu hv high low hx h ih =>
    have joined : Escape.pair u v = x := by rw [Escape.pair, ← hx, Char.ofNat_toNat]
    have isHigh : isHigh u = true := by simp [isHigh, high]
    have isLow : isLow v = true := by simp [isLow, low]
    have first : Escape.isLow u = false := by
      simp only [Escape.isLow, Bool.and_eq_false_iff, decide_eq_false_iff_not]
      omega
    simp [Escape.unescape?, hu.unit?, hv.unit?, isHigh, isLow, first, joined, ih]

/-! ## Nothing else is read -/

theorem mem_letters_of_ofLetter? {l c : Char} (h : ofLetter? l = some c) : (l, c) ∈ letters := by
  unfold ofLetter? at h
  split at h <;> cases h <;> decide

theorem mem_hexDigits_of_hexValue? {c : Char} {n : Nat} (h : hexValue? c = some n) :
    (c, n) ∈ hexDigits := by
  have small : c.toNat < 103 := by
    simp only [hexValue?, Char.le_def, UInt32.le_iff_toNat_le] at h
    have same : c.val.toNat = c.toNat := rfl
    have bounds : '9'.val.toNat = 57 ∧ 'F'.val.toNat = 70 ∧ 'f'.val.toNat = 102 := by decide
    split at h
    · omega
    · split at h
      · omega
      · split at h
        · omega
        · cases h
  have all : ∀ k < 103, ∀ e ∈ hexValue? (Char.ofNat k), (Char.ofNat k, e) ∈ hexDigits := by decide
  have := all c.toNat small n
  rw [Char.ofNat_toNat] at this
  exact this h

theorem isUnit_of_unit? {a b c d : Char} {u : Nat} (h : unit? a b c d = some u) :
    IsUnit a b c d u := by
  obtain ⟨w, ha, h⟩ := Option.bind_eq_some_iff.1 h
  obtain ⟨x, hb, h⟩ := Option.bind_eq_some_iff.1 h
  obtain ⟨y, hc, h⟩ := Option.bind_eq_some_iff.1 h
  obtain ⟨z, hd, h⟩ := Option.bind_eq_some_iff.1 h
  cases h
  exact .intro (mem_hexDigits_of_hexValue? ha) (mem_hexDigits_of_hexValue? hb)
    (mem_hexDigits_of_hexValue? hc) (mem_hexDigits_of_hexValue? hd)

theorem IsUnit.lt {a b c d : Char} {u : Nat} (h : IsUnit a b c d u) : u < 0x10000 := by
  have all : ∀ e ∈ hexDigits, e.2 < 16 := by decide
  obtain ⟨ha, hb, hc, hd⟩ := h
  have := all _ ha
  have := all _ hb
  have := all _ hc
  have := all _ hd
  omega

theorem body_of_isBody {body : List Char} (h : Escape.isBody body = true) : Body body := by
  fun_induction Escape.isBody body with
  | case1 => exact .nil
  | case2 a b c d rest ih =>
    simp only [Bool.and_eq_true, Option.isSome_iff_exists] at h
    obtain ⟨⟨u, hu⟩, h⟩ := h
    exact .unit (isUnit_of_unit? hu) (ih h)
  | case3 l rest _ ih =>
    simp only [Bool.and_eq_true, Option.isSome_iff_exists] at h
    obtain ⟨⟨c, hl⟩, h⟩ := h
    exact .letter (mem_letters_of_ofLetter? hl) (ih h)
  | case4 c rest _ _ ih =>
    simp only [Bool.and_eq_true, bne_iff_ne, isControl, Bool.not_eq_true', decide_eq_false_iff_not,
      Nat.not_lt] at h
    exact .plain h.1.2 h.1.1.2 h.1.1.1 (ih h.2)

theorem toNat_ofNat {n : Nat} (h : n.isValidChar) : (Char.ofNat n).toNat = n := by
  rw [Char.ofNat, dif_pos h]
  rfl

theorem toNat_pair {u v : Nat} (hu : isHigh u = true) (hv : isLow v = true) :
    (pair u v).toNat = 0x10000 + (u - 0xd800) * 0x400 + (v - 0xdc00) := by
  simp only [isHigh, isLow, Bool.and_eq_true, decide_eq_true_eq] at hu hv
  apply toNat_ofNat
  simp only [Nat.isValidChar]
  omega

/-- A unit that is not half of a pair is a character. -/
theorem toNat_unit {u : Nat} (bound : u < 0x10000) (hu : ¬ isHigh u = true)
    (hl : ¬ isLow u = true) : (Char.ofNat u).toNat = u := by
  simp only [isHigh, isLow, Bool.and_eq_true, decide_eq_true_eq] at hu hl
  apply toNat_ofNat
  simp only [Nat.isValidChar]
  omega

theorem spells_of_unescape? {body text : List Char} (h : unescape? body = some text) :
    Spells body text := by
  fun_induction unescape? body generalizing text with
  | case1 =>
    cases h
    exact .nil
  | case5 a b c d u hu low high e f g k rest v hv isLow ih =>
    obtain ⟨spelled, hr, rfl⟩ := Option.map_eq_some_iff.1 h
    exact .pair (isUnit_of_unit? hu) (isUnit_of_unit? hv) (by simpa [isHigh] using high)
      (by simpa [Escape.isLow] using isLow) (toNat_pair high isLow) (ih hr)
  | case8 a b c d rest u hu low high ih =>
    obtain ⟨spelled, hr, rfl⟩ := Option.map_eq_some_iff.1 h
    have unit := isUnit_of_unit? hu
    rw [← toNat_unit unit.lt high low] at unit
    exact .unit unit (ih hr)
  | case10 l rest _ c hl ih =>
    obtain ⟨spelled, hr, rfl⟩ := Option.map_eq_some_iff.1 h
    exact .letter (mem_letters_of_ofLetter? hl) (ih hr)
  | case12 c rest _ _ hc ih =>
    obtain ⟨spelled, hr, rfl⟩ := Option.map_eq_some_iff.1 h
    simp only [not_or, isControl, decide_eq_true_eq, Nat.not_lt] at hc
    exact .plain hc.2.2 hc.2.1 hc.1 (ih hr)
  | _ => cases h

theorem isBody_iff {body : List Char} : isBody body = true ↔ Body body :=
  ⟨body_of_isBody, Body.isBody⟩

theorem unescape?_eq_some_iff {body text : List Char} :
    unescape? body = some text ↔ Spells body text :=
  ⟨spells_of_unescape?, Spells.unescape?⟩

instance (body : List Char) : Decidable (Body body) := decidable_of_iff _ isBody_iff

instance (body text : List Char) : Decidable (Spells body text) :=
  decidable_of_iff _ unescape?_eq_some_iff

/-! ## Writing -/

theorem mem_letters_of_letterOf? {l c : Char} (h : letterOf? c = some l) : (l, c) ∈ letters := by
  unfold letterOf? at h
  split at h <;> cases h <;> decide

theorem plain_of_letterOf? {c : Char} (h : letterOf? c = none) : c ≠ '"' ∧ c ≠ '\\' := by
  constructor <;>
  · rintro rfl
    cases h

/-- Each character is written by a spelling of its own. -/
theorem spells_escapeChar (c : Char) {rest text : List Char} (h : Spells rest text) :
    Spells (escapeChar c ++ rest) (c :: text) := by
  have digit : ∀ n < 16, (Nat.digitChar n, n) ∈ hexDigits := by decide
  unfold escapeChar
  split
  · next l hl => exact .letter (mem_letters_of_letterOf? hl) h
  · next hl =>
    obtain ⟨quote, escape⟩ := plain_of_letterOf? hl
    by_cases control : isControl c = true
    · have small : c.toNat < 0x20 := by simpa [isControl] using control
      have unit : IsUnit '0' '0' (Nat.digitChar (c.toNat / 16)) (Nat.digitChar (c.toNat % 16))
          (((0 * 16 + 0) * 16 + c.toNat / 16) * 16 + c.toNat % 16) :=
        .intro (digit 0 (by omega)) (digit 0 (by omega)) (digit _ (by omega)) (digit _ (by omega))
      have value : ((0 * 16 + 0) * 16 + c.toNat / 16) * 16 + c.toNat % 16 = c.toNat := by omega
      rw [value] at unit
      rw [if_pos control]
      exact .unit unit h
    · have printable : 0x20 ≤ c.toNat := by simpa [isControl] using control
      rw [if_neg control]
      exact .plain printable quote escape h

theorem spells_escape (text : List Char) : Spells (escape text) text := by
  induction text with
  | nil => exact .nil
  | cons c text ih =>
    rw [escape, List.flatMap_cons]
    exact spells_escapeChar c ih

end Headset.Escape
