import Headset.Json.Token
import Headset.Proofs.Escapes
import Headset.Proofs.Numerals
import Mathlib.Data.List.Chain

/-!
# Layouts

A document may be laid out with blanks between its tokens (`Token.Layout`).  However that is done,
cutting the text into tokens gives the tokens back (`lex_of_layout`), if each of them is legible and
no two words stand side by side.
-/

namespace Headset.Token

/-- A text made of tokens one after another, with blanks around them. -/
inductive Layout : List Token → List Char → Prop
  | nil : Layout [] []
  | blank {ts : List Token} {text : List Char} {c : Char} (hc : c ∈ [' ', '\t', '\n', '\r'])
    (h : Layout ts text) : Layout ts (c :: text)
  | token {ts : List Token} {text : List Char} (t : Token) (h : Layout ts text) :
    Layout (t :: ts) (t.text ++ text)

/-- A number or string that is spelled as a number or a string is. -/
def Legible : Token → Prop
  | .number text => ∃ n, Numeral.Spelled text n
  | .string body => Escape.Body body
  | _ => True

instance : (t : Token) → Decidable t.Legible
  | .number text => decidable_of_iff ((Numeral.read? text).isSome = true) (by
      simp only [Option.isSome_iff_exists, Numeral.read?_eq_some_iff]
      rfl)
  | .string body => inferInstanceAs (Decidable (Escape.Body body))
  | .openArray | .closeArray | .openObject | .closeObject | .comma | .colon | .null | .bool _ =>
    isTrue trivial

def IsWord : Token → Prop
  | .null => True
  | .bool _ => True
  | .number _ => True
  | _ => False

/-- No two words stand side by side. -/
def Separate : List Token → Prop := List.IsChain fun s t => ¬ (s.IsWord ∧ t.IsWord)

/-! ## Words -/

theorem isWordChar_of_isDigit {c : Char} (h : c.isDigit = true) : isWordChar c = true := by
  simp [isWordChar, Char.isAlphanum, h]

theorem isWordChar_of_spelled {text : List Char} {n : Numeral} (h : Numeral.Spelled text n) :
    ∀ c ∈ text, isWordChar c = true := by
  have digits {ds : List Char} (hd : Numeral.IsDigits ds) : ∀ c ∈ ds, isWordChar c = true :=
    fun c hc => isWordChar_of_isDigit (hd.2 c hc)
  have fraction {f : List Char} {x : Option (List Char)} (hf : Numeral.IsFraction f x) :
      ∀ c ∈ f, isWordChar c = true := by
    cases hf with
    | none => simp
    | some h => exact List.forall_mem_cons.2 ⟨rfl, digits h⟩
  have power {p : List Char} {x : Option (Bool × List Char)} (hp : Numeral.IsPower p x) :
      ∀ c ∈ p, isWordChar c = true := by
    have mark {m : Char} (hm : m = 'e' ∨ m = 'E') : isWordChar m = true := by
      rcases hm with rfl | rfl <;> rfl
    cases hp with
    | none => simp
    | bare hm h => exact List.forall_mem_cons.2 ⟨mark hm, digits h⟩
    | plus hm h | minus hm h =>
      exact List.forall_mem_cons.2 ⟨mark hm, List.forall_mem_cons.2 ⟨rfl, digits h⟩⟩
  cases h with
  | plain hw hf hp =>
    exact List.forall_mem_append.2
      ⟨digits hw.1, List.forall_mem_append.2 ⟨fraction hf, power hp⟩⟩
  | negative hw hf hp =>
    exact List.forall_mem_cons.2 ⟨rfl, List.forall_mem_append.2
      ⟨digits hw.1, List.forall_mem_append.2 ⟨fraction hf, power hp⟩⟩⟩

/-- Neither a blank nor a quote belongs to a word. -/
theorem not_isWordChar {c : Char} (h : c ∈ [' ', '\t', '\n', '\r', '"']) :
    isWordChar c = false := by
  have all : [' ', '\t', '\n', '\r', '"'].all (fun c => !isWordChar c) = true := by decide
  simpa using List.all_eq_true.1 all c h

theorem outside_of_isWordChar {c : Char} (h : isWordChar c = true) (found : List Token) :
    Lexer.outside found c = some ⟨.inWord [c], found⟩ := by
  have apart : ∀ d ∈ [' ', '\t', '\n', '\r', '"'], c ≠ d := by
    rintro d hd rfl
    rw [not_isWordChar hd] at h
    cases h
  simp only [List.forall_mem_cons] at apart
  simp [Lexer.outside, isBlank, apart, h]

/-- The characters of a word are held together. -/
theorem foldlM_word {word : List Char} (h : ∀ c ∈ word, isWordChar c = true) (read : List Char)
    (found : List Token) :
    word.foldlM Lexer.step ⟨.inWord read, found⟩ =
      some ⟨.inWord (word.reverse ++ read), found⟩ := by
  induction word generalizing read with
  | nil => rfl
  | cons c word ih =>
    obtain ⟨hc, hw⟩ := List.forall_mem_cons.1 h
    have step : Lexer.step ⟨.inWord read, found⟩ c = some ⟨.inWord (c :: read), found⟩ := by
      simp [Lexer.step, hc]
    rw [List.foldlM_cons, step, Option.bind_eq_bind, Option.bind_some, ih hw]
    simp

theorem word?_of_spelled {text : List Char} {n : Numeral} (h : Numeral.Spelled text n) :
    word? text = some (.number text) := by
  have reads := Numeral.read?_eq_some_iff.2 h
  have apart (name : List Char) (hn : Numeral.read? name = none) : text ≠ name := by
    rintro rfl
    rw [reads] at hn
    cases hn
  simp [word?, reads, apart Token.null.text (by decide), apart (Token.bool true).text (by decide),
    apart (Token.bool false).text (by decide)]

/-- A word is a text of its own characters that is taken for it. -/
theorem word?_of_isWord {t : Token} (h : t.IsWord) (legible : t.Legible) :
    t.text ≠ [] ∧ (∀ c ∈ t.text, isWordChar c = true) ∧ word? t.text = some t := by
  cases t with
  | null => exact ⟨by decide, List.all_eq_true.1 (by decide), by decide⟩
  | bool b => cases b <;> exact ⟨by decide, List.all_eq_true.1 (by decide), by decide⟩
  | number text =>
    obtain ⟨n, spelled⟩ := legible
    have reads := word?_of_spelled spelled
    refine ⟨?_, isWordChar_of_spelled spelled, reads⟩
    rintro rfl
    cases reads
  | _ => exact h.elim

/-! ## Strings -/

theorem step_escape (read : List Char) (found : List Token) :
    Lexer.step ⟨.inString false read, found⟩ '\\' =
      some ⟨.inString true ('\\' :: read), found⟩ :=
  rfl

theorem step_escaped (read : List Char) (found : List Token) (c : Char) :
    Lexer.step ⟨.inString true read, found⟩ c = some ⟨.inString false (c :: read), found⟩ :=
  rfl

theorem step_plain (read : List Char) (found : List Token) {c : Char} (quote : c ≠ '"')
    (escape : c ≠ '\\') :
    Lexer.step ⟨.inString false read, found⟩ c = some ⟨.inString false (c :: read), found⟩ := by
  simp [Lexer.step, quote, escape]

theorem step_hexDigit (read : List Char) (found : List Token) {c : Char} {n : Nat}
    (h : (c, n) ∈ Escape.hexDigits) :
    Lexer.step ⟨.inString false read, found⟩ c = some ⟨.inString false (c :: read), found⟩ := by
  have all : ∀ e ∈ Escape.hexDigits, e.1 ≠ '"' ∧ e.1 ≠ '\\' := by decide
  exact step_plain read found (all _ h).1 (all _ h).2

/-- What stands between quotes is held together. -/
theorem foldlM_body {body : List Char} (h : Escape.Body body) (read : List Char)
    (found : List Token) :
    body.foldlM Lexer.step ⟨.inString false read, found⟩ =
      some ⟨.inString false (body.reverse ++ read), found⟩ := by
  induction h generalizing read with
  | nil => rfl
  | plain printable quote escape h ih => simp [step_plain read found quote escape, ih]
  | letter hl h ih => simp [step_escape, step_escaped, ih]
  | unit hu h ih =>
    obtain ⟨ha, hb, hc, hd⟩ := hu
    simp [step_escape, step_escaped, step_hexDigit _ found ha, step_hexDigit _ found hb,
      step_hexDigit _ found hc, step_hexDigit _ found hd, ih]

/-! ## Tokens -/

/-- What the machine has read: the tokens found, and a word that may still go on. -/
inductive Reads : Lexer → List Token → Prop
  | between (found : List Token) : Reads ⟨.between, found⟩ found
  | word {read : List Char} {t : Token} (found : List Token) (h : word? read.reverse = some t) :
    Reads ⟨.inWord read, found⟩ (t :: found)

theorem Reads.finish? {l : Lexer} {found : List Token} (h : Reads l found) :
    l.finish? = some found.reverse := by
  cases h with
  | between => rfl
  | word found h => simp [Lexer.finish?, h]

/-- A character that is not of a word completes the word in front of it. -/
theorem Reads.step {l : Lexer} {found : List Token} (h : Reads l found) {c : Char}
    (hc : isWordChar c = false) : l.step c = Lexer.outside found c := by
  cases h with
  | between => rfl
  | word found h => simp [Lexer.step, h, hc]

theorem Reads.blank {l : Lexer} {found : List Token} (h : Reads l found) {c : Char}
    (hc : c ∈ [' ', '\t', '\n', '\r']) : l.step c = some ⟨.between, found⟩ := by
  have apart : isWordChar c = false := not_isWordChar (List.mem_append_left ['"'] hc)
  have blanks : [' ', '\t', '\n', '\r'].all isBlank = true := by decide
  rw [h.step apart, Lexer.outside, if_pos (List.all_eq_true.1 blanks c hc)]

/-- A token that is not a word is complete with its last character. -/
theorem Reads.mark {l : Lexer} {found : List Token} (h : Reads l found) {t : Token}
    (ht : ¬ t.IsWord) (legible : t.Legible) :
    t.text.foldlM Lexer.step l = some ⟨.between, t :: found⟩ := by
  cases t with
  | string body =>
    have opens : l.step '"' = some ⟨.inString false [], found⟩ := h.step (by decide)
    have closes : Lexer.step ⟨.inString false body.reverse, found⟩ '"' =
        some ⟨.between, .string body :: found⟩ := by
      simp [Lexer.step, Escape.Body.isBody legible]
    simp [text, opens, foldlM_body legible, closes]
  | null | bool | number => exact absurd trivial ht
  | _ =>
    rw [text, List.foldlM_cons, h.step (by decide)]
    rfl

/-- A word is read up to its last character, from behind a mark or a blank. -/
theorem foldlM_isWord {t : Token} (ht : t.IsWord) (legible : t.Legible) (found : List Token) :
    ∃ l, t.text.foldlM Lexer.step ⟨.between, found⟩ = some l ∧ Reads l (t :: found) := by
  obtain ⟨nonempty, chars, reads⟩ := word?_of_isWord ht legible
  obtain ⟨c, rest, eq⟩ := List.exists_cons_of_ne_nil nonempty
  rw [eq] at chars reads ⊢
  obtain ⟨hc, hr⟩ := List.forall_mem_cons.1 chars
  refine ⟨⟨.inWord (rest.reverse ++ [c]), found⟩, ?_, .word found (by simpa using reads)⟩
  have first : Lexer.step ⟨.between, found⟩ c = some ⟨.inWord [c], found⟩ :=
    outside_of_isWordChar hc found
  rw [List.foldlM_cons, first]
  exact foldlM_word hr [c] found

/-- The machine finds the tokens of a layout, whatever it has read before; a word in front needs
that the machine is not within another. -/
theorem finish_of_layout {ts : List Token} {text : List Char} (h : Layout ts text)
    (legible : ∀ t ∈ ts, t.Legible) (separate : Separate ts) {l : Lexer} {found : List Token}
    (reads : Reads l found) (free : ∀ t ∈ ts.head?, t.IsWord → l.scan = .between) :
    (text.foldlM Lexer.step l).bind Lexer.finish? = some (found.reverse ++ ts) := by
  -- a word is complete only with the character behind it, so the state must be any that `Reads`
  induction h generalizing l found with
  | nil => simp [reads.finish?]
  | blank hc h ih =>
    rw [List.foldlM_cons, reads.blank hc]
    exact ih legible separate (.between found) fun _ _ _ => rfl
  | @token ts text t h ih =>
    obtain ⟨ht, legible⟩ := List.forall_mem_cons.1 legible
    obtain ⟨apart, separate⟩ := List.isChain_cons.1 separate
    rw [List.foldlM_append]
    by_cases word : t.IsWord
    · have between := free t rfl word
      cases reads with
      | word => cases between
      | between =>
        obtain ⟨l, step, reads⟩ := foldlM_isWord word ht found
        rw [step]
        simpa using ih legible separate reads fun s hs hw => absurd ⟨word, hw⟩ (apart s hs)
    · rw [reads.mark word ht]
      simpa using ih legible separate (.between (t :: found)) fun _ _ _ => rfl

/-- Cutting a text into tokens gives those that it is made of. -/
theorem lex_of_layout {ts : List Token} {text : List Char} (h : Layout ts text)
    (legible : ∀ t ∈ ts, t.Legible) (separate : Separate ts) : lex text = some ts :=
  finish_of_layout h legible separate (.between []) fun _ _ _ => rfl

end Headset.Token
