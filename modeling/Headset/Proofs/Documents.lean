import Headset.Json.Codec
import Headset.Proofs.Layout

/-!
# Spellings of documents

A text spells a document if it is a layout of its tokens (`Json.Spells`).  Reading any spelling
gives the document back, however deep it is nested (`Spells.parse?`), and the written form is a
spelling (`spells_render`).
-/

namespace Headset.Json

/-- A document whose numbers, strings and keys are spelled as such. -/
def Legible (j : Json) : Prop := ∀ t ∈ j.tokens, t.Legible

instance (j : Json) : Decidable j.Legible := inferInstanceAs (Decidable (∀ t ∈ j.tokens, t.Legible))

/-- A text that spells a document, with any blanks between its tokens. -/
def Spells (j : Json) (text : String) : Prop := j.Legible ∧ Token.Layout j.tokens text.toList

/-! ## Tokens -/

/-- The tokens that stand around values and between them. -/
def marks : List Token := [.openArray, .closeArray, .openObject, .closeObject, .comma, .colon]

section

variable {P : Token → Prop}

theorem forall_itemTokens (comma : P .comma) : ∀ items : List Json,
    (∀ t ∈ itemTokens items, P t) ↔ ∀ j ∈ items, ∀ t ∈ j.tokens, P t
  | [] => by simp [itemTokens]
  | [j] => by simp [itemTokens]
  | j :: k :: rest => by
    simp only [itemTokens, List.forall_mem_append, List.forall_mem_cons,
      forall_itemTokens comma (k :: rest), comma, true_and]

theorem forall_memberTokens (colon : P .colon) (comma : P .comma) :
    ∀ members : List (List Char × Json), (∀ t ∈ memberTokens members, P t) ↔
      ∀ m ∈ members, P (.string m.1) ∧ ∀ t ∈ m.2.tokens, P t
  | [] => by simp [memberTokens]
  | [(key, j)] => by simp [memberTokens, colon]
  | (key, j) :: m :: rest => by
    simp only [memberTokens, List.cons_append, List.forall_mem_append, List.forall_mem_cons,
      forall_memberTokens colon comma (m :: rest), colon, comma, true_and, and_assoc]

/-- What holds of every mark holds of the tokens of an array if it does of those of its items. -/
theorem forall_tokens_array (all : ∀ t ∈ marks, P t) (items : List Json) :
    (∀ t ∈ (array items).tokens, P t) ↔ ∀ j ∈ items, ∀ t ∈ j.tokens, P t := by
  rw [tokens, List.forall_mem_append, List.forall_mem_cons, List.forall_mem_singleton,
    forall_itemTokens (all _ (by decide))]
  exact ⟨fun h => h.1.2, fun h => ⟨⟨all _ (by decide), h⟩, all _ (by decide)⟩⟩

/-- The same for an object, of its keys and values. -/
theorem forall_tokens_object (all : ∀ t ∈ marks, P t) (members : List (List Char × Json)) :
    (∀ t ∈ (object members).tokens, P t) ↔
      ∀ m ∈ members, P (.string m.1) ∧ ∀ t ∈ m.2.tokens, P t := by
  rw [tokens, List.forall_mem_append, List.forall_mem_cons, List.forall_mem_singleton,
    forall_memberTokens (all _ (by decide)) (all _ (by decide))]
  exact ⟨fun h => h.1.2, fun h => ⟨⟨all _ (by decide), h⟩, all _ (by decide)⟩⟩

end

theorem legible_marks : ∀ t ∈ marks, t.Legible := by decide

/-! ## Words -/

theorem separate_mark {s r : List Token} {t : Token} (h : ¬ t.IsWord) :
    Token.Separate (s ++ t :: r) ↔ Token.Separate s ∧ Token.Separate r := by
  simp [Token.Separate, List.isChain_append, List.isChain_cons, h]

theorem separate_cons {r : List Token} {t : Token} (h : ¬ t.IsWord) :
    Token.Separate (t :: r) ↔ Token.Separate r := by
  simpa [Token.Separate] using separate_mark (s := []) (r := r) h

mutual

/-- Between any two words of a document stands a mark. -/
theorem separate_tokens : ∀ j : Json, Token.Separate j.tokens
  | .null => .singleton _
  | .bool _ => .singleton _
  | .number _ => .singleton _
  | .string _ => .singleton _
  | .array items => by
    rw [tokens, List.cons_append, separate_cons id, separate_mark id]
    exact ⟨separate_items items, .nil⟩
  | .object members => by
    rw [tokens, List.cons_append, separate_cons id, separate_mark id]
    exact ⟨separate_members members, .nil⟩

theorem separate_items : ∀ items : List Json, Token.Separate (itemTokens items)
  | [] => .nil
  | [j] => separate_tokens j
  | j :: k :: rest => by
    rw [itemTokens, separate_mark id]
    exact ⟨separate_tokens j, separate_items (k :: rest)⟩

theorem separate_members :
    ∀ members : List (List Char × Json), Token.Separate (memberTokens members)
  | [] => .nil
  | [(key, j)] => by
    rw [memberTokens, separate_cons id, separate_cons id]
    exact separate_tokens j
  | (key, j) :: m :: rest => by
    rw [memberTokens, List.cons_append, List.cons_append, separate_cons id, separate_cons id,
      separate_mark id]
    exact ⟨separate_tokens j, separate_members (m :: rest)⟩

end

/-! ## Reading -/

/-- A reader that takes the first token of a value in these frames. -/
def Reader.Starts (r : Reader) (frames : List Frame) : Prop :=
  ∀ t, t ≠ .closeArray → r.step t = start? frames t

/-- A reader that takes a key behind these members. -/
def Reader.TakesKey (r : Reader) (earlier : List (List Char × Json)) (frames : List Frame) : Prop :=
  ∀ key, r.step (.string key) = some ⟨.colon earlier key, frames⟩

theorem Reader.starts_value (frames : List Frame) : Starts ⟨.value, frames⟩ frames :=
  fun _ _ => rfl

theorem Reader.starts_firstItem (frames : List Frame) :
    Starts ⟨.firstItem, frames⟩ (.array [] :: frames) := by
  intro t ht
  cases t <;> first | rfl | exact absurd rfl ht

/-- The first token of a value puts the reader where that value goes on. -/
theorem Reader.Starts.foldlM_cons {r r' : Reader} {frames : List Frame} (h : r.Starts frames)
    {t : Token} (ht : t ≠ .closeArray) (start : start? frames t = some r') (ts : List Token) :
    (t :: ts).foldlM Reader.step r = ts.foldlM Reader.step r' := by
  rw [List.foldlM_cons, h t ht, start]
  rfl

/-- A key and its colon put it where the value of that key begins. -/
theorem Reader.TakesKey.foldlM_cons {r : Reader} {earlier : List (List Char × Json)}
    {frames : List Frame} (h : r.TakesKey earlier frames) (key : List Char) (ts : List Token) :
    (.string key :: .colon :: ts).foldlM Reader.step r =
      ts.foldlM Reader.step ⟨.value, .member earlier key :: frames⟩ := by
  rw [List.foldlM_cons, h key]
  rfl

mutual

/-- A value is read as a whole, whatever is open around it. -/
theorem foldlM_tokens (frames : List Frame) :
    ∀ (j : Json) {r : Reader}, r.Starts frames →
      j.tokens.foldlM Reader.step r = some ⟨.next j, frames⟩
  | .null, _, h => h.foldlM_cons (by decide) rfl []
  | .bool _, _, h => h.foldlM_cons (by simp) rfl []
  | .number _, _, h => h.foldlM_cons (by simp) rfl []
  | .string _, _, h => h.foldlM_cons (by simp) rfl []
  | .array [], _, h => h.foldlM_cons (t := .openArray) (by decide) rfl [.closeArray]
  | .array (j :: rest), _, h =>
    (h.foldlM_cons (by decide) rfl _).trans
      (foldlM_items frames (j :: rest) (by simp) (Reader.starts_firstItem frames))
  | .object [], _, h => h.foldlM_cons (t := .openObject) (by decide) rfl [.closeObject]
  | .object (m :: rest), _, h =>
    (h.foldlM_cons (by decide) rfl _).trans
      (foldlM_members frames (m :: rest) (by simp) (r := ⟨.firstKey, frames⟩) fun _ => rfl)

/-- The rest of an array, behind the items already read. -/
theorem foldlM_items (frames : List Frame) :
    ∀ items : List Json, items ≠ [] → ∀ {r : Reader} {done : List Json},
      r.Starts (.array done :: frames) →
      (itemTokens items ++ [Token.closeArray]).foldlM Reader.step r =
        some ⟨.next (.array (done.reverse ++ items)), frames⟩
  | [], nonempty, _, _, _ => absurd rfl nonempty
  | [j], _, r, done, h => by
    rw [itemTokens, List.foldlM_append, foldlM_tokens _ j h, ← List.reverse_cons]
    rfl
  | j :: k :: rest, _, r, done, h => by
    rw [itemTokens, List.append_assoc, List.foldlM_append, foldlM_tokens _ j h,
      List.append_cons done.reverse, ← List.reverse_cons]
    exact foldlM_items frames (k :: rest) (by simp)
      (Reader.starts_value (.array (j :: done) :: frames))

/-- The rest of an object, behind the members already read. -/
theorem foldlM_members (frames : List Frame) :
    ∀ members : List (List Char × Json), members ≠ [] →
      ∀ {r : Reader} {earlier : List (List Char × Json)}, r.TakesKey earlier frames →
      (memberTokens members ++ [Token.closeObject]).foldlM Reader.step r =
        some ⟨.next (.object (earlier.reverse ++ members)), frames⟩
  | [], nonempty, _, _, _ => absurd rfl nonempty
  | [(key, j)], _, r, earlier, h => by
    have value := foldlM_tokens _ j (Reader.starts_value (.member earlier key :: frames))
    refine (h.foldlM_cons key (j.tokens ++ [.closeObject])).trans ?_
    rw [List.foldlM_append, value, ← List.reverse_cons]
    rfl
  | (key, j) :: m :: rest, _, r, earlier, h => by
    have value := foldlM_tokens _ j (Reader.starts_value (.member earlier key :: frames))
    have others := foldlM_members frames (m :: rest) (by simp)
      (r := ⟨.key ((key, j) :: earlier), frames⟩) fun _ => rfl
    rw [memberTokens, List.append_assoc]
    refine (h.foldlM_cons key
      (j.tokens ++ .comma :: (memberTokens (m :: rest) ++ [.closeObject]))).trans ?_
    rw [List.foldlM_append, value, List.append_cons earlier.reverse, ← List.reverse_cons]
    exact others

end

/-- Reading gives the document that a text spells. -/
theorem Spells.parse? {j : Json} {text : String} (h : j.Spells text) :
    Json.parse? text = some j := by
  have lexed := Token.lex_of_layout h.2 h.1 (separate_tokens j)
  rw [Json.parse?, lexed, Option.bind_some, ofTokens?,
    foldlM_tokens [] j (Reader.starts_value [])]
  rfl

/-! ## Writing -/

theorem layout_text : ∀ ts : List Token, Token.Layout ts (ts.flatMap Token.text)
  | [] => .nil
  | t :: ts => .token t (layout_text ts)

theorem spells_render {j : Json} (h : j.Legible) : j.Spells j.render := by
  refine ⟨h, ?_⟩
  rw [render, String.toList_ofList]
  exact layout_text j.tokens

end Headset.Json
