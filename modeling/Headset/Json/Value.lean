import Headset.Json.Token

/-!
# Documents

A document is a tree whose members keep their order and their repetitions.  `Json.render` writes it
without blanks, and `Json.parse?` reads any spelling with a machine that takes one token at a time
and holds what is open around it, so that no depth of nesting is too great.
-/

namespace Headset

/-- A document; numbers, strings and keys keep their spelling. -/
inductive Json where
  | null
  | bool (b : Bool)
  | number (text : List Char)
  | string (body : List Char)
  | array (items : List Json)
  | object (members : List (List Char × Json))
  deriving Inhabited

namespace Json

/-! ## Writing -/

mutual

def tokens : Json → List Token
  | .null => [.null]
  | .bool b => [.bool b]
  | .number text => [.number text]
  | .string body => [.string body]
  | .array items => .openArray :: itemTokens items ++ [.closeArray]
  | .object members => .openObject :: memberTokens members ++ [.closeObject]

def itemTokens : List Json → List Token
  | [] => []
  | [j] => j.tokens
  | j :: k :: rest => j.tokens ++ .comma :: itemTokens (k :: rest)

def memberTokens : List (List Char × Json) → List Token
  | [] => []
  | [(key, j)] => .string key :: .colon :: j.tokens
  | (key, j) :: m :: rest =>
    .string key :: .colon :: j.tokens ++ .comma :: memberTokens (m :: rest)

end

/-- The text of a document, without blanks. -/
def render (j : Json) : String := String.ofList (j.tokens.flatMap Token.text)

/-! ## Reading -/

/-- A container that is open around the place of reading, its parts last first. -/
inductive Frame where
  | array (items : List Json)
  | member (earlier : List (List Char × Json)) (key : List Char)

/-- What has to come next. -/
inductive Need where
  | value
  /-- A value or the end of the array just opened. -/
  | firstItem
  /-- A key or the end of the object just opened. -/
  | firstKey
  | key (earlier : List (List Char × Json))
  | colon (earlier : List (List Char × Json)) (key : List Char)
  /-- What may follow a value that is complete. -/
  | next (j : Json)

/-- The machine: what has to come, and what is open, innermost first. -/
structure Reader where
  need : Need
  frames : List Frame

namespace Reader

def start? (frames : List Frame) : Token → Option Reader
  | .null => some ⟨.next .null, frames⟩
  | .bool b => some ⟨.next (.bool b), frames⟩
  | .number text => some ⟨.next (.number text), frames⟩
  | .string body => some ⟨.next (.string body), frames⟩
  | .openArray => some ⟨.firstItem, frames⟩
  | .openObject => some ⟨.firstKey, frames⟩
  | _ => none

def continue? (j : Json) : List Frame → Token → Option Reader
  | .array items :: frames, .comma => some ⟨.value, .array (j :: items) :: frames⟩
  | .array items :: frames, .closeArray => some ⟨.next (.array (j :: items).reverse), frames⟩
  | .member earlier key :: frames, .comma => some ⟨.key ((key, j) :: earlier), frames⟩
  | .member earlier key :: frames, .closeObject =>
    some ⟨.next (.object ((key, j) :: earlier).reverse), frames⟩
  | _, _ => none

def step (r : Reader) (t : Token) : Option Reader :=
  match r.need, t with
  | .value, t => start? r.frames t
  | .firstItem, .closeArray => some ⟨.next (.array []), r.frames⟩
  | .firstItem, t => start? (.array [] :: r.frames) t
  | .firstKey, .closeObject => some ⟨.next (.object []), r.frames⟩
  | .firstKey, .string key => some ⟨.colon [] key, r.frames⟩
  | .key earlier, .string key => some ⟨.colon earlier key, r.frames⟩
  | .colon earlier key, .colon => some ⟨.value, .member earlier key :: r.frames⟩
  | .next j, t => continue? j r.frames t
  | _, _ => none

def finish? : Reader → Option Json
  | ⟨.next j, []⟩ => some j
  | _ => none

end Reader

/-- The document that tokens spell, if they spell exactly one. -/
def ofTokens? (tokens : List Token) : Option Json :=
  (tokens.foldlM Reader.step ⟨.value, []⟩).bind Reader.finish?

/-- The document that a text spells, if it spells exactly one. -/
def parse? (text : String) : Option Json := (Token.lex text.toList).bind ofTokens?

end Json

end Headset
