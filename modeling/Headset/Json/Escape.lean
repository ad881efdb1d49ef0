/-!
# Escaped text

The characters between the quotes of a document's string.  `escape` writes a text with two-letter
escapes where there are such, `unescape?` reads any spelling of it.  An escape names a UTF-16 unit,
so two of them may name one character; half a pair names none, and such a body is well formed
(`isBody`) without having a value.
-/

namespace Headset.Escape

/-- The letter of a two-letter escape. -/
def letterOf? : Char → Option Char
  | '"' => some '"'
  | '\\' => some '\\'
  | '\x08' => some 'b'
  | '\x0c' => some 'f'
  | '\n' => some 'n'
  | '\r' => some 'r'
  | '\t' => some 't'
  | _ => none

/-- The character that a two-letter escape stands for; the solidus may be escaped too. -/
def ofLetter? : Char → Option Char
  | '"' => some '"'
  | '\\' => some '\\'
  | '/' => some '/'
  | 'b' => some '\x08'
  | 'f' => some '\x0c'
  | 'n' => some '\n'
  | 'r' => some '\r'
  | 't' => some '\t'
  | _ => none

/-- Whether a character may not stand for itself between quotes. -/
def isControl (c : Char) : Bool := c.toNat < 0x20

/-- The written form of one character. -/
def escapeChar (c : Char) : List Char :=
  match letterOf? c with
  | some l => ['\\', l]
  | none =>
    if isControl c then
      ['\\', 'u', '0', '0', Nat.digitChar (c.toNat / 16), Nat.digitChar (c.toNat % 16)]
    else [c]

def escape (text : List Char) : List Char := text.flatMap escapeChar

/-- The value of a hexadecimal digit in either case. -/
def hexValue? (c : Char) : Option Nat :=
  if '0' ≤ c ∧ c ≤ '9' then some (c.toNat - '0'.toNat)
  else if 'a' ≤ c ∧ c ≤ 'f' then some (c.toNat - 'a'.toNat + 10)
  else if 'A' ≤ c ∧ c ≤ 'F' then some (c.toNat - 'A'.toNat + 10)
  else none

/-- The UTF-16 unit that four hexadecimal digits name. -/
def unit? (a b c d : Char) : Option Nat := do
  let a ← hexValue? a
  let b ← hexValue? b
  let c ← hexValue? c
  let d ← hexValue? d
  return ((a * 16 + b) * 16 + c) * 16 + d

/-- Whether a unit is the first of a pair. -/
def isHigh (u : Nat) : Bool := 0xd800 ≤ u && u < 0xdc00

/-- Whether a unit is the second of a pair. -/
def isLow (u : Nat) : Bool := 0xdc00 ≤ u && u < 0xe000

/-- The character of a pair of units. -/
def pair (high low : Nat) : Char := Char.ofNat (0x10000 + (high - 0xd800) * 0x400 + (low - 0xdc00))

/-- Whether the characters may stand between quotes: every escape is complete and no control
character stands for itself. -/
def isBody : List Char → Bool
  | [] => true
  | '\\' :: 'u' :: a :: b :: c :: d :: rest => (unit? a b c d).isSome && isBody rest
  | '\\' :: l :: rest => (ofLetter? l).isSome && isBody rest
  | c :: rest => c != '\\' && c != '"' && !isControl c && isBody rest

/-- The text that a body stands for. -/
def unescape? : List Char → Option (List Char)
  | [] => some []
  | '\\' :: 'u' :: a :: b :: c :: d :: rest =>
    match unit? a b c d with
    | none => none
    | some u =>
      if isLow u then none
      else if isHigh u then
        match rest with
        | '\\' :: 'u' :: e :: f :: g :: h :: rest =>
          match unit? e f g h with
          | none => none
          | some v => if isLow v then (unescape? rest).map (pair u v :: ·) else none
        | _ => none
      else (unescape? rest).map (Char.ofNat u :: ·)
  | '\\' :: l :: rest =>
    match ofLetter? l with
    | none => none
    | some c => (unescape? rest).map (c :: ·)
  | c :: rest =>
    if c = '\\' ∨ c = '"' ∨ isControl c then none else (unescape? rest).map (c :: ·)

end Headset.Escape
