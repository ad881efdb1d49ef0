import Headset.Json.Escape
import Headset.Json.Numeral

/-!
# Tokens of a document

`Token.lex` cuts a text into brackets, marks, words and strings with a machine that takes one
character at a time, and drops the blanks between them.  `Token.text` spells a token out again.
-/

namespace Headset

/-- One token; numbers and strings keep their spelling. -/
inductive Token where
  | openArray
  | closeArray
  | openObject
  | closeObject
  | comma
  | colon
  | null
  | bool (b : Bool)
  | number (text : List Char)
  | string (body : List Char)
  deriving DecidableEq, Repr, Inhabited

namespace Token

def text : Token → List Char
  | .openArray => ['[']
  | .closeArray => [']']
  | .openObject => ['\x7b']
  | .closeObject => ['\x7d']
  | .comma => [',']
  | .colon => [':']
  | .null => ['n', 'u', 'l', 'l']
  | .bool true => ['t', 'r', 'u', 'e']
  | .bool false => ['f', 'a', 'l', 's', 'e']
  | .number text => text
  | .string body => '"' :: body ++ ['"']

/-- Whether a character may stand between tokens. -/
def isBlank (c : Char) : Bool := c = ' ' || c = '\t' || c = '\n' || c = '\r'

/-- Whether a character belongs to a word: a number or one of the three names. -/
def isWordChar (c : Char) : Bool := c.isAlphanum || c = '+' || c = '-' || c = '.'

/-- The token of one character. -/
def mark? : Char → Option Token
  | '[' => some .openArray
  | ']' => some .closeArray
  | '\x7b' => some .openObject
  | '\x7d' => some .closeObject
  | ',' => some .comma
  | ':' => some .colon
  | _ => none

def word? (word : List Char) : Option Token :=
  if word = Token.null.text then some .null
  else if word = (Token.bool true).text then some (.bool true)
  else if word = (Token.bool false).text then some (.bool false)
  else if (Numeral.read? word).isSome then some (.number word)
  else none

/-- What the machine is in the middle of, with the characters of it read so far, last first. -/
inductive Scan where
  | between
  | inWord (read : List Char)
  | inString (escaped : Bool) (read : List Char)
  deriving DecidableEq, Repr

/-- The machine: what it is in, and the tokens found, last first. -/
structure Lexer where
  scan : Scan
  found : List Token
  deriving DecidableEq, Repr

namespace Lexer

/-- Takes a character that stands outside words and strings. -/
def outside (found : List Token) (c : Char) : Option Lexer :=
  if isBlank c then some ⟨.between, found⟩
  else if c = '"' then some ⟨.inString false [], found⟩
  else if isWordChar c then some ⟨.inWord [c], found⟩
  else (mark? c).map fun t => ⟨.between, t :: found⟩

def step (l : Lexer) (c : Char) : Option Lexer :=
  match l.scan with
  | .between => outside l.found c
  | .inWord read =>
    if isWordChar c then some { l with scan := .inWord (c :: read) }
    else (word? read.reverse).bind fun t => outside (t :: l.found) c
  | .inString true read => some { l with scan := .inString false (c :: read) }
  | .inString false read =>
    if c = '"' then
      if Escape.isBody read.reverse then some ⟨.between, .string read.reverse :: l.found⟩ else none
    else some { l with scan := .inString (c = '\\') (c :: read) }

def finish? (l : Lexer) : Option (List Token) :=
  match l.scan with
  | .between => some l.found.reverse
  | .inWord read => (word? read.reverse).map fun t => (t :: l.found).reverse
  | .inString .. => none

end Lexer

/-- The tokens of a text, if it is made of tokens. -/
def lex (text : List Char) : Option (List Token) :=
  (text.foldlM Lexer.step ⟨.between, []⟩).bind Lexer.finish?

end Token

end Headset
