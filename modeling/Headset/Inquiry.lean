/-!
# Inquiries

The host asks in texts of one word with blanks around it.  An answer is cut to the room there is, at
a character boundary, and ends with a zero byte.
-/

namespace Headset

/-- What can be asked for; to ask for a keyframe is to have one made. -/
inductive Inquiry where
  | status
  | counters
  | views
  | latency
  | keyframe
  deriving DecidableEq, Repr, Inhabited

namespace Inquiry

def word : Inquiry → String
  | .status => "status"
  | .counters => "stats"
  | .views => "views"
  | .latency => "latency"
  | .keyframe => "idr"

def all : List Inquiry := [.status, .counters, .views, .latency, .keyframe]

/-- The blanks of the Unicode property `White_Space`. -/
def isWhiteSpace (c : Char) : Bool :=
  let n := c.toNat
  (0x9 ≤ n && n ≤ 0xd) || n = 0x20 || n = 0x85 || n = 0xa0 || n = 0x1680 ||
    (0x2000 ≤ n && n ≤ 0x200a) || n = 0x2028 || n = 0x2029 || n = 0x202f || n = 0x205f ||
    n = 0x3000

/-- The characters that do not count around a word. -/
def isPadding (c : Char) : Bool := isWhiteSpace c || c = '\x00'

/-- A text without the padding at both ends. -/
def trim (text : List Char) : List Char :=
  ((text.dropWhile isPadding).reverse.dropWhile isPadding).reverse

/-- What a request asks for, in any mixture of cases. -/
def parse? (request : String) : Option Inquiry :=
  let word := (trim request.toList).map Char.toLower
  all.find? fun i => i.word.toList = word

end Inquiry

/-- The answer to a request that asks for nothing. -/
def unknownRequest : String := "error: unknown request"

namespace Response

/-- The UTF-8 bytes of characters. -/
def bytes (text : List Char) : List UInt8 := text.flatMap String.utf8EncodeChar

/-- Whether a byte goes on with a character that begins before it. -/
def isContinuation (b : UInt8) : Bool := 0x80 ≤ b && b < 0xc0

/-- Whether a place among the bytes of a text is between two characters, or at an end. -/
def isBoundary (text : List UInt8) (place : Nat) : Bool :=
  place = 0 || match text[place]? with
    | none => place = text.length
    | some b => !isContinuation b

/-- The last boundary up to a place, by going back from there. -/
def boundary (text : List UInt8) : Nat → Nat
  | 0 => 0
  | n + 1 => if isBoundary text (n + 1) then n + 1 else boundary text n

/-- Writes an answer into a buffer and ends it with a zero byte.  Returns the number of bytes before
that and the buffer, which keeps its bytes after it; an empty buffer is left alone. -/
def write (buffer : List UInt8) (answer : String) : Nat × List UInt8 :=
  match buffer.length with
  | 0 => (0, buffer)
  | room + 1 =>
    let text := bytes answer.toList
    let n := boundary text (min text.length room)
    (n, text.take n ++ 0 :: buffer.drop (n + 1))

end Response

end Headset
