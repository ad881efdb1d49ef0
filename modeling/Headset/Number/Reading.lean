/-!
# Numbers in arguments

How the value of a command line option is read as a number.  The grammar is wider than that of
documents: a sign may be a plus, digits may be missing on one side of the point, and the names of
what is not finite are numbers too.
-/

namespace Headset

def digitsValue (ds : List Char) : Nat := ds.foldl (fun n c => 10 * n + (c.toNat - '0'.toNat)) 0

def isDigits (text : List Char) : Bool := !text.isEmpty && text.all Char.isDigit

/-- A natural number of 64 bits; a plus may stand before it. -/
def readCount? (text : String) : Option Nat :=
  let ds := match text.toList with
    | '+' :: rest => rest
    | ds => ds
  if isDigits ds && digitsValue ds < 0x10000000000000000 then some (digitsValue ds) else none

/-- An exponent, if there is one: zero for no text, and digits with an optional sign behind the
mark. -/
def readPower? : List Char → Option Int
  | [] => some 0
  | mark :: rest =>
    if mark = 'e' ∨ mark = 'E' then
      let (negative, ds) := match rest with
        | '-' :: ds => (true, ds)
        | '+' :: ds => (false, ds)
        | ds => (false, ds)
      if isDigits ds then
        some (if negative then -(digitsValue ds : Int) else digitsValue ds)
      else none
    else none

/-- A decimal without sign, rounded once. -/
def readDecimal? (text : List Char) : Option Float32 := do
  let whole := text.takeWhile Char.isDigit
  let (fraction, rest) := match text.dropWhile Char.isDigit with
    | '.' :: rest => (rest.takeWhile Char.isDigit, rest.dropWhile Char.isDigit)
    | rest => ([], rest)
  guard (whole ≠ [] ∨ fraction ≠ [])
  let power ← readPower? rest
  let exponent := power - fraction.length
  return Float32.ofScientific (digitsValue (whole ++ fraction)) (exponent < 0) exponent.natAbs

/-- A number without sign, or a name of what is not finite in any mixture of cases. -/
def readMagnitude? (text : List Char) : Option Float32 :=
  let name := String.ofList (text.map Char.toLower)
  if name = "inf" ∨ name = "infinity" then some (Float32.ofBits 0x7f800000)
  else if name = "nan" then some (Float32.ofBits 0x7fc00000)
  else readDecimal? text

/-- A single; a sign may stand before it. -/
def readSingle? (text : String) : Option Float32 :=
  match text.toList with
  | '-' :: rest => (readMagnitude? rest).map (- ·)
  | '+' :: rest => readMagnitude? rest
  | text => readMagnitude? text

end Headset
