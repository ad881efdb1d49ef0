import Headset.Number.Shortest

/-!
# Numerals

The numbers of a document.  `Numeral.read?` accepts a minus sign, digits without a leading zero, a
fraction and an exponent.  A numeral without fraction and exponent that fits 64 bits keeps its
whole value; any other is a double: the first digits that fit 64 bits, rounded, then scaled by a
power of ten.
-/

namespace Headset

/-- A number as it is written. -/
structure Numeral where
  negative : Bool
  whole : List Char
  fraction : Option (List Char)
  /-- Whether the exponent is negative, and its digits. -/
  exponent : Option (Bool × List Char)
  deriving DecidableEq, Repr, Inhabited

namespace Numeral

/-- Splits off the digits in front. -/
def digits (text : List Char) : List Char × List Char :=
  (text.takeWhile Char.isDigit, text.dropWhile Char.isDigit)

/-- A fraction in front, if there is a point; none if no digit follows it. -/
def readFraction? : List Char → Option (Option (List Char) × List Char)
  | '.' :: rest =>
    match digits rest with
    | ([], _) => none
    | (ds, rest) => some (some ds, rest)
  | text => some (none, text)

/-- The sign of an exponent in front; a plus may be left out. -/
def readSign : List Char → Bool × List Char
  | '-' :: rest => (true, rest)
  | '+' :: rest => (false, rest)
  | text => (false, text)

/-- An exponent in front, if its mark is there; none if no digit follows it. -/
def readExponent? : List Char → Option (Option (Bool × List Char) × List Char)
  | [] => some (none, [])
  | c :: rest =>
    if c = 'e' ∨ c = 'E' then
      let (negative, rest) := readSign rest
      match digits rest with
      | ([], _) => none
      | (ds, rest) => some (some (negative, ds), rest)
    else some (none, c :: rest)

/-- The numeral that a text spells, if it spells one. -/
def read? (text : List Char) : Option Numeral := do
  let (negative, text) := match text with
    | '-' :: rest => (true, rest)
    | text => (false, text)
  let (whole, text) := digits text
  guard (whole ≠ [] ∧ (whole.head? = some '0' → whole.length = 1))
  let (fraction, text) ← readFraction? text
  let (exponent, text) ← readExponent? text
  guard (text = [])
  return ⟨negative, whole, fraction, exponent⟩

def natOf (ds : List Char) : Nat := ds.foldl (fun n c => 10 * n + (c.toNat - '0'.toNat)) 0

/-- Appends digits to a number while it fits 64 bits; with the digits left over. -/
def significand (start : Nat) : List Char → Nat × List Char
  | [] => (start, [])
  | c :: rest =>
    let next := 10 * start + (c.toNat - '0'.toNat)
    if next < 0x10000000000000000 then significand next rest else (start, c :: rest)

/-- The value of a numeral: a whole number of 64 bits, or a double. -/
inductive Value where
  | whole (n : Int)
  | double (x : Float)

/-- The double nearest to a power of ten. -/
def powerOfTen (e : Nat) : Float := Float.ofScientific 1 false e

/-- A double times a power of ten; none past the largest double.  Powers below the least are taken
in two steps. -/
def scale? (x : Float) (exponent : Int) : Option Float :=
  if 0 ≤ exponent then
    if exponent ≤ 308 then
      let y := x * powerOfTen exponent.toNat
      if y.isInf then none else some y
    else if x == 0 then some x
    else none
  else if -308 ≤ exponent then some (x / powerOfTen (-exponent).toNat)
  else if -616 ≤ exponent then some (x / powerOfTen 308 / powerOfTen (-exponent - 308).toNat)
  else some 0

/-- The value of a numeral; none for one past the largest double. -/
def value? (n : Numeral) : Option Value :=
  let (kept, left) := significand 0 n.whole
  let (kept', left') := significand kept (n.fraction.getD [])
  let shift : Int := left.length - ((n.fraction.getD []).length - left'.length : Int)
  let exponent : Int := match n.exponent with
    | none => 0
    | some (negative, ds) => if negative then -(natOf ds : Int) else natOf ds
  let double := (scale? kept'.toUInt64.toFloat (shift + exponent)).map fun x =>
    Value.double (if n.negative then -x else x)
  match n.fraction, n.exponent, left with
  | none, none, [] =>
    if !n.negative then some (.whole kept)
    else if kept = 0 ∨ 0x8000000000000000 < kept then double
    else some (.whole (-(kept : Int)))
  | _, _, _ => double

namespace Value

/-- The value as a single; it may round to an infinity. -/
def toSingle : Value → Float32
  | .whole (.ofNat n) => n.toUInt64.toFloat32
  | .whole (.negSucc n) => -(n + 1).toUInt64.toFloat32
  | .double x => singleOfDouble x

def toNat? (bound : Nat) : Value → Option Nat
  | .whole (.ofNat n) => if n < bound then some n else none
  | _ => none

def toInt32? : Value → Option Int32
  | .whole n => if -0x80000000 ≤ n ∧ n < 0x80000000 then some (Int32.ofInt n) else none
  | _ => none

end Value

end Numeral

end Headset
