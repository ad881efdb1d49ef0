/-!
# Exact values of floats

A float is not a number, an infinity, or `± mantissa · 2 ^ exponent`.  `Exact.of32` and `Exact.of64`
read that off the bits, so that everything which needs a float's true value (times, texts,
truncation) is computed with whole numbers.  `roundHalfEven` is the one rounding rule used there.
-/

namespace Headset

/-- The value of a float, with the sign of a zero kept. -/
inductive Exact where
  | nan
  | infinite (negative : Bool)
  | finite (negative : Bool) (mantissa : Nat) (exponent : Int)
  deriving DecidableEq, Repr, Inhabited

/-- The widths of the two lower fields of a binary interchange format. -/
structure FloatFormat where
  mantissaBits : Nat
  exponentBits : Nat
  deriving DecidableEq, Repr

namespace FloatFormat

def single : FloatFormat := ⟨23, 8⟩

def double : FloatFormat := ⟨52, 11⟩

/-- The exponent of the last place of the smallest numbers. -/
def leastExponent (l : FloatFormat) : Int := 2 - Nat.pow 2 (l.exponentBits - 1) - l.mantissaBits

end FloatFormat

namespace Exact

/-- The value of a bit pattern: sign, exponent and mantissa from the top down.  An exponent of
zeros has no hidden mantissa bit, one of ones stands for what is not finite. -/
def ofBits (l : FloatFormat) (bits : Nat) : Exact :=
  let mantissa := bits % Nat.pow 2 l.mantissaBits
  let exponent := bits / Nat.pow 2 l.mantissaBits % Nat.pow 2 l.exponentBits
  let negative := bits / Nat.pow 2 (l.mantissaBits + l.exponentBits) % 2 = 1
  if exponent = Nat.pow 2 l.exponentBits - 1 then
    if mantissa = 0 then .infinite negative else .nan
  else if exponent = 0 then
    .finite negative mantissa l.leastExponent
  else
    .finite negative (Nat.pow 2 l.mantissaBits + mantissa) (l.leastExponent + exponent - 1)

def of32 (x : Float32) : Exact := ofBits .single x.toBits.toNat

def of64 (x : Float) : Exact := ofBits .double x.toBits.toNat

/-- The whole part, toward zero; zero for what is not finite. -/
def truncate : Exact → Int
  | .finite negative mantissa exponent =>
    let size := if 0 ≤ exponent then mantissa * Nat.pow 2 exponent.toNat
      else mantissa / Nat.pow 2 (-exponent).toNat
    if negative then -(size : Int) else size
  | _ => 0

end Exact

/-- The whole number nearest to `num / den`; a half goes to the even neighbour. -/
def roundHalfEven (num den : Nat) : Nat :=
  let low := num / den
  match compare (2 * (num % den)) den with
  | .lt => low
  | .eq => low + low % 2
  | .gt => low + 1

/-- The single nearest to a double: the exact value is written as a decimal, a finite one always
has one, and rounded once. -/
def singleOfDouble (x : Float) : Float32 :=
  match Exact.of64 x with
  | .nan => Float32.ofBits 0x7fc00000
  | .infinite negative => Float32.ofBits (if negative then 0xff800000 else 0x7f800000)
  | .finite negative mantissa exponent =>
    let size : Float32 := if 0 ≤ exponent then
        Float32.ofScientific (mantissa * Nat.pow 2 exponent.toNat) false 0
      else
        Float32.ofScientific (mantissa * Nat.pow 5 (-exponent).toNat) true (-exponent).toNat
    if negative then -size else size

/-- Sine, cosine and tangent of a single, each worked out in double precision and rounded once. -/
def sin32 (x : Float32) : Float32 := singleOfDouble (Float.sin x.toFloat)

@[inherit_doc sin32]
def cos32 (x : Float32) : Float32 := singleOfDouble (Float.cos x.toFloat)

@[inherit_doc sin32]
def tan32 (x : Float32) : Float32 := singleOfDouble (Float.tan x.toFloat)

end Headset
