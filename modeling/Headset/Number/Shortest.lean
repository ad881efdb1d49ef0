import Headset.Number.Exact

/-!
# The fewest digits that name a single

`Shortest.of` looks for the coarsest decimal grid that has a point among the reals which round to a
given float, and takes the point nearest to it.  `Style` holds what a format adds to that: where
positional notation ends, how a whole number is marked, which way a tie goes.  Two styles are used,
`Style.json` for documents and `Style.message` for messages.
-/

namespace Headset

/-- A positive decimal `digits · 10 ^ exponent`. -/
structure Shortest where
  digits : Nat
  exponent : Int
  deriving DecidableEq, Repr, Inhabited

namespace Shortest

/-- The reals that round to a float, as multiples of a quarter of its last place: from `lower` to
`upper` around `middle`, the ends belonging to it iff its mantissa is even. -/
structure Interval where
  lower : Nat
  middle : Nat
  upper : Nat
  closed : Bool
  /-- The exponent of the quarter place. -/
  exponent : Int

/-- The neighbour below is nearer for a power of two, as its last place is half as large. -/
def interval (l : FloatFormat) (mantissa : Nat) (exponent : Int) : Interval where
  lower := 4 * mantissa -
    (if mantissa = Nat.pow 2 l.mantissaBits ∧ l.leastExponent < exponent then 1 else 2)
  middle := 4 * mantissa
  upper := 4 * mantissa + 2
  closed := mantissa % 2 = 0
  exponent := exponent - 2

/-- The point on the grid of multiples of `10 ^ place` that lies in the interval, the nearest to its
middle if two do; a tie goes to the upper one or to the even one. -/
def onGrid? (tieUp : Bool) (s : Interval) (place : Int) : Option Nat :=
  -- all is scaled by `scale / unit` to whole numbers: a grid step is `step`
  let unit := Nat.pow 2 s.exponent.toNat * Nat.pow 10 (-place).toNat
  let step := Nat.pow 2 (-s.exponent).toNat * Nat.pow 10 place.toNat
  let inside (n : Nat) : Bool :=
    if s.closed then s.lower * unit ≤ n * step ∧ n * step ≤ s.upper * unit
    else s.lower * unit < n * step ∧ n * step < s.upper * unit
  let below := s.middle * unit / step
  let rest := s.middle * unit % step
  match inside below, inside (below + 1) with
  | false, false => none
  | true, false => some below
  | false, true => some (below + 1)
  | true, true =>
    if 2 * rest < step then some below
    else if step < 2 * rest then some (below + 1)
    else if tieUp ∨ below % 2 = 1 then some (below + 1) else some below

/-- The first hit when the grid is made finer place by place. -/
def search (tieUp : Bool) (s : Interval) : Nat → Int → Shortest
  | 0, place => ⟨s.middle, place⟩
  | tries + 1, place =>
    match onGrid? tieUp s place with
    | some n => ⟨n, place⟩
    | none => search tieUp s tries (place - 1)

/-- The shortest decimal of the single `mantissa · 2 ^ exponent`, whose size is below `10 ^ 39`
and whose last place is above `10 ^ (-46)`. -/
def of (tieUp : Bool) (mantissa : Nat) (exponent : Int) : Shortest :=
  search tieUp (interval .single mantissa exponent) 100 39

/-- The exponent of the leading digit. -/
def leading (d : Shortest) : Int := d.exponent + (Nat.repr d.digits).length - 1

end Shortest

/-- How a format writes a float. -/
structure Style where
  /-- Least and greatest exponent of the leading digit that are written positionally; none for no
  bound. -/
  positional : Option (Int × Int)
  /-- What marks a positional whole number. -/
  whole : String
  /-- Whether a tie between two shortest decimals goes up, and not to the even one. -/
  tieUp : Bool

namespace Style

/-- Documents: exponents from -6 to 12 are positional, whole numbers end in `.0`. -/
def json : Style := ⟨some (-6, 12), ".0", false⟩

/-- Messages: always positional, whole numbers are bare. -/
def message : Style := ⟨none, "", true⟩

/-- A run of zeros, empty for a count below one. -/
def zeros (n : Int) : List Char := List.replicate n.toNat '0'

def positionally (s : Style) (d : Shortest) : List Char :=
  let digits := (Nat.repr d.digits).toList
  if 0 ≤ d.exponent then
    digits ++ zeros d.exponent ++ s.whole.toList
  else if 0 ≤ d.leading then
    let before := (d.leading + 1).toNat
    digits.take before ++ '.' :: digits.drop before
  else
    '0' :: '.' :: zeros (-d.leading - 1) ++ digits

/-- Scientific notation: one digit before the point, the exponent with its sign. -/
def scientifically (d : Shortest) : List Char :=
  let digits := (Nat.repr d.digits).toList
  let mantissa := match digits with
    | [] => []
    | [c] => [c]
    | c :: rest => c :: '.' :: rest
  let sign := if d.leading < 0 then '-' else '+'
  mantissa ++ 'e' :: sign :: (Nat.repr d.leading.natAbs).toList

/-- A positive decimal in this style. -/
def decimal (s : Style) (d : Shortest) : List Char :=
  match s.positional with
  | none => s.positionally d
  | some (least, greatest) =>
    if least ≤ d.leading ∧ d.leading ≤ greatest then s.positionally d else scientifically d

/-- A finite float in this style; none for what is not finite. -/
def finite? (s : Style) (x : Float32) : Option (List Char) :=
  match Exact.of32 x with
  | .finite negative mantissa exponent =>
    let size := if mantissa = 0 then '0' :: s.whole.toList
      else s.decimal (Shortest.of s.tieUp mantissa exponent)
    some (if negative then '-' :: size else size)
  | _ => none

end Style

def floatMessage (x : Float32) : String :=
  match Exact.of32 x with
  | .nan => "NaN"
  | .infinite negative => if negative then "-inf" else "inf"
  | .finite .. => String.ofList ((Style.message.finite? x).getD [])

end Headset
