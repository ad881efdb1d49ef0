import Headset.Number.Exact

/-!
# Times

A `Span` is a length of time, or a point on the driver clock counted from its start: a whole number
of nanoseconds below `2 ^ 64` seconds.  Sums that leave this range have no value (`none`);
differences stop at zero.  `Span.ofExact?` gives the span nearest to a float's true value, and
`Span.toSeconds` and `Span.toSecondsDouble` the float of a span.
-/

namespace Headset

/-- A length of time in whole nanoseconds, below `2 ^ 64` seconds. -/
structure Span where
  nanos : Nat
  nanos_lt : nanos < 0x10000000000000000 * 1000000000
  deriving DecidableEq

namespace Span

/-- Nanoseconds from which on there is no span. -/
def limit : Nat := 0x10000000000000000 * 1000000000

/-- The span of so many nanoseconds, if it is in range. -/
def ofNanos? (n : Nat) : Option Span :=
  if h : n < limit then some ⟨n, h⟩ else none

theorem ofNanos?_of_lt {n : Nat} (h : n < limit) : ofNanos? n = some ⟨n, h⟩ := dif_pos h

theorem ofNanos?_of_le {n : Nat} (h : limit ≤ n) : ofNanos? n = none := dif_neg (Nat.not_lt.2 h)

/-- The empty span, or the start of the clock. -/
def zero : Span := ⟨0, by decide⟩

instance : Inhabited Span := ⟨zero⟩

instance : Repr Span where
  reprPrec s _ := repr s.nanos

instance : LT Span := ⟨fun a b => a.nanos < b.nanos⟩
instance : LE Span := ⟨fun a b => a.nanos ≤ b.nanos⟩
instance (a b : Span) : Decidable (a < b) := inferInstanceAs (Decidable (a.nanos < b.nanos))
instance (a b : Span) : Decidable (a ≤ b) := inferInstanceAs (Decidable (a.nanos ≤ b.nanos))

theorem lt_iff {a b : Span} : a < b ↔ a.nanos < b.nanos := Iff.rfl

theorem le_iff {a b : Span} : a ≤ b ↔ a.nanos ≤ b.nanos := Iff.rfl

theorem nanos_inj {a b : Span} : a.nanos = b.nanos ↔ a = b := by
  cases a
  cases b
  simp

def longest : Span := ⟨0x10000000000000000 * 1000000000 - 1, by decide⟩

def secs (s : Span) : Nat := s.nanos / 1000000000

/-- Nanoseconds past the whole seconds. -/
def subsecNanos (s : Span) : Nat := s.nanos % 1000000000

def micros (s : Span) : Nat := s.nanos / 1000

def add? (a b : Span) : Option Span := ofNanos? (a.nanos + b.nanos)

/-- The sum of a list, if it is in range. -/
def sum? (spans : List Span) : Option Span :=
  ofNanos? (spans.foldl (fun total s => total + s.nanos) 0)

/-- The difference, not below zero. -/
def sub (a b : Span) : Span := ⟨a.nanos - b.nanos, by have := a.nanos_lt; omega⟩

instance : Sub Span := ⟨sub⟩

theorem nanos_sub (a b : Span) : (a - b).nanos = a.nanos - b.nanos := rfl

/-- A whole number of microseconds; every 64-bit number of them is in range. -/
def ofMicros? (n : Nat) : Option Span := ofNanos? (n * 1000)

/-- The span nearest to so many seconds, a half going to the even nanosecond.  There is none for
what is negative, out of range or not a number. -/
def ofExact? : Exact → Option Span
  | .finite negative mantissa exponent =>
    if mantissa = 0 then some zero
    else if negative then none
    else if 0 ≤ exponent then ofNanos? (mantissa * Nat.pow 2 exponent.toNat * 1000000000)
    else ofNanos? (roundHalfEven (mantissa * 1000000000) (Nat.pow 2 (-exponent).toNat))
  | _ => none

/-- The span nearest to a single number of seconds. -/
def ofSeconds? (x : Float32) : Option Span := ofExact? (Exact.of32 x)

/-- The span nearest to a double number of seconds. -/
def ofSecondsDouble? (x : Float) : Option Span := ofExact? (Exact.of64 x)

/-- Seconds as a single: whole seconds and the rest are rounded apart and then added. -/
def toSeconds (s : Span) : Float32 :=
  s.secs.toUInt64.toFloat32 + s.subsecNanos.toUInt32.toFloat32 / 1e9

/-- Seconds as a double, in the same way. -/
def toSecondsDouble (s : Span) : Float :=
  s.secs.toUInt64.toFloat + s.subsecNanos.toUInt32.toFloat / 1e9

def toMillis (s : Span) : Float32 := s.toSeconds * 1000

/-- A part of a span: seconds as a double, divided and rounded back.  There is none if the rounded
seconds leave the range, as those of the longest span do. -/
def div? (s : Span) (n : Nat) : Option Span :=
  ofSecondsDouble? (s.toSecondsDouble / n.toUInt64.toFloat)

end Span

end Headset
