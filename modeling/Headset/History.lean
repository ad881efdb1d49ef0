import Headset.Motion

/-!
# Pose history

The newest samples, oldest first, one for each time.  A sample may arrive out of order: it is put
in its place, replaces one of the same time, and the oldest are dropped while there are more than
the capacity.
-/

namespace Headset

/-- The newest samples by time. -/
structure History where
  capacity : Nat
  samples : List Sample
  deriving Inhabited

namespace History

/-- Samples kept when nothing else is asked for: one second at 360 in a second. -/
def defaultCapacity : Nat := 360

/-- A history with room for `capacity` samples, and for one at least. -/
def empty (capacity : Nat) : History := ⟨max capacity 1, []⟩

def size (h : History) : Nat := h.samples.length

def isEmpty (h : History) : Bool := h.samples.isEmpty

def clear (h : History) : History := { h with samples := [] }

/-- Puts a sample in its place by time, over one of the same time. -/
def insert (s : Sample) : List Sample → List Sample
  | [] => [s]
  | t :: rest =>
    if t.time < s.time then t :: insert s rest
    else if t.time = s.time then s :: rest
    else s :: t :: rest

/-- Adds a sample and drops the oldest beyond the capacity. -/
def push (h : History) (s : Sample) : History :=
  let samples := insert s h.samples
  { h with samples := samples.drop (samples.length - h.capacity) }

/-- The newest sample taken at or before a time. -/
def sampleAt (h : History) (time : Span) : Option Sample :=
  (h.samples.takeWhile (fun s => decide (s.time ≤ time))).getLast?

def latest (h : History) : Option Sample := h.samples.getLast?

end History

end Headset
