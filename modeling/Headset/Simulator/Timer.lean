import Headset.Fault

/-!
# Simulated timer

A timer ticks once in a refresh interval, from its first start to its stop.
-/

namespace Headset.Simulator.Timer

/-- The interval of a timer for a refresh rate.  A rate that is not a positive finite number is
refused; there is no interval (`none`) if it has no span. -/
def interval? (refreshRate : Float32) : Option (Except Fault Span) :=
  if refreshRate.isFinite && decide (0 < refreshRate) then
    (Span.ofSeconds? (1 / refreshRate)).map .ok
  else some (.error ⟨.unavailable, "invalid refresh rate " ++ floatMessage refreshRate⟩)

end Headset.Simulator.Timer
