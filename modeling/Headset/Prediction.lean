import Headset.Motion

/-!
# Prediction

A sample of the past is carried to the time that is asked for, along its velocity, and by no more
than a given span either way.
-/

namespace Headset

/-- Signed seconds from a sample's time to the target, at most `max` either way. -/
def predictionInterval (sample target max : Span) : Float32 :=
  let bound := max.toSeconds
  let dt := if sample ≤ target then (target - sample).toSeconds else -(sample - target).toSeconds
  if dt < -bound then -bound else if bound < dt then bound else dt

/-- The motion after `dt` seconds at constant velocity. -/
def Motion.extrapolate (m : Motion) (dt : Float32) : Motion :=
  if dt == 0 then m
  else
    let position := m.pose.position + m.velocity.linear.scale dt
    let turn := Rotation.ofScaledAxis (m.velocity.angular.scale dt)
    ⟨⟨position, (turn * m.pose.orientation).normalize⟩, m.velocity⟩

/-- The motion that a sample predicts for the target time. -/
def Sample.predict (s : Sample) (target max : Span) : Motion :=
  s.motion.extrapolate (predictionInterval s.time target max)

end Headset
