import Headset.Space.Vector
import Headset.Time

/-!
# Motion

Where a tracked device is and how it moves, at a time (`Sample`) or as the host is told
(`DevicePose`).
-/

namespace Headset

structure Pose where
  position : Vector3
  orientation : Rotation
  deriving Inhabited

/-- At the origin, not turned. -/
def Pose.identity : Pose := ⟨.zero, .identity⟩

structure Velocity where
  linear : Vector3
  angular : Vector3
  deriving Inhabited

def Velocity.zero : Velocity := ⟨.zero, .zero⟩

/-- A pose with its first derivatives. -/
structure Motion where
  pose : Pose
  velocity : Velocity
  deriving Inhabited

def Motion.toList (m : Motion) : List Float32 :=
  m.pose.position.toList ++ m.pose.orientation.toList ++ m.velocity.linear.toList ++
    m.velocity.angular.toList

/-- A motion stamped with its time on the driver clock. -/
structure Sample where
  time : Span
  motion : Motion
  deriving Inhabited

/-- Whether the host may trust a pose. -/
inductive TrackingResult where
  | uninitialized
  | runningOk
  deriving DecidableEq, Repr, Inhabited

/-- The answer to the host's question for a pose. -/
structure DevicePose where
  pose : Pose
  velocity : Velocity
  valid : Bool
  connected : Bool
  result : TrackingResult
  deriving Inhabited

namespace DevicePose

/-- The answer before any tracking data. -/
def untracked : DevicePose := ⟨.identity, .zero, false, true, .uninitialized⟩

/-- The answer that rests on a motion. -/
def tracked (m : Motion) : DevicePose := ⟨m.pose, m.velocity, true, true, .runningOk⟩

def motion (p : DevicePose) : Motion := ⟨p.pose, p.velocity⟩

end DevicePose

end Headset
