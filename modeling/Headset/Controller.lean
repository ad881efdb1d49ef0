import Headset.Motion

/-!
# Controllers and tracking packets

A packet of tracking data carries what is new about the head and about each hand.
-/

namespace Headset

inductive Hand where
  | left
  | right
  deriving DecidableEq, Repr, Inhabited

def Hand.name : Hand → String
  | .left => "left"
  | .right => "right"

def Hand.names : List (String × Hand) := [Hand.left, .right].map fun h => (h.name, h)

structure PerHand (α : Type) where
  left : α
  right : α
  deriving DecidableEq, Repr, Inhabited

namespace PerHand

def get {α : Type} (p : PerHand α) : Hand → α
  | .left => p.left
  | .right => p.right

def set {α : Type} (p : PerHand α) (a : α) : Hand → PerHand α
  | .left => { p with left := a }
  | .right => { p with right := a }

end PerHand

structure Axis where
  axis : UInt32
  value : Float32
  deriving Inhabited

structure Button where
  button : UInt32
  pressed : Bool
  deriving DecidableEq, Repr, Inhabited

/-- What is new about one hand. -/
structure ControllerTracking where
  motion : Motion
  axes : List Axis
  buttons : List Button
  deriving Inhabited

/-- A packet of tracking data, stamped with the time it is about. -/
structure TrackingPacket where
  target : Span
  head : Option Motion
  controllers : PerHand (Option ControllerTracking)
  deriving Inhabited

end Headset
