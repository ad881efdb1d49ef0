import Headset.Space.Transform

/-!
# Views

What the client says about its two eyes: where each sits relative to the head and how far it sees
to each side.  `Views.isValid` is the test that every published value passes.
-/

namespace Headset

inductive Eye where
  | left
  | right
  deriving DecidableEq, Repr, Inhabited

/-- Position of an eye in a pair: zero or one. -/
def Eye.index : Eye → Nat
  | .left => 0
  | .right => 1

structure PerEye (α : Type) where
  left : α
  right : α
  deriving Inhabited

def PerEye.get {α : Type} (p : PerEye α) : Eye → α
  | .left => p.left
  | .right => p.right

def PerEye.both {α : Type} (a : α) : PerEye α := ⟨a, a⟩

/-- Field of view as angles in radians from the view axis; `left` and `down` are negative for a
view that straddles the axis. -/
structure Fov where
  left : Float32
  right : Float32
  up : Float32
  down : Float32
  deriving Inhabited

/-- Tangents of the four angles; vertical ones grow downwards. -/
structure Projection where
  left : Float32
  right : Float32
  top : Float32
  bottom : Float32
  deriving Inhabited

namespace Fov

def symmetric (half : Float32) : Fov := ⟨-half, half, half, -half⟩

/-- A quarter of a half turn to all sides. -/
def standard : Fov := symmetric (Float32.ofBits 0x3f490fdb)

/-- The single nearest to a quarter turn. -/
def quarterTurn : Float32 := Float32.ofBits 0x3fc90fdb

def toList (f : Fov) : List Float32 := [f.left, f.right, f.up, f.down]

def projection (f : Fov) : Projection :=
  ⟨tan32 f.left, tan32 f.right, -tan32 f.up, -tan32 f.down⟩

/-- Whether all angles are finite and less than a quarter turn, and the view is not empty. -/
def isValid (f : Fov) : Bool :=
  f.toList.all (fun a => a.isFinite && decide (a.abs < quarterTurn)) &&
    decide (f.left < f.right) && decide (f.down < f.up)

end Fov

/-- Placement and field of view of both eyes. -/
structure Views where
  eyeToHead : PerEye Transform
  fov : PerEye Fov
  deriving Inhabited

namespace Views

/-- Distance between the eyes, in metres, until the client reports its own. -/
def defaultDistance : Float32 := 0.063

/-- Eyes that sit half the distance to the left and right of the middle. -/
def ofDistance (distance : Float32) (fov : PerEye Fov) : Views :=
  let half := distance / 2
  let eye (x : Float32) := Transform.ofRotationTranslation .identity ⟨x, 0, 0⟩
  ⟨⟨eye (-half), eye half⟩, fov⟩

/-- The views assumed before the client has sent any. -/
def default : Views := ofDistance defaultDistance (.both .standard)

/-- Distance between the eyes along the first axis. -/
def distance (v : Views) : Float32 :=
  v.eyeToHead.right.translation.x - v.eyeToHead.left.translation.x

/-- Whether both fields of view are valid and all matrix entries finite. -/
def isValid (v : Views) : Bool :=
  v.fov.left.isValid && v.fov.right.isValid &&
    v.eyeToHead.left.toList.all Float32.isFinite &&
    v.eyeToHead.right.toList.all Float32.isFinite

end Views

end Headset
