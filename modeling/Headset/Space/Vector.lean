import Headset.Number.Exact

/-!
# Vectors and rotations

Positions, velocities and rotations in single precision.  Sums are rounded one by one, and their
grouping is part of each definition: another grouping would give other last bits.
-/

namespace Headset

/-- A position, velocity or axis. -/
structure Vector3 where
  x : Float32
  y : Float32
  z : Float32
  deriving Inhabited

namespace Vector3

def zero : Vector3 := ⟨0, 0, 0⟩

def toList (v : Vector3) : List Float32 := [v.x, v.y, v.z]

def add (a b : Vector3) : Vector3 := ⟨a.x + b.x, a.y + b.y, a.z + b.z⟩

instance : Add Vector3 := ⟨add⟩

def scale (v : Vector3) (k : Float32) : Vector3 := ⟨v.x * k, v.y * k, v.z * k⟩

def length (v : Vector3) : Float32 := (v.x * v.x + v.y * v.y + v.z * v.z).sqrt

end Vector3

/-- A rotation as a quaternion. -/
structure Rotation where
  x : Float32
  y : Float32
  z : Float32
  w : Float32
  deriving Inhabited

namespace Rotation

def identity : Rotation := ⟨0, 0, 0, 1⟩

def toList (q : Rotation) : List Float32 := [q.x, q.y, q.z, q.w]

/-- Rotation about a vector by its length in radians. -/
def ofScaledAxis (v : Vector3) : Rotation :=
  let angle := v.length
  if angle == 0 then identity
  else
    let half := angle * 0.5
    let s := sin32 half
    ⟨v.x / angle * s, v.y / angle * s, v.z / angle * s, cos32 half⟩

/-- First `b`, then `a`.  Every component is a sum of two sums.  A product that counts negatively is
negated before it is added, which decides the sign of a sum of zeros. -/
def mul (a b : Rotation) : Rotation where
  x := (a.w * b.x + a.x * b.w) + (a.y * b.z - a.z * b.y)
  y := (a.w * b.y - a.x * b.z) + (a.y * b.w + a.z * b.x)
  z := (a.w * b.z + a.x * b.y) + (a.z * b.w - a.y * b.x)
  w := (a.w * b.w - a.x * b.x) + (-(a.y * b.y) - a.z * b.z)

instance : Mul Rotation := ⟨mul⟩

def length (q : Rotation) : Float32 := ((q.x * q.x + q.z * q.z) + (q.y * q.y + q.w * q.w)).sqrt

/-- The same rotation with length one. -/
def normalize (q : Rotation) : Rotation :=
  let l := q.length
  ⟨q.x / l, q.y / l, q.z / l, q.w / l⟩

end Rotation

end Headset
