import Headset.Space.Vector

/-!
# Rigid transforms

A transform is a row-major matrix of three rows and four columns, the layout in which the host
takes the placement of an eye.  The last column is the translation.
-/

namespace Headset

/-- One row of a transform: three factors and an offset. -/
structure Transform.Row where
  a : Float32
  b : Float32
  c : Float32
  offset : Float32
  deriving Inhabited

/-- A rigid transform by rows. -/
structure Transform where
  x : Transform.Row
  y : Transform.Row
  z : Transform.Row
  deriving Inhabited

namespace Transform

def Row.toList (r : Row) : List Float32 := [r.a, r.b, r.c, r.offset]

def toList (t : Transform) : List Float32 := t.x.toList ++ t.y.toList ++ t.z.toList

/-- No change of place. -/
def identity : Transform := ⟨⟨1, 0, 0, 0⟩, ⟨0, 1, 0, 0⟩, ⟨0, 0, 1, 0⟩⟩

def translation (t : Transform) : Vector3 := ⟨t.x.offset, t.y.offset, t.z.offset⟩

/-- Rotation, then translation.  The rotation is taken as it is, of length one or not. -/
def ofRotationTranslation (q : Rotation) (t : Vector3) : Transform :=
  let x2 := q.x + q.x
  let y2 := q.y + q.y
  let z2 := q.z + q.z
  let xx := q.x * x2
  let xy := q.x * y2
  let xz := q.x * z2
  let yy := q.y * y2
  let yz := q.y * z2
  let zz := q.z * z2
  let wx := q.w * x2
  let wy := q.w * y2
  let wz := q.w * z2
  ⟨⟨1 - (yy + zz), xy - wz, xz + wy, t.x⟩,
    ⟨xy + wz, 1 - (xx + zz), yz - wx, t.y⟩,
    ⟨xz - wy, yz + wx, 1 - (xx + yy), t.z⟩⟩

end Transform

end Headset
