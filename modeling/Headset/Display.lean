import Headset.Config
import Headset.Views

/-!
# Display

The display as a capability: its geometry comes from the configuration and from the views that the
client published last.
-/

namespace Headset

/-- A rectangle on the desktop. -/
structure WindowBounds where
  x : Int32
  y : Int32
  width : UInt32
  height : UInt32
  deriving DecidableEq, Repr, Inhabited

/-- A rectangle of the render target. -/
structure Viewport where
  x : UInt32
  y : UInt32
  width : UInt32
  height : UInt32
  deriving DecidableEq, Repr, Inhabited

/-- Where the three colours of a point come from. -/
structure Distortion where
  red : Float32 × Float32
  green : Float32 × Float32
  blue : Float32 × Float32
  deriving Inhabited

/-- The display as the host sees it. -/
structure Display where
  config : DisplayConfig
  views : Views
  hasClientViews : Bool
  deriving Inhabited

namespace Display

/-- A display with the default views. -/
def ofConfig (config : DisplayConfig) : Display := ⟨config, .default, false⟩

/-- Publishes views, if they are valid; none if they are not. -/
def publish? (d : Display) (views : Views) : Option Display :=
  if views.isValid then some { d with views, hasClientViews := true } else none

def window (d : Display) : WindowBounds :=
  ⟨d.config.windowX, d.config.windowY, d.config.width, d.config.height⟩

def isOnDesktop (_ : Display) : Bool := false

/-- The display is not a device of its own. -/
def isReal (_ : Display) : Bool := false

/-- Width and height of the picture for one eye. -/
def renderTargetSize (d : Display) : UInt32 × UInt32 := (d.config.eyeWidth, d.config.height)

/-- The half of the render target that belongs to an eye. -/
def viewport (d : Display) (eye : Eye) : Viewport :=
  let width := d.config.eyeWidth
  ⟨width * UInt32.ofNat eye.index, 0, width, d.config.height⟩

def projection (d : Display) (eye : Eye) : Projection := (d.views.fov.get eye).projection

/-- No distortion: each colour comes from the point itself. -/
def distortion (_ : Display) (_ : Eye) (u v : Float32) : Distortion := ⟨(u, v), (u, v), (u, v)⟩

end Display

end Headset
