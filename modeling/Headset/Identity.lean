/-!
# Identity

Under which serial number and class the host knows a device, and which adapter renders for it.
-/

namespace Headset

/-- The class under which the host files a device. -/
inductive DeviceClass where
  | headset
  | trackingReference
  | controller
  deriving DecidableEq, Repr, Inhabited

def DeviceClass.name : DeviceClass → String
  | .headset => "hmd"
  | .trackingReference => "tracking_reference"
  | .controller => "controller"

def DeviceClass.names : List (String × DeviceClass) :=
  [DeviceClass.headset, .trackingReference, .controller].map fun c => (c.name, c)

/-- What the host tells devices apart by. -/
structure Identity where
  serial : String
  deviceClass : DeviceClass
  deriving DecidableEq, Repr, Inhabited

/-- Whether the device is worn on the head. -/
def Identity.isHeadset (i : Identity) : Bool := i.deviceClass = .headset

/-- Whether the device marks a fixed point in space. -/
def Identity.isTrackingReference (i : Identity) : Bool := i.deviceClass = .trackingReference

/-- A rendering adapter on this machine. -/
structure Adapter where
  name : String
  luid : UInt64
  deriving DecidableEq, Repr, Inhabited

end Headset
