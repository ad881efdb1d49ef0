/-!
# Capabilities

The host asks for capabilities by a name with a version.
-/

namespace Headset

/-- A capability that a device may have. -/
inductive Capability.Kind where
  | display
  | directMode
  deriving DecidableEq, Repr, Inhabited

namespace Capability.Kind

/-- The name under which the host asks for a capability. -/
def interfaceName : Capability.Kind → String
  | .display => "IVRDisplayComponent_003"
  | .directMode => "IVRDriverDirectModeComponent_008"

/-- The capability of a name, which may be followed by zero characters. -/
def ofName? (name : String) : Option Capability.Kind :=
  let name := (name.toList.reverse.dropWhile (· = '\x00')).reverse
  [display, directMode].find? fun k => k.interfaceName.toList = name

end Capability.Kind

/-- A capability as the host gets hold of it. -/
inductive Capability where
  | display
  | directMode (backend : String)
  deriving DecidableEq, Repr, Inhabited

namespace Capability

def kind : Capability → Capability.Kind
  | .display => .display
  | .directMode _ => .directMode

/-- The text of a capability. -/
def describe : Capability → String
  | .display => "Display"
  | .directMode backend => "DirectMode(" ++ backend ++ ")"

end Capability

end Headset
