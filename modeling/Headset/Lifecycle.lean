/-!
# Lifecycle

The states of a device and the table of the host's operations on them.
-/

namespace Headset

/-- Whether a device is in use. -/
inductive ActivationState where
  | inactive
  /-- Seen only while an activation is under way. -/
  | activating
  | active
  | standby
  deriving DecidableEq, Repr, Inhabited

namespace ActivationState

def name : ActivationState → String
  | .inactive => "inactive"
  | .activating => "activating"
  | .active => "active"
  | .standby => "standby"

def names : List (String × ActivationState) :=
  [ActivationState.inactive, .activating, .active, .standby].map fun s => (s.name, s)

def title : ActivationState → String
  | .inactive => "Inactive"
  | .activating => "Activating"
  | .active => "Active"
  | .standby => "Standby"

end ActivationState

/-- An operation of the host. -/
inductive Lifecycle where
  | activate
  | deactivate
  | enterStandby
  | resume
  | shutDown
  deriving DecidableEq, Repr, Inhabited

namespace Lifecycle

def name : Lifecycle → String
  | .activate => "activate"
  | .deactivate => "deactivate"
  | .enterStandby => "enter_standby"
  | .resume => "resume"
  | .shutDown => "shutdown"

def names : List (String × Lifecycle) :=
  [Lifecycle.activate, .deactivate, .enterStandby, .resume, .shutDown].map fun o => (o.name, o)

end Lifecycle

/-- The state in which an operation leaves the device, if it is accepted there. -/
def transition : ActivationState → Lifecycle → Option ActivationState
  | .inactive, .activate => some .active
  | .active, .deactivate => some .inactive
  | .standby, .deactivate => some .inactive
  | .inactive, .deactivate => some .inactive
  | .active, .enterStandby => some .standby
  | .standby, .resume => some .active
  | _, .shutDown => some .inactive
  | _, _ => none

end Headset
