import Headset.Config
import Headset.Lifecycle

/-!
# Faults

A `Fault` is what a collaborator gives as the reason for not doing what it was asked to do.  A
`DriverError` is what a call on the device fails with, and `DriverError.code` folds it into the
result code that the host knows.
-/

namespace Headset

/-- The kind of a collaborator's fault. -/
inductive Fault.Kind where
  | unavailable
  | adapter
  | encoder
  | transport
  | host
  deriving DecidableEq, Repr, Inhabited

/-- A collaborator's fault: its kind and what the collaborator says about it. -/
structure Fault where
  kind : Fault.Kind
  text : String
  deriving DecidableEq, Repr, Inhabited

namespace Fault

def Kind.name : Kind → String
  | .unavailable => "unavailable"
  | .adapter => "adapter"
  | .encoder => "encoder"
  | .transport => "transport"
  | .host => "host"

def Kind.names : List (String × Kind) :=
  [Kind.unavailable, .adapter, .encoder, .transport, .host].map fun k => (k.name, k)

/-- What a message of this kind begins with. -/
def Kind.title : Kind → String
  | .unavailable => "collaborator unavailable"
  | .adapter => "adapter error"
  | .encoder => "encoder error"
  | .transport => "transport error"
  | .host => "host error"

def message (f : Fault) : String := f.kind.title ++ ": " ++ f.text

end Fault

/-- The stages of an activation, in order. -/
inductive Stage where
  | adapter
  | display
  | renderBackend
  | encoder
  | vsync
  deriving DecidableEq, Repr, Inhabited

namespace Stage

def name : Stage → String
  | .adapter => "adapter"
  | .display => "display"
  | .renderBackend => "render_backend"
  | .encoder => "encoder"
  | .vsync => "vsync"

def names : List (String × Stage) :=
  [Stage.adapter, .display, .renderBackend, .encoder, .vsync].map fun s => (s.name, s)

end Stage

/-- The operations that are refused in a wrong state. -/
inductive GuardedCall where
  | activate
  | enterStandby
  | resume
  | startStreaming
  deriving DecidableEq, Repr, Inhabited

namespace GuardedCall

def name : GuardedCall → String
  | .activate => Lifecycle.activate.name
  | .enterStandby => Lifecycle.enterStandby.name
  | .resume => Lifecycle.resume.name
  | .startStreaming => "start_streaming"

def names : List (String × GuardedCall) :=
  [GuardedCall.activate, .enterStandby, .resume, .startStreaming].map fun c => (c.name, c)

end GuardedCall

/-- What a call on the device fails with. -/
inductive DriverError where
  /-- A collaborator could not be had during activation. -/
  | initialization (stage : Stage) (fault : Fault)
  /-- The call is not accepted in this state. -/
  | invalidState (call : GuardedCall) (state : ActivationState)
  | clientNotConnected
  /-- The client or the encoder did not take up the stream. -/
  | stream (fault : Fault)
  | shutDown
  | config (error : ConfigError)
  deriving Inhabited

/-- The result codes of the host. -/
inductive InitCode where
  | none
  | alreadyActive
  | driverFailed
  | notInitialized
  | shutDown
  deriving DecidableEq, Repr, Inhabited

namespace DriverError

def message : DriverError → String
  | .initialization stage fault =>
    "initialization failed at " ++ stage.name ++ ": " ++ fault.message
  | .invalidState call state => call.name ++ " is invalid while " ++ state.title
  | .clientNotConnected => "no client connected"
  | .stream fault => "stream fault: " ++ fault.message
  | .shutDown => "driver has been shut down"
  | .config error => "configuration error: " ++ error.message

def source? : DriverError → Option Fault
  | .initialization _ fault => some fault
  | .stream fault => some fault
  | _ => none

/-- The host's code for an error. -/
def code : DriverError → InitCode
  | .invalidState _ .inactive => .notInitialized
  | .invalidState _ _ => .alreadyActive
  | .shutDown => .shutDown
  | .initialization _ _ => .driverFailed
  | .clientNotConnected => .driverFailed
  | .stream _ => .driverFailed
  | .config _ => .driverFailed

end DriverError

/-- The host's code for the result of a call. -/
def activationCode : Except DriverError Unit → InitCode
  | .ok () => .none
  | .error e => e.code

end Headset
