import RackBus.Memory.Status
import RackBus.Wire.Command
import RackBus.Wire.LittleEndian

/-!
# Controlling a bridge from outside

Others than the owner of a bridge may stop it, ask for a reset, and hand in a maintenance command.
A stop takes effect at once; a reset and a maintenance command wait for the next cycle that can
perform them.  Only one maintenance command can wait.
-/

set_option autoImplicit false

namespace RackBus

/-- What a bridge is doing. -/
inductive Lifecycle where
  /-- Nothing; maintenance commands are performed here. -/
  | stopped
  /-- The modules are surveyed. -/
  | initializing
  /-- The modules are polled. -/
  | running
  deriving DecidableEq

/-- The name a person is shown. -/
def Lifecycle.text : Lifecycle → String
  | .stopped => "Stopped"
  | .initializing => "Initializing"
  | .running => "Running"

/-- A command to a module that is performed while the bridge is stopped. -/
inductive Maintenance where
  /-- Wait for new firmware. -/
  | firmwareUpdate (address : Address)
  /-- Keep a new serial number. -/
  | writeSerial (address : Address) (serial : UInt32)
  /-- Restart the firmware. -/
  | forceReset (address : Address)
  deriving DecidableEq

namespace Maintenance

/-- The module that is meant. -/
def address : Maintenance → Address
  | firmwareUpdate a => a
  | writeSerial a _ => a
  | forceReset a => a

/-- The request it is sent with. -/
def command : Maintenance → Command
  | firmwareUpdate _ => .firmwareUpdate
  | writeSerial _ _ => .writeSerial
  | forceReset _ => .forceReset

/-- The bytes it is sent with. -/
def payload : Maintenance → List UInt8
  | writeSerial _ serial => LittleEndian.bytes 4 serial.toNat
  | _ => []

end Maintenance

/-- What can be seen and asked of a bridge from outside. -/
structure Control where
  /-- What the bridge is doing. -/
  state : Lifecycle
  /-- The status flags. -/
  status : Status
  /-- The error count of the last round of polling. -/
  errors : UInt16
  /-- The maintenance command that waits, if any. -/
  waiting : Option Maintenance
  /-- Does a reset wait? -/
  resetRequested : Bool
  deriving DecidableEq

namespace Control

/-- Nothing has happened yet and nothing waits. -/
def fresh (state : Lifecycle) : Control where
  state := state
  status := .empty
  errors := 0
  waiting := none
  resetRequested := false

/-- Stops the bridge. -/
def stop (c : Control) : Control := { c with state := .stopped }

/-- Asks for a reset. -/
def requestReset (c : Control) : Control := { c with resetRequested := true }

/-- Hands in a maintenance command, unless one is waiting. -/
def requestMaintenance (c : Control) (action : Maintenance) : Except Failure Unit × Control :=
  match c.waiting with
  | some _ => (.error .busy, c)
  | none => (.ok (), { c with waiting := some action })

end Control
end RackBus
