import RackBus.Failure

/-!
# Commands

The requests the core sends over the bus.  A module answers with the same code and one of two
bits: one for an accepted request, one for a refused request.
-/

set_option autoImplicit false

namespace RackBus

/-- A request to a module. -/
inductive Command where
  /-- Ask for the identity record. -/
  | deviceInfo
  /-- Wait for new firmware. -/
  | firmwareUpdate
  /-- Restart the firmware. -/
  | forceReset
  /-- Keep a new serial number. -/
  | writeSerial
  /-- Listen to the given address from now on. -/
  | setAddress
  /-- Take over the configuration. -/
  | configure
  /-- Begin the cyclic exchange; sent to all modules at once. -/
  | startExchange
  deriving DecidableEq

namespace Command

/-- The bit of an accepted request. -/
def acceptedBit : UInt16 := 0x4000

/-- The bit of a refused request. -/
def refusedBit : UInt16 := 0x8000

/-- The part of a code that names the request. -/
def requestMask : UInt16 := 0x3FFF

/-- Every request. -/
def all : List Command :=
  [deviceInfo, firmwareUpdate, forceReset, writeSerial, setAddress, configure, startExchange]

/-- The code of a request. -/
def code : Command → UInt16
  | deviceInfo => 0x0003
  | firmwareUpdate => 0x000F
  | forceReset => 0x0010
  | writeSerial => 0x0011
  | setAddress => 0x0014
  | configure => 0x0016
  | startExchange => 0x0017

/-- The code of an accepting answer. -/
def acceptedCode (c : Command) : UInt16 := c.code ||| acceptedBit

/-- The code of a refusing answer. -/
def refusedCode (c : Command) : UInt16 := c.code ||| refusedBit

/-- The request a code belongs to, be it the code of the request or of an answer. -/
def ofCode (code : UInt16) : Except Failure Command :=
  match all.find? fun c ↦ c.code == code &&& requestMask with
  | some c => .ok c
  | none => .error (.unexpectedAnswer code)

theorem ofCode_code (c : Command) : ofCode c.code = .ok c := by cases c <;> rfl

theorem ofCode_acceptedCode (c : Command) : ofCode c.acceptedCode = .ok c := by cases c <;> rfl

theorem ofCode_refusedCode (c : Command) : ofCode c.refusedCode = .ok c := by cases c <;> rfl

end Command
end RackBus
