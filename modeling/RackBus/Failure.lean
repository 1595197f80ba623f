import RackBus.Address
import RackBus.Text.Hexadecimal

/-!
# What can go wrong

The causes of failure shared by the whole library, each with the facts a reader needs, and the one
sentence a person is told.
-/

set_option autoImplicit false

namespace RackBus

/-- A cause of failure. -/
inductive Failure where
  /-- A buffer has fewer bytes than a record or a telegram takes. -/
  | shortBuffer
  /-- A payload has more bytes than a telegram may carry. -/
  | oversizedPayload (length : Nat)
  /-- Nothing came back over the bus. -/
  | noTransport
  /-- The answer belongs to another request; its command code is kept. -/
  | unexpectedAnswer (command : UInt16)
  /-- The module refused; the command code of its answer is kept. -/
  | refused (command : UInt16)
  /-- No module may have this address. -/
  | reservedAddress (value : UInt8)
  /-- A field has the wrong number of bytes. -/
  | fieldWidth
  /-- The roster has no room for another row. -/
  | rosterFull
  /-- An access leaves the process image. -/
  | outsideImage (offset length : Nat)
  /-- A maintenance command is already waiting. -/
  | busy
  /-- The bridge is in no state to do this. -/
  | notReady
  /-- The declared configuration could not be loaded. -/
  | notLoaded (reason : String)
  /-- A setting or a declaration makes no sense. -/
  | invalid (reason : String)
  /-- A cyclic driver could not exchange its data. -/
  | driverFailed
  deriving DecidableEq

/-- A reserved address, seen as a failure. -/
def ReservedAddress.toFailure (e : ReservedAddress) : Failure := .reservedAddress e.value

/-- What a person is told. -/
def Failure.message : Failure → String
  | .shortBuffer => "Buffer is too short for the telegram"
  | .oversizedPayload n => s!"Payload of {Decimal.text n} bytes exceeds the telegram limit"
  | .noTransport => "Bus transport failure"
  | .unexpectedAnswer c => s!"Unexpected response telegram (command {Hexadecimal.word c})"
  | .refused c => s!"Module answered with error (command {Hexadecimal.word c})"
  | .reservedAddress v => s!"Invalid module address: {Decimal.text v.toNat}"
  | .fieldWidth => "Failed to convert slice to a fixed-size array"
  | .rosterFull => "Device table is full"
  | .outsideImage o l =>
    s!"Process image access out of range (offset {Decimal.text o}, length {Decimal.text l})"
  | .busy => "Another maintenance action is pending"
  | .notReady => "Bridge is not ready for this operation"
  | .notLoaded r => s!"Configuration load error: {r}"
  | .invalid r => s!"Validation error: {r}"
  | .driverFailed => "Cyclic driver exchange failed"

end RackBus
