import RackBus.Wire.Identity
import RackBus.Wire.Telegram

/-!
# Simulated modules

A module that answers telegrams as a real one would, or with a `Misbehaviour` for each telegram it
is told to get wrong.
-/

set_option autoImplicit false

namespace RackBus

/-- A way of getting one answer wrong. -/
inductive Misbehaviour where
  /-- None; the answer is right. -/
  | ok
  /-- The telegram is not noticed, and the transport reports a failure. -/
  | silent
  /-- The telegram is not noticed, and no answer comes. -/
  | absent
  /-- The request is refused. -/
  | refuse
  /-- The request is performed, and the answer is lost. -/
  | lost
  /-- The answer names another module. -/
  | wrongSource
  /-- The answer has the number of the next request. -/
  | wrongSequence
  /-- The answer has the code of another request. -/
  | wrongCommand
  /-- The answer neither accepts nor refuses. -/
  | noBits
  /-- The answer both accepts and refuses. -/
  | bothBits
  /-- The payload is too short for an identity record. -/
  | shortPayload
  /-- The payload has three bytes more. -/
  | longPayload
  deriving DecidableEq

/-- A simulated module. -/
structure SimulatedModule where
  /-- What it says about itself. -/
  identity : Identity
  /-- The address it listens to, once it has one. -/
  address : Option Address
  /-- What it gets wrong with the next telegrams. -/
  misbehaviours : List Misbehaviour
  deriving DecidableEq

/-- How a misbehaviour changes an accepting answer. -/
def Misbehaviour.distort (m : Misbehaviour) (t : Telegram) : Telegram :=
  match m with
  | wrongSource => { t with source := ⟨t.source.value ^^^ 1⟩ }
  | wrongSequence => { t with sequence := t.sequence + 1 }
  | wrongCommand => { t with command := t.command ^^^ 4 }
  | noBits => { t with command := t.command &&& Command.requestMask }
  | bothBits => { t with command := t.command ||| 0xC000 }
  | shortPayload => { t with payload := t.payload.take 21 }
  | longPayload => { t with payload := t.payload ++ [0xEE, 0xEE, 0xEE] }
  | _ => t

namespace SimulatedModule

/-- The bytes of an accepting answer. -/
def reply (m : SimulatedModule) (request : Telegram) : List UInt8 :=
  if request.command = Command.deviceInfo.code then m.identity.encode else []

/-- What a request that is performed does to the module. -/
def obey (m : SimulatedModule) (request : Telegram) : SimulatedModule :=
  if request.command = Command.setAddress.code then
    { m with address := request.payload.head?.map Address.mk }
  else m

/-- What comes back when the module gets a telegram, and the module afterwards. -/
def receive (m : SimulatedModule) (request : Telegram) :
    Except Failure (Option Telegram) × SimulatedModule :=
  let misbehaviour := m.misbehaviours.headD .ok
  let m := { m with misbehaviours := m.misbehaviours.tail }
  match misbehaviour with
  | .silent => (.error .noTransport, m)
  | .absent => (.ok none, m)
  | .refuse => (.ok (some (request.answer false [])), m)
  | .lost => (.error .noTransport, m.obey request)
  | other => (.ok (some (other.distort (request.answer true (m.reply request)))), m.obey request)

/-- The module after a telegram to all modules, which it hears if it has an address. -/
def overhear (m : SimulatedModule) (request : Telegram) : SimulatedModule :=
  if m.address.isSome then (m.receive request).2 else m

end SimulatedModule
end RackBus
