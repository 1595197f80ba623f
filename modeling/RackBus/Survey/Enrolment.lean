import RackBus.Hardware.Bus
import RackBus.Wire.Identity

/-!
# Enrolling a module

A module without an address is brought in by three requests: it tells its identity, takes over its
configuration, and takes the address it was called by.  Between the requests it gets a pause.  The
first request that does not succeed ends the enrolment.
-/

set_option autoImplicit false

namespace RackBus

universe u

variable {σ : Type u}

/-- Enrols the module that listens on `side` under `address`, and answers with its identity. -/
def Bus.enrol (bus : Bus σ) (rack : Rack σ) (address : Address) (side : Side) (pause : UInt32) :
    Except Failure Identity × Bus σ :=
  match bus.exchange rack address .deviceInfo [] with
  | (.error e, bus) => (.error e, bus)
  | (.ok info, bus) =>
    match Identity.decode info with
    | .error e => (.error e, bus)
    | .ok identity =>
      match (bus.pause rack pause).exchange rack address .configure [] with
      | (.error e, bus) => (.error e, bus)
      | (.ok _, bus) =>
        match (bus.pause rack pause).exchange rack address .setAddress
            [address.value, side.code] with
        | (.error e, bus) => (.error e, bus)
        | (.ok _, bus) => (.ok identity, bus)

end RackBus
