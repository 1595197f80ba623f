import RackBus.Document.Load
import RackBus.Hardware.Rack
import RackBus.Simulation.Module

/-!
# A simulated rack

Modules in two chains, the nearest to the core first.  A telegram reaches the module with its
address; when no module has that address, it reaches the nearest module without one, on a side
whose enable line is high.  A telegram to all modules gets no answer; on a rack that heeds such
telegrams it reaches every module that has an address.

* `Chains.responder?` finds the module a telegram reaches, and `Chains.announce` hands a telegram to
  all modules.
* `Chains.rack` is the simulation as a `Rack`.
-/

set_option autoImplicit false

namespace RackBus

/-- A simulated rack. -/
structure Chains where
  /-- The modules on the right side. -/
  right : List SimulatedModule
  /-- The modules on the left side. -/
  left : List SimulatedModule
  /-- The enable line of the right side. -/
  rightLine : Line
  /-- The enable line of the left side. -/
  leftLine : Line
  /-- What the right sense line shows next, before it shows the modules. -/
  rightSense : List Bool
  /-- What the left sense line shows next, before it shows the modules. -/
  leftSense : List Bool
  /-- The declared modules. -/
  declared : List Declaration
  /-- A document that takes the place of the declared modules. -/
  document : Option String
  /-- Does loading fail? -/
  failLoad : Bool
  /-- Does sending to all modules fail? -/
  failBroadcast : Bool
  /-- Does a telegram to all modules reach those that have an address?  If not, it reaches nobody. -/
  heedsAll : Bool
  /-- The addresses whose exchange fails. -/
  failing : List Address
  /-- The types without a driver. -/
  noDriver : List ModuleType

namespace Chains

/-- A rack with modules in both chains that only heed what is sent to them alone, and nothing else
out of the ordinary. -/
def ofModules (right left : List SimulatedModule) : Chains where
  right := right
  left := left
  rightLine := .released
  leftLine := .released
  rightSense := []
  leftSense := []
  declared := []
  document := none
  failLoad := false
  failBroadcast := false
  heedsAll := false
  failing := []
  noDriver := []

/-- The modules of a side. -/
def chain (c : Chains) : Side → List SimulatedModule
  | .right => c.right
  | .left => c.left

/-- The rack with other modules on a side. -/
def withChain (c : Chains) (side : Side) (modules : List SimulatedModule) : Chains :=
  match side with
  | .right => { c with right := modules }
  | .left => { c with left := modules }

/-- The enable line of a side. -/
def line (c : Chains) : Side → Line
  | .right => c.rightLine
  | .left => c.leftLine

/-! ## The wires -/

/-- Sets an enable line. -/
def drive (side : Side) (line : Line) (c : Chains) : Chains :=
  match side with
  | .right => { c with rightLine := line }
  | .left => { c with leftLine := line }

/-- Does a module of this side wait for an address? -/
def waits (c : Chains) (side : Side) : Bool := (c.chain side).any fun m ↦ m.address.isNone

/-- Reads a sense line. -/
def sense (side : Side) (c : Chains) : Bool × Chains :=
  match side with
  | .right =>
    match c.rightSense with
    | level :: rest => (level, { c with rightSense := rest })
    | [] => (c.waits .right, c)
  | .left =>
    match c.leftSense with
    | level :: rest => (level, { c with leftSense := rest })
    | [] => (c.waits .left, c)

/-! ## The bus -/

/-- The position of the module on this side with the given address. -/
def holder? (c : Chains) (side : Side) (address : Address) : Option (Side × Nat) :=
  ((c.chain side).findIdx? fun m ↦ m.address == some address).map fun i ↦ (side, i)

/-- The position of the nearest module on this side without an address. -/
def waiting? (c : Chains) (side : Side) : Option (Side × Nat) :=
  ((c.chain side).findIdx? fun m ↦ m.address.isNone).map fun i ↦ (side, i)

/-- The side whose modules without an address listen, the right one first. -/
def enabled? (c : Chains) : Option Side :=
  if c.rightLine = .high then some .right
  else if c.leftLine = .high then some .left
  else none

/-- The module that a telegram to this address reaches. -/
def responder? (c : Chains) (address : Address) : Option (Side × Nat) :=
  match (c.holder? .right address).or (c.holder? .left address) with
  | some place => some place
  | none => c.enabled?.bind c.waiting?

/-- Hands a telegram to all modules. -/
def announce (request : Telegram) (c : Chains) : Chains :=
  if c.heedsAll then
    { c with
      right := c.right.map fun m ↦ m.overhear request
      left := c.left.map fun m ↦ m.overhear request }
  else c

/-- Sends a telegram. -/
def transfer (request : Telegram) (c : Chains) : Except Failure (Option Telegram) × Chains :=
  if request.destination.isBroadcast then
    if c.failBroadcast then (.error .noTransport, c) else (.ok none, c.announce request)
  else
    match c.responder? request.destination with
    | none => (.error .noTransport, c)
    | some (side, i) =>
      match (c.chain side)[i]? with
      | none => (.error .noTransport, c)
      | some m =>
        match m.receive request with
        | (answer, m) => (answer, c.withChain side ((c.chain side).set i m))

/-! ## Configuration and drivers -/

/-- Loads the declared configuration. -/
def load (c : Chains) : Except Failure (List Declaration) × Chains :=
  if c.failLoad then (.error (.notLoaded "simulated load failure"), c)
  else
    match c.document with
    | none => (.ok c.declared, c)
    | some text => ((Document.loadDeclarations text).mapError Document.Failure.toFailure, c)

/-- Starts a driver, if there is one for the type. -/
def startDriver (type : ModuleType) (_ : Nat) (c : Chains) : Bool × Chains :=
  (!c.noDriver.contains type, c)

/-- Exchanges the data of a module: its address becomes its first input byte. -/
def exchange (_ : Nat) (row : Row) (image : Image) (c : Chains) :
    Except Failure Unit × Image × Chains :=
  if c.failing.contains row.address then (.error .driverFailed, image, c)
  else if row.identity.inputLength = 0 then (.ok (), image, c)
  else
    match image.writeByte row.inputOffset.toNat row.address.value with
    | (result, image) => (result, image, c)

/-- The simulation as a rack. -/
def rack : Rack Chains where
  sense := sense
  drive := drive
  transfer := transfer
  load := load
  startDriver := startDriver
  exchange := exchange
  indicate _ _ c := c
  pause _ c := c

/-! ## What a person can do -/

/-- Every module forgets its address. -/
def unassign (c : Chains) : Chains :=
  let forget (m : SimulatedModule) : SimulatedModule := { m with address := none }
  { c with right := c.right.map forget, left := c.left.map forget }

/-- A module is added at the end of a side. -/
def plug (c : Chains) (side : Side) (m : SimulatedModule) : Chains :=
  c.withChain side (c.chain side ++ [m])

/-- A module is taken away, if there is one at this position. -/
def unplug (c : Chains) (side : Side) (position : Nat) : Chains :=
  c.withChain side ((c.chain side).eraseIdx position)

/-! ## What does not touch the modules -/

theorem snd_load (c : Chains) : c.load.2 = c := by
  rw [load]
  split
  · rfl
  · split <;> rfl

theorem snd_exchange (c : Chains) (index : Nat) (row : Row) (image : Image) :
    (c.exchange index row image).2.2 = c := by
  rw [exchange]
  split
  · rfl
  · split <;> rfl

/-- The simulated drivers leave the size of the image alone. -/
theorem rack_keepsSize : rack.KeepsSize := by
  intro index row image c
  show (exchange index row image c).2.1.size = image.size
  rw [exchange]
  split
  · rfl
  · split
    · rfl
    · exact Image.size_writeByte image _ _

end Chains
end RackBus
