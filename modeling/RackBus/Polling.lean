import RackBus.Hardware.Bus
import RackBus.Memory.CoreBlock
import RackBus.Roster.Basic

/-!
# Polling the modules

Once the modules are known, every cycle exchanges the data of each of them with the process image,
counts what fails, and tells the application about it.

* `Sweep.visitAll` goes through the rows of the modules: inactive ones are passed over, gateways are
  noted, all others are exchanged.
* `Poller` remembers the gateways and the time of the last cycle.
* `Polled.cycle` is one cycle with its `Round`, the summary that the bridge acts upon.
-/

set_option autoImplicit false

namespace RackBus

universe u

/-- The first gateway of each side. -/
structure Gateways where
  /-- The gateway on the right side. -/
  right : Option Address
  /-- The gateway on the left side. -/
  left : Option Address
  deriving DecidableEq

namespace Gateways

/-- No gateway is known. -/
def none : Gateways := ⟨.none, .none⟩

/-- The gateway of a side. -/
def at? (g : Gateways) : Side → Option Address
  | .right => g.right
  | .left => g.left

/-- The gateways with one more, unless its side has one already. -/
def note (g : Gateways) (side : Side) (address : Address) : Gateways :=
  match side with
  | .right => { g with right := some (g.right.getD address) }
  | .left => { g with left := some (g.left.getD address) }

end Gateways

/-- The flag that a gateway on this side raises. -/
def Status.gateway : Side → Status
  | .right => rightGateway
  | .left => leftGateway

/-- What polling remembers between two cycles. -/
structure Poller where
  /-- The gateways. -/
  gateways : Gateways
  /-- The time of the last cycle, in microseconds. -/
  lastCycle : Option UInt64
  deriving DecidableEq

/-- Nothing is remembered yet. -/
def Poller.fresh : Poller := ⟨.none, none⟩

/-- The summary of one cycle. -/
structure Round where
  /-- The number of modules whose data was exchanged, or should have been. -/
  polled : Nat
  /-- Did an exchange fail? -/
  failed : Bool
  /-- The sum of all error counts, or the largest word. -/
  errors : UInt16
  /-- Is the sum above the lower limit? -/
  degraded : Bool
  /-- Is the sum above the upper limit, so that the bridge has to stop? -/
  stop : Bool
  deriving DecidableEq

/-! ## Going through the rows -/

/-- What changes while the rows are gone through. -/
structure Sweep (σ : Type u) where
  /-- The bus to the modules. -/
  bus : Bus σ
  /-- The process image. -/
  image : Image
  /-- The gateways seen so far. -/
  gateways : Gateways
  /-- The status flags. -/
  status : Status
  /-- The number of modules polled so far. -/
  polled : Nat
  /-- Has an exchange failed so far? -/
  failed : Bool

namespace Sweep

variable {σ : Type u}

/-- A gateway was seen. -/
def noteGateway (s : Sweep σ) (base address : Address) : Sweep σ :=
  match address.side? base with
  | some side =>
    { s with
      gateways := s.gateways.note side address
      status := s.status.insert (.gateway side) }
  | none => s

/-- One row: its new error count, and everything else that changed. -/
def visit (s : Sweep σ) (rack : Rack σ) (base : Address) (index : Nat) (row : Row) :
    Row × Sweep σ :=
  if !row.active then (row, s)
  else if row.identity.type.isGateway then (row, s.noteGateway base row.address)
  else
    match s.bus.exchangeData rack index row s.image with
    | (.ok (), image, bus) =>
      (row.clearErrors, { s with bus := bus, image := image, polled := s.polled + 1 })
    | (.error _, image, bus) =>
      (row.recordError,
        { s with bus := bus, image := image, polled := s.polled + 1, failed := true })

/-- All rows in order, the first of them with the given index. -/
def visitAll (s : Sweep σ) (rack : Rack σ) (base : Address) : Nat → List Row → List Row × Sweep σ
  | _, [] => ([], s)
  | index, row :: rest =>
    match s.visit rack base index row with
    | (row, s) =>
      match s.visitAll rack base (index + 1) rest with
      | (rest, s) => (row :: rest, s)

end Sweep

/-! ## One cycle -/

/-- Everything that one cycle of polling works on. -/
structure Polled (σ : Type u) where
  /-- What polling remembers. -/
  poller : Poller
  /-- The bus to the modules. -/
  bus : Bus σ
  /-- The roster. -/
  roster : Roster
  /-- The process image. -/
  image : Image
  /-- The status flags. -/
  status : Status

/-- Is `count` above a limit?  Zero is no limit. -/
def exceeds (count limit : UInt16) : Bool := limit != 0 && limit < count

/-- How long ago the last cycle was, in whole milliseconds up to 255; 0 for the first one. -/
def Poller.elapsed (p : Poller) (now : UInt64) : UInt8 :=
  match p.lastCycle with
  | none => 0
  | some last => clampByte ((now.toNat - last.toNat) / 1000)

namespace Polled

variable {σ : Type u}

/-- **One cycle**: all modules but the core are visited, the error count and the cycle time are
shown to the application, and the count is compared with the limits the application has set.
Limits that cannot be read are none. -/
def cycle (p : Polled σ) (rack : Rack σ) (base : Address) (core : CoreBlock) (now : UInt64) :
    Round × Polled σ :=
  let sweep : Sweep σ :=
    { bus := p.bus
      image := p.image
      gateways := p.poller.gateways
      status := p.status
      polled := 0
      failed := false }
  match sweep.visitAll rack base 1 p.roster.modules with
  | (modules, sweep) =>
    let roster := { p.roster with modules := modules }
    let errors := clampWord roster.errorSum
    let image := (core.writeErrors sweep.image errors).2
    let image := (core.writeCycle image (p.poller.elapsed now)).2
    let limits := match core.readLimits image with
      | .ok limits => limits
      | .error _ => (0, 0)
    ({ polled := sweep.polled
       failed := sweep.failed
       errors := errors
       degraded := exceeds errors limits.1
       stop := exceeds errors limits.2 },
      { poller := { gateways := sweep.gateways, lastCycle := some now }
        bus := sweep.bus
        roster := roster
        image := image
        status := sweep.status })

end Polled
end RackBus
