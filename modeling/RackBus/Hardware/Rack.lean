import RackBus.Roster.Row
import RackBus.Memory.Image
import RackBus.Wire.Telegram

/-!
# What a bridge is attached to

A bridge reaches the world through eight operations: two wires on each side, the serial bus, the
store of the declared configuration, the drivers of the modules, the lamps, and the clock.

`Rack σ` is any way of providing them, with a state `σ` of its own that the library never looks
into.  Every statement about a bridge can thus be made for all racks at once.
-/

set_option autoImplicit false

namespace RackBus

universe u

/-- What can be done to the wire that enables the modules of a side. -/
inductive Line where
  /-- Driven high: modules without an address listen. -/
  | high
  /-- Low, and no longer driven. -/
  | released
  deriving DecidableEq

/-- A lamp. -/
inductive Lamp where
  /-- Lit while the bridge does not run. -/
  | fault
  | a1Green
  | a1Red
  | a2Green
  | a2Red
  deriving DecidableEq

/-- A way of reaching the world, which is in a state of type `σ`. -/
structure Rack (σ : Type u) where
  /-- Is there a module on this side that waits for an address? -/
  sense : Side → σ → Bool × σ
  /-- Sets the enable line of a side. -/
  drive : Side → Line → σ → σ
  /-- Sends a telegram and waits for its answer, if there is one. -/
  transfer : Telegram → σ → Except Failure (Option Telegram) × σ
  /-- Reads the declared configuration. -/
  load : σ → Except Failure (List Declaration) × σ
  /-- Starts the driver of a module, given its type and the index of its row; is there one? -/
  startDriver : ModuleType → Nat → σ → Bool × σ
  /-- Exchanges the data of a module with the process image. -/
  exchange : Nat → Row → Image → σ → Except Failure Unit × Image × σ
  /-- Switches a lamp. -/
  indicate : Lamp → Bool → σ → σ
  /-- Waits for some milliseconds. -/
  pause : UInt32 → σ → σ

/-- Every driver leaves the size of the process image alone. -/
def Rack.KeepsSize {σ : Type u} (rack : Rack σ) : Prop :=
  ∀ index row image s, (rack.exchange index row image s).2.1.size = image.size

end RackBus
