import RackBus.Hardware.Rack

/-!
# The bus

A `Bus` is a rack in use: its state, the trace of everything that was asked of it so far, and the
sequence number of the next telegram.

* One function for each operation of a rack, which performs it and appends an `Event` to the trace.
* `Bus.exchange` sends a request to one module and waits for the accepting answer;
  `Bus.broadcast` sends one to all modules, which do not answer.  Both use up a sequence number
  whatever happens.
-/

set_option autoImplicit false

namespace RackBus

universe u

/-- Something that was asked of a rack, with what came of it. -/
inductive Event where
  | sensed (side : Side) (level : Bool)
  | drove (side : Side) (line : Line)
  | sent (request : Telegram) (answer : Except Failure (Option Telegram))
  | loaded (result : Except Failure (List Declaration))
  | startedDriver (type : ModuleType) (index : Nat) (found : Bool)
  | exchanged (index : Nat) (row : Row) (result : Except Failure Unit)
  | indicated (lamp : Lamp) (level : Bool)
  | paused (ms : UInt32)

/-- A rack in use. -/
structure Bus (σ : Type u) where
  /-- The state of the rack. -/
  rack : σ
  /-- What was asked of the rack, oldest first. -/
  trace : List Event
  /-- The sequence number of the next telegram. -/
  sequence : UInt16

namespace Bus

variable {σ : Type u}

/-- A rack that nothing was asked of yet. -/
def attach (state : σ) : Bus σ := ⟨state, [], 0⟩

/-- The bus with one more event in its trace. -/
def record (bus : Bus σ) (state : σ) (event : Event) : Bus σ :=
  { bus with rack := state, trace := bus.trace ++ [event] }

/-! ## The operations of the rack -/

/-- Reads the sense line of a side. -/
def sense (bus : Bus σ) (rack : Rack σ) (side : Side) : Bool × Bus σ :=
  match rack.sense side bus.rack with
  | (level, state) => (level, bus.record state (.sensed side level))

/-- Sets the enable line of a side. -/
def drive (bus : Bus σ) (rack : Rack σ) (side : Side) (line : Line) : Bus σ :=
  bus.record (rack.drive side line bus.rack) (.drove side line)

/-- Sets the enable lines of both sides, the right one first. -/
def driveBoth (bus : Bus σ) (rack : Rack σ) (line : Line) : Bus σ :=
  (bus.drive rack .right line).drive rack .left line

/-- Sends a telegram. -/
def transfer (bus : Bus σ) (rack : Rack σ) (request : Telegram) :
    Except Failure (Option Telegram) × Bus σ :=
  match rack.transfer request bus.rack with
  | (answer, state) => (answer, bus.record state (.sent request answer))

/-- Reads the declared configuration. -/
def load (bus : Bus σ) (rack : Rack σ) : Except Failure (List Declaration) × Bus σ :=
  match rack.load bus.rack with
  | (result, state) => (result, bus.record state (.loaded result))

/-- Starts the driver of a module. -/
def startDriver (bus : Bus σ) (rack : Rack σ) (type : ModuleType) (index : Nat) : Bus σ :=
  match rack.startDriver type index bus.rack with
  | (found, state) => bus.record state (.startedDriver type index found)

/-- Exchanges the data of a module with the process image. -/
def exchangeData (bus : Bus σ) (rack : Rack σ) (index : Nat) (row : Row) (image : Image) :
    Except Failure Unit × Image × Bus σ :=
  match rack.exchange index row image bus.rack with
  | (result, image, state) => (result, image, bus.record state (.exchanged index row result))

/-- Switches a lamp. -/
def indicate (bus : Bus σ) (rack : Rack σ) (lamp : Lamp) (level : Bool) : Bus σ :=
  bus.record (rack.indicate lamp level bus.rack) (.indicated lamp level)

/-- Waits for some milliseconds. -/
def pause (bus : Bus σ) (rack : Rack σ) (ms : UInt32) : Bus σ :=
  bus.record (rack.pause ms bus.rack) (.paused ms)

/-! ## Requests -/

/-- The bus with the sequence number used up. -/
def advance (bus : Bus σ) : Bus σ := { bus with sequence := bus.sequence + 1 }

/-- Sends a request to one module and waits for its answer.  Answers with the payload if the
module accepted. -/
def exchange (bus : Bus σ) (rack : Rack σ) (address : Address) (command : Command)
    (payload : List UInt8) : Except Failure (List UInt8) × Bus σ :=
  match Telegram.request .core address command bus.sequence payload with
  | .error e => (.error e, bus.advance)
  | .ok request =>
    match bus.advance.transfer rack request with
    | (answer, bus) => (request.accept answer, bus)

/-- Sends a request to all modules.  They do not answer. -/
def broadcast (bus : Bus σ) (rack : Rack σ) (command : Command) (payload : List UInt8) :
    Except Failure Unit × Bus σ :=
  match Telegram.request .core .broadcast command bus.sequence payload with
  | .error e => (.error e, bus.advance)
  | .ok request =>
    match bus.advance.transfer rack request with
    | (.error e, bus) => (.error e, bus)
    | (.ok _, bus) => (.ok (), bus)

/-! ## What an operation does to the sequence number -/

@[simp] theorem sequence_record (bus : Bus σ) (state : σ) (event : Event) :
    (bus.record state event).sequence = bus.sequence := rfl

@[simp] theorem trace_record (bus : Bus σ) (state : σ) (event : Event) :
    (bus.record state event).trace = bus.trace ++ [event] := rfl

theorem sequence_exchange (bus : Bus σ) (rack : Rack σ) (address : Address) (command : Command)
    (payload : List UInt8) :
    (bus.exchange rack address command payload).2.sequence = bus.sequence + 1 := by
  rw [exchange]
  split
  · rfl
  · rfl

theorem sequence_broadcast (bus : Bus σ) (rack : Rack σ) (command : Command)
    (payload : List UInt8) :
    (bus.broadcast rack command payload).2.sequence = bus.sequence + 1 := by
  rw [broadcast]
  split
  · rfl
  · simp only [transfer]
    split <;> rename_i h <;> (obtain ⟨-, rfl⟩ := Prod.mk.inj h; rfl)

end Bus
end RackBus
