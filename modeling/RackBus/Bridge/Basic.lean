import RackBus.Bridge.Control
import RackBus.Polling
import RackBus.Roster.Reconcile
import RackBus.Survey.Basic

/-!
# Bridges

A bridge owns a rack: it surveys the modules, compares them with the declared configuration, and
then polls them, one step with every cycle of its owner.

* `Bridge.start` makes a bridge, `Bridge.runCycle` runs one cycle, `Bridge.reset` starts all over.
* `Bridge.endSurvey` is what happens between the survey and the polling: the comparison, the start
  of the exchange, and the start of the drivers.
* `Bridge.applyRunning` and `Bridge.publish` show the outcome of a cycle: the running flag and the
  fault lamp, the status byte and the lamps the application has set.
-/

set_option autoImplicit false

namespace RackBus

universe u

/-- A bridge and everything it owns. -/
structure Bridge (σ : Type u) where
  /-- The parameters it was made with. -/
  settings : Settings
  /-- What can be seen and asked from outside. -/
  control : Control
  /-- The bus to the modules. -/
  bus : Bus σ
  /-- The survey. -/
  survey : Survey
  /-- The modules. -/
  roster : Roster
  /-- What polling remembers. -/
  poller : Poller
  /-- The process image. -/
  image : Image
  /-- Where the core's bytes are, once the survey is over. -/
  core : Option CoreBlock
  /-- The declared configuration. -/
  declared : List Declaration
  /-- Do the running flag and the fault lamp say that the bridge runs? -/
  shownRunning : Bool
  /-- The lamps that were shown last. -/
  shownLamps : Option UInt8
  /-- The report of the last comparison. -/
  report : Option Report
  /-- The summary of the last round of polling. -/
  round : Option Round

namespace Bridge

variable {σ : Type u}

/-! ## Making a bridge -/

/-- A bridge on a rack, with the declared configuration loaded.  Parameters that could not work and
a configuration that cannot be loaded are refused. -/
def start (rack : Rack σ) (state : σ) (settings : Settings) : Except Failure (Bridge σ) :=
  match settings.check with
  | .error e => .error e
  | .ok () =>
    match (Bus.attach state).load rack with
    | (.error e, _) => .error e
    | (.ok declared, bus) => .ok
      { settings := settings
        control := .fresh (if settings.autoStart then .initializing else .stopped)
        bus := bus.indicate rack .fault true
        survey := .start settings.rightBase
        roster := .ofCore settings.maxDevices settings.coreIdentity
        poller := .fresh
        image := .zeroed settings.imageSize
        core := none
        declared := declared
        shownRunning := false
        shownLamps := none
        report := none
        round := none }

/-! ## Showing the outcome of a cycle -/

/-- Does the bridge run? -/
def isRunning (b : Bridge σ) : Bool := b.control.state == .running

/-- Brings the running flag and the fault lamp up to date, if they are not. -/
def applyRunning (b : Bridge σ) (rack : Rack σ) : Bridge σ :=
  if b.isRunning = b.shownRunning then b
  else
    let status := b.control.status
    { b with
      shownRunning := b.isRunning
      control :=
        { b.control with
          status := if b.isRunning then status.insert .running else status.remove .running }
      bus := b.bus.indicate rack .fault !b.isRunning }

/-- The lamps the application can switch, in the order of their bits. -/
def lamps : List Lamp := [.a1Green, .a1Red, .a2Green, .a2Red]

/-- Is this bit of a byte set? -/
def bit (byte : UInt8) (position : Nat) : Bool := byte.toNat.testBit position

/-- Shows the status flags in the image, and switches the lamps if the application has changed
them.  There is nothing to do before the survey is over. -/
def publish (b : Bridge σ) (rack : Rack σ) : Bridge σ :=
  match b.core with
  | none => b
  | some core =>
    let b := { b with image := (core.writeStatus b.image b.control.status).2 }
    match core.readLamps b.image with
    | .error _ => b
    | .ok byte =>
      if b.shownLamps = some byte then b
      else
        { b with
          bus := lamps.zipIdx.foldl (fun bus e ↦ bus.indicate rack e.1 (bit byte e.2)) b.bus
          shownLamps := some byte }

/-! ## Starting all over -/

/-- The bridge with everything forgotten that a survey and the polling have brought.  The sequence
number of the bus and a waiting maintenance command stay. -/
def forget (b : Bridge σ) : Bridge σ :=
  { b with
    roster := .ofCore b.roster.capacity b.settings.coreIdentity
    survey := .start b.settings.rightBase
    poller := .fresh
    image := b.image.clear
    core := none
    shownLamps := none
    report := none
    round := none
    control := { b.control with status := .empty, errors := 0 } }

/-- Stops, forgets everything, and loads the declared configuration anew.  Without it the bridge
stays stopped and keeps the old one. -/
def restart (b : Bridge σ) (rack : Rack σ) : Except Failure Unit × Bridge σ :=
  let b := ({ b with control := b.control.stop }.applyRunning rack).forget
  match b.bus.load rack with
  | (.error e, bus) => (.error e, { b with bus := bus })
  | (.ok declared, bus) =>
    (.ok (),
      { b with
        bus := bus
        declared := declared
        control := { b.control with state := .initializing } })

/-- Starts all over at once. -/
def reset (b : Bridge σ) (rack : Rack σ) : Except Failure Unit × Bridge σ :=
  match b.restart rack with
  | (result, b) => (result, b.applyRunning rack)

/-- Starts all over if that was asked for.  A configuration that cannot be loaded leaves the bridge
stopped, and nobody is told. -/
def resetIfRequested (b : Bridge σ) (rack : Rack σ) : Bridge σ :=
  if b.control.resetRequested then
    ({ b with control := { b.control with resetRequested := false } }.restart rack).2
  else b

/-! ## The work of a cycle -/

/-- Sends the maintenance command that waits.  What the module answers does not matter. -/
def performMaintenance (b : Bridge σ) (rack : Rack σ) : Bridge σ :=
  match b.control.waiting with
  | none => b
  | some action =>
    { b with
      control := { b.control with waiting := none }
      bus := (b.bus.exchange rack action.address action.command action.payload).2 }

/-- Starts the drivers of the active input and output modules, in the order of their rows. -/
def startDrivers (bus : Bus σ) (rack : Rack σ) (roster : Roster) : Bus σ :=
  (roster.active.filter fun e ↦ e.1.identity.type.isInputOutput).foldl
    (fun bus e ↦ bus.startDriver rack e.1.identity.type e.2) bus

/-- The survey is over: the roster is compared with the declarations, the exchange and the drivers
are started, and the bridge runs. -/
def endSurvey (b : Bridge σ) (rack : Rack σ) : Bridge σ :=
  match b.roster.reconcile b.declared b.image.size b.control.status with
  | (roster, status, report) =>
    let bus := (b.bus.broadcast rack .startExchange []).2
    { b with
      roster := roster
      core := some report.core
      report := some report
      bus := startDrivers (bus.pause rack b.settings.timings.startPause) rack roster
      control := { b.control with state := .running, status := status } }

/-- One round of polling.  A round that asks for a stop gets it. -/
def poll (b : Bridge σ) (rack : Rack σ) (now : UInt64) : Bridge σ :=
  match b.core with
  | none => b
  | some core =>
    let polled : Polled σ :=
      { poller := b.poller
        bus := b.bus
        roster := b.roster
        image := b.image
        status := b.control.status }
    match polled.cycle rack b.settings.rightBase core now with
    | (round, polled) =>
      { b with
        poller := polled.poller
        bus := polled.bus
        roster := polled.roster
        image := polled.image
        round := some round
        control :=
          { b.control with
            state := if round.stop then .stopped else b.control.state
            status := polled.status
            errors := round.errors } }

/-- One step of the survey, and a round of polling once it is over. -/
def work (b : Bridge σ) (rack : Rack σ) (now : UInt64) : Bridge σ :=
  let site : Site σ := { survey := b.survey, bus := b.bus, roster := b.roster }
  match site.step rack b.settings now with
  | (progress, site) =>
    let b := { b with survey := site.survey, bus := site.bus, roster := site.roster }
    match progress with
    | .surveying => b
    | .finished entered =>
      let b := if entered then b.endSurvey rack else b
      if b.isRunning then b.poll rack now else b

/-- **One cycle**, after which the state is that of `control`. -/
def runCycle (b : Bridge σ) (rack : Rack σ) (now : UInt64) : Bridge σ :=
  let b := b.resetIfRequested rack
  let b := if b.control.state = .stopped then b.performMaintenance rack else b.work rack now
  (b.applyRunning rack).publish rack

end Bridge
end RackBus
