import RackBus.Proofs.Conduct
import RackBus.Proofs.Encoding
import RackBus.Proofs.RosterHistory

/-!
# Maintenance commands

A maintenance command is accepted if none is waiting, waits for a cycle that finds the bridge
stopped, and is then sent once.  No other telegram asks for maintenance.

* `Errand` is what a maintenance command and its telegram have in common, and `Bus.errands` are the
  errands that were sent so far.  `Maintenance.errand_injective`: the errand tells which command it
  was.
* `Bridge.accepted` are the commands that a history of a bridge accepts.
* `Bridge.Attends` says what a bridge in some state does about maintenance, `Bridge.errands_perform`
  is what one operation does to the errands that were sent and the one that waits, and
  `Bridge.attends_run` says that after every history the errands that were sent and the one that
  waits are those that were accepted, in their order.
-/

set_option autoImplicit false

namespace RackBus

universe u

/-! ## Errands -/

/-- What a telegram is about. -/
structure Errand where
  /-- The module that is meant. -/
  address : Address
  /-- The code of the request. -/
  code : UInt16
  payload : List UInt8
  deriving DecidableEq

/-- What a telegram is about. -/
def Telegram.errand (t : Telegram) : Errand := ⟨t.destination, t.command, t.payload⟩

/-- What the telegram of a maintenance command has to be about. -/
def Maintenance.errand (action : Maintenance) : Errand :=
  ⟨action.address, action.command.code, action.payload⟩

/-- No two maintenance commands have the same errand. -/
theorem Maintenance.errand_injective : Function.Injective errand := by
  intro first second h
  obtain ⟨haddress, hcode, hpayload⟩ := Errand.mk.inj h
  have hserial (m n : UInt32) (h : LittleEndian.bytes 4 m.toNat = LittleEndian.bytes 4 n.toNat) :
      m = n := by
    have hm : LittleEndian.double (LittleEndian.bytes 4 m.toNat) 0 = m :=
      LittleEndian.double_of_bytes rfl
    have hn : LittleEndian.double (LittleEndian.bytes 4 n.toNat) 0 = n :=
      LittleEndian.double_of_bytes rfl
    rw [← hm, ← hn, h]
  cases first <;> cases second
  case firmwareUpdate.firmwareUpdate => exact congrArg _ haddress
  case writeSerial.writeSerial => exact congrArg₂ _ haddress (hserial _ _ hpayload)
  case forceReset.forceReset => exact congrArg _ haddress
  all_goals exact absurd hcode (by simp [command, Command.code])

/-- The errand that was sent, if an event is the sending of a maintenance telegram. -/
def Event.errand? : Event → Option Errand
  | sent request _ => if request.task? = some .upkeep then some request.errand else none
  | _ => none

theorem Event.errand?_eq_none {e : Event} {task : Task} (h : e.serves task = true)
    (htask : task ≠ .upkeep) : e.errand? = none := by
  cases e with
  | sent request answer =>
    have hrequest : request.task? = some task := by simpa [serves] using h
    refine if_neg ?_
    rw [hrequest]
    exact fun heq ↦ htask (Option.some.inj heq)
  | _ => rfl

/-- The events that have nothing to do with the modules: a lamp is switched, or the declared
configuration is loaded. -/
def Event.isAside : Event → Bool
  | indicated _ _ => true
  | loaded _ => true
  | _ => false

theorem Event.isAside_of_serves {e : Event} {tasks : List Task}
    (htasks : tasks ⊆ [.alarm, .loading, .lamps]) (h : tasks.any e.serves = true) :
    e.isAside = true := by
  obtain ⟨task, hmem, hserves⟩ := List.any_eq_true.mp h
  have htask : task = .alarm ∨ task = .loading ∨ task = .lamps := by simpa using htasks hmem
  cases e with
  | indicated lamp level => rfl
  | loaded result => rfl
  | sent request answer =>
    have hrequest : request.task? = some task := by simpa [serves] using hserves
    obtain ⟨c, -, hc⟩ := Option.map_eq_some_iff.mp hrequest
    rcases htask with rfl | rfl | rfl <;> cases c <;> exact absurd hc (by decide)
  | _ => rcases htask with rfl | rfl | rfl <;> exact absurd hserves (by simp [serves])

namespace Bus

variable {σ : Type u} {rack : Rack σ} {bus after : Bus σ}

/-- The errands that were sent so far. -/
def errands (bus : Bus σ) : List Errand := bus.trace.filterMap Event.errand?

theorem errands_eq {events : List Event} (h : after.trace = bus.trace ++ events) :
    after.errands = bus.errands ++ events.filterMap Event.errand? := by
  rw [errands, h, List.filterMap_append, errands]

/-- Nothing but maintenance sends errands. -/
theorem Works.exists_trace_eq {tasks : List Task} (h : Works rack tasks bus after)
    (htasks : .upkeep ∉ tasks) :
    ∃ events, after.trace = bus.trace ++ events ∧ events.filterMap Event.errand? = [] ∧
      ∀ e ∈ events, tasks.any e.serves = true := by
  obtain ⟨events, htrace, hevents⟩ := Asks.exists_trace_eq h
  refine ⟨events, htrace, List.filterMap_eq_nil_iff.mpr ?_, hevents⟩
  intro e he
  obtain ⟨task, htask, hserves⟩ := List.any_eq_true.mp (hevents e he)
  exact Event.errand?_eq_none hserves fun heq ↦ htasks (heq ▸ htask)

end Bus

namespace Bridge

variable {σ : Type u} (b : Bridge σ) (rack : Rack σ)

/-! ## What a cycle does -/

/-- What is left to the errand of the command that waits. -/
def pending : List Errand := b.control.waiting.toList.map Maintenance.errand

/-- Maintenance sends one telegram if a command waits, and does nothing else. -/
theorem trace_performMaintenance :
    ∃ events, (b.performMaintenance rack).bus.trace = b.bus.trace ++ events ∧
      events.filterMap Event.errand? = b.pending ∧ ∀ e ∈ events, e.errand? ≠ none := by
  rw [performMaintenance, pending]
  split
  · rename_i hwaiting
    exact ⟨[], (List.append_nil _).symm, by simp [hwaiting], by simp⟩
  · rename_i action hwaiting
    have htask (sequence : UInt16) (answer : Except Failure (Option Telegram)) :
        (Event.sent ⟨action.address, .core, action.command.code, sequence, action.payload⟩
          answer).errand? = some action.errand :=
      if_pos ((Telegram.task?_eq rfl).trans (congrArg some action.task_command))
    dsimp only
    rw [b.bus.exchange_eq_transfer rack action.address action.command action.length_payload_le,
      hwaiting, (Bus.Step.send _).trace_eq]
    exact ⟨[_], rfl, by simp [htask], by simp [htask]⟩

/-- **A cycle that works** sends no errand. -/
theorem trace_runCycle_of_working (hworking : (b.resetIfRequested rack).control.state ≠ .stopped)
    (now : UInt64) :
    ∃ events, (b.runCycle rack now).bus.trace = b.bus.trace ++ events ∧
      events.filterMap Event.errand? = [] := by
  have hworks : Bus.Works rack
      [.alarm, .loading, .wiring, .survey, .launch, .polling, .lamps] b.bus
      (b.runCycle rack now).bus := by
    have hreset := b.works_resetIfRequested rack
    rw [← b.runCycle_resetIfRequested, runCycle_eq _ rack (b.resetRequested_resetIfRequested rack),
      if_neg hworking]
    generalize b.resetIfRequested rack = c at hreset
    have hwork := c.works_work rack now
    have hshown := (c.work rack now).works_shown rack
    exact ((hreset.subset (by simp)).trans (hwork.subset (by simp))).trans (hshown.subset (by simp))
  obtain ⟨events, htrace, hquiet, -⟩ := hworks.exists_trace_eq (by simp)
  exact ⟨events, htrace, hquiet⟩

/-- **A cycle that finds the bridge stopped** sends the errand that waits, and asks for nothing else
from any module. -/
theorem trace_runCycle_of_stopped (hstopped : (b.resetIfRequested rack).control.state = .stopped)
    (now : UInt64) :
    ∃ events, (b.runCycle rack now).bus.trace = b.bus.trace ++ events ∧
      events.filterMap Event.errand? = b.pending ∧
      ∀ e ∈ events, e.errand? = none → e.isAside = true := by
  have hpending : (b.resetIfRequested rack).pending = b.pending :=
    congrArg (fun waiting ↦ waiting.toList.map Maintenance.errand)
      (b.waiting_resetIfRequested rack)
  obtain ⟨first, hfirst, hfirstQuiet, hfirstAside⟩ :=
    (b.works_resetIfRequested rack).exists_trace_eq (by simp)
  rw [← b.runCycle_resetIfRequested, runCycle_eq _ rack (b.resetRequested_resetIfRequested rack),
    if_pos hstopped]
  generalize b.resetIfRequested rack = c at hpending hfirst
  obtain ⟨sent, hsent, herrands, hall⟩ := c.trace_performMaintenance rack
  obtain ⟨last, hlast, hlastQuiet, hlastAside⟩ :=
    ((c.performMaintenance rack).works_shown rack).exists_trace_eq (by simp)
  refine ⟨first ++ sent ++ last, ?_, ?_, ?_⟩
  · rw [hlast, hsent, hfirst]
    simp only [List.append_assoc]
  · rw [List.filterMap_append, List.filterMap_append, hfirstQuiet, herrands, hlastQuiet, hpending,
      List.nil_append, List.append_nil]
  · intro e he hquiet
    rcases List.mem_append.mp he with he | he
    · rcases List.mem_append.mp he with he | he
      · exact Event.isAside_of_serves (by simp) (hfirstAside e he)
      · exact absurd hquiet (hall e he)
    · exact Event.isAside_of_serves (by simp) (hlastAside e he)

/-! ## What operations do -/

/-- What a bridge in some state does about maintenance. -/
structure Attends (b : Bridge σ) : Prop where
  /-- A command is accepted exactly if none is waiting; otherwise nothing changes. -/
  takes : ∀ action, b.control.requestMaintenance action =
    if b.control.waiting = none then (.ok (), { b.control with waiting := some action })
    else (.error .busy, b.control)
  /-- A cycle that finds the bridge stopped, after the reset that was asked for, sends the errand
  that waits.  It sends no other telegram, reads no line and calls no driver. -/
  stopped : ∀ now, (b.resetIfRequested rack).control.state = .stopped →
    ∃ events, (b.runCycle rack now).bus.trace = b.bus.trace ++ events ∧
      events.filterMap Event.errand? = b.pending ∧
      ∀ e ∈ events, e.errand? = none → e.isAside = true
  /-- Another cycle sends no errand. -/
  working : ∀ now, (b.resetIfRequested rack).control.state ≠ .stopped →
    ∃ events, (b.runCycle rack now).bus.trace = b.bus.trace ++ events ∧
      events.filterMap Event.errand? = []
  /-- Nor does anything else. -/
  others : ∀ o, (∀ now, o ≠ .cycle now) →
    ∃ events, (b.perform rack o).bus.trace = b.bus.trace ++ events ∧
      events.filterMap Event.errand? = []

theorem trace_perform_of_ne_cycle {o : Operation} (ho : ∀ now, o ≠ .cycle now) :
    ∃ events, (b.perform rack o).bus.trace = b.bus.trace ++ events ∧
      events.filterMap Event.errand? = [] := by
  cases o with
  | cycle now => exact absurd rfl (ho now)
  | reset =>
    obtain ⟨events, htrace, hquiet, -⟩ := (b.works_restart rack).exists_trace_eq (by simp)
    rw [perform, reset_eq]
    exact ⟨events, htrace, hquiet⟩
  | _ => exact ⟨[], (List.append_nil _).symm, rfl⟩

theorem attends : b.Attends rack where
  takes action := by
    rw [Control.requestMaintenance]
    cases b.control.waiting <;> rfl
  stopped now hstopped := b.trace_runCycle_of_stopped rack hstopped now
  working now hworking := b.trace_runCycle_of_working rack hworking now
  others _ ho := b.trace_perform_of_ne_cycle rack ho

/-- The command that an operation makes the bridge accept. -/
def accepted? : Operation → Option Maintenance
  | .requestMaintenance action =>
    match b.control.requestMaintenance action with
    | (.ok (), _) => some action
    | (.error _, _) => none
  | _ => none

/-- The commands that a history makes the bridge accept, in their order. -/
def accepted (b : Bridge σ) : List Operation → List Maintenance
  | [] => []
  | o :: rest => (b.accepted? o).toList ++ accepted (b.perform rack o) rest

theorem waiting_runCycle (now : UInt64) :
    (b.runCycle rack now).control.waiting =
      if (b.resetIfRequested rack).control.state = .stopped then none else b.control.waiting := by
  have hwaiting := b.waiting_resetIfRequested rack
  rw [← b.runCycle_resetIfRequested, runCycle_eq _ rack (b.resetRequested_resetIfRequested rack)]
  generalize b.resetIfRequested rack = c at hwaiting
  have hshown (d : Bridge σ) : ((d.applyRunning rack).publish rack).control.waiting =
      d.control.waiting := by
    obtain ⟨status, bus, image, shownLamps, hshown, -⟩ := d.shown_eq rack
    rw [hshown]
  rw [hshown]
  split
  · obtain ⟨bus, hmaintenance⟩ := c.performMaintenance_eq rack
    rw [hmaintenance]
  · exact (congrArg Standing.waiting (c.standing_work rack now)).trans hwaiting

/-- **What an operation does** to the errands that were sent and the one that waits: what it accepts
comes behind them. -/
theorem errands_perform (o : Operation) :
    (b.perform rack o).bus.errands ++ (b.perform rack o).pending =
      b.bus.errands ++ b.pending ++ (b.accepted? o).toList.map Maintenance.errand := by
  cases o with
  | cycle now =>
    have hnone : b.accepted? (.cycle now) = none := rfl
    rw [perform, pending, b.waiting_runCycle, hnone, Option.toList_none, List.map_nil,
      List.append_nil]
    split
    · rename_i hstopped
      obtain ⟨events, htrace, herrands, -⟩ := b.trace_runCycle_of_stopped rack hstopped now
      rw [Bus.errands_eq htrace, herrands]
      exact List.append_nil _
    · rename_i hworking
      obtain ⟨events, htrace, hquiet⟩ := b.trace_runCycle_of_working rack hworking now
      rw [Bus.errands_eq htrace, hquiet, List.append_nil, pending]
  | reset =>
    obtain ⟨events, htrace, hquiet⟩ :=
      b.trace_perform_of_ne_cycle rack (o := .reset) (fun _ ↦ by simp)
    have hpending : (b.perform rack .reset).pending = b.pending := by
      rw [pending, perform, reset_eq, restart_eq]
      split <;> rfl
    rw [Bus.errands_eq htrace, hquiet, hpending, List.append_nil]
    exact (List.append_nil _).symm
  | requestMaintenance action =>
    rw [perform, pending, pending, accepted?, Control.requestMaintenance]
    cases hwaiting : b.control.waiting with
    | none => simp
    | some other => simp [hwaiting]
  | _ => exact (List.append_nil _).symm

theorem errands_run (operations : List Operation) :
    (b.run rack operations).bus.errands ++ (b.run rack operations).pending =
      b.bus.errands ++ b.pending ++ (b.accepted rack operations).map Maintenance.errand := by
  induction operations generalizing b with
  | nil => exact (List.append_nil _).symm
  | cons o rest ih =>
    rw [run_cons, ih, errands_perform, accepted, List.map_append, List.append_assoc]

variable {b rack}

/-- A new bridge has sent no errand, and none waits. -/
theorem errands_run_of_start {state : σ} {settings : Settings}
    (hb : start rack state settings = .ok b) (operations : List Operation) :
    (b.run rack operations).bus.errands ++ (b.run rack operations).pending =
      (b.accepted rack operations).map Maintenance.errand := by
  rw [errands_run]
  obtain ⟨declared, -, rfl⟩ := eq_of_start hb
  rfl

/-- What is accepted was requested. -/
theorem requested_of_mem_accepted {operations : List Operation} {action : Maintenance}
    (h : action ∈ b.accepted rack operations) : .requestMaintenance action ∈ operations := by
  induction operations generalizing b with
  | nil => exact absurd h List.not_mem_nil
  | cons o rest ih =>
    rcases List.mem_append.mp h with hfirst | hrest
    · have haccepted : b.accepted? o = some action := Option.mem_toList.mp hfirst
      cases o with
      | requestMaintenance other =>
        rw [accepted?] at haccepted
        split at haccepted
        · obtain rfl := Option.some.inj haccepted
          exact List.mem_cons_self
        · exact absurd haccepted (by simp)
      | _ => exact absurd haccepted (by simp [accepted?])
    · exact List.mem_cons_of_mem _ (ih hrest)

/-- **Only errands that were requested are sent.** -/
theorem exists_requested {state : σ} {settings : Settings} (hb : start rack state settings = .ok b)
    {operations : List Operation} {e : Errand} (he : e ∈ (b.run rack operations).bus.errands) :
    ∃ action, .requestMaintenance action ∈ operations ∧ e = action.errand := by
  have hmem : e ∈ (b.accepted rack operations).map Maintenance.errand :=
    errands_run_of_start hb operations ▸ List.mem_append_left _ he
  obtain ⟨action, haction, rfl⟩ := List.mem_map.mp hmem
  exact ⟨action, requested_of_mem_accepted haction, rfl⟩

/-- **Every maintenance command that is accepted is sent once.**  After every history, the errands
that were sent and then the one that waits are those that were accepted, in their order; and only a
cycle that finds the bridge stopped sends one. -/
theorem attends_run {state : σ} {settings : Settings} (hb : start rack state settings = .ok b)
    (operations : List Operation) :
    (b.run rack operations).bus.errands ++ (b.run rack operations).pending =
      (b.accepted rack operations).map Maintenance.errand ∧
    (b.run rack operations).Attends rack :=
  ⟨errands_run_of_start hb operations, attends _ rack⟩

/-- Three commands while the bridge runs, of which the second is refused and the third comes after a
stop. -/
def upkeepHistory : List Operation :=
  (List.range 20).map (fun i ↦ .cycle (50000 * UInt64.ofNat i)) ++
    [.requestMaintenance (.writeSerial ⟨33⟩ 7), .requestMaintenance (.forceReset ⟨32⟩),
      .cycle 1000000, .stop, .cycle 1050000, .requestMaintenance (.firmwareUpdate ⟨32⟩)]

theorem attends_run_upkeepHistory :
    ∃ b, start Chains.rack threeModules roomForThree = .ok b ∧
      ((b.run Chains.rack upkeepHistory).bus.errands ++ (b.run Chains.rack upkeepHistory).pending =
        (b.accepted Chains.rack upkeepHistory).map Maintenance.errand ∧
      (b.run Chains.rack upkeepHistory).Attends Chains.rack) ∧
      (b.run Chains.rack upkeepHistory).bus.errands = [⟨⟨33⟩, 0x11, [7, 0, 0, 0]⟩] ∧
      (b.run Chains.rack upkeepHistory).pending = [⟨⟨32⟩, 0x0F, []⟩] :=
  ⟨_, rfl,
    attends_run (show start Chains.rack threeModules roomForThree = _ from rfl) upkeepHistory,
    by decide +kernel, by decide +kernel⟩

end Bridge

end RackBus
