import RackBus.Proofs.Conduct
import RackBus.Proofs.Exploration

/-!
# What a bridge finds

A bridge on the simulated rack surveys it until the survey is over, and the cycle in which it ends
compares the roster with the declarations and begins to poll.  This file says what the roster and
the rack are like at the end of this very cycle.

* `Bridge.Surveying` is a bridge whose survey goes on, and `Bridge.Discovered` one whose survey has
  found all that could be found.
* `Bridge.Surveying.work`: a cycle leads from the one to itself or to the other.
* `Bridge.discovered_run`: so does every history without a stop or a reset.
-/

set_option autoImplicit false

namespace RackBus

/-- Does an operation stop a bridge or start it all over? -/
def Operation.interrupts : Operation → Bool
  | .reset | .stop | .requestReset => true
  | _ => false

namespace Bridge

/-- A bridge whose survey of the rack `c` goes on. -/
structure Surveying (b : Bridge Chains) (c : Chains) (settings : Settings) : Prop where
  settings_eq : b.settings = settings
  state : b.control.state = .initializing
  report : b.report = none
  explored : ∃ t, b.site.Explored c settings t
  /-- The last phase has not begun. -/
  unfinished : b.survey.phase = .finished → b.survey.entering = true

/-- A bridge that nobody has stopped or reset: its survey goes on or has been reported. -/
structure Undisturbed (b : Bridge Chains) (c : Chains) (settings : Settings) : Prop where
  quiet : b.control.resetRequested = false
  outcome : b.Surveying c settings ∨ b.report ≠ none

/-- A bridge whose survey has found everything on the rack `c` that could be found. -/
structure Discovered (b : Bridge Chains) (c : Chains) (settings : Settings) : Prop where
  /-- The number of rows is fixed. -/
  scanned : b.roster.scanned = some (1 + (c.due settings).right + (c.due settings).left)
  /-- The rows that were found have the addresses of the core, of the right side from the base
  upwards, and of the left side from below the base downwards. -/
  numbers : (b.roster.rows.take b.roster.scannedSize).map (fun row ↦ row.address.number) =
    0 :: ((List.range (c.due settings).right).map (fun i ↦ settings.rightBase.number + i) ++
      (List.range (c.due settings).left).map fun j ↦ settings.rightBase.number - 1 - j)
  /-- Their identities are those of the core and of the nearest modules of both sides. -/
  identities : (b.roster.rows.take b.roster.scannedSize).map Row.identity =
    settings.coreIdentity ::
      ((c.right.take (c.due settings).right).map SimulatedModule.identity ++
        (c.left.take (c.due settings).left).map SimulatedModule.identity)
  /-- These modules have the addresses of their rows, and no others have one. -/
  right : b.bus.rack.right.map (fun m ↦ m.address.map Address.number) =
    (List.range (c.due settings).right).map (fun i ↦ some (settings.rightBase.number + i)) ++
      List.replicate (c.right.length - (c.due settings).right) none
  left : b.bus.rack.left.map (fun m ↦ m.address.map Address.number) =
    (List.range (c.due settings).left).map (fun j ↦ some (settings.rightBase.number - 1 - j)) ++
      List.replicate (c.left.length - (c.due settings).left) none
  /-- The modules themselves are the same as before. -/
  same : ∀ side, (b.bus.rack.chain side).map SimulatedModule.identity =
    (c.chain side).map SimulatedModule.identity

end Bridge

/-! ## What leaves the rack alone -/

namespace Bus

/-- A request to all modules leaves their addresses alone, unless it tells them to take one. -/
theorem card_broadcast (bus : Bus Chains) {command : Command}
    (h : command.code ≠ Command.setAddress.code) (side : Side) :
    ((bus.broadcast Chains.rack command []).2.rack.chain side).map SimulatedModule.card =
      (bus.rack.chain side).map SimulatedModule.card := by
  rw [bus.broadcast_eq_transfer Chains.rack command (Nat.zero_le _)]
  exact bus.rack.card_transfer_of_isBroadcast
    ⟨.broadcast, .core, command.code, bus.sequence, []⟩ rfl h side

theorem rack_exchangeData (bus : Bus Chains) (index : Nat) (row : Row) (image : Image) :
    (bus.exchangeData Chains.rack index row image).2.2.rack = bus.rack :=
  bus.rack.snd_exchange index row image

end Bus

theorem Sweep.rack_visit (s : Sweep Chains) (base : Address) (index : Nat) (row : Row) :
    (s.visit Chains.rack base index row).2.bus.rack = s.bus.rack := by
  have hexchange := s.bus.rack_exchangeData index row s.image
  rw [visit]
  split
  · rfl
  · split
    · rw [noteGateway]
      split <;> rfl
    · split <;> rename_i h <;> rw [h] at hexchange <;> exact hexchange

theorem Sweep.rack_visitAll (s : Sweep Chains) (base : Address) (index : Nat) (rows : List Row) :
    (s.visitAll Chains.rack base index rows).2.bus.rack = s.bus.rack := by
  induction rows generalizing s index with
  | nil => rfl
  | cons row rest ih => exact (ih _ _).trans (s.rack_visit base index row)

namespace Bridge

theorem rack_startDrivers (bus : Bus Chains) (roster : Roster) :
    (startDrivers bus Chains.rack roster).rack = bus.rack := by
  rw [startDrivers]
  generalize roster.active.filter (fun e ↦ e.1.identity.type.isInputOutput) = rows
  induction rows generalizing bus with
  | nil => rfl
  | cons e rest ih => exact ih (bus.startDriver Chains.rack e.1.identity.type e.2)

/-- The parts of a bridge that a survey and its outcome depend on. -/
structure View where
  settings : Settings
  survey : Survey
  roster : Roster
  rack : Chains
  report : Option Report
  state : Lifecycle
  resetRequested : Bool

/-- What can be seen of a bridge. -/
def view (b : Bridge Chains) : View where
  settings := b.settings
  survey := b.survey
  roster := b.roster
  rack := b.bus.rack
  report := b.report
  state := b.control.state
  resetRequested := b.control.resetRequested

@[simp] theorem view_applyRunning (b : Bridge Chains) :
    (b.applyRunning Chains.rack).view = b.view := by
  rw [applyRunning]
  split <;> rfl

@[simp] theorem view_publish (b : Bridge Chains) : (b.publish Chains.rack).view = b.view := by
  rw [publish]
  split
  · rfl
  · dsimp only
    split
    · rfl
    · split <;> rfl

/-- The end of a survey tells all modules to begin, and a round of polling asks none of them. -/
theorem card_endSurvey (b : Bridge Chains) (side : Side) :
    ((b.endSurvey Chains.rack).bus.rack.chain side).map SimulatedModule.card =
      (b.bus.rack.chain side).map SimulatedModule.card := by
  have hrack : (b.endSurvey Chains.rack).bus.rack =
      (b.bus.broadcast Chains.rack .startExchange []).2.rack := rack_startDrivers _ _
  rw [hrack]
  exact b.bus.card_broadcast (by decide) side

theorem rack_poll (b : Bridge Chains) (now : UInt64) :
    (b.poll Chains.rack now).bus.rack = b.bus.rack := by
  rw [poll]
  split
  · rfl
  · exact Sweep.rack_visitAll _ b.settings.rightBase 1 b.roster.modules

/-! ## From the survey to the roster -/

section Outcome

variable {c : Chains} {settings : Settings} {b : Bridge Chains}

/-- A survey that is over has found what was due. -/
theorem discovered_of_explored {site : Site Chains} {t : Tally} (h : site.Explored c settings t)
    (hfinished : site.survey.phase = .finished)
    (hscanned : b.roster.scanned = some site.roster.size)
    (hcore : b.roster.core.device = site.roster.core.device)
    (hfound : b.roster.found = site.roster.found)
    (hcard : ∀ side, (b.bus.rack.chain side).map SimulatedModule.card =
      (site.bus.rack.chain side).map SimulatedModule.card) :
    b.Discovered c settings := by
  have hright : t.right = (c.due settings).right := h.done .right (by rw [hfinished]; rfl)
  have hleft : t.left = (c.due settings).left := h.done .left (by rw [hfinished]; rfl)
  have hsize := h.size_eq
  have hopen := (Roster.found_of_open h.scanned).1
  have hrows : (b.roster.rows.take b.roster.scannedSize).map Row.device =
      (.core, settings.coreIdentity) :: site.roster.found := by
    have hpos : 1 ≤ b.roster.scannedSize := by
      rw [Roster.scannedSize, hscanned, Option.getD_some, hsize]
      omega
    rw [Roster.take_rows_scannedSize hpos, List.map_cons, hcore, h.orderly.core_device, ← hfound]
    rfl
  have hidentities : site.roster.found.map Prod.snd =
      (c.right.take t.right).map SimulatedModule.identity ++
        (c.left.take t.left).map SimulatedModule.identity := by
    rw [hopen, List.map_map, ← List.map_append, ← h.identities]
    rfl
  have haddress (side : Side) := congrArg (List.map fun e ↦ e.2.map Address.number) (hcard side)
  have hidentity (side : Side) := congrArg (List.map Prod.fst) (hcard side)
  simp only [List.map_map] at haddress hidentity
  have hmodules (side : Side) := (haddress side).trans (h.along side).map_address
  simp only [List.length_map, List.length_range, List.map_map] at hmodules
  exact
    { scanned := by rw [hscanned, hsize, ← hright, ← hleft]; congr 1; omega
      numbers := by
        have hnumbers := congrArg (List.map fun e ↦ e.1.number) hrows
        rw [List.map_map, List.map_cons, h.orderly.numbers, allotted, hright, hleft] at hnumbers
        exact hnumbers
      identities := by
        have hsnd := congrArg (List.map Prod.snd) hrows
        rw [List.map_map, List.map_cons, hidentities, hright, hleft] at hsnd
        exact hsnd
      right := by
        rw [← hright]
        exact hmodules .right
      left := by
        rw [← hleft]
        exact hmodules .left
      same := fun side ↦ by
        obtain ⟨-, -, -, -, -, -, hsame⟩ := h.along side
        exact (hidentity side).trans hsame }

theorem report_poll (b : Bridge Chains) (now : UInt64) :
    (b.poll Chains.rack now).report = b.report :=
  b.poll_keeps Chains.rack (P := fun d ↦ d.report = b.report) (fun _ _ ↦ rfl) rfl now

/-- The end of a survey, and the first round of polling if there is one. -/
theorem discovered_endSurvey {t : Tally} (h : b.site.Explored c settings t)
    (hfinished : b.survey.phase = .finished) (now : UInt64) :
    let ended := b.endSurvey Chains.rack
    let after := if ended.isRunning then ended.poll Chains.rack now else ended
    after.report ≠ none ∧ after.Discovered c settings := by
  intro ended after
  have hsize := (Roster.found_of_open h.scanned).2
  have hscanned : ended.roster.scanned = some b.roster.size :=
    (b.roster.scanned_reconcile b.declared b.image.size b.control.status).trans
      (congrArg some hsize)
  have hcore : ended.roster.core.device = b.roster.core.device :=
    b.roster.core_device_reconcile b.declared b.image.size b.control.status
  have hfound : ended.roster.found = b.roster.found :=
    Roster.found_reconcile (Nat.le_of_eq hsize) b.declared b.image.size b.control.status
  have hcard := b.card_endSurvey
  have hreport : ended.report ≠ none := by
    show (some _ : Option Report) ≠ none
    simp
  by_cases hrunning : ended.isRunning = true
  · have hafter : after = ended.poll Chains.rack now := if_pos hrunning
    obtain ⟨hscanned', hcore', hfound'⟩ := ended.roster_poll Chains.rack now
    rw [hafter, ended.report_poll now]
    exact ⟨hreport, discovered_of_explored h hfinished (hscanned'.trans hscanned)
      (by rw [hcore', hcore]; rfl) (hfound'.trans hfound) (ended.rack_poll now ▸ hcard)⟩
  · have hafter : after = ended := if_neg hrunning
    rw [hafter]
    exact ⟨hreport, discovered_of_explored h hfinished hscanned hcore hfound hcard⟩

/-- **A cycle of work** goes on with the survey, or ends it with everything found. -/
theorem Surveying.work (h : b.Surveying c settings) (now : UInt64) :
    (b.work Chains.rack now).Surveying c settings ∨
      (b.work Chains.rack now).report ≠ none ∧ (b.work Chains.rack now).Discovered c settings := by
  obtain ⟨rfl, hstate, hreport, ⟨t, hexplored⟩, hunfinished⟩ := h
  obtain ⟨t', hstepped⟩ := hexplored.step now
  let after := (b.site.step Chains.rack b.settings now).2
  let stepped : Bridge Chains :=
    { b with survey := after.survey, bus := after.bus, roster := after.roster }
  rw [Bridge.work]
  dsimp only
  split
  · rename_i hprogress
    exact Or.inl ⟨rfl, hstate, hreport, ⟨t', hstepped⟩, b.site.entering_of_step hprogress⟩
  · rename_i entered hprogress
    obtain ⟨hfinished, hbefore, hentered⟩ := b.site.finished_of_step hprogress
    have hentered : entered = true := hentered.trans (hunfinished hbefore)
    subst hentered
    rw [if_pos rfl]
    exact Or.inr (discovered_endSurvey (b := stepped) hstepped hfinished now)

/-! ## Histories -/

theorem Surveying.congr {b' : Bridge Chains} (h : b.Surveying c settings) (hb : b'.view = b.view) :
    b'.Surveying c settings := by
  obtain ⟨t, hexplored⟩ := h.explored
  have hsurvey : b'.survey = b.survey := congrArg View.survey hb
  have hroster : b'.roster = b.roster := congrArg View.roster hb
  have hrack : b'.bus.rack = b.bus.rack := congrArg View.rack hb
  have hsite : b'.site = { b.site with bus := b'.bus } := by rw [site, site, hsurvey, hroster]
  exact
    { settings_eq := (congrArg View.settings hb).trans h.settings_eq
      state := (congrArg View.state hb).trans h.state
      report := (congrArg View.report hb).trans h.report
      explored := ⟨t, hsite ▸ hexplored.setBus hrack⟩
      unfinished := hsurvey ▸ h.unfinished }

theorem Discovered.congr {b' : Bridge Chains} (h : b.Discovered c settings)
    (hb : b'.view = b.view) : b'.Discovered c settings := by
  have hroster : b'.roster = b.roster := congrArg View.roster hb
  have hrack : b'.bus.rack = b.bus.rack := congrArg View.rack hb
  exact
    { scanned := hroster ▸ h.scanned
      numbers := hroster ▸ h.numbers
      identities := hroster ▸ h.identities
      right := hrack ▸ h.right
      left := hrack ▸ h.left
      same := hrack ▸ h.same }

/-- Without a request for a reset a cycle works or waits for maintenance. -/
theorem view_runCycle (hreset : b.control.resetRequested = false) (now : UInt64) :
    (b.runCycle Chains.rack now).view =
      if b.control.state = .stopped then (b.performMaintenance Chains.rack).view
      else (b.work Chains.rack now).view := by
  rw [b.runCycle_eq Chains.rack hreset, view_publish, view_applyRunning]
  split <;> rfl

/-- Work leaves a request for a reset alone, and a report that was made. -/
theorem report_work (b : Bridge Chains) (now : UInt64) :
    (b.work Chains.rack now).control.resetRequested = b.control.resetRequested ∧
      (b.report ≠ none → (b.work Chains.rack now).report ≠ none) := by
  refine ⟨congrArg Standing.resetRequested (b.standing_work Chains.rack now), fun hreport ↦ ?_⟩
  refine b.work_keeps Chains.rack (P := fun d ↦ d.report ≠ none) hreport
    (fun _ ↦ Option.some_ne_none _) fun d hd ↦ ?_
  rw [d.report_poll now]
  exact hd

theorem view_requestMaintenance (b : Bridge Chains) (action : Maintenance) :
    (b.perform Chains.rack (.requestMaintenance action)).view = b.view := by
  rw [Bridge.perform, Control.requestMaintenance]
  split <;> rfl

/-- An operation that does not interrupt a survey goes on with it, or ends it with everything
found. -/
theorem Surveying.perform (h : b.Surveying c settings)
    (hreset : b.control.resetRequested = false) {o : Operation} (ho : o.interrupts = false) :
    (b.perform Chains.rack o).Surveying c settings ∨
      (b.perform Chains.rack o).report ≠ none ∧
        (b.perform Chains.rack o).Discovered c settings := by
  cases o with
  | cycle now =>
    have hview := view_runCycle hreset now
    rw [if_neg (by simp [h.state])] at hview
    rcases h.work now with hgoing | ⟨hreport, hdone⟩
    · exact Or.inl (hgoing.congr hview)
    · exact Or.inr ⟨(congrArg View.report hview).trans_ne hreport, hdone.congr hview⟩
  | requestMaintenance action => exact Or.inl (h.congr (b.view_requestMaintenance action))
  | writeByte offset value => exact Or.inl (h.congr rfl)
  | reset | stop | requestReset => exact absurd ho (by decide)

/-- Nor does it ask for a reset, or take back a report. -/
theorem report_perform (hreset : b.control.resetRequested = false) {o : Operation}
    (ho : o.interrupts = false) :
    (b.perform Chains.rack o).control.resetRequested = false ∧
      (b.report ≠ none → (b.perform Chains.rack o).report ≠ none) := by
  cases o with
  | cycle now =>
    have hview := view_runCycle hreset now
    obtain ⟨hkept, hreported⟩ := b.report_work now
    split at hview
    · have hidle : (b.performMaintenance Chains.rack).report = b.report ∧
          (b.performMaintenance Chains.rack).control.resetRequested = b.control.resetRequested := by
        rw [performMaintenance]
        split <;> exact ⟨rfl, rfl⟩
      exact ⟨(congrArg View.resetRequested hview).trans (hidle.2.trans hreset),
        ((congrArg View.report hview).trans hidle.1).trans_ne⟩
    · exact ⟨(congrArg View.resetRequested hview).trans (hkept.trans hreset),
        fun h ↦ (congrArg View.report hview).trans_ne (hreported h)⟩
  | requestMaintenance action =>
    have hview := b.view_requestMaintenance action
    exact ⟨(congrArg View.resetRequested hview).trans hreset,
      (congrArg View.report hview).trans_ne⟩
  | writeByte offset value => exact ⟨hreset, id⟩
  | reset | stop | requestReset => exact absurd ho (by decide)

/-- Operations that do not interrupt a survey leave a bridge undisturbed. -/
theorem Undisturbed.perform (h : b.Undisturbed c settings) {o : Operation}
    (ho : o.interrupts = false) : (b.perform Chains.rack o).Undisturbed c settings := by
  obtain ⟨hkept, hreported⟩ := report_perform h.quiet ho
  refine ⟨hkept, ?_⟩
  rcases h.outcome with hgoing | hreport
  · exact (hgoing.perform h.quiet ho).imp_right And.left
  · exact Or.inr (hreported hreport)

/-- What quiet operations keep, quiet histories keep. -/
theorem run_quiet {P : Bridge Chains → Prop}
    (keeps : ∀ b o, o.interrupts = false → P b → P (b.perform Chains.rack o))
    {operations : List Operation} (hquiet : ∀ o ∈ operations, o.interrupts = false) (h : P b) :
    P (b.run Chains.rack operations) := by
  induction operations generalizing b with
  | nil => exact h
  | cons o rest ih =>
    rw [List.forall_mem_cons] at hquiet
    exact ih hquiet.2 (keeps b o hquiet.1 h)

end Outcome

/-- A new bridge on a rack whose modules wait. -/
theorem surveying_start {c : Chains} {settings : Settings} {declared : List Declaration}
    (hcheck : settings.check = .ok ()) (hauto : settings.autoStart = true)
    (hload : c.load.1 = .ok declared) (hright : c.rightSense = []) (hleft : c.leftSense = [])
    (hwaiting : ∀ side, ∀ m ∈ c.chain side, m.IsWaiting settings.retryLimit.toNat) :
    ∃ b, start Chains.rack c settings = .ok b ∧ b.control.resetRequested = false ∧
      b.Surveying c settings := by
  have hloaded : Chains.rack.load c = (.ok declared, c) := Prod.ext hload c.snd_load
  have hattach : (Bus.attach c).load Chains.rack =
      (.ok declared, (Bus.attach c).record c (.loaded (.ok declared))) := by
    rw [Bus.load, show (Bus.attach c).rack = c from rfl, hloaded]
  rw [start, hcheck, hattach]
  refine ⟨_, rfl, rfl, rfl, ?_, rfl, ⟨.zero, ?_⟩, fun h ↦ absurd h (by simp [Survey.start])⟩
  · rw [hauto]
    rfl
  · exact
      { orderly := Roster.orderly_start (Settings.check_eq_ok_iff.mp hcheck)
        scanned := rfl
        identities := rfl
        along := fun side ↦ by
          rw [Survey.spent_of_entering rfl]
          cases side with
          | right => exact FoundAlong.of_isWaiting (hwaiting .right)
          | left => exact FoundAlong.of_isWaiting (hwaiting .left)
        rightSense := hright
        leftSense := hleft
        drives := ⟨fun h ↦ absurd (show Phase.begin.isLeft = true from h) (by decide),
          fun side h ↦ by simp [site, Survey.start] at h⟩
        present := fun side h ↦ by simp [site, Survey.start] at h
        done := fun side h ↦ by
          have h : Phase.begin.isBeyond side = true := h
          cases side <;> exact absurd h (by decide) }

/-- **What a bridge finds.**  Without a stop or a reset, the cycle that ends the survey, which is
the one that makes the report, leaves the bridge with everything found: on each side the nearest
modules, as many as there are addresses and rows for. -/
theorem discovered_run {c : Chains} {settings : Settings} {declared : List Declaration}
    (hcheck : settings.check = .ok ()) (hauto : settings.autoStart = true)
    (hload : c.load.1 = .ok declared) (hright : c.rightSense = []) (hleft : c.leftSense = [])
    (hwaiting : ∀ side, ∀ m ∈ c.chain side, m.IsWaiting settings.retryLimit.toNat) :
    ∃ b, start Chains.rack c settings = .ok b ∧
      ∀ operations, (∀ o ∈ operations, o.interrupts = false) → ∀ now,
        (b.run Chains.rack operations).report = none →
          (b.run Chains.rack (operations ++ [.cycle now])).report ≠ none →
            (b.run Chains.rack (operations ++ [.cycle now])).Discovered c settings := by
  obtain ⟨b, hstart, hreset, hsurveying⟩ :=
    surveying_start hcheck hauto hload hright hleft hwaiting
  refine ⟨b, hstart, fun operations hquiet now hbefore hafter ↦ ?_⟩
  have hkept : (b.run Chains.rack operations).Undisturbed c settings :=
    run_quiet (P := fun b' ↦ b'.Undisturbed c settings)
      (fun _ _ ho (hb : Undisturbed _ c settings) ↦ hb.perform ho) hquiet
      ⟨hreset, Or.inl hsurveying⟩
  obtain ⟨hreset, hgoing | hreported⟩ := hkept
  · rw [run_append, run_cons, run_nil] at hafter ⊢
    rcases hgoing.perform hreset (o := .cycle now) rfl with hstill | ⟨-, hdone⟩
    · exact absurd hstill.report hafter
    · exact hdone
  · exact absurd hbefore hreported

/-- Settings with two addresses on the right side and room for four rows. -/
def narrow : Settings :=
  { Settings.usual with rightBase := ⟨253⟩, retryLimit := 1, maxDevices := 4 }

/-- Three modules on the right side, of which the first ignores a telegram, and two on the left. -/
def fiveModules : Chains :=
  .ofModules [⟨⟨1, ⟨96⟩, 0, 0, 0, 0, 2, 2, 0⟩, none, [.silent]⟩,
    ⟨⟨2, ⟨97⟩, 0, 0, 0, 0, 2, 0, 0⟩, none, []⟩, ⟨⟨3, ⟨98⟩, 0, 0, 0, 0, 0, 2, 0⟩, none, []⟩]
    [⟨⟨4, ⟨96⟩, 0, 0, 0, 0, 2, 2, 0⟩, none, [.absent]⟩,
      ⟨⟨5, ⟨96⟩, 0, 0, 0, 0, 2, 2, 0⟩, none, []⟩]

/-- Cycles that are far enough apart for every waiting time. -/
def slowCycles (count : Nat) : List Operation :=
  (List.range count).map fun i ↦ .cycle (50000 * UInt64.ofNat i)

/-- The five modules, surveyed by slow cycles. -/
theorem discovered_run_fiveModules :
    ∃ b, start Chains.rack fiveModules narrow = .ok b ∧
      (b.run Chains.rack (slowCycles 21)).report = none ∧
      (b.run Chains.rack (slowCycles 21 ++ [.cycle 1050000])).report ≠ none ∧
      fiveModules.due narrow = ⟨2, 1⟩ ∧
      (b.run Chains.rack (slowCycles 21 ++ [.cycle 1050000])).Discovered fiveModules narrow := by
  obtain ⟨b, hb, h⟩ := discovered_run (show narrow.check = .ok () from rfl) rfl
    (show fiveModules.load.1 = .ok [] from rfl) rfl rfl (fun side ↦ by cases side <;> decide)
  have hquiet : ∀ o ∈ slowCycles 21, o.interrupts = false := by decide
  have hbefore : (b.run Chains.rack (slowCycles 21)).report = none := by
    obtain rfl := Except.ok.inj (hb.symm.trans rfl)
    decide +kernel
  have hafter : (b.run Chains.rack (slowCycles 21 ++ [.cycle 1050000])).report ≠ none := by
    obtain rfl := Except.ok.inj (hb.symm.trans rfl)
    decide +kernel
  exact ⟨b, hb, hbefore, hafter, rfl, h _ hquiet _ hbefore hafter⟩

end Bridge

end RackBus
