import RackBus.Proofs.Conduct
import RackBus.Proofs.RosterHistory

/-!
# Starting all over

A reset brings a bridge back to where a new one begins, from wherever it is.  Only what was asked of
it from outside stays, and the number of its next telegram.

* `Bridge.size_perform` and `Bridge.ShowsRunning.perform` are what this rests on: the size of the
  image stays, and the fault lamp shows what the bridge believes it shows.  `Bridge.kept_run` says
  so for every history.
* `Bridge.Restarted` compares a bridge that has started all over with a new one, field by field, and
  `Bridge.restarts_run` says that every reset brings this about, whatever the loading brings.
-/

set_option autoImplicit false

namespace RackBus

universe u v

/-! ## The size of the image -/

section Size

variable {σ : Type u} {rack : Rack σ} (hrack : rack.KeepsSize)

include hrack

theorem Sweep.size_visit (s : Sweep σ) (base : Address) (index : Nat) (row : Row) :
    (s.visit rack base index row).2.image.size = s.image.size := by
  have hexchange : (s.bus.exchangeData rack index row s.image).2.1.size = s.image.size :=
    hrack index row s.image s.bus.rack
  rw [visit]
  split
  · rfl
  · split
    · rw [noteGateway]
      split <;> rfl
    · split <;> rename_i h <;> rw [h] at hexchange <;> exact hexchange

theorem Sweep.size_visitAll (s : Sweep σ) (base : Address) (index : Nat) (rows : List Row) :
    (s.visitAll rack base index rows).2.image.size = s.image.size := by
  induction rows generalizing s index with
  | nil => rfl
  | cons row rest ih => exact (ih _ _).trans (s.size_visit hrack base index row)

theorem Polled.size_cycle (p : Polled σ) (base : Address) (core : CoreBlock) (now : UInt64) :
    (p.cycle rack base core now).2.image.size = p.image.size := by
  rw [cycle]
  dsimp only
  rw [CoreBlock.writeCycle, Image.size_writeByte, CoreBlock.writeErrors, Image.size_writeWord,
    Sweep.size_visitAll hrack]

namespace Bridge

theorem size_poll (b : Bridge σ) (now : UInt64) :
    (b.poll rack now).image.size = b.image.size := by
  cases hcore : b.core with
  | none => rw [poll, hcore]
  | some core =>
    rw [b.poll_eq rack hcore now]
    exact b.polled.size_cycle hrack b.settings.rightBase core now

theorem size_work (b : Bridge σ) (now : UInt64) :
    (b.work rack now).image.size = b.image.size :=
  b.work_keeps rack (P := fun c ↦ c.image.size = b.image.size) rfl (fun _ ↦ rfl)
    fun c hc ↦ (c.size_poll hrack now).trans hc

omit hrack in
theorem size_restart (b : Bridge σ) : (b.restart rack).2.image.size = b.image.size := by
  rw [restart_eq]
  split <;> exact b.image.size_clear

/-- **No operation changes the size of the image.** -/
theorem size_perform (b : Bridge σ) (o : Operation) :
    (b.perform rack o).image.size = b.image.size := by
  refine b.perform_keeps rack (P := fun c ↦ c.image.size = b.image.size) (fun _ _ _ hc ↦ hc) ?_
    (fun _ hc ↦ hc) (fun c hc ↦ (size_restart c).trans hc) ?_
    (fun c now _ hc ↦ (c.size_work hrack now).trans hc) ?_ rfl o
  · exact fun c offset value hc ↦ (c.image.size_writeByte offset value).trans hc
  · intro c _ hc
    obtain ⟨bus, hmaintenance⟩ := c.performMaintenance_eq rack
    rw [hmaintenance]
    exact hc
  · intro c hc
    obtain ⟨status, bus, image, shownLamps, hshown, hsize⟩ := c.shown_eq rack
    rw [hshown]
    exact hsize.trans hc

end Bridge

end Size

/-! ## Lamps -/

/-- The part of the work that switches a lamp. -/
def Lamp.task : Lamp → Task
  | fault => .alarm
  | _ => .lamps

/-- The level that an event gives to a lamp. -/
def Event.lights? (lamp : Lamp) : Event → Option Bool
  | indicated other level => if other = lamp then some level else none
  | _ => none

/-- A lamp is switched by its own part of the work. -/
theorem Event.task_of_indicated {lamp : Lamp} {level : Bool} {task : Task}
    (h : (indicated lamp level).serves task = true) : task = lamp.task := by
  cases task with
  | alarm =>
    obtain rfl : lamp = .fault := by simpa [serves] using h
    rfl
  | lamps =>
    have hlamp : lamp ≠ .fault := by simpa [serves] using h
    cases lamp <;> first | rfl | exact absurd rfl hlamp
  | _ => exact absurd h Bool.false_ne_true

section Lamp

variable {σ : Type u} {rack : Rack σ}

/-- Other work leaves the level of a lamp alone. -/
theorem Bus.Works.light_eq {tasks : List Task} {bus after : Bus σ}
    (h : Bus.Works rack tasks bus after) {lamp : Lamp} (htasks : lamp.task ∉ tasks) :
    after.last? (Event.lights? lamp) = bus.last? (Event.lights? lamp) := by
  refine h.last?_eq ?_
  intro e he
  obtain ⟨task, htask, hserves⟩ := List.any_eq_true.mp he
  cases e with
  | indicated other level =>
    refine if_neg ?_
    rintro rfl
    exact htasks (Event.task_of_indicated hserves ▸ htask)
  | _ => rfl

namespace Bridge

variable {b : Bridge σ} (rack)

/-- The level of the fault lamp, once it has been switched. -/
def faultLamp (b : Bridge σ) : Option Bool := b.bus.last? (Event.lights? .fault)

/-- The fault lamp is as the bridge believes: lit exactly if it does not show that it runs. -/
def ShowsRunning (b : Bridge σ) : Prop := b.faultLamp = some !b.shownRunning

theorem faultLamp_indicate (bus : Bus σ) (level : Bool) :
    (bus.indicate rack .fault level).last? (Event.lights? .fault) = some level := by
  rw [Bus.indicate, Bus.last?_eq (Bus.trace_record _ _ _)]
  rfl

theorem ShowsRunning.loading (h : b.ShowsRunning) :
    (b.loading rack).2.last? (Event.lights? .fault) = some true := by
  have halarmed : (b.alarmed rack).last? (Event.lights? .fault) = some true := by
    rw [alarmed]
    split
    · exact faultLamp_indicate rack b.bus true
    · rename_i hquiet
      rw [ShowsRunning, faultLamp] at h
      simpa [hquiet] using h
  have hload : Bus.Step rack (b.alarmed rack) _ (b.loading rack).2 := .load
  exact (Bus.last?_eq hload.trace_eq).trans halarmed

theorem faultLamp_restart (h : b.ShowsRunning) : (b.restart rack).2.faultLamp = some true := by
  have hloading := h.loading rack
  rw [faultLamp, restart_eq]
  split <;> rename_i hresult <;> rw [hresult] at hloading <;> exact hloading

theorem ShowsRunning.restart (h : b.ShowsRunning) : (b.restart rack).2.ShowsRunning := by
  have hlamp := faultLamp_restart rack h
  rw [ShowsRunning, hlamp, restart_eq]
  split <;> rfl

theorem ShowsRunning.applyRunning (h : b.ShowsRunning) : (b.applyRunning rack).ShowsRunning := by
  rw [Bridge.applyRunning]
  split
  · exact h
  · exact faultLamp_indicate rack b.bus _

theorem ShowsRunning.publish (h : b.ShowsRunning) : (b.publish rack).ShowsRunning := by
  have hlamp : (b.publish rack).faultLamp = b.faultLamp :=
    (b.works_publish rack).light_eq (by decide)
  obtain ⟨image, bus, shownLamps, hpublish, -⟩ := b.publish_eq rack
  rw [ShowsRunning, hlamp, hpublish]
  exact h

theorem ShowsRunning.performMaintenance (h : b.ShowsRunning) :
    (b.performMaintenance rack).ShowsRunning := by
  have hlamp : (b.performMaintenance rack).faultLamp = b.faultLamp :=
    (b.works_performMaintenance rack).light_eq (by decide)
  obtain ⟨bus, hmaintenance⟩ := b.performMaintenance_eq rack
  rw [ShowsRunning, hlamp, hmaintenance]
  exact h

theorem ShowsRunning.work (h : b.ShowsRunning) (now : UInt64) :
    (b.work rack now).ShowsRunning := by
  have hlamp : (b.work rack now).faultLamp = b.faultLamp :=
    (b.works_work rack now).light_eq (by decide)
  have hshown : (b.work rack now).shownRunning = b.shownRunning :=
    congrArg Standing.shownRunning (b.standing_work rack now)
  rw [ShowsRunning, hlamp, hshown]
  exact h

theorem ShowsRunning.perform (h : b.ShowsRunning) (o : Operation) :
    (b.perform rack o).ShowsRunning :=
  b.perform_keeps rack (fun _ _ _ hc ↦ hc) (fun _ _ _ hc ↦ hc) (fun _ hc ↦ hc)
    (fun _ hc ↦ hc.restart rack) (fun _ _ hc ↦ hc.performMaintenance rack)
    (fun _ now _ hc ↦ hc.work rack now) (fun _ hc ↦ (hc.applyRunning rack).publish rack) h o

variable {rack} in
theorem showsRunning_run {state : σ} {settings : Settings} (hb : start rack state settings = .ok b)
    (operations : List Operation) : (b.run rack operations).ShowsRunning := by
  refine run_invariant (P := ShowsRunning) (fun c o hc ↦ hc.perform rack o) ?_ operations
  obtain ⟨declared, -, rfl⟩ := eq_of_start hb
  exact faultLamp_indicate rack _ true

end Bridge

end Lamp

/-! ## Back to the start -/

namespace Bridge

variable {σ : Type u} {τ : Type v} {rack : Rack σ} {b : Bridge σ} {settings : Settings}

/-- What a bridge keeps as long as it exists. -/
structure Kept (b : Bridge σ) (settings : Settings) : Prop where
  settings_eq : b.settings = settings
  capacity : b.roster.capacity = settings.maxDevices
  size : b.image.size = settings.imageSize
  shows : b.ShowsRunning

theorem kept_run (hrack : rack.KeepsSize) {state : σ} (hb : start rack state settings = .ok b)
    (operations : List Operation) : (b.run rack operations).Kept settings := by
  obtain ⟨hv, horderly⟩ := isOrderly_start rack hb
  have horderly : (b.run rack operations).IsOrderly settings :=
    run_invariant (fun c o (hc : c.IsOrderly settings) ↦ hc.perform rack hv o) horderly operations
  obtain ⟨hsettings, t, hroster⟩ := horderly
  refine ⟨hsettings, hroster.capacity, ?_, showsRunning_run hb operations⟩
  obtain ⟨declared, -, rfl⟩ := eq_of_start hb
  refine run_invariant (P := fun c ↦ c.image.size = settings.imageSize) ?_ ?_ operations
  · intro c o hc
    exact (size_perform hrack c o).trans hc
  · exact Image.size_zeroed _

/-- A bridge that has started all over, compared with what it was before and with a new one. -/
structure Restarted (rack : Rack σ) (before after : Bridge σ) (fresh : Bridge τ) : Prop where
  /-- What the survey and the polling have brought is gone. -/
  settings : after.settings = fresh.settings
  roster : after.roster = fresh.roster
  survey : after.survey = fresh.survey
  poller : after.poller = fresh.poller
  image : after.image = fresh.image
  core : after.core = fresh.core
  shownLamps : after.shownLamps = fresh.shownLamps
  report : after.report = fresh.report
  round : after.round = fresh.round
  status : after.control.status = fresh.control.status
  errors : after.control.errors = fresh.control.errors
  /-- Nothing shows any more that the bridge runs. -/
  shownRunning : after.shownRunning = false
  flag : after.control.status.contains .running = false
  faultLamp : after.faultLamp = some true
  /-- The telegrams are numbered on, and a maintenance command still waits. -/
  sequence : after.bus.sequence = before.bus.sequence
  waiting : after.control.waiting = before.control.waiting
  /-- The bridge begins a survey with the new configuration.  Without one it keeps the old one and
  stays stopped. -/
  outcome : (after.declared, after.control.state) =
    match (before.loading rack).1 with
    | .ok declared => (declared, .initializing)
    | .error _ => (before.declared, .stopped)

theorem sequence_loading (b : Bridge σ) (rack : Rack σ) :
    (b.loading rack).2.sequence = b.bus.sequence := by
  rw [loading, alarmed]
  split <;> rfl

/-- **Starting all over** leads back to where a new bridge begins. -/
theorem Kept.restarted (h : b.Kept settings) {rack' : Rack τ} {state' : τ} {fresh : Bridge τ}
    (hfresh : start rack' state' settings = .ok fresh) :
    Restarted rack b (b.restart rack).2 fresh := by
  obtain ⟨declared, -, rfl⟩ := eq_of_start hfresh
  have hlamp := faultLamp_restart rack h.shows
  have hsequence := b.sequence_loading rack
  have houtcome : ((b.restart rack).2.declared, (b.restart rack).2.control.state) =
      match (b.loading rack).1 with
      | .ok declared => (declared, .initializing)
      | .error _ => (b.declared, .stopped) := by
    rw [restart_eq]
    split <;> rename_i hloading <;> rw [hloading] <;> rfl
  obtain ⟨state, declared, hrestart⟩ : ∃ state declared,
      (b.restart rack).2 = b.renewed state declared (b.loading rack).2 := by
    rw [restart_eq]
    split <;> rename_i hloading <;> rw [hloading]
    · exact ⟨_, _, rfl⟩
    · exact ⟨_, _, rfl⟩
  rw [hrestart] at hlamp houtcome ⊢
  obtain ⟨rfl, hcapacity, hsize, -⟩ := h
  have hflag : Status.empty.contains .running = false := by decide
  refine ⟨rfl, ?_, rfl, rfl, ?_, rfl, rfl, rfl, rfl, rfl, rfl, rfl, hflag, hlamp, hsequence, rfl,
    houtcome⟩
  · show Roster.ofCore b.roster.capacity b.settings.coreIdentity = _
    rw [hcapacity]
  · show b.image.clear = _
    rw [Image.clear, hsize]

/-- What resets make of a bridge, compared with a new one. -/
structure Restarts (rack : Rack σ) (b : Bridge σ) (fresh : Bridge τ) : Prop where
  /-- A reset at once.  Who asks for it is told if there is no configuration. -/
  reset : Restarted rack b (b.reset rack).2 fresh
  result : (b.reset rack).1 = (b.loading rack).1.map fun _ ↦ ()
  /-- A request for another reset stays. -/
  pending : (b.reset rack).2.control.resetRequested = b.control.resetRequested
  /-- A reset that was asked for is the first thing in the next cycle, which then goes on. -/
  requested : b.control.resetRequested = true →
    Restarted rack b (b.resetIfRequested rack) fresh ∧
      (b.resetIfRequested rack).control.resetRequested = false
  cycle : ∀ now, b.runCycle rack now = (b.resetIfRequested rack).runCycle rack now

theorem Kept.restarts (h : b.Kept settings) {rack' : Rack τ} {state' : τ} {fresh : Bridge τ}
    (hfresh : start rack' state' settings = .ok fresh) : Restarts rack b fresh := by
  refine ⟨?_, ?_, ?_, ?_, fun now ↦ (b.runCycle_resetIfRequested rack now).symm⟩
  · rw [reset_eq]
    exact h.restarted hfresh
  · rw [reset_eq, restart_eq]
    split <;> rename_i hloading <;> rw [hloading] <;> rfl
  · rw [reset_eq, restart_eq]
    split <;> rfl
  · intro hreset
    refine ⟨?_, b.resetRequested_resetIfRequested rack⟩
    have hrequest :
        ({ b with control := { b.control with resetRequested := false } }).Kept settings :=
      ⟨h.settings_eq, h.capacity, h.size, h.shows⟩
    rw [resetIfRequested, if_pos hreset]
    exact { hrequest.restarted hfresh with }

/-- **A reset forgets everything it should and nothing else**, after every history and whatever the
loading brings. -/
theorem restarts_run (hrack : rack.KeepsSize) {state : σ} (hb : start rack state settings = .ok b)
    {rack' : Rack τ} {state' : τ} {fresh : Bridge τ}
    (hfresh : start rack' state' settings = .ok fresh) (operations : List Operation) :
    Restarts rack (b.run rack operations) fresh :=
  (kept_run hrack hb operations).restarts hfresh

/-- Three modules are surveyed and polled, a byte is written, and a maintenance command waits when a
reset is asked for. -/
def busyHistory : List Operation :=
  (List.range 20).map (fun i ↦ .cycle (50000 * UInt64.ofNat i)) ++
    [.writeByte 9 1, .requestMaintenance (.forceReset ⟨32⟩), .requestReset]

theorem restarts_run_busyHistory :
    ∃ b fresh, start Chains.rack threeModules roomForThree = .ok b ∧
      start Chains.rack (.ofModules [] []) roomForThree = .ok fresh ∧
      Restarts Chains.rack (b.run Chains.rack busyHistory) fresh ∧
      (b.run Chains.rack busyHistory).control.state = .running ∧
      (b.run Chains.rack busyHistory).control.resetRequested = true ∧
      (b.run Chains.rack busyHistory).control.waiting = some (.forceReset ⟨32⟩) :=
  ⟨_, _, rfl, rfl,
    restarts_run Chains.rack_keepsSize
      (show start Chains.rack threeModules roomForThree = _ from rfl)
      (show start Chains.rack (.ofModules [] []) roomForThree = _ from rfl) busyHistory,
    by decide +kernel, by decide +kernel, by decide +kernel⟩

end Bridge

end RackBus
