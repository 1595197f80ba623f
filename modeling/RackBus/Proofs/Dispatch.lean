import RackBus.Proofs.CoreBytes
import RackBus.Proofs.Restart

/-!
# What a cycle does to the image

A cycle that polls lets the drivers work on the image, and then shows the error count and the cycle
time and reads the error limits.  Every cycle ends with the status flags and the lamps.  This file
takes these accesses apart, so that each can be talked about.

* `Polled.swept` is the image as the drivers leave it, `Polled.counted` and `Polled.timed` are the
  two writes that follow.
* `Bridge.worked` is a bridge before the outcome of a cycle is shown, and `Bridge.polling?` the
  bridge that a cycle polls with, if it polls at all.
* `Bridge.driven` is the image before the core writes its own bytes, and
  `Bridge.changesOnly_runCycle` says that the rest of the cycle changes nothing but these.
* `Bridge.Accesses` says that all accesses of a cycle to the core's bytes succeed, and
  `Bridge.accesses_of_liesIn` when they do.
-/

set_option autoImplicit false

namespace RackBus

universe u

/-! ## A round of polling -/

namespace Polled

variable {σ : Type u} (p : Polled σ) (rack : Rack σ) (base : Address) (core : CoreBlock)
  (now : UInt64)

/-- What is left when all modules were visited. -/
def sweep : List Row × Sweep σ :=
  Sweep.visitAll
    { bus := p.bus
      image := p.image
      gateways := p.poller.gateways
      status := p.status
      polled := 0
      failed := false } rack base 1 p.roster.modules

/-- The image as the drivers leave it. -/
def swept : Image := (p.sweep rack base).2.image

/-- Showing the error count, with the image afterwards. -/
def counted : Except Failure Unit × Image :=
  core.writeErrors (p.swept rack base) (p.cycle rack base core now).1.errors

/-- Showing the cycle time, with the image afterwards. -/
def timed : Except Failure Unit × Image :=
  core.writeCycle (p.counted rack base core now).2 (p.poller.elapsed now)

theorem image_cycle : (p.cycle rack base core now).2.image = (p.timed rack base core now).2 := rfl

/-- Limits that can be read are obeyed. -/
theorem limits_cycle {lower upper : UInt16}
    (h : core.readLimits (p.timed rack base core now).2 = .ok (lower, upper)) :
    (p.cycle rack base core now).1.degraded =
        exceeds (p.cycle rack base core now).1.errors lower ∧
      (p.cycle rack base core now).1.stop =
        exceeds (p.cycle rack base core now).1.errors upper := by
  rw [← image_cycle] at h
  dsimp only [cycle] at h ⊢
  rw [h]
  exact ⟨rfl, rfl⟩

theorem size_swept {rack : Rack σ} (hrack : rack.KeepsSize) :
    (p.swept rack base).size = p.image.size :=
  Sweep.size_visitAll hrack _ base 1 p.roster.modules

theorem size_counted : (p.counted rack base core now).2.size = (p.swept rack base).size :=
  Image.size_writeWord ..

theorem size_timed : (p.timed rack base core now).2.size = (p.swept rack base).size :=
  (Image.size_writeByte ..).trans (p.size_counted rack base core now)

/-- What polling itself writes are the core's input bytes. -/
theorem changesOnly_cycle :
    Image.ChangesOnly core.inputs (p.swept rack base) (p.cycle rack base core now).2.image :=
  (core.changesOnly_writeErrors _ _).trans (core.changesOnly_writeCycle _ _)

/-- The error count is shown in the image. -/
theorem readErrors_cycle (h : core.LiesIn (p.swept rack base).size) :
    core.readErrors (p.cycle rack base core now).2.image =
      .ok (p.cycle rack base core now).1.errors :=
  (CoreBlock.readErrors_writeCycle _ _).trans (CoreBlock.readErrors_writeErrors h _)

end Polled

/-! ## A cycle -/

namespace Bridge

variable {σ : Type u} (b : Bridge σ) (rack : Rack σ) (now : UInt64)

/-- The bridge after the work of a cycle, before the outcome is shown. -/
def worked : Bridge σ :=
  let b := b.resetIfRequested rack
  if b.control.state = .stopped then b.performMaintenance rack else b.work rack now

theorem runCycle_eq_worked :
    b.runCycle rack now = ((b.worked rack now).applyRunning rack).publish rack := rfl

/-- The bridge after a step of its survey that ended it now, or found it ended. -/
def concluded (entered : Bool) : Bridge σ :=
  if entered then (b.surveyed rack now).endSurvey rack else b.surveyed rack now

/-- The bridge and the place of its core's bytes if it runs and has one. -/
def placed? : Option (Bridge σ × CoreBlock) :=
  if b.isRunning then b.core.map fun core ↦ (b, core) else none

/-- The bridge that a cycle polls with and the place of its core's bytes, if the cycle polls. -/
def polling? : Option (Bridge σ × CoreBlock) :=
  let b := b.resetIfRequested rack
  if b.control.state = .stopped then none
  else
    match b.progress rack now with
    | .surveying => none
    | .finished entered => (b.concluded rack now entered).placed?

variable {b rack now}

theorem placed?_eq_some_iff {c : Bridge σ} {core : CoreBlock} :
    b.placed? = some (c, core) ↔ b = c ∧ b.isRunning = true ∧ b.core = some core := by
  rw [placed?]
  split
  · rename_i hrunning
    cases b.core <;> simp [hrunning]
  · rename_i hrunning
    simp [hrunning]

/-- A cycle that polls comes to it by way of a reset, of its step of the survey, and of the end of
the survey. -/
theorem polling?_eq_some_iff {c : Bridge σ} {core : CoreBlock} :
    b.polling? rack now = some (c, core) ↔
      ∃ entered, (b.resetIfRequested rack).control.state ≠ .stopped ∧
        (b.resetIfRequested rack).progress rack now = .finished entered ∧
        ((b.resetIfRequested rack).concluded rack now entered).placed? = some (c, core) := by
  rw [polling?]
  split
  · rename_i hstopped
    simp [hstopped]
  · rename_i hworking
    cases (b.resetIfRequested rack).progress rack now <;> simp [hworking]

/-- **A cycle that polls** does so with its bridge. -/
theorem worked_of_polling? {c : Bridge σ} {core : CoreBlock}
    (h : b.polling? rack now = some (c, core)) :
    c.core = some core ∧ b.worked rack now = c.poll rack now := by
  obtain ⟨entered, hworking, hprogress, hplaced⟩ := polling?_eq_some_iff.mp h
  obtain ⟨rfl, hrunning, hcore⟩ := placed?_eq_some_iff.mp hplaced
  refine ⟨hcore, ?_⟩
  rw [worked, if_neg hworking, work_of_finished hprogress, ← concluded, pollIfRunning,
    if_pos hrunning]

/-- A bridge that does not run or has no place for its core's bytes does not poll. -/
theorem pollIfRunning_of_placed?_eq_none (h : b.placed? = none) :
    b.pollIfRunning rack now = b := by
  rw [pollIfRunning]
  split
  · rename_i hrunning
    rw [placed?, if_pos hrunning, Option.map_eq_none_iff] at h
    exact b.poll_of_core_eq_none rack h now
  · rfl

/-- **A cycle that does not poll** leaves the image and the last round alone, but for a reset. -/
theorem worked_of_polling?_eq_none (h : b.polling? rack now = none) :
    (b.worked rack now).image = (b.resetIfRequested rack).image ∧
      (b.worked rack now).round = (b.resetIfRequested rack).round := by
  -- the cases are those of `polling?`, each of which fails to give a bridge
  rw [polling?] at h
  rw [worked]
  split at h
  · rename_i hstopped
    obtain ⟨bus, hmaintenance⟩ := (b.resetIfRequested rack).performMaintenance_eq rack
    rw [if_pos hstopped, hmaintenance]
    exact ⟨rfl, rfl⟩
  · rename_i hworking
    rw [if_neg hworking]
    cases hprogress : (b.resetIfRequested rack).progress rack now with
    | surveying =>
      rw [work_of_surveying hprogress]
      exact ⟨rfl, rfl⟩
    | finished entered =>
      rw [hprogress] at h
      rw [work_of_finished hprogress, ← concluded, pollIfRunning_of_placed?_eq_none h]
      cases entered <;> exact ⟨rfl, rfl⟩

/-- What a reset, a step of the survey and its end keep holds of the bridge that a cycle polls
with. -/
theorem polling?_keeps {P : Bridge σ → Prop} {c : Bridge σ} {core : CoreBlock}
    (h : b.polling? rack now = some (c, core)) (resets : P (b.resetIfRequested rack))
    (surveys : ∀ d, d.control.state ≠ .stopped → P d → P (d.surveyed rack now))
    (ends : ∀ d, d.survey.phase = .finished → P d → P (d.endSurvey rack)) : P c := by
  obtain ⟨entered, hworking, hprogress, hplaced⟩ := polling?_eq_some_iff.mp h
  obtain ⟨rfl, -, -⟩ := placed?_eq_some_iff.mp hplaced
  have hsurveyed := surveys _ hworking resets
  obtain ⟨hphase, -⟩ := (b.resetIfRequested rack).site.finished_of_step hprogress
  cases entered with
  | true => exact ends _ hphase hsurveyed
  | false => exact hsurveyed

variable (b rack now)

/-! ## What the core writes -/

/-- The image before the core writes its own bytes: as the drivers leave it, if the cycle polls. -/
def driven : Image :=
  match b.polling? rack now with
  | some (c, _) => c.polled.swept rack c.settings.rightBase
  | none => (b.resetIfRequested rack).image

theorem core_runCycle : (b.runCycle rack now).core = (b.worked rack now).core := by
  obtain ⟨status, bus, image, shownLamps, hshown, -⟩ := (b.worked rack now).shown_eq rack
  rw [runCycle_eq_worked, hshown]

variable {b rack now}

/-- The place of the core's bytes with which a cycle polls is their place afterwards. -/
theorem core_worked_of_polling? {c : Bridge σ} {core : CoreBlock}
    (h : b.polling? rack now = some (c, core)) : (b.worked rack now).core = some core := by
  obtain ⟨hcore, hworked⟩ := worked_of_polling? h
  rw [hworked, core_poll, hcore]

theorem image_runCycle {core : CoreBlock} (hcore : (b.worked rack now).core = some core) :
    (b.runCycle rack now).image =
      (core.writeStatus (b.worked rack now).image
        ((b.worked rack now).applyRunning rack).control.status).2 := by
  obtain ⟨status, bus, hrunning⟩ := (b.worked rack now).applyRunning_eq rack
  have hplaced : ((b.worked rack now).applyRunning rack).core = some core := by
    rw [hrunning]
    exact hcore
  have himage : ((b.worked rack now).applyRunning rack).image = (b.worked rack now).image := by
    rw [hrunning]
  rw [runCycle_eq_worked, image_publish _ rack hplaced, himage]

/-- **What a cycle writes beyond the drivers** are the core's input bytes. -/
theorem changesOnly_runCycle {core : CoreBlock} (hcore : (b.runCycle rack now).core = some core) :
    Image.ChangesOnly core.inputs (b.driven rack now) (b.runCycle rack now).image := by
  rw [core_runCycle] at hcore
  rw [image_runCycle hcore]
  refine Image.ChangesOnly.trans ?_ (core.changesOnly_writeStatus _ _)
  cases hpolling : b.polling? rack now with
  | none =>
    rw [driven, hpolling, (worked_of_polling?_eq_none hpolling).1]
    exact .refl _ _
  | some e =>
    obtain ⟨c, place⟩ := e
    obtain rfl : place = core :=
      Option.some.inj ((core_worked_of_polling? hpolling).symm.trans hcore)
    obtain ⟨hplaced, hworked⟩ := worked_of_polling? hpolling
    rw [driven, hpolling, hworked, c.poll_eq rack hplaced]
    exact c.polled.changesOnly_cycle rack c.settings.rightBase place now

/-! ## Accesses that succeed -/

/-- All accesses of a cycle to the core's bytes succeed. -/
structure Accesses (rack : Rack σ) (b : Bridge σ) (now : UInt64) : Prop where
  /-- A cycle that polls shows the error count and the cycle time. -/
  shows : ∀ c core, b.polling? rack now = some (c, core) →
    (c.polled.counted rack c.settings.rightBase core now).1 = .ok () ∧
      (c.polled.timed rack c.settings.rightBase core now).1 = .ok ()
  /-- It reads both error limits, and its round obeys them. -/
  obeys : ∀ c core, b.polling? rack now = some (c, core) → ∃ lower upper round,
    core.readLimits (c.polled.timed rack c.settings.rightBase core now).2 = .ok (lower, upper) ∧
      (b.runCycle rack now).round = some round ∧
      round.degraded = exceeds round.errors lower ∧ round.stop = exceeds round.errors upper
  /-- Every cycle shows the status flags and reads the lamps, once the core's bytes have a place. -/
  publishes : ∀ core, (b.worked rack now).core = some core →
    let c := (b.worked rack now).applyRunning rack
    (core.writeStatus c.image c.control.status).1 = .ok () ∧
      ∃ lamps, core.readLamps (core.writeStatus c.image c.control.status).2 = .ok lamps

/-- **All accesses succeed** if the core's bytes end inside the image, whatever has become of its
size. -/
theorem accesses_of_liesIn
    (hpolls : ∀ c core, b.polling? rack now = some (c, core) →
      core.LiesIn (c.polled.swept rack c.settings.rightBase).size)
    (hworked : ∀ core, (b.worked rack now).core = some core →
      core.LiesIn (b.worked rack now).image.size) : b.Accesses rack now := by
  constructor
  · intro c core hpolling
    have hlies := hpolls c core hpolling
    have hcounted := hlies
    rw [← c.polled.size_counted rack c.settings.rightBase core now] at hcounted
    exact ⟨hlies.accessible.errors _, hcounted.accessible.cycle _⟩
  · intro c core hpolling
    have htimed := hpolls c core hpolling
    rw [← c.polled.size_timed rack c.settings.rightBase core now] at htimed
    obtain ⟨lower, upper, hlimits⟩ := htimed.accessible.limits
    obtain ⟨hcore, hpolled⟩ := worked_of_polling? hpolling
    refine ⟨lower, upper, _, hlimits, ?_, c.polled.limits_cycle rack _ core now hlimits⟩
    obtain ⟨status, bus, image, shownLamps, hshown, -⟩ := (b.worked rack now).shown_eq rack
    rw [runCycle_eq_worked, hshown, hpolled, c.poll_eq rack hcore]
    rfl
  · intro core hcore c
    have himage : c.image = (b.worked rack now).image := by
      obtain ⟨status, bus, hrunning⟩ := (b.worked rack now).applyRunning_eq rack
      show ((b.worked rack now).applyRunning rack).image = _
      rw [hrunning]
    have hlies : core.LiesIn c.image.size := himage ▸ hworked core hcore
    have hwritten : core.LiesIn (core.writeStatus c.image c.control.status).2.size := by
      rw [(core.changesOnly_writeStatus c.image c.control.status).size]
      exact hlies
    exact ⟨hlies.accessible.status _, hwritten.accessible.lamps⟩

end Bridge

end RackBus
