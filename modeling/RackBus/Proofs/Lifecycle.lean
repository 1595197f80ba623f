import RackBus.Proofs.Cycle
import RackBus.Proofs.Reconciliation
import RackBus.Proofs.SurveyStep
import RackBus.Simulation.Chain

/-!
# The states of a bridge

A bridge is stopped, surveys its modules, or polls them.  Its survey, its roster, the place of the
core and the report are kept apart from this state and changed at other places.  This file says that
they agree all the same, and how the state goes on from cycle to cycle.

* `Bridge.Unfinished` and `Bridge.Established` are what the two working states come with, and
  `Bridge.Coherent` says that a bridge has what its state comes with.
* `Bridge.HasPolled` ties the state to the error count and the upper limit after a round of polling;
  `Bridge.Unfinished.work` and `Bridge.Established.work` are what one cycle of work can do.
* `Bridge.Proceeds` lists what a cycle makes of each state, and `Bridge.proceeds_run` says that
  every bridge is coherent and proceeds in this way after every history.
-/

set_option autoImplicit false

namespace RackBus

universe u

namespace Site

variable {σ : Type u} (site : Site σ) (rack : Rack σ) (settings : Settings) (now : UInt64)

/-- A step of a survey does not fix the number of rows that were found. -/
theorem scanned_step : (site.step rack settings now).2.roster.scanned = site.roster.scanned := by
  cases site.outcome_step rack settings now with
  | quiet roster next => rw [roster]
  | enrolled side address identity phase free roster next =>
    rw [Roster.append] at roster
    split at roster
    · exact absurd roster (by simp)
    · rw [← Except.ok.inj roster]

variable {site} {rack} {settings} {now}

/-- A survey that says it is over has performed the actions of the last phase. -/
theorem entering_of_finished {entered : Bool}
    (h : (site.step rack settings now).1 = .finished entered) :
    (site.step rack settings now).2.survey.entering = false := by
  rw [step_eq] at h ⊢
  dsimp only [progress] at h
  split at h
  · rename_i hfinished
    exact hfinished.2
  · exact absurd h (by simp)

variable (rack settings now)

/-- Once the last phase has begun, a step changes nothing. -/
theorem step_of_finished (hphase : site.survey.phase = .finished)
    (hentering : site.survey.entering = false) :
    site.step rack settings now = (.finished false, site) := by
  have henter : site.enterIfNew rack settings.timings now = site := by
    rw [enterIfNew, hentering]
    rfl
  have hcheck : site.check rack settings now = (none, site) := by
    rw [check, hphase]
  rw [step, henter, hcheck]
  dsimp only [goTo]
  rw [progress, if_pos ⟨hphase, hentering⟩, hentering]

end Site

theorem exceeds_iff {count limit : UInt16} :
    exceeds count limit = true ↔ limit ≠ 0 ∧ limit < count := by
  rw [exceeds, Bool.and_eq_true, bne_iff_ne, decide_eq_true_iff]

/-- The upper error limit that an image shows.  There is none if it cannot be read. -/
def CoreBlock.upperLimit (core : CoreBlock) (image : Image) : UInt16 :=
  match core.readLimits image with
  | .ok (_, upper) => upper
  | .error _ => 0

section

variable {σ : Type u} (p : Polled σ) (rack : Rack σ) (base : Address) (core : CoreBlock)
  (now : UInt64)

/-- A round of polling keeps the number of rows that were found. -/
theorem Polled.scanned_cycle :
    (p.cycle rack base core now).2.roster.scanned = p.roster.scanned := rfl

theorem Polled.errors_cycle :
    (p.cycle rack base core now).1.errors =
      clampWord (p.cycle rack base core now).2.roster.errorSum := rfl

/-- A round of polling asks for a stop exactly if there are more errors than the upper limit that
the image shows afterwards allows. -/
theorem Polled.stop_cycle :
    (p.cycle rack base core now).1.stop = true ↔
      core.upperLimit (p.cycle rack base core now).2.image ≠ 0 ∧
        core.upperLimit (p.cycle rack base core now).2.image <
          (p.cycle rack base core now).1.errors := by
  rw [CoreBlock.upperLimit]
  dsimp only [cycle]
  generalize core.readLimits _ = limits
  cases limits <;> exact exceeds_iff

end

namespace Bridge

variable {σ : Type u}

/-! ## What the states come with -/

/-- A bridge whose survey is not over: nothing of what follows a survey is there. -/
structure Unfinished (b : Bridge σ) : Prop where
  /-- The core's bytes have no place. -/
  core : b.core = none
  report : b.report = none
  /-- The number of rows that were found is open. -/
  scanned : b.roster.scanned = none
  /-- The actions of the last phase have not been performed. -/
  entering : b.survey.phase = .finished → b.survey.entering = true

/-- A bridge whose survey is over: all that follows a survey is there. -/
structure Established (b : Bridge σ) : Prop where
  /-- The survey rests in its last phase, with its actions performed. -/
  phase : b.survey.phase = .finished
  entering : b.survey.entering = false
  /-- The number of rows that were found is fixed. -/
  scanned : b.roster.scanned ≠ none
  /-- The core's bytes have a place. -/
  core : b.core ≠ none
  report : b.report ≠ none

/-- A bridge that has what its state comes with. -/
structure Coherent (b : Bridge σ) : Prop where
  initializing : b.control.state = .initializing → b.Unfinished
  running : b.control.state = .running → b.Established

/-- The upper error limit of a bridge. -/
def upperLimit (b : Bridge σ) : UInt16 := b.core.elim 0 fun core ↦ core.upperLimit b.image

/-- A bridge right after a round of polling, which has found an upper error limit. -/
structure HasPolled (b : Bridge σ) (limit : UInt16) : Prop where
  round : b.round ≠ none
  /-- The error count is that of all rows. -/
  errors : b.control.errors = clampWord b.roster.errorSum
  /-- The bridge has stopped if there are more errors than the limit allows, and runs otherwise. -/
  state : b.control.state =
    if limit ≠ 0 ∧ limit < b.control.errors then .stopped else .running

theorem HasPolled.coherent {b : Bridge σ} {limit : UInt16} (h : b.HasPolled limit)
    (hended : b.Established) : b.Coherent where
  initializing hs := by
    have hstate := h.state
    rw [hs] at hstate
    split at hstate <;> exact absurd hstate (by simp)
  running _ := hended

theorem Unfinished.congr {b b' : Bridge σ} (h : b.Unfinished) (hcore : b'.core = b.core)
    (hreport : b'.report = b.report) (hroster : b'.roster = b.roster)
    (hsurvey : b'.survey = b.survey) : b'.Unfinished :=
  ⟨hcore.trans h.core, hreport.trans h.report, hroster ▸ h.scanned, hsurvey ▸ h.entering⟩

theorem Established.congr {b b' : Bridge σ} (h : b.Established) (hcore : b'.core = b.core)
    (hreport : b'.report = b.report) (hroster : b'.roster = b.roster)
    (hsurvey : b'.survey = b.survey) : b'.Established :=
  ⟨hsurvey ▸ h.phase, hsurvey ▸ h.entering, hroster ▸ h.scanned, hcore ▸ h.core,
    hreport ▸ h.report⟩

theorem Coherent.congr {b b' : Bridge σ} (h : b.Coherent)
    (hstate : b'.control.state = b.control.state) (hcore : b'.core = b.core)
    (hreport : b'.report = b.report) (hroster : b'.roster = b.roster)
    (hsurvey : b'.survey = b.survey) : b'.Coherent where
  initializing hs := (h.initializing (hstate ▸ hs)).congr hcore hreport hroster hsurvey
  running hs := (h.running (hstate ▸ hs)).congr hcore hreport hroster hsurvey

/-- A stopped bridge need not have anything. -/
theorem coherent_of_stopped {b : Bridge σ} (h : b.control.state = .stopped) : b.Coherent where
  initializing hs := absurd (h.symm.trans hs) (by decide)
  running hs := absurd (h.symm.trans hs) (by decide)

/-! ## A cycle of work -/

section Work

variable {b : Bridge σ} (rack : Rack σ) (now : UInt64)

/-- **A round of polling** counts the errors and compares them with the upper limit. -/
theorem Established.poll (h : b.Established) (hstate : b.control.state = .running) :
    (b.poll rack now).Established ∧
      (b.poll rack now).HasPolled (b.poll rack now).upperLimit := by
  obtain ⟨core, hcore⟩ := Option.ne_none_iff_exists'.mp h.core
  have hscanned := b.polled.scanned_cycle rack b.settings.rightBase core now
  have herrors := b.polled.errors_cycle rack b.settings.rightBase core now
  have hstop := b.polled.stop_cycle rack b.settings.rightBase core now
  rw [b.poll_eq rack hcore now]
  generalize b.polled.cycle rack b.settings.rightBase core now = result at hscanned herrors hstop
  obtain ⟨round, polled⟩ := result
  constructor
  · exact ⟨h.phase, h.entering, hscanned ▸ h.scanned, h.core, h.report⟩
  · refine ⟨Option.some_ne_none round, herrors, ?_⟩
    have hlimit : (b.afterRound round polled).upperLimit = core.upperLimit polled.image := by
      rw [upperLimit, afterRound, hcore]
      rfl
    rw [hlimit]
    exact if_congr hstop rfl hstate

/-- Once its survey is over, a bridge that runs has nothing to do but to poll. -/
theorem Established.work_eq (h : b.Established) (hstate : b.control.state = .running) :
    b.work rack now = b.poll rack now := by
  have hstep : b.site.step rack b.settings now = (.finished false, b.site) :=
    Site.step_of_finished rack b.settings now h.phase h.entering
  have hprogress : b.progress rack now = .finished false := by rw [progress, hstep]
  have hsurveyed : b.surveyed rack now = b := by
    rw [surveyed, hstep]
    rfl
  have hrunning : b.isRunning = true := by rw [isRunning, hstate, beq_self_eq_true]
  rw [work_of_finished hprogress, hsurveyed, if_neg Bool.false_ne_true, pollIfRunning,
    if_pos hrunning]

/-- A bridge that runs polls in every cycle. -/
theorem Established.work (h : b.Established) (hstate : b.control.state = .running) :
    (b.work rack now).Established ∧
      (b.work rack now).HasPolled (b.work rack now).upperLimit := by
  rw [h.work_eq rack now hstate]
  exact h.poll rack now hstate

/-- The end of a survey establishes all that follows it, and the bridge runs. -/
theorem established_endSurvey (hphase : b.survey.phase = .finished)
    (hentering : b.survey.entering = false) :
    (b.endSurvey rack).Established ∧ (b.endSurvey rack).control.state = .running := by
  have hscanned : (b.endSurvey rack).roster.scanned = some b.roster.scannedSize :=
    b.roster.scanned_reconcile b.declared b.image.size b.control.status
  refine ⟨⟨hphase, hentering, ?_, ?_, ?_⟩, rfl⟩
  · rw [hscanned]
    exact Option.some_ne_none _
  · exact Option.some_ne_none _
  · exact Option.some_ne_none _

/-- A bridge whose survey is not over takes a step of it.  If that step ends the survey, what
follows a survey is established, and then the bridge polls. -/
theorem Unfinished.work_eq (h : b.Unfinished) :
    (b.progress rack now = .surveying ∧ b.work rack now = b.surveyed rack now) ∨
    (b.progress rack now = .finished true ∧
      b.work rack now = ((b.surveyed rack now).endSurvey rack).poll rack now ∧
      ((b.surveyed rack now).endSurvey rack).Established ∧
      ((b.surveyed rack now).endSurvey rack).control.state = .running) := by
  cases hprogress : b.progress rack now with
  | surveying => exact Or.inl ⟨rfl, work_of_surveying hprogress⟩
  | finished entered =>
    obtain ⟨hphase, hbefore, hentered⟩ := b.site.finished_of_step hprogress
    obtain rfl : entered = true := hentered.trans (h.entering hbefore)
    have hentering : (b.surveyed rack now).survey.entering = false :=
      b.site.entering_of_finished hprogress
    obtain ⟨hended, hrunning⟩ :=
      established_endSurvey (b := b.surveyed rack now) rack hphase hentering
    refine Or.inr ⟨rfl, ?_, hended, hrunning⟩
    rw [work_of_finished hprogress, if_pos rfl, pollIfRunning,
      if_pos (by rw [isRunning, hrunning, beq_self_eq_true])]

/-- **A bridge whose survey is not over** goes on with it, or ends it and polls for the first
time. -/
theorem Unfinished.work (h : b.Unfinished) (hstate : b.control.state = .initializing) :
    (b.progress rack now = .surveying ∧ (b.work rack now).control.state = .initializing ∧
      (b.work rack now).Unfinished) ∨
    (b.progress rack now = .finished true ∧ (b.work rack now).Established ∧
      (b.work rack now).HasPolled (b.work rack now).upperLimit) := by
  rcases h.work_eq rack now with ⟨hprogress, hwork⟩ | ⟨hprogress, hwork, hended, hrunning⟩
  · rw [hwork]
    refine Or.inl ⟨hprogress, hstate, h.core, h.report, ?_, ?_⟩
    · exact (b.site.scanned_step rack b.settings now).trans h.scanned
    · exact b.site.entering_of_step hprogress
  · rw [hwork]
    exact Or.inr ⟨hprogress, hended.poll rack now hrunning⟩

/-- **What a cycle of work can be**: a step of the survey, or the last step of it and all that
follows, or a round of polling. -/
theorem Coherent.work_eq (h : b.Coherent) (hworking : b.control.state ≠ .stopped) :
    (b.core = none ∧ b.work rack now = b.surveyed rack now) ∨
    (b.core = none ∧ b.work rack now = ((b.surveyed rack now).endSurvey rack).poll rack now) ∨
    b.work rack now = b.poll rack now := by
  cases hstate : b.control.state with
  | stopped => exact absurd hstate hworking
  | initializing =>
    have hopen := h.initializing hstate
    rcases hopen.work_eq rack now with ⟨-, hwork⟩ | ⟨-, hwork, -⟩
    · exact Or.inl ⟨hopen.core, hwork⟩
    · exact Or.inr (Or.inl ⟨hopen.core, hwork⟩)
  | running => exact Or.inr (Or.inr ((h.running hstate).work_eq rack now hstate))

end Work

/-! ## Cycles -/

section Cycles

variable {b : Bridge σ} (rack : Rack σ)

theorem unfinished_renewed (b : Bridge σ) (state : Lifecycle) (declared : List Declaration)
    (bus : Bus σ) : (b.renewed state declared bus).Unfinished :=
  ⟨rfl, rfl, rfl, fun _ ↦ rfl⟩

/-- Nobody has begun a survey that starts all over. -/
theorem progress_renewed (b : Bridge σ) (state : Lifecycle) (declared : List Declaration)
    (bus : Bus σ) (now : UInt64) :
    (b.renewed state declared bus).progress rack now = .surveying := by
  cases hprogress : (b.renewed state declared bus).progress rack now with
  | surveying => rfl
  | finished entered =>
    obtain ⟨-, hphase, -⟩ := (b.renewed state declared bus).site.finished_of_step hprogress
    exact absurd hphase (by simp [site, renewed, Survey.start])

/-- Bridges that have started all over have what their state comes with. -/
theorem coherent_restart (b : Bridge σ) : (b.restart rack).2.Coherent := by
  rw [restart_eq]
  split
  · exact coherent_of_stopped rfl
  · exact ⟨fun _ ↦ unfinished_renewed _ _ _ _, fun hs ↦ absurd hs (by simp [renewed])⟩

/-- Showing the outcome of a cycle leaves alone what the states come with. -/
theorem Coherent.shown (h : b.Coherent) : ((b.applyRunning rack).publish rack).Coherent := by
  obtain ⟨status, bus, image, shownLamps, hshown, -⟩ := b.shown_eq rack
  rw [hshown]
  exact h.congr rfl rfl rfl rfl rfl

theorem Coherent.work (h : b.Coherent) (hworking : b.control.state ≠ .stopped) (now : UInt64) :
    (b.work rack now).Coherent := by
  cases hstate : b.control.state with
  | stopped => exact absurd hstate hworking
  | initializing =>
    rcases (h.initializing hstate).work rack now hstate with
      ⟨-, hgoing, hopen⟩ | ⟨-, hended, hpolled⟩
    · exact ⟨fun _ ↦ hopen, fun hs ↦ absurd (hgoing.symm.trans hs) (by simp)⟩
    · exact hpolled.coherent hended
  | running =>
    obtain ⟨hended, hpolled⟩ := (h.running hstate).work rack now hstate
    exact hpolled.coherent hended

/-- A bridge that stops while it works has ended its survey. -/
theorem Coherent.established_work (h : b.Coherent) (hworking : b.control.state ≠ .stopped)
    {now : UInt64} (hstopped : (b.work rack now).control.state = .stopped) :
    (b.work rack now).Established := by
  cases hstate : b.control.state with
  | stopped => exact absurd hstate hworking
  | initializing =>
    rcases (h.initializing hstate).work rack now hstate with ⟨-, hgoing, -⟩ | ⟨-, hended, -⟩
    · exact absurd (hgoing.symm.trans hstopped) (by simp)
    · exact hended
  | running => exact ((h.running hstate).work rack now hstate).1

theorem Coherent.perform (h : b.Coherent) (o : Operation) : (b.perform rack o).Coherent := by
  refine b.perform_keeps rack ?_ ?_ ?_ (fun c _ ↦ coherent_restart rack c) ?_
    (fun _ now hworking hc ↦ hc.work rack hworking now) (fun _ hc ↦ hc.shown rack) h o
  · exact fun _ _ _ hc ↦ hc.congr rfl rfl rfl rfl rfl
  · exact fun _ _ _ hc ↦ hc.congr rfl rfl rfl rfl rfl
  · exact fun _ _ ↦ coherent_of_stopped rfl
  · intro c hstopped _
    obtain ⟨bus, hmaintenance⟩ := c.performMaintenance_eq rack
    rw [hmaintenance]
    exact coherent_of_stopped hstopped

theorem coherent_start {state : σ} {settings : Settings} (hb : start rack state settings = .ok b) :
    b.Coherent := by
  obtain ⟨declared, -, rfl⟩ := eq_of_start hb
  refine ⟨fun _ ↦ ⟨rfl, rfl, rfl, fun _ ↦ rfl⟩, ?_⟩
  intro hs
  have hs : (if settings.autoStart then Lifecycle.initializing else .stopped) = .running := hs
  split at hs <;> exact absurd hs (by decide)

/-! ## How the state goes on -/

/-- What a cycle makes of each state. -/
structure Proceeds (b : Bridge σ) (now : UInt64) : Prop where
  /-- Without a request for a reset, a bridge that has stopped stays stopped. -/
  stopped : b.control.resetRequested = false → b.control.state = .stopped →
    (b.runCycle rack now).control.state = .stopped
  /-- A survey goes on, or it ends and the bridge polls for the first time. -/
  initializing : b.control.resetRequested = false → b.control.state = .initializing →
    (b.progress rack now = .surveying ∧ (b.runCycle rack now).control.state = .initializing) ∨
    (b.progress rack now = .finished true ∧
      (b.runCycle rack now).HasPolled (b.work rack now).upperLimit)
  /-- A bridge that runs polls. -/
  running : b.control.resetRequested = false → b.control.state = .running →
    (b.runCycle rack now).HasPolled (b.work rack now).upperLimit
  /-- A reset makes the bridge begin a survey, unless the configuration cannot be loaded. -/
  restarted : b.control.resetRequested = true →
    (b.runCycle rack now).control.state =
      match (b.loading rack).1 with
      | .ok _ => .initializing
      | .error _ => .stopped

theorem state_shown (b : Bridge σ) :
    ((b.applyRunning rack).publish rack).control.state = b.control.state := by
  obtain ⟨status, bus, image, shownLamps, hshown, -⟩ := b.shown_eq rack
  rw [hshown]

theorem HasPolled.shown {limit : UInt16} (h : b.HasPolled limit) :
    ((b.applyRunning rack).publish rack).HasPolled limit := by
  obtain ⟨status, bus, image, shownLamps, hshown, -⟩ := b.shown_eq rack
  rw [hshown]
  exact ⟨h.round, h.errors, h.state⟩

section

variable (now : UInt64) (hreset : b.control.resetRequested = false)

include hreset

theorem state_runCycle_of_stopped (hstate : b.control.state = .stopped) :
    (b.runCycle rack now).control.state = .stopped := by
  obtain ⟨bus, hmaintenance⟩ := b.performMaintenance_eq rack
  rw [b.runCycle_eq rack hreset, if_pos hstate, state_shown, hmaintenance]
  exact hstate

theorem Unfinished.runCycle (h : b.Unfinished) (hstate : b.control.state = .initializing) :
    (b.progress rack now = .surveying ∧ (b.runCycle rack now).control.state = .initializing) ∨
    (b.progress rack now = .finished true ∧
      (b.runCycle rack now).HasPolled (b.work rack now).upperLimit) := by
  rw [b.runCycle_eq rack hreset, if_neg (by simp [hstate])]
  rcases h.work rack now hstate with ⟨hprogress, hgoing, -⟩ | ⟨hprogress, -, hpolled⟩
  · exact Or.inl ⟨hprogress, (state_shown rack _).trans hgoing⟩
  · exact Or.inr ⟨hprogress, hpolled.shown rack⟩

theorem Established.runCycle (h : b.Established) (hstate : b.control.state = .running) :
    (b.runCycle rack now).HasPolled (b.work rack now).upperLimit := by
  rw [b.runCycle_eq rack hreset, if_neg (by simp [hstate])]
  exact (h.work rack now hstate).2.shown rack

end

/-- A cycle that starts all over takes one step of the new survey, which does not end it. -/
theorem state_runCycle_of_resetRequested (hreset : b.control.resetRequested = true)
    (now : UInt64) :
    (b.runCycle rack now).control.state =
      match (b.loading rack).1 with
      | .ok _ => .initializing
      | .error _ => .stopped := by
  have hdone := b.resetRequested_resetIfRequested rack
  rw [← b.runCycle_resetIfRequested]
  rw [b.resetIfRequested_eq rack hreset] at hdone ⊢
  split
  · rename_i hloading
    rw [hloading] at hdone ⊢
    exact state_runCycle_of_stopped rack now hdone rfl
  · rename_i hloading
    rw [hloading] at hdone ⊢
    rcases (unfinished_renewed _ _ _ _).runCycle rack now hdone rfl with ⟨-, h⟩ | ⟨hended, -⟩
    · exact h
    · exact absurd ((progress_renewed rack _ _ _ _ now).symm.trans hended) (by simp)

theorem Coherent.proceeds (h : b.Coherent) (now : UInt64) : b.Proceeds rack now where
  stopped hreset hstate := state_runCycle_of_stopped rack now hreset hstate
  initializing hreset hstate := (h.initializing hstate).runCycle rack now hreset hstate
  running hreset hstate := (h.running hstate).runCycle rack now hreset hstate
  restarted hreset := state_runCycle_of_resetRequested rack hreset now

/-- **The states of a bridge.**  After every history, whatever the rack does, a bridge has what its
state comes with, and every cycle goes on from there as it should. -/
theorem proceeds_run {state : σ} {settings : Settings} (hb : start rack state settings = .ok b)
    (operations : List Operation) :
    (b.run rack operations).Coherent ∧ ∀ now, (b.run rack operations).Proceeds rack now := by
  have hcoherent : (b.run rack operations).Coherent :=
    run_invariant (fun c o (hc : c.Coherent) ↦ hc.perform rack o) (coherent_start rack hb)
      operations
  exact ⟨hcoherent, fun now ↦ hcoherent.proceeds rack now⟩

end Cycles

/-- A module on the right side whose data cannot be exchanged. -/
def failingModule : Chains :=
  { Chains.ofModules [⟨⟨0, ⟨96⟩, 0, 0, 0, 0, 2, 2, 0⟩, none, []⟩] [] with failing := [⟨32⟩] }

/-- The module is found and polled, and then one error is allowed. -/
def limitedHistory : List Operation :=
  (List.range 13).map (fun i ↦ .cycle (50000 * UInt64.ofNat i)) ++ [.writeByte 9 1]

theorem proceeds_run_limitedHistory :
    ∃ b, start Chains.rack failingModule .usual = .ok b ∧
      ((b.run Chains.rack limitedHistory).Coherent ∧
        ∀ now, (b.run Chains.rack limitedHistory).Proceeds Chains.rack now) ∧
      (b.run Chains.rack limitedHistory).control.state = .running ∧
      (b.run Chains.rack (limitedHistory ++ [.cycle 650000])).control.state = .stopped :=
  ⟨_, rfl, proceeds_run Chains.rack (show start Chains.rack failingModule .usual = _ from rfl)
    limitedHistory, by decide +kernel, by decide +kernel⟩

end Bridge

end RackBus
