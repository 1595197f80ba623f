import RackBus.Proofs.Lifecycle

/-!
# How long a stop lasts

A stop takes effect at once, and a request for a reset waits for the next cycle.  So a stop ends
what the bridge does, but it does not take back what was asked of the bridge before.

* `Operation.asksReset` are the operations that ask for a reset, and `Operation.isIdle` those that
  leave a stopped bridge as it is.  `Bridge.resetRequested_run`: a request waits exactly if it came
  after the last cycle.
* `Bridge.Halted` says what becomes of a bridge that has just been stopped, as long as nobody asks
  for a reset again: it stays stopped, unless a request was waiting before the stop and the
  configuration can be loaded.  `Bridge.halted_run` says this of every stop, and
  `Bridge.resumed_run` is a bridge that works again after a stop.
-/

set_option autoImplicit false

namespace RackBus

universe u

namespace Operation

/-- Does an operation ask for a reset, at once or with the next cycle? -/
def asksReset : Operation → Bool
  | reset | requestReset => true
  | _ => false

/-- Is an operation neither a cycle nor about a reset? -/
def isIdle : Operation → Bool
  | cycle _ | reset | requestReset => false
  | _ => true

/-- Does a request for a reset wait after an operation, given whether one did before? -/
def awaitsReset (before : Bool) : Operation → Bool
  | cycle _ => false
  | requestReset => true
  | _ => before

end Operation

namespace Bridge

variable {σ : Type u} (b : Bridge σ) (rack : Rack σ)

/-! ## Requests that wait -/

theorem resetRequested_runCycle (now : UInt64) :
    (b.runCycle rack now).control.resetRequested = false := by
  have hdone := b.resetRequested_resetIfRequested rack
  rw [← b.runCycle_resetIfRequested, runCycle_eq _ rack hdone]
  generalize b.resetIfRequested rack = c at hdone ⊢
  have hshown (d : Bridge σ) : ((d.applyRunning rack).publish rack).control.resetRequested =
      d.control.resetRequested := by
    obtain ⟨status, bus, image, shownLamps, hshown, -⟩ := d.shown_eq rack
    rw [hshown]
  rw [hshown]
  split
  · obtain ⟨bus, hmaintenance⟩ := c.performMaintenance_eq rack
    rw [hmaintenance]
    exact hdone
  · exact (congrArg Standing.resetRequested (c.standing_work rack now)).trans hdone

theorem resetRequested_perform (o : Operation) :
    (b.perform rack o).control.resetRequested = o.awaitsReset b.control.resetRequested := by
  cases o with
  | cycle now => exact b.resetRequested_runCycle rack now
  | reset =>
    rw [perform, reset_eq, restart_eq]
    split <;> rfl
  | requestMaintenance action =>
    obtain ⟨waiting, hwaiting⟩ := b.control.requestMaintenance_eq action
    rw [perform, hwaiting]
    rfl
  | _ => rfl

/-- **A request for a reset waits** exactly if no cycle has come since. -/
theorem resetRequested_run (operations : List Operation) :
    (b.run rack operations).control.resetRequested =
      operations.foldl Operation.awaitsReset b.control.resetRequested := by
  induction operations generalizing b with
  | nil => rfl
  | cons o rest ih => rw [run_cons, ih, resetRequested_perform, List.foldl_cons]

/-! ## A bridge that was stopped -/

variable {b}

/-- Without a request for a reset, nothing makes a stopped bridge work again. -/
theorem stopped_run {later : List Operation} (hlater : later.all (fun o ↦ !o.asksReset) = true)
    (hstate : b.control.state = .stopped) (hreset : b.control.resetRequested = false) :
    (b.run rack later).control.state = .stopped := by
  induction later generalizing b with
  | nil => exact hstate
  | cons o rest ih =>
    obtain ⟨ho, hrest⟩ := Bool.and_eq_true_iff.mp hlater
    have hasked := b.resetRequested_perform rack o
    rw [hreset] at hasked
    rw [run_cons]
    cases o with
    | cycle now => exact ih hrest (state_runCycle_of_stopped rack now hreset hstate) hasked
    | reset | requestReset => exact absurd ho Bool.false_ne_true
    | stop => exact ih hrest rfl hasked
    | requestMaintenance action =>
      obtain ⟨waiting, hwaiting⟩ := b.control.requestMaintenance_eq action
      refine ih hrest ?_ hasked
      rw [perform, hwaiting]
      exact hstate
    | writeByte offset value => exact ih hrest hstate hasked

/-- Idle operations leave a stopped bridge stopped, and what a reset would load is the same. -/
theorem stopped_run_of_isIdle {idle : List Operation} (hidle : idle.all Operation.isIdle = true)
    (hstate : b.control.state = .stopped) :
    (b.run rack idle).control.state = .stopped ∧
      (b.run rack idle).control.resetRequested = b.control.resetRequested ∧
      (b.run rack idle).loading rack = b.loading rack := by
  induction idle generalizing b with
  | nil => exact ⟨hstate, rfl, rfl⟩
  | cons o rest ih =>
    obtain ⟨ho, hrest⟩ := Bool.and_eq_true_iff.mp hidle
    rw [run_cons]
    cases o with
    | cycle now | reset | requestReset => exact absurd ho Bool.false_ne_true
    | stop => exact ih hrest (b := b.perform rack .stop) rfl
    | requestMaintenance action =>
      obtain ⟨waiting, hwaiting⟩ := b.control.requestMaintenance_eq action
      rw [perform, hwaiting]
      exact ih hrest (b := { b with control := { b.control with waiting := waiting } }) hstate
    | writeByte offset value =>
      exact ih hrest (b := b.perform rack (.writeByte offset value)) hstate

/-- A request for a reset that finds no configuration changes nothing either. -/
theorem stopped_run_of_loading_error {later : List Operation}
    (hlater : later.all (fun o ↦ !o.asksReset) = true) (hstate : b.control.state = .stopped)
    {e : Failure} (hloading : (b.loading rack).1 = .error e) :
    (b.run rack later).control.state = .stopped := by
  induction later generalizing b with
  | nil => exact hstate
  | cons o rest ih =>
    obtain ⟨ho, hrest⟩ := Bool.and_eq_true_iff.mp hlater
    have hgoes (hidle : o.isIdle = true) :
        (b.run rack (o :: rest)).control.state = .stopped := by
      have hone : [o].all Operation.isIdle = true := by simp [hidle]
      obtain ⟨hnext, -, hsame⟩ := stopped_run_of_isIdle rack hone hstate
      exact ih hrest hnext (hsame ▸ hloading)
    cases o with
    | cycle now =>
      refine stopped_run (b := b.runCycle rack now) rack hrest ?_
        (b.resetRequested_runCycle rack now)
      cases hreset : b.control.resetRequested with
      | false => exact state_runCycle_of_stopped rack now hreset hstate
      | true =>
        have hrestarted := state_runCycle_of_resetRequested rack hreset now
        rw [hloading] at hrestarted
        exact hrestarted
    | reset | requestReset => exact absurd ho Bool.false_ne_true
    | stop | requestMaintenance _ | writeByte _ _ => exact hgoes rfl

/-- What becomes of a bridge that has just been stopped, as long as nobody asks for a reset. -/
structure Halted (rack : Rack σ) (b : Bridge σ) : Prop where
  stopped : b.control.state = .stopped
  /-- If no request for a reset waits, it stays stopped. -/
  lasts : b.control.resetRequested = false → ∀ later : List Operation,
    later.all (fun o ↦ !o.asksReset) = true → (b.run rack later).control.state = .stopped
  /-- So it does if a request waits and the configuration cannot be loaded. -/
  lasts_of_error : ∀ e, (b.loading rack).1 = .error e → ∀ later : List Operation,
    later.all (fun o ↦ !o.asksReset) = true → (b.run rack later).control.state = .stopped
  /-- If a request waits and the configuration can be loaded, it stays stopped until the next cycle,
  which begins a survey. -/
  resumes : b.control.resetRequested = true → ∀ declared, (b.loading rack).1 = .ok declared →
    ∀ idle : List Operation, idle.all Operation.isIdle = true →
      (b.run rack idle).control.state = .stopped ∧
        ∀ now, (b.run rack (idle ++ [.cycle now])).control.state = .initializing

theorem halted_of_stopped (hstate : b.control.state = .stopped) : b.Halted rack where
  stopped := hstate
  lasts hreset _ hlater := stopped_run rack hlater hstate hreset
  lasts_of_error _ hloading _ hlater := stopped_run_of_loading_error rack hlater hstate hloading
  resumes hreset declared hloading idle hidle := by
    obtain ⟨hstopped, hwaits, hsame⟩ := stopped_run_of_isIdle rack hidle hstate
    refine ⟨hstopped, fun now ↦ ?_⟩
    rw [run_append]
    refine (state_runCycle_of_resetRequested rack (hwaits.trans hreset) now).trans ?_
    rw [hsame, hloading]

/-- **A stop lasts until somebody asks for a reset.**  After every history and whatever the rack
does, a bridge that is stopped stays so until then, except that a request from before the stop, with
no cycle since, is still granted. -/
theorem halted_run {state : σ} {settings : Settings} (hb : start rack state settings = .ok b)
    (before : List Operation) :
    (b.run rack (before ++ [.stop])).Halted rack ∧
      (b.run rack (before ++ [.stop])).control.resetRequested =
        before.foldl Operation.awaitsReset false := by
  refine ⟨?_, ?_⟩
  · rw [run_append]
    exact halted_of_stopped rack rfl
  · obtain ⟨declared, -, rfl⟩ := eq_of_start hb
    rw [resetRequested_run, List.foldl_append]
    rfl

/-- A module that cannot be polled stops the bridge, and a reset is asked for. -/
def erringHistory : List Operation := limitedHistory ++ [.cycle 650000, .requestReset]

theorem halted_run_erringHistory :
    ∃ b, start Chains.rack failingModule .usual = .ok b ∧
      ((b.run Chains.rack (erringHistory ++ [.stop])).Halted Chains.rack ∧
        (b.run Chains.rack (erringHistory ++ [.stop])).control.resetRequested =
          erringHistory.foldl Operation.awaitsReset false) ∧
      erringHistory.foldl Operation.awaitsReset false = true :=
  ⟨_, rfl, halted_run Chains.rack (show start Chains.rack failingModule .usual = _ from rfl)
    erringHistory, by decide +kernel⟩

/-- **A stop may be undone** by a request from before it: nobody asks for a reset after the stop,
and the next cycle begins a survey. -/
theorem resumed_run :
    ∃ b, start Chains.rack (.ofModules [] []) .usual = .ok b ∧
      (b.run Chains.rack [.requestReset, .stop]).control.state = .stopped ∧
      ([.cycle 0] : List Operation).all (fun o ↦ !o.asksReset) = true ∧
      (b.run Chains.rack ([.requestReset, .stop] ++ [.cycle 0])).control.state = .initializing :=
  ⟨_, rfl, by decide +kernel, by decide, by decide +kernel⟩

end Bridge

end RackBus
