import RackBus.Bridge.Operation
import RackBus.Survey.Basic

/-!
# A cycle taken apart

A cycle is made of steps that each change a few fields of a bridge.  This file says once what each
of them does, so that nothing later has to look inside.

* `Bridge.site` is the survey of a bridge at work, and `Bridge.surveyed` the bridge after one more
  step of it.  `Bridge.work_of_surveying` and `Bridge.work_of_finished` are what a cycle of work is
  then, and `Bridge.work_keeps` says that it keeps whatever its parts keep.
* `Bridge.applyRunning_eq`, `Bridge.publish_eq` and `Bridge.poll_eq` name the fields that change,
  and `Bridge.shown_eq` those that change when the outcome of a cycle is shown.
* `Bridge.standing` is the part of a bridge that a cycle of work leaves alone
  (`Bridge.standing_work`).
* `Bridge.restart_eq` gives the bridge after starting all over field by field: it is `renewed` with
  what `loading` brings.
* `Bridge.runCycle_eq` puts a cycle together again.  `Bridge.runCycle_keeps` and
  `Bridge.perform_keeps` say of a cycle and of every operation what `Bridge.work_keeps` says of
  work.
-/

set_option autoImplicit false

namespace RackBus

universe u

/-- Handing in a maintenance command changes what waits, and nothing else. -/
theorem Control.requestMaintenance_eq (c : Control) (action : Maintenance) :
    ∃ waiting, (c.requestMaintenance action).2 = { c with waiting := waiting } := by
  rw [requestMaintenance]
  split
  · exact ⟨c.waiting, rfl⟩
  · exact ⟨some action, rfl⟩

namespace Bridge

variable {σ : Type u} (b : Bridge σ) (rack : Rack σ)

/-- A bridge is made from valid settings and what was loaded. -/
theorem eq_of_start {rack : Rack σ} {state : σ} {settings : Settings} {b : Bridge σ}
    (hb : start rack state settings = .ok b) :
    ∃ declared, ((Bus.attach state).load rack).1 = .ok declared ∧
      b =
        { settings := settings
          control := .fresh (if settings.autoStart then .initializing else .stopped)
          bus := ((Bus.attach state).load rack).2.indicate rack .fault true
          survey := .start settings.rightBase
          roster := .ofCore settings.maxDevices settings.coreIdentity
          poller := .fresh
          image := .zeroed settings.imageSize
          core := none
          declared := declared
          shownRunning := false
          shownLamps := none
          report := none
          round := none } := by
  rw [start] at hb
  split at hb
  · exact absurd hb (by simp)
  · split at hb
    · exact absurd hb (by simp)
    · rename_i declared bus hload
      rw [hload]
      exact ⟨declared, rfl, (Except.ok.inj hb).symm⟩

/-! ## Work -/

/-- The survey of a bridge at work. -/
def site : Site σ := { survey := b.survey, bus := b.bus, roster := b.roster }

/-- How far the survey has come after one more step. -/
def progress (now : UInt64) : Progress := (b.site.step rack b.settings now).1

/-- The bridge after one more step of its survey. -/
def surveyed (now : UInt64) : Bridge σ :=
  let site := (b.site.step rack b.settings now).2
  { b with survey := site.survey, bus := site.bus, roster := site.roster }

/-- The bridge after a round of polling, if it runs. -/
def pollIfRunning (now : UInt64) : Bridge σ := if b.isRunning then b.poll rack now else b

variable {b rack} {now : UInt64}

/-- As long as there is more to do, a cycle of work is a step of the survey. -/
theorem work_of_surveying (h : b.progress rack now = .surveying) :
    b.work rack now = b.surveyed rack now := by
  have h : (b.site.step rack b.settings now).1 = .surveying := h
  rw [work]
  dsimp only
  split
  · rfl
  · rename_i entered hfinished
    exact absurd (hfinished.symm.trans h) (by simp)

/-- Once the survey is over, its end is dealt with if this is the step that ends it, and then the
bridge polls. -/
theorem work_of_finished {entered : Bool} (h : b.progress rack now = .finished entered) :
    b.work rack now =
      (if entered then (b.surveyed rack now).endSurvey rack
        else b.surveyed rack now).pollIfRunning rack now := by
  have h : (b.site.step rack b.settings now).1 = .finished entered := h
  rw [work]
  dsimp only
  split
  · rename_i hsurveying
    exact absurd (hsurveying.symm.trans h) (by simp)
  · rename_i e hfinished
    obtain rfl := Progress.finished.inj (hfinished.symm.trans h)
    rfl

variable (b rack)

/-! ## The fields that change -/

/-- Afterwards the running flag and the fault lamp have been brought up to date. -/
theorem applyRunning_eq :
    ∃ status bus, b.applyRunning rack =
      { b with
        shownRunning := b.isRunning
        control := { b.control with status := status }
        bus := bus } := by
  rw [applyRunning]
  split
  · rename_i h
    exact ⟨b.control.status, b.bus, by rw [h]⟩
  · exact ⟨_, _, rfl⟩

/-- Publishing changes the image, but not its size, and shows the lamps. -/
theorem publish_eq :
    ∃ image bus shownLamps, b.publish rack =
      { b with image := image, bus := bus, shownLamps := shownLamps } ∧
      image.size = b.image.size := by
  have hsize (core : CoreBlock) : (core.writeStatus b.image b.control.status).2.size =
      b.image.size := by
    rw [CoreBlock.writeStatus, Image.size_writeByte]
  rw [publish]
  split
  · exact ⟨b.image, b.bus, b.shownLamps, rfl, rfl⟩
  · rename_i core _
    dsimp only
    split
    · exact ⟨_, _, _, rfl, hsize core⟩
    · split
      · exact ⟨_, _, _, rfl, hsize core⟩
      · exact ⟨_, _, _, rfl, hsize core⟩

/-- Publishing shows the status flags, and changes nothing else in the image. -/
theorem image_publish {core : CoreBlock} (hcore : b.core = some core) :
    (b.publish rack).image = (core.writeStatus b.image b.control.status).2 := by
  rw [publish, hcore]
  dsimp only
  split
  · rfl
  · split <;> rfl

/-- The outcome of a cycle is shown by the running flag, the status byte and the lamps. -/
theorem shown_eq :
    ∃ status bus image shownLamps, (b.applyRunning rack).publish rack =
      { b with
        shownRunning := b.isRunning
        control := { b.control with status := status }
        bus := bus
        image := image
        shownLamps := shownLamps } ∧
      image.size = b.image.size := by
  obtain ⟨status, _, hrunning⟩ := b.applyRunning_eq rack
  obtain ⟨image, bus, shownLamps, hpublish, hsize⟩ := (b.applyRunning rack).publish_eq rack
  rw [hrunning] at hpublish hsize
  exact ⟨status, bus, image, shownLamps, hrunning ▸ hpublish, hsize⟩

/-- What a bridge polls with. -/
def polled : Polled σ where
  poller := b.poller
  bus := b.bus
  roster := b.roster
  image := b.image
  status := b.control.status

/-- The bridge after a round of polling. -/
def afterRound (round : Round) (polled : Polled σ) : Bridge σ :=
  { b with
    poller := polled.poller
    bus := polled.bus
    roster := polled.roster
    image := polled.image
    round := some round
    control :=
      { b.control with
        state := if round.stop then .stopped else b.control.state
        status := polled.status
        errors := round.errors } }

/-- **Polling** is one cycle of it, which may stop the bridge. -/
theorem poll_eq {core : CoreBlock} (hcore : b.core = some core) (now : UInt64) :
    b.poll rack now =
      b.afterRound (b.polled.cycle rack b.settings.rightBase core now).1
        (b.polled.cycle rack b.settings.rightBase core now).2 := by
  rw [poll, afterRound, polled, hcore]

/-- Without a place for the core's bytes nothing is polled. -/
theorem poll_of_core_eq_none (hcore : b.core = none) (now : UInt64) : b.poll rack now = b := by
  rw [poll, hcore]

/-- Whatever a round does to a bridge, polling does, if it does anything. -/
theorem poll_keeps {P : Bridge σ → Prop} (rounds : ∀ round polled, P (b.afterRound round polled))
    (h : P b) (now : UInt64) : P (b.poll rack now) := by
  cases hcore : b.core with
  | none =>
    rw [b.poll_of_core_eq_none rack hcore now]
    exact h
  | some core =>
    rw [b.poll_eq rack hcore now]
    exact rounds _ _

/-- The core's bytes stay where they are while the bridge polls. -/
theorem core_poll (now : UInt64) : (b.poll rack now).core = b.core :=
  b.poll_keeps rack (P := fun c ↦ c.core = b.core) (fun _ _ ↦ rfl) rfl now

/-- **What all parts of a cycle of work keep**, it keeps.  The survey ends only if the step of this
cycle ends it. -/
theorem work_keeps {P : Bridge σ → Prop} {now : UInt64} (surveys : P (b.surveyed rack now))
    (ends : b.progress rack now = .finished true → P ((b.surveyed rack now).endSurvey rack))
    (polls : ∀ c, P c → P (c.poll rack now)) : P (b.work rack now) := by
  have hpolls {c : Bridge σ} (hc : P c) : P (c.pollIfRunning rack now) := by
    rw [pollIfRunning]
    split
    · exact polls c hc
    · exact hc
  cases hprogress : b.progress rack now with
  | surveying =>
    rw [work_of_surveying hprogress]
    exact surveys
  | finished entered =>
    rw [work_of_finished hprogress]
    cases entered with
    | true => exact hpolls (ends hprogress)
    | false => exact hpolls surveys

/-- In a cycle of work, only its step of the survey changes the survey. -/
theorem survey_work (now : UInt64) : (b.work rack now).survey = (b.surveyed rack now).survey :=
  b.work_keeps rack (P := fun c ↦ c.survey = (b.surveyed rack now).survey) rfl (fun _ ↦ rfl)
    fun c hc ↦ c.poll_keeps rack (P := fun d ↦ d.survey = (b.surveyed rack now).survey)
      (fun _ _ ↦ hc) hc now

/-- Maintenance leaves nothing waiting. -/
theorem performMaintenance_eq :
    ∃ bus, b.performMaintenance rack =
      { b with control := { b.control with waiting := none }, bus := bus } := by
  rw [performMaintenance]
  split
  · rename_i h
    exact ⟨b.bus, by rw [← h]⟩
  · exact ⟨_, rfl⟩

/-! ## What work leaves alone -/

/-- The part of a bridge that a cycle of work leaves alone. -/
structure Standing where
  settings : Settings
  declared : List Declaration
  shownRunning : Bool
  shownLamps : Option UInt8
  waiting : Option Maintenance
  resetRequested : Bool

/-- The part of the bridge that a cycle of work leaves alone. -/
def standing : Standing where
  settings := b.settings
  declared := b.declared
  shownRunning := b.shownRunning
  shownLamps := b.shownLamps
  waiting := b.control.waiting
  resetRequested := b.control.resetRequested

theorem standing_afterRound (round : Round) (polled : Polled σ) :
    (b.afterRound round polled).standing = b.standing := rfl

theorem standing_work (now : UInt64) : (b.work rack now).standing = b.standing :=
  b.work_keeps rack (P := fun c ↦ c.standing = b.standing) rfl (fun _ ↦ rfl)
    fun c hc ↦ c.poll_keeps rack (P := fun d ↦ d.standing = b.standing)
      (fun round polled ↦ (c.standing_afterRound round polled).trans hc) hc now

/-! ## Starting all over -/

/-- The bus after the fault lamp was lit, if it was not. -/
def alarmed : Bus σ := if b.shownRunning then b.bus.indicate rack .fault true else b.bus

/-- What is loaded when the bridge starts all over, and the bus afterwards. -/
def loading : Except Failure (List Declaration) × Bus σ := (b.alarmed rack).load rack

/-- The bridge with nothing left of what a survey and the polling have brought. -/
def renewed (state : Lifecycle) (declared : List Declaration) (bus : Bus σ) : Bridge σ where
  settings := b.settings
  control :=
    { state := state
      status := .empty
      errors := 0
      waiting := b.control.waiting
      resetRequested := b.control.resetRequested }
  bus := bus
  survey := .start b.settings.rightBase
  roster := .ofCore b.roster.capacity b.settings.coreIdentity
  poller := .fresh
  image := b.image.clear
  core := none
  declared := declared
  shownRunning := false
  shownLamps := none
  report := none
  round := none

/-- **Starting all over** loads the configuration once and renews the bridge, which stays stopped
and keeps the old configuration if there is no new one. -/
theorem restart_eq :
    b.restart rack =
      match b.loading rack with
      | (.error e, bus) => (.error e, b.renewed .stopped b.declared bus)
      | (.ok declared, bus) => (.ok (), b.renewed .initializing declared bus) := by
  have hforget : ({ b with control := b.control.stop }.applyRunning rack).forget =
      b.renewed .stopped b.declared (b.alarmed rack) := by
    have hstopped : { b with control := b.control.stop }.isRunning = false := rfl
    rw [applyRunning, hstopped, alarmed]
    cases b.shownRunning <;> rfl
  rw [restart, hforget, loading]
  rfl

/-- Once the bridge has started all over, there is nothing to be brought up to date. -/
theorem reset_eq : b.reset rack = b.restart rack := by
  rw [reset, restart_eq]
  cases b.loading rack with
  | mk result bus => cases result <;> rfl

/-! ## Requests for a reset -/

/-- A request for a reset is dealt with by starting all over. -/
theorem resetIfRequested_eq (h : b.control.resetRequested = true) :
    b.resetIfRequested rack =
      match b.loading rack with
      | (.error _, bus) =>
        { b with control := { b.control with resetRequested := false } }.renewed .stopped b.declared
          bus
      | (.ok declared, bus) =>
        { b with control := { b.control with resetRequested := false } }.renewed .initializing
          declared bus := by
  rw [resetIfRequested, if_pos h, restart_eq]
  have hloading : { b with control := { b.control with resetRequested := false } }.loading rack =
      b.loading rack := rfl
  rw [hloading]
  split <;> rfl

theorem resetIfRequested_of_eq_false (h : b.control.resetRequested = false) :
    b.resetIfRequested rack = b := by
  rw [resetIfRequested, if_neg (by simp [h])]

theorem resetRequested_resetIfRequested :
    (b.resetIfRequested rack).control.resetRequested = false := by
  cases h : b.control.resetRequested with
  | false => rw [b.resetIfRequested_of_eq_false rack h, h]
  | true =>
    rw [b.resetIfRequested_eq rack h]
    split <;> rfl

theorem waiting_resetIfRequested :
    (b.resetIfRequested rack).control.waiting = b.control.waiting := by
  cases h : b.control.resetRequested with
  | false => rw [b.resetIfRequested_of_eq_false rack h]
  | true =>
    rw [b.resetIfRequested_eq rack h]
    split <;> rfl

/-- **A cycle begins with the reset** that was asked for, and goes on as if nothing had been asked
for. -/
theorem runCycle_resetIfRequested (now : UInt64) :
    (b.resetIfRequested rack).runCycle rack now = b.runCycle rack now := by
  have hdone := (b.resetIfRequested rack).resetIfRequested_of_eq_false rack
    (b.resetRequested_resetIfRequested rack)
  rw [runCycle, runCycle, hdone]

/-- Without a request for a reset a cycle performs maintenance or works. -/
theorem runCycle_eq (h : b.control.resetRequested = false) (now : UInt64) :
    b.runCycle rack now =
      ((if b.control.state = .stopped then b.performMaintenance rack
        else b.work rack now).applyRunning rack).publish rack := by
  rw [runCycle, b.resetIfRequested_of_eq_false rack h]

/-- What starting all over keeps, a reset that was asked for keeps, if the request does not
matter. -/
theorem resetIfRequested_keeps {P : Bridge σ → Prop}
    (answers : ∀ c, P c → P { c with control := { c.control with resetRequested := false } })
    (restarts : ∀ c, P c → P (c.restart rack).2) (h : P b) : P (b.resetIfRequested rack) := by
  rw [resetIfRequested]
  split
  · exact restarts _ (answers b h)
  · exact h

/-- **What all parts of a cycle keep**, a cycle keeps. -/
theorem runCycle_keeps {P : Bridge σ → Prop} {now : UInt64}
    (resets : ∀ c, P c → P (c.resetIfRequested rack))
    (maintains : ∀ c, c.control.state = .stopped → P c → P (c.performMaintenance rack))
    (works : ∀ c, c.control.state ≠ .stopped → P c → P (c.work rack now))
    (shows : ∀ c, P c → P ((c.applyRunning rack).publish rack)) (h : P b) :
    P (b.runCycle rack now) := by
  have hreset := resets b h
  rw [← b.runCycle_resetIfRequested, runCycle_eq _ rack (b.resetRequested_resetIfRequested rack)]
  refine shows _ ?_
  split
  · rename_i hstopped
    exact maintains _ hstopped hreset
  · rename_i hworking
    exact works _ hworking hreset

/-- **What all parts of the operations keep**, an operation keeps.  It must not matter whether
something is asked for, and which bytes the application writes. -/
theorem perform_keeps {P : Bridge σ → Prop}
    (asks : ∀ c waiting resetRequested, P c → P { c with
      control := { c.control with waiting := waiting, resetRequested := resetRequested } })
    (writes : ∀ c offset value, P c → P { c with image := (c.image.writeByte offset value).2 })
    (stops : ∀ c, P c → P { c with control := c.control.stop })
    (restarts : ∀ c, P c → P (c.restart rack).2)
    (maintains : ∀ c, c.control.state = .stopped → P c → P (c.performMaintenance rack))
    (works : ∀ c now, c.control.state ≠ .stopped → P c → P (c.work rack now))
    (shows : ∀ c, P c → P ((c.applyRunning rack).publish rack)) (h : P b) (o : Operation) :
    P (b.perform rack o) := by
  cases o with
  | cycle now =>
    refine b.runCycle_keeps rack (fun c hc ↦ ?_) maintains (fun c ↦ works c now) shows h
    exact c.resetIfRequested_keeps rack (fun d hd ↦ asks d d.control.waiting false hd) restarts hc
  | reset =>
    rw [perform, reset_eq]
    exact restarts b h
  | stop => exact stops b h
  | requestReset => exact asks b b.control.waiting true h
  | requestMaintenance action =>
    obtain ⟨waiting, hwaiting⟩ := b.control.requestMaintenance_eq action
    rw [perform, hwaiting]
    exact asks b waiting b.control.resetRequested h
  | writeByte offset value => exact writes b offset value h

end Bridge

end RackBus
