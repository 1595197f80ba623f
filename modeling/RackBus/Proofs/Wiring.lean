import RackBus.Proofs.Conduct
import RackBus.Proofs.Lifecycle

/-!
# The enable lines

A survey sets the enable lines when it enters a phase, and nothing else sets them.  So the phase
tells what was last done to each line.

* `Phase.line` is the line of a side while a phase lasts.  `Phase.sets?_or` says that entering a
  phase makes the few changes that are needed after any phase before it.
* `Survey.Wired` says that the lines are as a survey wants them, and `Site.Wired.step` that a step
  keeps them so.
* `Bridge.wired_run`: whatever the rack does, the lines are so after every history, unless the
  bridge was stopped.  A bridge that runs has let both lines go (`Bridge.Established.line?_eq`).
-/

set_option autoImplicit false

namespace RackBus

universe u

/-! ## Setting the lines -/

/-- What an event does to the enable line of a side. -/
def Event.sets? (side : Side) : Event → Option Line
  | drove other line => if other = side then some line else none
  | _ => none

/-- Only wiring sets lines. -/
theorem Event.sets?_eq_none_of_works {e : Event} {tasks : List Task}
    (h : tasks.any e.serves = true) (htasks : .wiring ∉ tasks) (side : Side) :
    e.sets? side = none := by
  obtain ⟨task, htask, hserves⟩ := List.any_eq_true.mp h
  cases e with
  | drove other line =>
    cases task with
    | wiring => exact absurd htask htasks
    | _ => exact absurd hserves (by simp [serves])
  | _ => rfl

namespace Bus

variable {σ : Type u} (bus : Bus σ) (rack : Rack σ)

/-- What was last done to the enable line of a side. -/
def line? (side : Side) : Option Line := bus.last? (Event.sets? side)

theorem line?_drive (side other : Side) (line : Line) :
    (bus.drive rack side line).line? other =
      if side = other then some line else bus.line? other := by
  have hlast : (bus.drive rack side line).line? other =
      (Event.sets? other (.drove side line)).or (bus.line? other) :=
    last?_eq (Step.drive side line).trace_eq
  rw [hlast, Event.sets?]
  split <;> rfl

theorem line?_driveBoth (side : Side) (line : Line) :
    (bus.driveBoth rack line).line? side = some line := by
  rw [driveBoth, line?_drive, line?_drive]
  cases side <;> rfl

variable {bus rack}

theorem Works.line?_eq {tasks : List Task} {after : Bus σ} (h : Works rack tasks bus after)
    (htasks : .wiring ∉ tasks) : after.line? = bus.line? := by
  funext side
  exact h.last?_eq fun e he ↦ Event.sets?_eq_none_of_works he htasks side

end Bus

/-! ## The lines of a phase -/

namespace Phase

/-- The enable line of a side while a phase lasts. -/
def line : Phase → Side → Line
  | pulse, _ => .high
  | enable s, side => if s = side then .high else .released
  | dialogue s, side => if s = side then .high else .released
  | next s, side => if s = side then .high else .released
  | _, _ => .released

/-- What entering a phase does to the enable line of a side. -/
def sets? : Phase → Side → Option Line
  | begin, _ => some .released
  | pulse, _ => some .high
  | settle, _ => some .released
  | enable s, side => if s = side then some .high else none
  | first .left, .right => some .released
  | finished, .left => some .released
  | _, _ => none

/-- **Entering a phase** makes the changes that are needed after a phase before it. -/
theorem sets?_or {p q : Phase} (h : q ∈ p.successors) (side : Side) :
    (q.sets? side).or (some (p.line side)) = some (q.line side) := by
  cases p with
  | begin | pulse | settle =>
    obtain rfl := List.mem_singleton.mp h
    cases side <;> rfl
  | enable s =>
    obtain rfl := List.mem_singleton.mp h
    cases s <;> cases side <;> rfl
  | first s | dialogue s | next s =>
    simp only [successors, List.mem_cons, List.not_mem_nil, or_false] at h
    rcases h with rfl | rfl <;> cases s <;> cases side <;> rfl
  | finished => exact absurd h (by simp [successors])

end Phase

/-! ## Surveys -/

/-- The enable lines are as a survey wants them. -/
structure Survey.Wired (s : Survey) (line? : Side → Option Line) : Prop where
  /-- While a phase lasts, they are those of the phase. -/
  entered : s.entering = false → ∀ side, line? side = some (s.phase.line side)
  /-- Before a phase is entered, they are those of a phase before it, if there is one. -/
  entering : s.entering = true →
    s.phase = .begin ∨
      ∃ p : Phase, s.phase ∈ p.successors ∧ ∀ side, line? side = some (p.line side)

theorem Survey.wired_start (base : Address) (line? : Side → Option Line) :
    (Survey.start base).Wired line? :=
  ⟨fun h ↦ absurd h (by simp [start]), fun _ ↦ Or.inl rfl⟩

namespace Site

variable {σ : Type u} {site : Site σ} (rack : Rack σ)

/-- The enable lines of a site are as its survey wants them. -/
def Wired (site : Site σ) : Prop := site.survey.Wired site.bus.line?

theorem line?_enter (site : Site σ) (timings : Timings) (now : UInt64) (side : Side) :
    (site.enter rack timings now).bus.line? side =
      (site.survey.phase.sets? side).or (site.bus.line? side) := by
  rw [enter]
  split <;> rename_i hphase <;> rw [hphase]
  iterate 3 exact site.bus.line?_driveBoth rack side _
  · rename_i s
    refine (site.bus.line?_drive rack s side .high).trans ?_
    rw [Phase.sets?]
    split <;> rfl
  · rfl
  · refine (site.bus.line?_drive rack .right side .released).trans ?_
    cases side <;> rfl
  · refine (site.bus.line?_drive rack .left side .released).trans ?_
    cases side <;> rfl
  · rfl
  · rfl

/-- Once the actions of a phase have been performed, the lines are those of the phase. -/
theorem Wired.line?_enterIfNew (h : site.Wired) (timings : Timings) (now : UInt64) (side : Side) :
    (site.enterIfNew rack timings now).bus.line? side = some (site.survey.phase.line side) := by
  rw [enterIfNew]
  split
  · rename_i hentering
    refine (line?_enter rack _ timings now side).trans ?_
    rcases h.entering hentering with hphase | ⟨p, hp, hlines⟩
    · show (site.survey.phase.sets? side).or (site.bus.line? side) = _
      rw [hphase]
      rfl
    · show (site.survey.phase.sets? side).or (site.bus.line? side) = _
      rw [hlines side, Phase.sets?_or hp side]
  · rename_i hentered
    exact h.entered (by simpa using hentered) side

/-- Whether a phase is over does not matter to its actions. -/
theorem entering_check (site : Site σ) (settings : Settings) (now : UInt64) :
    (site.check rack settings now).2.survey.entering = site.survey.entering := by
  have hconverse (side : Side) :
      (site.converse rack settings side).2.survey.entering = site.survey.entering := by
    rw [converse]
    split
    · rfl
    · split
      · rfl
      · split
        · split
          · cases side <;> rfl
          · rfl
        · rfl
  rw [check]
  split
  · rfl
  · rfl
  · rfl
  · rfl
  · rfl
  · exact hconverse _
  · rfl
  · rfl

/-- **A step keeps the lines as the survey wants them.** -/
theorem Wired.step (h : site.Wired) (settings : Settings) (now : UInt64) :
    (site.step rack settings now).2.Wired := by
  have hlines := h.line?_enterIfNew rack settings.timings now
  have hchecked :
      ((site.enterIfNew rack settings.timings now).check rack settings now).2.bus.line? =
        (site.enterIfNew rack settings.timings now).bus.line? :=
    (works_check _ rack settings now).line?_eq (by simp)
  have hentering := (site.enterIfNew rack settings.timings now).entering_check rack settings now
  obtain ⟨hphase, hnext⟩ :=
    phase_check (site.enterIfNew rack settings.timings now) rack settings now
  rw [entering_enterIfNew] at hentering
  rw [phase_enterIfNew] at hphase hnext
  have hstep : (site.step rack settings now).2 =
      ((site.enterIfNew rack settings.timings now).check rack settings now).2.goTo
        ((site.enterIfNew rack settings.timings now).check rack settings now).1 := rfl
  rw [hstep, Wired, bus_goTo, hchecked]
  generalize (site.enterIfNew rack settings.timings now).check rack settings now = result
    at hentering hphase hnext ⊢
  obtain ⟨next, after⟩ := result
  cases next with
  | none =>
    have hphase : after.survey.phase = site.survey.phase := hphase
    refine ⟨fun _ side ↦ ?_, fun hnew ↦ absurd (hentering.symm.trans hnew) (by simp)⟩
    rw [goTo, hphase, hlines side]
  | some p =>
    refine ⟨fun hold ↦ absurd hold (by simp [goTo, Survey.goTo]), fun _ ↦ ?_⟩
    exact Or.inr ⟨site.survey.phase, hnext p rfl, hlines⟩

end Site

/-! ## Bridges -/

namespace Bridge

variable {σ : Type u} {b : Bridge σ} (rack : Rack σ)

/-- Unless it has stopped, the enable lines of a bridge are as its survey wants them. -/
def IsWired (b : Bridge σ) : Prop := b.control.state ≠ .stopped → b.survey.Wired b.bus.line?

/-- A cycle of work is a step of the survey for the lines. -/
theorem wired_work (h : b.survey.Wired b.bus.line?) (now : UInt64) :
    (b.work rack now).survey.Wired (b.work rack now).bus.line? := by
  rw [survey_work, (b.works_afterSurvey rack now).line?_eq (by simp)]
  have hsite : b.site.Wired := h
  exact hsite.step rack b.settings now

theorem isWired_restart (b : Bridge σ) : (b.restart rack).2.IsWired := by
  rw [restart_eq]
  split
  · exact fun _ ↦ Survey.wired_start _ _
  · exact fun _ ↦ Survey.wired_start _ _

theorem IsWired.shown (h : b.IsWired) : ((b.applyRunning rack).publish rack).IsWired := by
  have hlines : ((b.applyRunning rack).publish rack).bus.line? = b.bus.line? :=
    (b.works_shown rack).line?_eq (by simp)
  obtain ⟨status, bus, image, shownLamps, hshown, -⟩ := b.shown_eq rack
  rw [IsWired, hlines, hshown]
  exact h

theorem IsWired.perform (h : b.IsWired) (o : Operation) : (b.perform rack o).IsWired := by
  refine b.perform_keeps rack (fun _ _ _ hc ↦ hc) (fun _ _ _ hc ↦ hc) ?_
    (fun c _ ↦ isWired_restart rack c) ?_ ?_ (fun _ hc ↦ hc.shown rack) h o
  · exact fun _ _ hworking ↦ absurd rfl hworking
  · intro c hstopped _ hworking
    obtain ⟨bus, hmaintenance⟩ := c.performMaintenance_eq rack
    rw [hmaintenance] at hworking
    exact absurd hstopped hworking
  · exact fun _ now hworking hc _ ↦ wired_work rack (hc hworking) now

/-- **The enable lines are as the survey wants them** after every history, whatever the rack does,
unless the bridge has stopped. -/
theorem wired_run {state : σ} {settings : Settings} (hb : start rack state settings = .ok b)
    (operations : List Operation) : (b.run rack operations).IsWired := by
  refine run_invariant (P := IsWired) (fun c o hc ↦ hc.perform rack o) ?_ operations
  obtain ⟨declared, -, rfl⟩ := eq_of_start hb
  exact fun _ ↦ Survey.wired_start _ _

/-- Once the survey is over, both lines have been let go. -/
theorem Established.line?_eq (h : b.Established) (hwired : b.survey.Wired b.bus.line?)
    (side : Side) : b.bus.line? side = some .released := by
  rw [hwired.entered h.entering side, h.phase]
  rfl

end Bridge

end RackBus
