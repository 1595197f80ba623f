import RackBus.Proofs.Course
import RackBus.Proofs.Wiring

/-!
# The waiting times of a survey

The modules need time: while both enable lines are high, after the lines were let go, and before a
side is spoken to.  A survey has one countdown for all of this, it performs the actions of a phase
one step after it has left the phase before, and it asks at once whether the phase is over.  This
file says that it waits long enough all the same, whatever the rack answers, as long as the clock
does not go back.

* `Site.MayAsk` lists what a step can ask of the rack (`Site.asks_step`).  The lines are set exactly
  when a phase is entered (`Site.drove_mem_asked_iff`).
* `Site.Awaits` says that the survey sits in a phase with its countdown running.  A phase that
  waits is not left before its time (`Site.due_le_of_phase_ne`).
* `Phase.stage` is how far a survey has come; it does not go back (`Site.stage_le`).
* `Site.KeepsTime` is what can be relied on, and `Site.keepsTime_anew` says that every new survey
  keeps to it.
-/

set_option autoImplicit false

namespace RackBus

universe u

/-! ## Waiting -/

/-- The point in time that is so much later, or the end of time. -/
def due (since duration : UInt64) : Nat :=
  min (since.toNat + duration.toNat) 18446744073709551615

theorem Countdown.isOver_start_iff_due (since duration now : UInt64) :
    (start since duration).isOver now = true ↔ due since duration ≤ now.toNat :=
  isOver_start_iff since duration now

namespace Phase

/-- The waiting time of a phase, if it has one. -/
def wait? : Phase → Timings → Option UInt64
  | pulse, timings => some timings.presencePulse
  | settle, timings => some timings.presenceSettle
  | enable _, timings => some timings.enableDwell
  | _, _ => none

/-- How far a survey in this phase has come.  A dialogue and the question for the next module take
turns, so they are equally far. -/
def stage : Phase → Nat
  | begin => 0
  | pulse => 1
  | settle => 2
  | first .right => 3
  | enable .right => 4
  | dialogue .right | next .right => 5
  | first .left => 6
  | enable .left => 7
  | dialogue .left | next .left => 8
  | finished => 9

theorem stage_le_of_mem_successors {p q : Phase} (h : q ∈ p.successors) : p.stage ≤ q.stage := by
  cases p with
  | begin | pulse | settle =>
    obtain rfl := List.mem_singleton.mp h
    decide
  | first side | enable side | dialogue side | next side =>
    simp only [successors, after, List.mem_cons, List.not_mem_nil, or_false] at h
    cases side <;> rcases h with rfl | rfl <;> decide
  | finished => exact absurd h (by simp [successors])

end Phase

namespace Site

variable {σ : Type u}

/-- The survey sits in a phase, and its countdown was set when it was entered. -/
structure Awaits (site : Site σ) (phase : Phase) (since duration : UInt64) : Prop where
  phase : site.survey.phase = phase
  entering : site.survey.entering = false
  countdown : site.survey.countdown = .start since duration

/-! ## What a step asks -/

/-- What a step can ask of the rack: a line is set when a phase is entered, a sense line is read to
find out whether there is a module, and the telegrams of a dialogue go to the next address of its
side. -/
def MayAsk (site : Site σ) : Event → Prop
  | .drove side line => site.survey.entering = true ∧ site.survey.phase.sets? side = some line
  | .sensed side _ => site.survey.phase = .first side ∨ site.survey.phase = .next side
  | .sent request _ => ∃ side, site.survey.phase = .dialogue side ∧
      site.survey.next? side = some request.destination
  | .paused _ => ∃ side, site.survey.phase = .dialogue side
  | _ => False

section Step

variable (site : Site σ) (rack : Rack σ) (settings : Settings) (now : UInt64)

theorem asks_enterIfNew :
    Bus.Asks rack site.MayAsk site.bus (site.enterIfNew rack settings.timings now).bus := by
  rw [enterIfNew]
  split
  · rename_i hentering
    have hdrive (bus : Bus σ) (side : Side) (line : Line)
        (hsets : site.survey.phase.sets? side = some line) :
        Bus.Asks rack site.MayAsk bus (bus.drive rack side line) :=
      .single (.drive side line) ⟨hentering, hsets⟩
    have hboth (bus : Bus σ) (line : Line)
        (hsets : ∀ side, site.survey.phase.sets? side = some line) :
        Bus.Asks rack site.MayAsk bus (bus.driveBoth rack line) :=
      (hdrive bus .right line (hsets _)).trans (hdrive _ .left line (hsets _))
    rw [enter]
    split <;> rename_i hphase <;> replace hphase : site.survey.phase = _ := hphase
    iterate 3 exact hboth _ _ fun side ↦ by rw [hphase]; rfl
    · exact hdrive _ _ _ (by rw [hphase, Phase.sets?, if_pos rfl])
    · exact .refl _
    iterate 2 exact hdrive _ _ _ (by rw [hphase]; rfl)
    iterate 2 exact .refl _
  · exact .refl _

theorem asks_check_of_phase :
    Bus.Asks rack site.MayAsk site.bus (site.check rack settings now).2.bus := by
  rw [check]
  split <;> rename_i hphase
  iterate 3 exact .refl _
  · exact .single (.sense _) (Or.inl hphase)
  · exact .refl _
  · rename_i side
    refine (site.asks_converse rack settings side).mono fun e he ↦ ?_
    obtain ⟨address, hfree, henrols⟩ := he
    cases e with
    | sent request answer =>
      obtain rfl : request.destination = address :=
        beq_iff_eq.mp (Bool.and_eq_true_iff.mp henrols).2
      exact ⟨side, hphase, hfree⟩
    | paused ms => exact ⟨side, hphase⟩
    | _ => exact absurd henrols (by simp [Event.enrols])
  · exact .single (.sense _) (Or.inr hphase)
  · exact .refl _

/-- **What a step can ask** of the rack is a matter of its phase. -/
theorem asks_step :
    Bus.Asks rack site.MayAsk site.bus (site.step rack settings now).2.bus := by
  refine (site.asks_enterIfNew rack settings now).trans ?_
  rw [step_eq, bus_goTo]
  refine ((site.enterIfNew rack settings.timings now).asks_check_of_phase rack settings now).mono
    fun e he ↦ ?_
  cases e with
  | drove side line => exact absurd he.1 (by simp)
  | sensed side level => simpa [MayAsk] using he
  | sent request answer => simpa [MayAsk] using he
  | paused ms => simpa [MayAsk] using he
  | _ => exact he

/-- What a step asks of the rack. -/
def asked : List Event :=
  (site.step rack settings now).2.bus.trace.drop site.bus.trace.length

theorem asked_eq {events : List Event}
    (h : (site.step rack settings now).2.bus.trace = site.bus.trace ++ events) :
    site.asked rack settings now = events := by
  rw [asked, h, List.drop_left]

theorem mayAsk_of_mem_asked {e : Event} (h : e ∈ site.asked rack settings now) :
    site.MayAsk e := by
  obtain ⟨events, htrace, hevents⟩ := (site.asks_step rack settings now).exists_trace_eq
  rw [site.asked_eq rack settings now htrace] at h
  exact hevents e h

/-- Entering a phase sets the lines as the phase wants them. -/
theorem drove_mem_trace_enter {side : Side} {line : Line}
    (hsets : site.survey.phase.sets? side = some line) :
    ∃ events, (site.enter rack settings.timings now).bus.trace = site.bus.trace ++ events ∧
      .drove side line ∈ events := by
  have hboth (bus : Bus σ) (l : Line) :
      (bus.driveBoth rack l).trace = bus.trace ++ [.drove .right l, .drove .left l] := by
    rw [Bus.driveBoth, Bus.drive, Bus.trace_record, Bus.drive, Bus.trace_record,
      List.append_assoc, List.singleton_append]
  have hmem (l : Line) : Event.drove side l ∈ [Event.drove .right l, Event.drove .left l] := by
    cases side <;> simp
  rw [enter]
  split <;> rename_i hphase <;> rw [hphase] at hsets
  iterate 3
    obtain rfl := Option.some.inj hsets
    exact ⟨_, hboth _ _, hmem _⟩
  · rename_i s
    rw [Phase.sets?] at hsets
    split at hsets
    · rename_i hside
      obtain rfl := Option.some.inj hsets
      exact ⟨_, rfl, by simp [hside]⟩
    · exact absurd hsets (by simp)
  · exact absurd hsets (by simp [Phase.sets?])
  · cases side with
    | right => exact ⟨_, rfl, by simp [← Option.some.inj hsets]⟩
    | left => exact absurd hsets (by simp [Phase.sets?])
  · cases side with
    | right => exact absurd hsets (by simp [Phase.sets?])
    | left => exact ⟨_, rfl, by simp [← Option.some.inj hsets]⟩
  · exact absurd hsets (by simp [Phase.sets?])
  · exact absurd hsets (by simp [Phase.sets?])

/-- **A step sets a line** exactly if it enters a phase that wants it so. -/
theorem drove_mem_asked_iff {side : Side} {line : Line} :
    .drove side line ∈ site.asked rack settings now ↔
      site.survey.entering = true ∧ site.survey.phase.sets? side = some line := by
  refine ⟨fun h ↦ site.mayAsk_of_mem_asked rack settings now h, fun ⟨hentering, hsets⟩ ↦ ?_⟩
  obtain ⟨entries, hentered, hmem⟩ := drove_mem_trace_enter
    { site with survey := { site.survey with entering := false } } rack settings now hsets
  have hasks := (site.enterIfNew rack settings.timings now).asks_check_of_phase rack settings now
  obtain ⟨more, hchecked, -⟩ := hasks.exists_trace_eq
  have henter : (site.enterIfNew rack settings.timings now).bus.trace =
      site.bus.trace ++ entries := by
    rw [enterIfNew, if_pos hentering, hentered]
  have htrace : (site.step rack settings now).2.bus.trace =
      site.bus.trace ++ (entries ++ more) := by
    rw [step_eq, bus_goTo, hchecked, henter, List.append_assoc]
  rw [site.asked_eq rack settings now htrace]
  exact List.mem_append_left _ hmem

/-! ## What a step makes of a waiting survey -/

variable {settings} {phase : Phase} {since duration : UInt64}

/-- Entering a phase sets the countdown if the phase waits, and leaves it alone otherwise. -/
theorem countdown_enter (timings : Timings) :
    (site.enter rack timings now).survey.countdown =
      ((site.survey.phase.wait? timings).map (Countdown.start now)).getD site.survey.countdown := by
  rw [enter]
  split <;> rename_i hphase <;> rw [hphase] <;> rfl

variable {site}

theorem awaits_enterIfNew (hphase : site.survey.phase = phase)
    (hentering : site.survey.entering = true) {timings : Timings}
    (hwait : phase.wait? timings = some duration) :
    (site.enterIfNew rack timings now).Awaits phase now duration := by
  refine ⟨(site.phase_enterIfNew rack timings now).trans hphase,
    site.entering_enterIfNew rack timings now, ?_⟩
  rw [enterIfNew, if_pos hentering, countdown_enter]
  show ((site.survey.phase.wait? timings).map _).getD _ = _
  rw [hphase, hwait, Option.map_some, Option.getD_some]

/-- A waiting survey goes on waiting, or its time is over. -/
theorem Awaits.check (h : site.Awaits phase since duration)
    (hwait : phase.wait? settings.timings = some duration) :
    (let checked := site.check rack settings now
    (checked.2.goTo checked.1).Awaits phase since duration) ∨
      due since duration ≤ now.toNat := by
  by_cases hover : due since duration ≤ now.toNat
  · exact Or.inr hover
  · have hrunning : ¬site.survey.countdown.isOver now = true := by
      rw [h.countdown, Countdown.isOver_start_iff_due]
      exact hover
    have hstays : site.check rack settings now = (none, site) := by
      rw [Site.check, h.phase]
      cases phase with
      | pulse | settle | enable side => exact Prod.ext (if_neg hrunning) rfl
      | _ => exact absurd hwait (by simp [Phase.wait?])
    rw [hstays]
    exact Or.inl h

/-- Entering a phase that waits, a step begins to wait. -/
theorem awaits_step_of_entering (hphase : site.survey.phase = phase)
    (hentering : site.survey.entering = true)
    (hwait : phase.wait? settings.timings = some duration) :
    (site.step rack settings now).2.Awaits phase now duration ∨
      due now duration ≤ now.toNat :=
  (awaits_enterIfNew rack now hphase hentering hwait).check rack now hwait

/-- While it waits, a step goes on waiting until its time is over. -/
theorem Awaits.step (h : site.Awaits phase since duration)
    (hwait : phase.wait? settings.timings = some duration) :
    (site.step rack settings now).2.Awaits phase since duration ∨
      due since duration ≤ now.toNat := by
  have hentered : site.enterIfNew rack settings.timings now = site := by
    rw [enterIfNew, if_neg]
    rw [h.entering]
    exact Bool.false_ne_true
  rw [step_eq, hentered]
  exact h.check rack now hwait

end Step

/-! ## A survey at work -/

section Run

variable (site : Site σ) (rack : Rack σ) (settings : Settings) (times : Nat → UInt64)

/-- The phase at the beginning of a step. -/
def phaseAt (n : Nat) : Phase := (site.proceed rack settings times n).survey.phase

/-- What a step asks of the rack. -/
def askedAt (n : Nat) : List Event :=
  (site.proceed rack settings times n).asked rack settings (times n)

/-- From one step to the next, the phase stays or is followed by another one. -/
theorem phaseAt_succ (n : Nat) :
    site.phaseAt rack settings times (n + 1) = site.phaseAt rack settings times n ∨
      site.phaseAt rack settings times (n + 1) ∈ (site.phaseAt rack settings times n).successors ∧
        (site.proceed rack settings times (n + 1)).survey.entering = true :=
  phase_step _ rack settings (times n)

/-- A survey does not go back. -/
theorem stage_le {m n : Nat} (hmn : m ≤ n) :
    (site.phaseAt rack settings times m).stage ≤ (site.phaseAt rack settings times n).stage := by
  induction hmn with
  | refl => exact Nat.le_refl _
  | @step n _ ih =>
    refine Nat.le_trans ih ?_
    rcases site.phaseAt_succ rack settings times n with hsame | hnext
    · exact Nat.le_of_eq (congrArg Phase.stage hsame.symm)
    · exact Phase.stage_le_of_mem_successors hnext.1

/-- From the pulse, a survey can only go on to let the modules settle. -/
theorem exists_settle {l m : Nat} (hlm : l ≤ m) (hl : site.phaseAt rack settings times l = .pulse)
    (hm : site.phaseAt rack settings times m ≠ .pulse) :
    ∃ k, l ≤ k ∧ k ≤ m ∧ site.phaseAt rack settings times k = .settle ∧
      (site.proceed rack settings times k).survey.entering = true := by
  induction hlm with
  | refl => exact absurd hl hm
  | @step n hln ih =>
    by_cases hn : site.phaseAt rack settings times n = .pulse
    · rcases site.phaseAt_succ rack settings times n with hsame | ⟨hnext, hentering⟩
      · exact absurd (hsame.trans hn) hm
      · rw [hn] at hnext
        exact ⟨n + 1, Nat.le_succ_of_le hln, Nat.le_refl _, List.mem_singleton.mp hnext, hentering⟩
    · obtain ⟨k, hlk, hkn, hk⟩ := ih hn
      exact ⟨k, hlk, Nat.le_succ_of_le hkn, hk⟩

variable {site rack settings times}

theorem drove_mem_askedAt_iff {n : Nat} {side : Side} {line : Line} :
    .drove side line ∈ site.askedAt rack settings times n ↔
      (site.proceed rack settings times n).survey.entering = true ∧
        (site.phaseAt rack settings times n).sets? side = some line :=
  drove_mem_asked_iff _ rack settings _

/-- **A phase that waits is not left before its time.** -/
theorem awaits_or_due_le {m : Nat} {phase : Phase} {duration : UInt64}
    (hphase : site.phaseAt rack settings times m = phase)
    (hentering : (site.proceed rack settings times m).survey.entering = true)
    (hwait : phase.wait? settings.timings = some duration)
    (htimes : ∀ n, times n ≤ times (n + 1)) {n : Nat} (hmn : m < n) :
    (site.proceed rack settings times n).Awaits phase (times m) duration ∨
      due (times m) duration ≤ (times n).toNat := by
  have hle (n : Nat) : (times n).toNat ≤ (times (n + 1)).toNat :=
    UInt64.le_iff_toNat_le.mp (htimes n)
  induction hmn with
  | refl =>
    exact (awaits_step_of_entering rack (times m) hphase hentering hwait).imp_right
      fun h ↦ Nat.le_trans h (hle m)
  | @step n _ ih =>
    rcases ih with hawaits | hdue
    · exact (hawaits.step rack (times n) hwait).imp_right
        fun h ↦ Nat.le_trans h (hle n)
    · exact Or.inr (Nat.le_trans hdue (hle n))

theorem due_le_of_phase_ne {m n : Nat} {phase : Phase} {duration : UInt64} (hmn : m ≤ n)
    (hphase : site.phaseAt rack settings times m = phase)
    (hentering : (site.proceed rack settings times m).survey.entering = true)
    (hwait : phase.wait? settings.timings = some duration)
    (htimes : ∀ n, times n ≤ times (n + 1)) (hn : site.phaseAt rack settings times n ≠ phase) :
    due (times m) duration ≤ (times n).toNat := by
  rcases Nat.eq_or_lt_of_le hmn with rfl | hlt
  · exact absurd hphase hn
  · exact (awaits_or_due_le hphase hentering hwait htimes hlt).resolve_left fun h ↦ hn h.phase

/-- So it is over once the survey has come farther. -/
theorem due_le_of_stage_lt {m n : Nat} {phase : Phase} {duration : UInt64}
    (hphase : site.phaseAt rack settings times m = phase)
    (hentering : (site.proceed rack settings times m).survey.entering = true)
    (hwait : phase.wait? settings.timings = some duration)
    (htimes : ∀ n, times n ≤ times (n + 1))
    (hstage : phase.stage < (site.phaseAt rack settings times n).stage) :
    due (times m) duration ≤ (times n).toNat := by
  have hmn : m ≤ n := by
    by_contra hlt
    have hback := site.stage_le rack settings times (Nat.le_of_not_le hlt)
    rw [hphase] at hback
    omega
  refine due_le_of_phase_ne hmn hphase hentering hwait htimes fun hsame ↦ ?_
  rw [hsame] at hstage
  exact Nat.lt_irrefl _ hstage

/-! ## What can be relied on -/

/-- While the pulse lasts, no line is let go. -/
theorem phaseAt_ne_pulse_of_released {n : Nat} {side : Side}
    (h : .drove side .released ∈ site.askedAt rack settings times n) :
    site.phaseAt rack settings times n ≠ .pulse := by
  intro hpulse
  obtain ⟨-, hsets⟩ := drove_mem_askedAt_iff.mp h
  rw [hpulse] at hsets
  exact absurd hsets (by simp [Phase.sets?])

variable (site rack settings times)

/-- A step in which the pulse drives the line of a side. -/
def DrivesPulse (side : Side) (n : Nat) : Prop :=
  site.phaseAt rack settings times n = .pulse ∧
    .drove side .high ∈ site.askedAt rack settings times n

/-- A step that lets the line of a side go, the first to do so after the pulse has driven it. -/
def EndsPulse (side : Side) (m : Nat) : Prop :=
  ∃ l, l ≤ m ∧ site.DrivesPulse rack settings times side l ∧
    .drove side .released ∈ site.askedAt rack settings times m ∧
    ∀ k, l ≤ k → k < m → .drove side .released ∉ site.askedAt rack settings times k

variable {site rack settings times}

/-- The pulse ends when the survey begins to let the modules settle. -/
theorem EndsPulse.enters_settle {side : Side} {m : Nat}
    (h : site.EndsPulse rack settings times side m) :
    site.phaseAt rack settings times m = .settle ∧
      (site.proceed rack settings times m).survey.entering = true := by
  obtain ⟨l, hlm, ⟨hl, -⟩, hreleased, hfirst⟩ := h
  obtain ⟨k, hlk, hkm, hk, hentering⟩ :=
    site.exists_settle rack settings times hlm hl (phaseAt_ne_pulse_of_released hreleased)
  -- the step that enters `settle` lets both lines go, so it is this one
  obtain rfl : k = m := by
    by_contra hne
    exact hfirst k hlk (by omega) (drove_mem_askedAt_iff.mpr ⟨hentering, by rw [hk]; rfl⟩)
  exact ⟨hk, hentering⟩

end Run

/-- A survey keeps to its waiting times. -/
structure KeepsTime (rack : Rack σ) (settings : Settings) (times : Nat → UInt64) (site : Site σ) :
    Prop where
  /-- The pulse lasts: no line is let go before its time. -/
  pulse : ∀ m n side other, m ≤ n → site.DrivesPulse rack settings times side m →
    .drove other .released ∈ site.askedAt rack settings times n →
      due (times m) settings.timings.presencePulse ≤ (times n).toNat
  /-- The modules can settle: after the pulse no sense line is read before their time. -/
  settle : ∀ m n side other level, site.EndsPulse rack settings times side m →
    .sensed other level ∈ site.askedAt rack settings times n →
      due (times m) settings.timings.presenceSettle ≤ (times n).toNat
  /-- The modules of a side can get ready: after its line was enabled, no telegram is sent in the
  dialogue with this side before their time. -/
  enable : ∀ m n side request answer, site.phaseAt rack settings times m = .enable side →
    .drove side .high ∈ site.askedAt rack settings times m →
    site.phaseAt rack settings times n = .dialogue side →
    .sent request answer ∈ site.askedAt rack settings times n →
      due (times m) settings.timings.enableDwell ≤ (times n).toNat
  /-- Every telegram is sent in the dialogue with a side, to the next address of this side. -/
  sent : ∀ n request answer, .sent request answer ∈ site.askedAt rack settings times n →
    ∃ side, site.phaseAt rack settings times n = .dialogue side ∧
      (site.proceed rack settings times n).survey.next? side = some request.destination

/-- **A survey keeps to its waiting times**, whatever the rack does, if the clock does not go back.
It does so from any state on, in particular from the one in which a reset leaves it. -/
theorem keepsTime (site : Site σ) (rack : Rack σ) (settings : Settings) {times : Nat → UInt64}
    (htimes : ∀ n, times n ≤ times (n + 1)) : site.KeepsTime rack settings times := by
  refine ⟨fun m n side other hmn hdrives hother ↦ ?_, fun m n side other level hends hsensed ↦ ?_,
    fun m n side request answer hm hhigh hn hsent ↦ ?_, fun n request answer hsent ↦
    mayAsk_of_mem_asked _ rack settings _ hsent⟩
  · obtain ⟨hm, hhigh⟩ := hdrives
    exact due_le_of_phase_ne hmn hm (drove_mem_askedAt_iff.mp hhigh).1 rfl htimes
      (phaseAt_ne_pulse_of_released hother)
  · obtain ⟨hm, hentering⟩ := hends.enters_settle
    refine due_le_of_stage_lt hm hentering rfl htimes ?_
    have hn : site.phaseAt rack settings times n = .first other ∨
        site.phaseAt rack settings times n = .next other :=
      mayAsk_of_mem_asked _ rack settings _ hsensed
    rcases hn with hn | hn <;> rw [hn] <;> cases other <;> decide
  · refine due_le_of_stage_lt hm (drove_mem_askedAt_iff.mp hhigh).1 rfl htimes ?_
    rw [hn]
    cases side <;> decide

/-- A survey of three modules that was reset in the middle of a dialogue. -/
def resetInDialogue : Site Chains :=
  { ofThreeModules.proceed Chains.rack roomForFour steadyTimes 9 with
    survey := .start roomForFour.rightBase }

/-- A step every four milliseconds, for as long as it matters. -/
def fineTimes (n : Nat) : UInt64 := .ofNat (4000 * min n 20)

/-- The pulse is driven after 4 ms and ends after 20 ms, and a sense line is read after 56 ms.  The
right side is enabled after 60 ms, and spoken to after 76 ms. -/
theorem keepsTime_resetInDialogue :
    (∀ n, fineTimes n ≤ fineTimes (n + 1)) ∧
      resetInDialogue.KeepsTime Chains.rack roomForFour fineTimes ∧
      resetInDialogue.DrivesPulse Chains.rack roomForFour fineTimes .right 1 ∧
      resetInDialogue.EndsPulse Chains.rack roomForFour fineTimes .right 5 ∧
      resetInDialogue.phaseAt Chains.rack roomForFour fineTimes 14 = .first .right ∧
      resetInDialogue.phaseAt Chains.rack roomForFour fineTimes 15 = .enable .right ∧
      .drove .right .high ∈ resetInDialogue.askedAt Chains.rack roomForFour fineTimes 15 ∧
      resetInDialogue.phaseAt Chains.rack roomForFour fineTimes 19 = .dialogue .right ∧
      (resetInDialogue.askedAt Chains.rack roomForFour fineTimes 19).length = 5 := by
  have htimes (n : Nat) : fineTimes n ≤ fineTimes (n + 1) := by
    have htoNat (n : Nat) : (fineTimes n).toNat = 4000 * min n 20 :=
      UInt64.toNat_ofNat_of_lt' (show 4000 * min n 20 < 18446744073709551616 by omega)
    rw [UInt64.le_iff_toNat_le, htoNat, htoNat]
    omega
  have hpulse : resetInDialogue.DrivesPulse Chains.rack roomForFour fineTimes .right 1 :=
    ⟨by decide +kernel, drove_mem_askedAt_iff.mpr (by decide +kernel)⟩
  have hquiet : ∀ k < 5, 1 ≤ k →
      ¬((resetInDialogue.proceed Chains.rack roomForFour fineTimes k).survey.entering = true ∧
        (resetInDialogue.proceed Chains.rack roomForFour fineTimes k).survey.phase.sets? .right =
          some .released) := by
    decide +kernel
  exact ⟨htimes, keepsTime _ _ _ htimes, hpulse,
    ⟨1, by decide, hpulse, drove_mem_askedAt_iff.mpr (by decide +kernel),
      fun k hk hlt hgone ↦ hquiet k hlt hk (drove_mem_askedAt_iff.mp hgone)⟩,
    by decide +kernel, by decide +kernel, drove_mem_askedAt_iff.mpr (by decide +kernel),
    by decide +kernel, by decide +kernel⟩

end Site

end RackBus
