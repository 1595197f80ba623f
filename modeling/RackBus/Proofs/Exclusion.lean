import RackBus.Proofs.Allotment
import RackBus.Proofs.BringUp
import RackBus.Proofs.Wiring

/-!
# One side at a time

A module that has no address yet answers to whoever calls it, so only one side may be enabled while
modules are enrolled, and none once data is exchanged.  Lines are set when a phase is entered and
requests are sent one step later, so this is a statement about whole traces.

* `Event.Fits` says that the enable lines are as an event needs them, and `Exclusive` that they were
  for every event of a trace, behind some beginning.
* `Survey.IsOver` says that the actions of the last phase have been performed.
* `Site.Guarded` is what carries this through a survey: the lines are as the survey wants them
  (`Site.Wired`), and the next address of a side lies on that side.  `Site.Guarded.step` is one
  step.
* `Site.KeepsApart` and `Bridge.KeepsApart` say that the sides are kept apart, and
  `Bridge.keepsApart_run` that they are in every run of a survey, with new surveys at any time, and
  in every history of a bridge, whatever the rack does.
-/

set_option autoImplicit false

namespace RackBus

universe u

/-! ## The lines that an event needs -/

/-- What a trace last does to the enable line of a side. -/
def lineIn? (trace : List Event) (side : Side) : Option Line :=
  trace.reverse.findSome? (Event.sets? side)

/-- The address that a request of an enrolment is sent to. -/
def Event.enrolled? : Event → Option Address
  | sent request _ => if request.task? = some .survey then some request.destination else none
  | _ => none

/-- The enable lines are as an event needs them. -/
structure Event.Fits (e : Event) (base : Address) (line? : Side → Option Line) : Prop where
  /-- When a module is spoken to, its side is enabled and the other one is not. -/
  enrolment : ∀ address, e.enrolled? = some address →
    ∃ side, address.side? base = some side ∧
      line? side = some .high ∧ line? side.other = some .released
  /-- When the exchange or a driver is started or data is exchanged, no side is enabled. -/
  exchange : e.stage = .starting ∨ e.stage = .driver ∨ e.stage = .exchanging →
    ∀ side, line? side = some .released

/-- Behind the beginning `past`, all events of a trace found the enable lines as they needed
them. -/
def Exclusive (base : Address) (past trace : List Event) : Prop :=
  ∀ pre e post, trace = past ++ pre ++ e :: post → e.Fits base (lineIn? (past ++ pre))

theorem exclusive_self (base : Address) (past : List Event) : Exclusive base past past := by
  intro pre e post h
  have hlength := congrArg List.length h
  simp only [List.length_append, List.length_cons] at hlength
  omega

/-- **One more event** that finds the lines as it needs them. -/
theorem Exclusive.append_singleton {base : Address} {past trace : List Event}
    (h : Exclusive base past trace) {e : Event} (he : e.Fits base (lineIn? trace)) :
    Exclusive base past (trace ++ [e]) := by
  intro pre x post hsplit
  rcases List.eq_nil_or_concat post with rfl | ⟨post, last, rfl⟩
  · obtain ⟨rfl, hx⟩ := List.append_inj' hsplit rfl
    obtain rfl := List.singleton_inj.mp hx
    exact he
  · have hsplit : trace ++ [e] = (past ++ pre ++ x :: post) ++ [last] := by
      rw [hsplit, List.concat_eq_append, List.append_assoc, List.append_assoc, List.append_assoc,
        List.cons_append]
    exact h pre x post (List.append_inj' hsplit rfl).1

/-- What is neither part of an enrolment nor comes after a survey needs no lines, and what comes
after a survey needs them released. -/
theorem Event.fits_of_works {e : Event} {tasks : List Task} (h : tasks.any e.serves = true)
    (hsurvey : .survey ∉ tasks) {base : Address} {line? : Side → Option Line}
    (hreleased : .launch ∈ tasks ∨ .polling ∈ tasks → ∀ side, line? side = some .released) :
    e.Fits base line? := by
  constructor
  · intro address henrolled
    obtain ⟨task, htask, hserves⟩ := List.any_eq_true.mp h
    cases e with
    | sent request answer =>
      have hrequest : request.task? = some task := by simpa [serves] using hserves
      rw [enrolled?, hrequest] at henrolled
      split at henrolled
      · rename_i heq
        exact absurd (Option.some.inj heq ▸ htask) hsurvey
      · exact absurd henrolled (by simp)
    | _ => exact absurd henrolled (by simp [enrolled?])
  · intro hstage
    rcases Event.stage_of_works h with haside | ⟨task, htask, howns⟩
    · rw [haside] at hstage
      exact absurd hstage (by simp)
    · refine hreleased ?_
      rcases hstage with hstage | hstage | hstage <;> rw [hstage] at howns <;>
        obtain rfl := List.mem_singleton.mp howns
      · exact Or.inl htask
      · exact Or.inl htask
      · exact Or.inr htask

section Asks

variable {σ : Type u} {rack : Rack σ} {P : Event → Prop} {bus after : Bus σ} {base : Address}
  {past : List Event}

/-- Events that do not set any line, and find the lines as they need them. -/
theorem Exclusive.asks (h : Exclusive base past bus.trace) (hasks : Bus.Asks rack P bus after)
    (hsets : ∀ e, P e → ∀ side, e.sets? side = none)
    (hfits : ∀ e, P e → e.Fits base bus.line?) : Exclusive base past after.trace := by
  have hboth : Exclusive base past after.trace ∧ after.line? = bus.line? := by
    refine hasks.invariant
      (J := fun b ↦ Exclusive base past b.trace ∧ b.line? = bus.line?) ?_ ⟨h, rfl⟩
    rintro b e b' step he ⟨hb, hline⟩
    constructor
    · rw [step.trace_eq]
      exact hb.append_singleton (show e.Fits base b.line? from hline ▸ hfits e he)
    · funext side
      rw [Bus.line?, Bus.last?_eq step.trace_eq, hsets e he side, Option.none_or]
      exact congrFun hline side
  exact hboth.1

/-- Events that need no lines at all. -/
theorem Exclusive.asks_of_fits (h : Exclusive base past bus.trace)
    (hasks : Bus.Asks rack P bus after) (hfits : ∀ e, P e → ∀ line?, e.Fits base line?) :
    Exclusive base past after.trace := by
  refine hasks.invariant (J := fun b ↦ Exclusive base past b.trace) ?_ h
  intro b e b' step he hb
  rw [step.trace_eq]
  exact hb.append_singleton (hfits e he _)

/-- Work that is neither a survey nor comes after one. -/
theorem Exclusive.works {tasks : List Task} (h : Exclusive base past bus.trace)
    (hworks : Bus.Works rack tasks bus after) (hsurvey : .survey ∉ tasks)
    (hlaunch : .launch ∉ tasks) (hpolling : .polling ∉ tasks) : Exclusive base past after.trace :=
  h.asks_of_fits hworks fun _ he _ ↦
    Event.fits_of_works he hsurvey fun hafter ↦ absurd hafter (by simp [hlaunch, hpolling])

end Asks

/-! ## Surveys -/

/-- The actions of the last phase have been performed. -/
structure Survey.IsOver (s : Survey) : Prop where
  phase : s.phase = .finished
  entering : s.entering = false

theorem Survey.Wired.released {s : Survey} {line? : Side → Option Line} (h : s.Wired line?)
    (hover : s.IsOver) (side : Side) : line? side = some .released := by
  rw [h.entered hover.entering side, hover.phase]
  rfl

namespace Site

variable {σ : Type u} {site : Site σ} (rack : Rack σ) {settings : Settings} {past : List Event}

/-- What keeps the sides apart in a survey. -/
structure Guarded (site : Site σ) (base : Address) (past : List Event) : Prop where
  /-- The lines are as the survey wants them. -/
  wired : site.Wired
  /-- The next addresses are those of their sides. -/
  allots : ∃ t, site.survey.Allots base t
  exclusive : Exclusive base past site.bus.trace

/-- What is asked when it is decided whether a phase is over finds the lines of the phase as it
needs them. -/
theorem Inquires.fits {base : Address} {t : Tally} (hlow : 0 < base.number)
    (hhigh : base.number < 255) (hallots : site.survey.Allots base t) {line? : Side → Option Line}
    (hline : ∀ side, line? side = some (site.survey.phase.line side)) {e : Event}
    (he : site.Inquires e) : e.Fits base line? := by
  rcases he with ⟨side, level, rfl⟩ | ⟨side, address, hphase, hfree, he⟩
  · exact ⟨fun _ h ↦ absurd h (by simp [Event.enrolled?]),
      fun h ↦ absurd h (by simp [Event.stage])⟩
  · cases e with
    | sent request answer =>
      obtain ⟨htask, hdestination⟩ :
          request.task? = some .survey ∧ request.destination = address := by
        simpa [Event.enrols] using he
      constructor
      · intro called hcalled
        obtain rfl : request.destination = called := by simpa [Event.enrolled?, htask] using hcalled
        refine ⟨side, ?_, ?_, ?_⟩
        · rw [hdestination, hallots.side?_next hlow hhigh hfree]
        · rw [hline, hphase, Phase.line, if_pos rfl]
        · rw [hline, hphase, Phase.line, if_neg (by cases side <;> simp [Side.other])]
      · intro h
        simp [Event.stage, htask] at h
    | paused ms =>
      exact ⟨fun _ h ↦ absurd h (by simp [Event.enrolled?]),
        fun h ↦ absurd h (by simp [Event.stage])⟩
    | _ => exact absurd he (by simp [Event.enrols])

theorem guarded_start (hvalid : settings.Valid) (hsurvey : site.survey = .start settings.rightBase)
    (hpast : Exclusive settings.rightBase past site.bus.trace) :
    site.Guarded settings.rightBase past := by
  refine ⟨?_, ⟨.zero, ?_⟩, hpast⟩
  · rw [Wired, hsurvey]
    exact Survey.wired_start _ _
  · rw [hsurvey]
    exact Survey.allots_start hvalid.two_le_rightBase hvalid.rightBase_lt

/-- **A step of a survey keeps the sides apart.** -/
theorem Guarded.step (h : site.Guarded settings.rightBase past) (hvalid : settings.Valid)
    (now : UInt64) : (site.step rack settings now).2.Guarded settings.rightBase past := by
  obtain ⟨t, hallots⟩ := h.allots
  have hlow : 0 < settings.rightBase.number :=
    Nat.lt_of_lt_of_le Nat.two_pos hvalid.two_le_rightBase
  refine ⟨h.wired.step rack settings now, ?_, ?_⟩
  · cases site.outcome_step rack settings now with
    | quiet roster next => exact ⟨t, hallots.congr next⟩
    | enrolled side address identity phase free roster next =>
      exact ⟨t.add side, (hallots.advance free).congr next⟩
  · -- The lines are set first, and then they are those of the phase.
    have hlines := h.wired.line?_enterIfNew rack settings.timings now
    have hentered : Exclusive settings.rightBase past
        (site.enterIfNew rack settings.timings now).bus.trace :=
      h.exclusive.works (site.works_enterIfNew rack settings.timings now) (by simp) (by simp)
        (by simp)
    have hnext : (site.enterIfNew rack settings.timings now).survey.Allots settings.rightBase t :=
      hallots.congr (site.next?_enterIfNew rack settings.timings now)
    rw [step_eq]
    dsimp only
    rw [bus_goTo]
    refine hentered.asks (asks_check _ rack settings now) ?_ ?_
    · intro e he
      have hsurvey : [Task.survey].any e.serves = true := by simp [he.serves]
      exact Event.sets?_eq_none_of_works hsurvey (by simp)
    intro e he
    refine he.fits hlow hvalid.rightBase_lt hnext fun side ↦ ?_
    rw [hlines side, phase_enterIfNew]

/-- Something that is done with a survey on its own. -/
inductive Move where
  /-- One step, at a point in time in microseconds. -/
  | step (now : UInt64)
  /-- A new survey, whatever was found before. -/
  | restart (roster : Roster)

/-- Does one thing with a survey. -/
def move (rack : Rack σ) (settings : Settings) (site : Site σ) : Move → Site σ
  | .step now => (site.step rack settings now).2
  | .restart roster => { site with survey := .start settings.rightBase, roster := roster }

/-- Does one thing after the other. -/
def moves (rack : Rack σ) (settings : Settings) (site : Site σ) (list : List Move) : Site σ :=
  list.foldl (move rack settings) site

/-- A survey that keeps the sides apart. -/
structure KeepsApart (rack : Rack σ) (settings : Settings) (past : List Event) (site : Site σ) :
    Prop where
  exclusive : Exclusive settings.rightBase past site.bus.trace
  /-- The step that says that the survey is over has performed the actions of the last phase. -/
  ends : ∀ now entered, (site.step rack settings now).1 = .finished entered →
    (site.step rack settings now).2.survey.IsOver
  /-- From then on a step changes nothing. -/
  rests : site.survey.IsOver → ∀ now, site.step rack settings now = (.finished false, site)
  /-- Then no side is enabled. -/
  released : site.survey.IsOver → ∀ side, site.bus.line? side = some .released

theorem Guarded.keepsApart (h : site.Guarded settings.rightBase past) :
    site.KeepsApart rack settings past where
  exclusive := h.exclusive
  ends _ _ hended := ⟨(site.finished_of_step hended).1, site.entering_of_finished hended⟩
  rests hover now := step_of_finished rack settings now hover.phase hover.entering
  released hover := h.wired.released hover

theorem Guarded.moves (h : site.Guarded settings.rightBase past) (hvalid : settings.Valid)
    (list : List Move) : (site.moves rack settings list).Guarded settings.rightBase past := by
  induction list generalizing site with
  | nil => exact h
  | cons first rest ih =>
    refine ih ?_
    cases first with
    | step now => exact h.step rack hvalid now
    | restart roster => exact guarded_start hvalid rfl h.exclusive

end Site

/-! ## Bridges -/

namespace Bridge

variable {σ : Type u} {b : Bridge σ} (rack : Rack σ) {settings : Settings}

/-- What keeps the sides apart in a bridge, whether it has stopped or not. -/
structure Guarded (b : Bridge σ) (settings : Settings) : Prop where
  settings_eq : b.settings = settings
  site : b.site.Guarded settings.rightBase []

/-- Lamps, maintenance and loading do not matter. -/
theorem Guarded.congr {after : Bridge σ} (h : b.Guarded settings)
    (hsettings : after.settings = b.settings) (hsurvey : after.survey = b.survey)
    {tasks : List Task} (hworks : Bus.Works rack tasks b.bus after.bus)
    (htasks : ∀ task ∈ tasks, task ∈ [Task.alarm, .lamps, .upkeep, .loading]) :
    after.Guarded settings := by
  have hother (task : Task) (htask : task ∉ [Task.alarm, .lamps, .upkeep, .loading]) :
      task ∉ tasks := fun hmem ↦ htask (htasks task hmem)
  have hline : after.bus.line? = b.bus.line? := hworks.line?_eq (hother _ (by simp))
  obtain ⟨t, hallots⟩ := h.site.allots
  refine ⟨hsettings.trans h.settings_eq, ?_, ⟨t, ?_⟩, ?_⟩
  · show after.survey.Wired after.bus.line?
    rw [hsurvey, hline]
    exact h.site.wired
  · show after.survey.Allots settings.rightBase t
    rw [hsurvey]
    exact hallots
  · exact h.site.exclusive.works hworks (hother _ (by simp)) (hother _ (by simp))
      (hother _ (by simp))

theorem Guarded.restart (h : b.Guarded settings) (hvalid : settings.Valid) :
    (b.restart rack).2.Guarded settings := by
  have hexclusive : Exclusive settings.rightBase [] (b.restart rack).2.bus.trace :=
    h.site.exclusive.works (b.works_restart rack) (by simp) (by simp) (by simp)
  obtain ⟨hsettings, hsurvey⟩ : (b.restart rack).2.settings = b.settings ∧
      (b.restart rack).2.survey = .start b.settings.rightBase := by
    rw [restart_eq]
    split <;> exact ⟨rfl, rfl⟩
  refine ⟨hsettings.trans h.settings_eq, ?_⟩
  rw [h.settings_eq] at hsurvey
  exact Site.guarded_start hvalid hsurvey hexclusive

/-- **A cycle of work** is a step of the survey.  If there is more work after it, the survey is over
and no side is enabled any more. -/
theorem Guarded.work (h : b.Guarded settings) (hvalid : settings.Valid) (now : UInt64) :
    (b.work rack now).Guarded settings := by
  have hafter := b.works_afterSurvey rack now
  have hline : (b.work rack now).bus.line? = (b.surveyed rack now).bus.line? :=
    hafter.line?_eq (by simp)
  have hsurveyed : (b.surveyed rack now).site.Guarded settings.rightBase [] := by
    have hstep := h.site.step rack hvalid now
    rw [← h.settings_eq] at hstep ⊢
    exact hstep
  obtain ⟨t, hallots⟩ := hsurveyed.allots
  refine ⟨(congrArg Standing.settings (b.standing_work rack now)).trans h.settings_eq, ?_,
    ⟨t, ?_⟩, ?_⟩
  · show (b.work rack now).survey.Wired (b.work rack now).bus.line?
    rw [survey_work, hline]
    exact hsurveyed.wired
  · show (b.work rack now).survey.Allots settings.rightBase t
    rw [survey_work]
    exact hallots
  · cases hprogress : b.progress rack now with
    | surveying =>
      rw [work_of_surveying hprogress]
      exact hsurveyed.exclusive
    | finished entered =>
      have hover : (b.surveyed rack now).survey.IsOver :=
        ⟨(b.site.finished_of_step hprogress).1, b.site.entering_of_finished hprogress⟩
      refine hsurveyed.exclusive.asks hafter ?_ ?_
      · exact fun e he ↦ Event.sets?_eq_none_of_works he (by simp)
      · exact fun e he ↦ Event.fits_of_works he (by simp) fun _ ↦ hsurveyed.wired.released hover

theorem Guarded.perform (h : b.Guarded settings) (hvalid : settings.Valid) (o : Operation) :
    (b.perform rack o).Guarded settings := by
  refine b.perform_keeps rack (P := fun c ↦ c.Guarded settings)
    (fun _ _ _ hc ↦ ⟨hc.settings_eq, hc.site⟩) (fun _ _ _ hc ↦ ⟨hc.settings_eq, hc.site⟩)
    (fun _ hc ↦ ⟨hc.settings_eq, hc.site⟩) (fun _ hc ↦ hc.restart rack hvalid) ?_
    (fun _ now _ hc ↦ hc.work rack hvalid now) ?_ h o
  · intro c _ hc
    obtain ⟨bus, hmaintenance⟩ := c.performMaintenance_eq rack
    refine hc.congr rack ?_ ?_ (c.works_performMaintenance rack) (by simp) <;> rw [hmaintenance]
  · intro c hc
    obtain ⟨status, bus, image, shownLamps, hshown, -⟩ := c.shown_eq rack
    refine hc.congr rack ?_ ?_ (c.works_shown rack) (by simp) <;> rw [hshown]

theorem guarded_start {state : σ} (hb : start rack state settings = .ok b) :
    b.Guarded settings := by
  obtain ⟨hvalid, -⟩ := isOrderly_start rack hb
  obtain ⟨declared, -, rfl⟩ := eq_of_start hb
  refine ⟨rfl, Site.guarded_start hvalid rfl ?_⟩
  have hworks : Bus.Works rack [.loading, .alarm] (Bus.attach state)
      (((Bus.attach state).load rack).2.indicate rack .fault true) :=
    .head .load rfl (.single (.indicate .fault true) rfl)
  exact (exclusive_self _ _).works hworks (by simp) (by simp) (by simp)

/-- **A survey that is over stays over** until the bridge starts all over. -/
theorem isOver_perform (hover : b.survey.IsOver) {o : Operation} (ho : b.startsOver o = false) :
    (b.perform rack o).survey.IsOver := by
  cases o with
  | cycle now =>
    have hreset : b.control.resetRequested = false := ho
    have hshown (c : Bridge σ) : ((c.applyRunning rack).publish rack).survey = c.survey := by
      obtain ⟨status, bus, image, shownLamps, hshown, -⟩ := c.shown_eq rack
      rw [hshown]
    rw [perform, b.runCycle_eq rack hreset, hshown]
    split
    · obtain ⟨bus, hmaintenance⟩ := b.performMaintenance_eq rack
      rw [hmaintenance]
      exact hover
    · have hstep : b.site.step rack b.settings now = (.finished false, b.site) :=
        Site.step_of_finished rack b.settings now hover.phase hover.entering
      rw [survey_work, surveyed, hstep]
      exact hover
  | reset => exact absurd ho.symm Bool.false_ne_true
  | stop | requestReset | requestMaintenance _ | writeByte _ _ => exact hover

/-- A bridge that keeps the sides apart. -/
structure KeepsApart (rack : Rack σ) (settings : Settings) (b : Bridge σ) : Prop where
  exclusive : Exclusive settings.rightBase [] b.bus.trace
  /-- A survey that is over stays over until the bridge starts all over. -/
  lasts : b.survey.IsOver → ∀ o, b.startsOver o = false → (b.perform rack o).survey.IsOver
  /-- No side is enabled then. -/
  released : b.survey.IsOver → ∀ side, b.bus.line? side = some .released

/-- **The sides are kept apart**, whatever the rack and the clock do: in every run of a survey, with
new surveys at any time, and in every history of a bridge. -/
theorem keepsApart_run (hvalid : settings.check = .ok ()) :
    (∀ site : Site σ, site.survey = .start settings.rightBase → ∀ list,
      (site.moves rack settings list).KeepsApart rack settings site.bus.trace) ∧
    ∀ state b, start rack state settings = .ok b → ∀ operations,
      (b.run rack operations).KeepsApart rack settings := by
  have hvalid := Settings.check_eq_ok_iff.mp hvalid
  constructor
  · intro site hsurvey list
    have hguarded := Site.guarded_start hvalid hsurvey (exclusive_self _ site.bus.trace)
    exact (hguarded.moves rack hvalid list).keepsApart rack
  · intro state b hb operations
    have hguarded : (b.run rack operations).Guarded settings :=
      run_invariant (P := fun c ↦ c.Guarded settings) (fun _ o hc ↦ hc.perform rack hvalid o)
        (guarded_start rack hb) operations
    exact ⟨hguarded.site.exclusive, fun hover _ ho ↦ isOver_perform rack hover ho,
      hguarded.site.wired.released⟩

/-- A new survey of three modules. -/
def newSite : Site Chains :=
  ⟨.start ⟨32⟩, .attach threeModules, .ofCore 3 roomForThree.coreIdentity⟩

/-- The survey is given up while a module of the right side is spoken to, and a new one finds all
three. -/
def interruptedSurvey : List Site.Move :=
  (List.range 9).map (fun i ↦ .step (50000 * UInt64.ofNat i)) ++
    [.restart (.ofCore 4 roomForThree.coreIdentity)] ++
    (List.range 24).map fun i ↦ .step (500000 + 50000 * UInt64.ofNat i)

theorem keepsApart_run_interruptedSurvey :
    roomForThree.check = .ok () ∧ newSite.survey = .start roomForThree.rightBase ∧
      (newSite.moves Chains.rack roomForThree interruptedSurvey).KeepsApart Chains.rack roomForThree
        newSite.bus.trace ∧
      (newSite.moves Chains.rack roomForThree interruptedSurvey).bus.trace.filterMap
        Event.enrolled? = [⟨32⟩, ⟨32⟩, ⟨32⟩, ⟨32⟩, ⟨33⟩, ⟨33⟩, ⟨33⟩, ⟨31⟩, ⟨31⟩, ⟨31⟩] ∧
      ∃ b, start Chains.rack threeModules roomForThree = .ok b ∧
        (b.run Chains.rack relaunchHistory).KeepsApart Chains.rack roomForThree ∧
        (b.run Chains.rack relaunchHistory).survey.phase = .finished ∧
        (b.run Chains.rack relaunchHistory).survey.entering = false :=
  ⟨rfl, rfl, (keepsApart_run Chains.rack rfl).1 newSite rfl interruptedSurvey, by decide +kernel, _,
    rfl, (keepsApart_run Chains.rack rfl).2 threeModules _ rfl relaunchHistory, by decide +kernel,
    by decide +kernel⟩

end Bridge

end RackBus
