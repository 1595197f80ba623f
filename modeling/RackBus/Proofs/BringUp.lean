import RackBus.Proofs.Lifecycle
import RackBus.Proofs.Restart
import RackBus.Proofs.Rounds

/-!
# The order in which modules are brought up

A bridge explores its rack, starts the exchange, starts the drivers, and then polls.  This file says
that the trace shows this order, in every part of it between two times of starting all over.

* `Stage` names what an event is in this order, and `Event.stage_of_works` ties it to the tasks of
  `RackBus.Proofs.Conduct`.
* `Roster.drivers` are the drivers that a roster asks for.  `Roster.BringsUp` is the order, as a
  property of a part of a trace.
* `Bridge.Recounts` is what a part shows while it is still going on, and `Bridge.Continues` is a
  piece of work that keeps it.  `Bridge.Coherent.continues_perform` says so of every operation that
  does not start all over.
* `Bus.chapters` are the parts of a trace and `Bridge.rosters` the rosters at their ends.
  `Bridge.bringsUp_run` says that every roster is brought up in order, whatever the rack does.
-/

set_option autoImplicit false

namespace RackBus

universe u

/-! ## Stages -/

/-- What an event is when modules are brought up. -/
inductive Stage where
  /-- A sense line is read, an enable line is set, or a request of an enrolment is sent. -/
  | exploring
  /-- All modules are asked to start the exchange. -/
  | starting
  /-- The driver of a module is started. -/
  | driver
  /-- The data of a module is exchanged. -/
  | exchanging
  /-- The declared configuration is loaded. -/
  | loading
  /-- None of these. -/
  | aside
  deriving DecidableEq

/-- What an event is when modules are brought up. -/
def Event.stage : Event → Stage
  | sensed _ _ => .exploring
  | drove _ _ => .exploring
  | sent request _ =>
    if request.task? = some .survey then .exploring
    else if request.destination = .broadcast ∧ request.command = Command.startExchange.code then
      .starting
    else .aside
  | loaded _ => .loading
  | startedDriver _ _ _ => .driver
  | exchanged _ _ _ => .exchanging
  | indicated _ _ => .aside
  | paused _ => .aside

/-- The tasks that an event in some stage can serve, if it is no aside. -/
def Stage.tasks : Stage → List Task
  | exploring => [.wiring, .survey]
  | starting => [.launch]
  | driver => [.launch]
  | exchanging => [.polling]
  | loading => [.loading]
  | aside => []

/-- The stage of an event that serves a task is one of that task. -/
theorem Event.stage_of_serves {e : Event} {task : Task} (h : e.serves task = true) :
    e.stage = .aside ∨ task ∈ e.stage.tasks := by
  cases e with
  | sent request answer =>
    have htask : request.task? = some task := by simpa [serves] using h
    rw [stage]
    split
    · rename_i hsurvey
      obtain rfl : task = .survey := Option.some.inj (htask.symm.trans hsurvey)
      exact Or.inr (by simp [Stage.tasks])
    · split
      · rename_i hstart
        obtain rfl : task = .launch :=
          Option.some.inj (htask.symm.trans (Telegram.task?_eq hstart.2))
        exact Or.inr (by simp [Stage.tasks])
      · exact Or.inl rfl
  | indicated _ _ | paused _ => exact Or.inl rfl
  | sensed _ _ | drove _ _ | loaded _ | startedDriver _ _ _ | exchanged _ _ _ =>
    right
    cases task with
    | wiring | survey | launch | polling | loading =>
      simp [stage, Stage.tasks, serves] at *
    | _ => exact absurd h (by simp [serves])

/-- Work in some tasks is in a stage of these tasks. -/
theorem Event.stage_of_works {e : Event} {tasks : List Task}
    (h : tasks.any e.serves = true) : e.stage = .aside ∨ ∃ task ∈ tasks, task ∈ e.stage.tasks := by
  obtain ⟨task, htask, hserves⟩ := List.any_eq_true.mp h
  exact (stage_of_serves hserves).imp_right fun howns ↦ ⟨task, htask, howns⟩

/-- Only where there is something to be loaded is anything loaded. -/
theorem Event.stage_ne_loading_of_works {e : Event} {tasks : List Task}
    (h : tasks.any e.serves = true) (hloading : .loading ∉ tasks) : e.stage ≠ .loading := by
  intro hstage
  rcases stage_of_works h with haside | ⟨task, htask, howns⟩
  · exact absurd (hstage.symm.trans haside) (by simp)
  · rw [hstage] at howns
    obtain rfl := List.mem_singleton.mp howns
    exact hloading htask

/-- The driver that is started, by the type of the module and the index of its row. -/
def Event.driver? : Event → Option (ModuleType × Nat)
  | startedDriver type index _ => some (type, index)
  | _ => none

theorem Event.driver?_eq_none {e : Event} (h : e.stage ≠ .driver) : e.driver? = none := by
  cases e with
  | startedDriver type index found => exact absurd rfl h
  | _ => rfl

theorem Event.filterMap_driver?_eq_nil {events : List Event}
    (h : ∀ e ∈ events, e.stage ≠ .driver) : events.filterMap driver? = [] :=
  List.filterMap_eq_nil_iff.mpr fun e he ↦ driver?_eq_none (h e he)

/-! ## The order -/

/-- The drivers of the active input and output modules, in the order of their rows. -/
def Roster.drivers (r : Roster) : List (ModuleType × Nat) :=
  (r.active.filter fun e ↦ e.1.identity.type.isInputOutput).map fun e ↦ (e.1.identity.type, e.2)

/-- Error counts do not matter to the drivers. -/
theorem Roster.drivers_congr {r r' : Roster}
    (h : r'.rows.map Row.clearErrors = r.rows.map Row.clearErrors) : r'.drivers = r.drivers := by
  let drivers (rows : List Row) : List (ModuleType × Nat) :=
    ((rows.zipIdx.filter fun e ↦ e.1.active).filter fun e ↦ e.1.identity.type.isInputOutput).map
      fun e ↦ (e.1.identity.type, e.2)
  have hcleared (rows : List Row) : drivers (rows.map Row.clearErrors) = drivers rows := by
    simp only [drivers, List.zipIdx_map, List.filter_map, List.map_map]
    rfl
  calc r'.drivers = drivers (r'.rows.map Row.clearErrors) := (hcleared r'.rows).symm
    _ = drivers (r.rows.map Row.clearErrors) := congrArg drivers h
    _ = r.drivers := hcleared r.rows

/-- The events before the exchange is started: all, if it is not. -/
def beforeStart (part : List Event) : List Event := part.takeWhile fun e ↦ e.stage ≠ .starting

/-- The events from the start of the exchange on: none, if it is not started. -/
def fromStart (part : List Event) : List Event := part.dropWhile fun e ↦ e.stage ≠ .starting

/-- In this part of a trace, the modules of a roster are brought up in order. -/
structure Roster.BringsUp (roster : Roster) (part : List Event) : Prop where
  /-- The exchange is started at most once. -/
  once : part.countP (fun e ↦ e.stage = .starting) ≤ 1
  /-- No driver is started and no data exchanged before. -/
  before : ∀ e ∈ beforeStart part, e.stage ≠ .driver ∧ e.stage ≠ .exchanging
  /-- The rack is not explored any more. -/
  after : ∀ e ∈ fromStart part, e.stage ≠ .exploring
  /-- Between the start and the first exchange, the drivers of the roster are started, each once and
  in their order. -/
  drivers : fromStart part ≠ [] →
    ((fromStart part).takeWhile fun e ↦ e.stage ≠ .exchanging).filterMap Event.driver? =
      roster.drivers
  /-- No driver is started later. -/
  late : ∀ e ∈ (fromStart part).dropWhile fun e ↦ e.stage ≠ .exchanging, e.stage ≠ .driver

/-! ## What a part shows -/

/-- An event that may come before the exchange is started. -/
def Event.IsEarly (e : Event) : Prop := e.stage = .exploring ∨ e.stage = .aside

/-- An event that may come after the drivers have been started. -/
def Event.IsLate (e : Event) : Prop := e.stage = .exchanging ∨ e.stage = .aside

/-- An event of a stage that is not for such events. -/
theorem Event.IsEarly.ne {e : Event} (h : e.IsEarly) {stage : Stage}
    (hexploring : stage ≠ .exploring) (haside : stage ≠ .aside) : e.stage ≠ stage := by
  rcases h with h | h <;> rw [h]
  · exact hexploring.symm
  · exact haside.symm

theorem Event.IsLate.ne {e : Event} (h : e.IsLate) {stage : Stage}
    (hexchanging : stage ≠ .exchanging) (haside : stage ≠ .aside) : e.stage ≠ stage := by
  rcases h with h | h <;> rw [h]
  · exact hexchanging.symm
  · exact haside.symm

/-- A part in which the exchange was started, and then the given drivers. -/
def Launched (drivers : List (ModuleType × Nat)) (part : List Event) : Prop :=
  ∃ early start launch late, part = early ++ start :: (launch ++ late) ∧
    (∀ e ∈ early, e.IsEarly) ∧ start.stage = .starting ∧
    (∀ e ∈ launch, e.stage = .driver ∨ e.stage = .aside) ∧
    launch.filterMap Event.driver? = drivers ∧ ∀ e ∈ late, e.IsLate

theorem Launched.append {drivers : List (ModuleType × Nat)} {part events : List Event}
    (h : Launched drivers part) (hevents : ∀ e ∈ events, e.IsLate) :
    Launched drivers (part ++ events) := by
  obtain ⟨early, start, launch, late, rfl, hearly, hstart, hlaunch, hdrivers, hlate⟩ := h
  refine ⟨early, start, launch, late ++ events, ?_, hearly, hstart, hlaunch, hdrivers, ?_⟩
  · simp only [List.append_assoc, List.cons_append]
  · exact List.forall_mem_append.mpr ⟨hlate, hevents⟩

/-- Without a start there is none to be counted. -/
theorem countP_starting_eq_zero {events : List Event}
    (h : ∀ e ∈ events, e.stage ≠ .starting) : events.countP (fun e ↦ e.stage = .starting) = 0 :=
  List.countP_eq_zero.mpr fun e he ↦ by simpa using h e he

/-- As long as nothing was started, nothing is out of order. -/
theorem Roster.bringsUp_of_early {part : List Event} (h : ∀ e ∈ part, e.IsEarly)
    (roster : Roster) : roster.BringsUp part := by
  have hnone : ∀ e ∈ part, e.stage ≠ .starting := fun e he ↦ (h e he).ne (by simp) (by simp)
  have hfrom : fromStart part = [] := by
    rw [fromStart, ← List.append_nil part, List.dropWhile_append_of_pos]
    · rfl
    · exact fun e he ↦ by simpa using hnone e he
  refine ⟨?_, fun e he ↦ ?_, ?_, fun hne ↦ absurd hfrom hne, ?_⟩
  · rw [countP_starting_eq_zero hnone]
    exact Nat.zero_le _
  · have hearly := h e ((List.takeWhile_prefix _).subset he)
    exact ⟨hearly.ne (by simp) (by simp), hearly.ne (by simp) (by simp)⟩
  · simp [hfrom]
  · simp [hfrom]

/-- Once the drivers of the roster have been started, everything was in order. -/
theorem Launched.bringsUp {roster : Roster} {part : List Event}
    (h : Launched roster.drivers part) : roster.BringsUp part := by
  obtain ⟨early, start, launch, late, rfl, hearly, hstart, hlaunch, hdrivers, hlate⟩ := h
  have hnone : ∀ e ∈ early, e.stage ≠ .starting := fun e he ↦ (hearly e he).ne (by simp) (by simp)
  have hbefore : beforeStart (early ++ start :: (launch ++ late)) = early := by
    rw [beforeStart, List.takeWhile_append_of_pos fun e he ↦ by simpa using hnone e he]
    simp [hstart]
  have hfrom : fromStart (early ++ start :: (launch ++ late)) = start :: launch ++ late := by
    rw [fromStart, List.dropWhile_append_of_pos fun e he ↦ by simpa using hnone e he]
    simp [hstart]
  -- The start and the launch: none of these events exchanges data.
  have hquiet : ∀ e ∈ start :: launch, e.stage ≠ .exchanging ∧ e.stage ≠ .exploring := by
    refine List.forall_mem_cons.mpr ⟨by simp [hstart], fun e he ↦ ?_⟩
    rcases hlaunch e he with hstage | hstage <;> simp [hstage]
  refine ⟨?_, ?_, ?_, fun _ ↦ ?_, ?_⟩
  · have hlaunched : ∀ e ∈ launch, e.stage ≠ .starting := fun e he ↦ by
      rcases hlaunch e he with hstage | hstage <;> simp [hstage]
    have hpolled : ∀ e ∈ late, e.stage ≠ .starting := fun e he ↦ (hlate e he).ne (by simp) (by simp)
    rw [List.countP_append, List.countP_cons, List.countP_append, countP_starting_eq_zero hnone,
      countP_starting_eq_zero hlaunched, countP_starting_eq_zero hpolled]
    simp [hstart]
  · rw [hbefore]
    exact fun e he ↦ ⟨(hearly e he).ne (by simp) (by simp), (hearly e he).ne (by simp) (by simp)⟩
  · rw [hfrom]
    refine List.forall_mem_append.mpr ⟨fun e he ↦ (hquiet e he).2, fun e he ↦ ?_⟩
    exact (hlate e he).ne (by simp) (by simp)
  · have hnoDrivers :
        (late.takeWhile fun e ↦ e.stage ≠ .exchanging).filterMap Event.driver? = [] :=
      Event.filterMap_driver?_eq_nil fun e he ↦
        (hlate e ((List.takeWhile_prefix _).subset he)).ne (by simp) (by simp)
    have hstartDriver : start.driver? = none := Event.driver?_eq_none (by simp [hstart])
    rw [hfrom, List.takeWhile_append_of_pos fun e he ↦ by simpa using (hquiet e he).1,
      List.filterMap_append, hnoDrivers, List.append_nil, List.filterMap_cons, hstartDriver,
      hdrivers]
  · rw [hfrom, List.dropWhile_append_of_pos fun e he ↦ by simpa using (hquiet e he).1]
    exact fun e he ↦ (hlate e ((List.dropWhile_suffix _).subset he)).ne (by simp) (by simp)

namespace Bridge

variable {σ : Type u}

/-- What a part of the trace shows that is still going on. -/
structure Recounts (b : Bridge σ) (part : List Event) : Prop where
  /-- Before the end of the survey, nothing was started. -/
  early : b.core = none → ∀ e ∈ part, e.IsEarly
  /-- Afterwards the drivers of the roster were started. -/
  launched : b.core ≠ none → Launched b.roster.drivers part

theorem Recounts.bringsUp {b : Bridge σ} {part : List Event} (h : b.Recounts part) :
    b.roster.BringsUp part := by
  by_cases hcore : b.core = none
  · exact b.roster.bringsUp_of_early (h.early hcore)
  · exact (h.launched hcore).bringsUp

/-- Asides have no place in the order. -/
theorem Recounts.append_asides {b after : Bridge σ} {part asides : List Event}
    (h : b.Recounts part) (hasides : ∀ e ∈ asides, e.stage = .aside)
    (hcore : after.core = b.core) (hroster : after.roster = b.roster) :
    after.Recounts (part ++ asides) := by
  constructor
  · intro hnone
    exact List.forall_mem_append.mpr
      ⟨h.early (hcore.symm.trans hnone), fun e he ↦ Or.inr (hasides e he)⟩
  · rw [hcore, hroster]
    exact fun hsome ↦ (h.launched hsome).append fun e he ↦ Or.inr (hasides e he)

/-- From one bridge to the next the trace has grown, without a loading, and it shows what it has to
show. -/
def Continues (b after : Bridge σ) : Prop :=
  ∃ events, after.bus.trace = b.bus.trace ++ events ∧ (∀ e ∈ events, e.stage ≠ .loading) ∧
    ∀ part, b.Recounts part → after.Recounts (part ++ events)

theorem Continues.trans {b next after : Bridge σ} (h : b.Continues next)
    (h' : next.Continues after) : b.Continues after := by
  obtain ⟨first, hfirst, hquiet, hkeeps⟩ := h
  obtain ⟨second, hsecond, hquiet', hkeeps'⟩ := h'
  refine ⟨first ++ second, ?_, List.forall_mem_append.mpr ⟨hquiet, hquiet'⟩, fun part hpart ↦ ?_⟩
  · rw [hsecond, hfirst, List.append_assoc]
  · rw [← List.append_assoc]
    exact hkeeps' _ (hkeeps part hpart)

variable {b : Bridge σ}

theorem continues_of_eq {after : Bridge σ} (hbus : after.bus = b.bus) (hcore : after.core = b.core)
    (hroster : after.roster = b.roster) : b.Continues after := by
  refine ⟨[], ?_, by simp, fun part hpart ↦ hpart.append_asides (by simp) hcore hroster⟩
  rw [hbus, List.append_nil]

variable (rack : Rack σ)

/-- The lamps and the maintenance. -/
theorem continues_of_works {after : Bridge σ} {tasks : List Task}
    (h : Bus.Works rack tasks b.bus after.bus) (htasks : tasks ⊆ [.alarm, .lamps, .upkeep])
    (hcore : after.core = b.core) (hroster : after.roster = b.roster) : b.Continues after := by
  obtain ⟨events, htrace, hevents⟩ := Bus.Asks.exists_trace_eq h
  have hasides : ∀ e ∈ events, e.stage = .aside := fun e he ↦ by
    rcases Event.stage_of_works (hevents e he) with haside | ⟨task, htask, howns⟩
    · exact haside
    · have htask : task = .alarm ∨ task = .lamps ∨ task = .upkeep := by simpa using htasks htask
      cases hstage : e.stage <;> rw [hstage] at howns <;> rcases htask with rfl | rfl | rfl <;>
        exact absurd howns (by simp [Stage.tasks])
  exact ⟨events, htrace, fun e he ↦ by simp [hasides e he],
    fun part hpart ↦ hpart.append_asides hasides hcore hroster⟩

/-- A step of the survey explores. -/
theorem continues_surveyed (hcore : b.core = none) (now : UInt64) :
    b.Continues (b.surveyed rack now) := by
  obtain ⟨events, htrace, hevents⟩ := Bus.Asks.exists_trace_eq (b.works_surveyed rack now)
  have hearly : ∀ e ∈ events, e.IsEarly := fun e he ↦ by
    rcases Event.stage_of_works (hevents e he) with haside | ⟨task, htask, howns⟩
    · exact Or.inr haside
    · left
      have htask : task = .wiring ∨ task = .survey := by simpa using htask
      cases hstage : e.stage <;> rw [hstage] at howns <;> rcases htask with rfl | rfl <;>
        simp [Stage.tasks] at howns ⊢
  refine ⟨events, htrace, fun e he ↦ (hearly e he).ne (by simp) (by simp), fun part hpart ↦ ?_⟩
  exact ⟨fun _ ↦ List.forall_mem_append.mpr ⟨hpart.early hcore, hearly⟩,
    fun hsome ↦ absurd hcore hsome⟩

/-- The drivers are started one after the other. -/
theorem trace_startDrivers (bus : Bus σ) (roster : Roster) :
    ∃ events, (startDrivers bus rack roster).trace = bus.trace ++ events ∧
      events.filterMap Event.driver? = roster.drivers ∧ ∀ e ∈ events, e.stage = .driver := by
  rw [startDrivers, Roster.drivers]
  generalize roster.active.filter (fun e ↦ e.1.identity.type.isInputOutput) = rows
  induction rows generalizing bus with
  | nil => exact ⟨[], (List.append_nil _).symm, rfl, by simp⟩
  | cons row rest ih =>
    have hstep : Bus.Step rack bus _ (bus.startDriver rack row.1.identity.type row.2) :=
      .startDriver row.1.identity.type row.2
    obtain ⟨events, htrace, hdrivers, hstage⟩ :=
      ih (bus.startDriver rack row.1.identity.type row.2)
    refine ⟨.startedDriver row.1.identity.type row.2
      (rack.startDriver row.1.identity.type row.2 bus.rack).1 :: events, ?_, ?_, ?_⟩
    · rw [List.foldl_cons, htrace, hstep.trace_eq, List.append_assoc, List.singleton_append]
    · rw [List.map_cons, ← hdrivers]
      rfl
    · exact List.forall_mem_cons.mpr ⟨rfl, hstage⟩

/-- **The end of a survey** starts the exchange, and the drivers of the roster that it settles. -/
theorem continues_endSurvey (hcore : b.core = none) : b.Continues (b.endSurvey rack) := by
  obtain ⟨start, hstart, hsent⟩ : ∃ start : Event, start.stage = .starting ∧
      (b.bus.broadcast rack .startExchange []).2.trace = b.bus.trace ++ [start] := by
    have hstep : Bus.Step rack b.bus _ (b.bus.advance.transfer rack _).2 :=
      .send ⟨.broadcast, .core, Command.startExchange.code, b.bus.sequence, []⟩
    rw [b.bus.broadcast_eq_transfer rack .startExchange (Nat.zero_le _)]
    exact ⟨_, rfl, hstep.trace_eq⟩
  obtain ⟨drivers, htrace, hdrivers, hstage⟩ := trace_startDrivers rack
    ((b.bus.broadcast rack .startExchange []).2.pause rack b.settings.timings.startPause)
    (b.endSurvey rack).roster
  have hlaunch : ∀ e ∈ .paused b.settings.timings.startPause :: drivers,
      e.stage = .driver ∨ e.stage = .aside :=
    List.forall_mem_cons.mpr ⟨Or.inr rfl, fun e he ↦ Or.inl (hstage e he)⟩
  refine ⟨start :: .paused b.settings.timings.startPause :: drivers, ?_, ?_, fun part hpart ↦ ?_⟩
  · refine htrace.trans ?_
    rw [Bus.pause, Bus.trace_record, hsent]
    simp only [List.append_assoc, List.cons_append, List.nil_append]
  · refine List.forall_mem_cons.mpr ⟨by simp [hstart], fun e he ↦ ?_⟩
    rcases hlaunch e he with h | h <;> simp [h]
  · refine ⟨fun hnone ↦ absurd hnone (Option.some_ne_none _), fun _ ↦ ?_⟩
    exact ⟨part, start, .paused b.settings.timings.startPause :: drivers, [],
      by rw [List.append_nil], hpart.early hcore, hstart, hlaunch, hdrivers, by simp⟩

/-- A round of polling exchanges data, and the roster asks for the same drivers as before. -/
theorem continues_poll (b : Bridge σ) (now : UInt64) : b.Continues (b.poll rack now) := by
  cases hcore : b.core with
  | none =>
    rw [b.poll_of_core_eq_none rack hcore now]
    exact continues_of_eq rfl rfl rfl
  | some core =>
    obtain ⟨events, htrace, hevents⟩ := Bus.Asks.exists_trace_eq (b.works_poll rack now)
    have hlate : ∀ e ∈ events, e.IsLate := fun e he ↦ by
      rcases Event.stage_of_works (hevents e he) with haside | ⟨task, htask, howns⟩
      · exact Or.inr haside
      · left
        obtain rfl := List.mem_singleton.mp htask
        cases hstage : e.stage <;> rw [hstage] at howns <;> simp [Stage.tasks] at howns ⊢
    have hdrivers : (b.poll rack now).roster.drivers = b.roster.drivers := by
      rw [b.poll_eq rack hcore now]
      exact Roster.drivers_congr (b.polled.map_clearErrors_cycle rack b.settings.rightBase core now)
    have hafter : (b.poll rack now).core = some core := (b.core_poll rack now).trans hcore
    refine ⟨events, htrace, fun e he ↦ (hlate e he).ne (by simp) (by simp), fun part hpart ↦ ?_⟩
    refine ⟨fun hnone ↦ absurd (hafter.symm.trans hnone) (Option.some_ne_none _), fun _ ↦ ?_⟩
    rw [hdrivers]
    exact (hpart.launched (by simp [hcore])).append hlate

/-! ## Operations -/

theorem Coherent.continues_work (h : b.Coherent) (hworking : b.control.state ≠ .stopped)
    (now : UInt64) : b.Continues (b.work rack now) := by
  rcases h.work_eq rack now hworking with ⟨hcore, hwork⟩ | ⟨hcore, hwork⟩ | hwork <;> rw [hwork]
  · exact continues_surveyed rack hcore now
  · exact ((continues_surveyed rack hcore now).trans (continues_endSurvey rack hcore)).trans
      (continues_poll rack _ now)
  · exact continues_poll rack b now

theorem continues_shown (b : Bridge σ) : b.Continues ((b.applyRunning rack).publish rack) := by
  obtain ⟨status, bus, image, shownLamps, hshown, -⟩ := b.shown_eq rack
  refine continues_of_works rack (b.works_shown rack) (by simp) ?_ ?_ <;> rw [hshown]

/-- A cycle without a reset. -/
theorem Coherent.continues_runCycle (h : b.Coherent) (hreset : b.control.resetRequested = false)
    (now : UInt64) : b.Continues (b.runCycle rack now) := by
  rw [b.runCycle_eq rack hreset]
  refine Continues.trans ?_ (continues_shown rack _)
  split
  · obtain ⟨bus, hmaintenance⟩ := b.performMaintenance_eq rack
    refine continues_of_works rack (b.works_performMaintenance rack) (by simp) ?_ ?_ <;>
      rw [hmaintenance]
  · rename_i hworking
    exact h.continues_work rack hworking now

/-- Does an operation make the bridge start all over? -/
def startsOver (b : Bridge σ) : Operation → Bool
  | .cycle _ => b.control.resetRequested
  | .reset => true
  | _ => false

/-- **An operation that does not start all over** keeps the order. -/
theorem Coherent.continues_perform (h : b.Coherent) {o : Operation}
    (ho : b.startsOver o = false) : b.Continues (b.perform rack o) := by
  cases o with
  | cycle now => exact h.continues_runCycle rack ho now
  | reset => exact absurd ho.symm Bool.false_ne_true
  | _ => exact continues_of_eq rfl rfl rfl

/-- **Starting all over** loads the configuration, and nothing was started since. -/
theorem trace_restart (b : Bridge σ) :
    ∃ asides loading, (b.restart rack).2.bus.trace = b.bus.trace ++ asides ++ [loading] ∧
      (∀ e ∈ asides, e.stage = .aside) ∧ loading.stage = .loading ∧
      (b.restart rack).2.Recounts [] := by
  have hload : Bus.Step rack (b.alarmed rack) _ (b.loading rack).2 := .load
  obtain ⟨asides, halarmed, hasides⟩ :
      ∃ asides, (b.alarmed rack).trace = b.bus.trace ++ asides ∧
        ∀ e ∈ asides, e.stage = .aside := by
    rw [alarmed]
    split
    · exact ⟨[.indicated .fault true], rfl, by simp [Event.stage]⟩
    · exact ⟨[], (List.append_nil _).symm, by simp⟩
  obtain ⟨hbus, hcore⟩ : (b.restart rack).2.bus = (b.loading rack).2 ∧
      (b.restart rack).2.core = none := by
    rw [restart_eq]
    split <;> rename_i hloading <;> rw [hloading] <;> exact ⟨rfl, rfl⟩
  refine ⟨asides, .loaded (b.loading rack).1, ?_, hasides, rfl, ?_⟩
  · rw [hbus, hload.trace_eq, halarmed]
    rfl
  · exact ⟨fun _ ↦ by simp, fun hsome ↦ absurd hcore hsome⟩

/-- An operation that starts all over does so first, and then goes on. -/
theorem trace_perform_of_startsOver {o : Operation} (ho : b.startsOver o = true) :
    ∃ asides loading part, (b.perform rack o).bus.trace = b.bus.trace ++ asides ++ loading :: part ∧
      (∀ e ∈ asides, e.stage = .aside) ∧ loading.stage = .loading ∧
      (∀ e ∈ part, e.stage ≠ .loading) ∧ (b.perform rack o).Recounts part := by
  cases o with
  | cycle now =>
    have hreset : b.resetIfRequested rack =
        ({ b with control := { b.control with resetRequested := false } }.restart rack).2 :=
      if_pos ho
    have hdone := b.resetRequested_resetIfRequested rack
    rw [perform, ← b.runCycle_resetIfRequested]
    rw [hreset] at hdone ⊢
    obtain ⟨asides, loading, htrace, hasides, hloading, hrecounts⟩ :=
      trace_restart rack { b with control := { b.control with resetRequested := false } }
    have hcoherent := coherent_restart rack
      { b with control := { b.control with resetRequested := false } }
    obtain ⟨part, hpart, hquiet, hkeeps⟩ := hcoherent.continues_runCycle rack hdone now
    refine ⟨asides, loading, part, ?_, hasides, hloading, hquiet, hkeeps [] hrecounts⟩
    rw [hpart, htrace, List.append_assoc, List.singleton_append]
  | reset =>
    obtain ⟨asides, loading, htrace, hasides, hloading, hrecounts⟩ := trace_restart rack b
    rw [perform, reset_eq]
    exact ⟨asides, loading, [], htrace, hasides, hloading, by simp, hrecounts⟩
  | _ => exact absurd ho Bool.false_ne_true

end Bridge

/-! ## Chapters -/

/-- The parts of a trace that begin behind a loading of the configuration. -/
def Bus.chapters {σ : Type u} (bus : Bus σ) : List (List Event) :=
  (bus.trace.splitOnP fun e ↦ e.stage = .loading).tail

/-- The last part begins behind the last loading. -/
theorem splitOnP_of_last_loading {past part : List Event} {loading : Event}
    (hloading : loading.stage = .loading) (hpart : ∀ e ∈ part, e.stage ≠ .loading) :
    (past ++ loading :: part).splitOnP (fun e ↦ e.stage = .loading) =
      past.splitOnP (fun e ↦ e.stage = .loading) ++ [part] := by
  have hwhole : part.splitOnP (fun e ↦ e.stage = .loading) = [part] :=
    List.splitOnP_eq_singleton fun e he ↦ by simpa using hpart e he
  rw [List.splitOnP_append_cons _ _ (by simpa using hloading), hwhole]

namespace Bridge

variable {σ : Type u} (rack : Rack σ)

/-- The rosters at the ends of the parts of a history: whenever the bridge starts all over, and at
last. -/
def rosters (b : Bridge σ) : List Operation → List Roster
  | [] => [b.roster]
  | o :: rest =>
    if b.startsOver o then b.roster :: rosters (b.perform rack o) rest
    else rosters (b.perform rack o) rest

/-- What goes on behind the last loading is in order until the bridge starts all over, and so is
everything behind it. -/
theorem bringsUp_run_of_recounts {b : Bridge σ} (h : b.Coherent) {past part : List Event}
    {loading : Event} (htrace : b.bus.trace = past ++ loading :: part)
    (hloading : loading.stage = .loading) (hpart : ∀ e ∈ part, e.stage ≠ .loading)
    (hrecounts : b.Recounts part) (operations : List Operation) :
    ∃ parts, (b.run rack operations).bus.trace.splitOnP (fun e ↦ e.stage = .loading) =
        past.splitOnP (fun e ↦ e.stage = .loading) ++ parts ∧
      List.Forall₂ Roster.BringsUp (b.rosters rack operations) parts := by
  induction operations generalizing b past part loading with
  | nil =>
    refine ⟨[part], ?_, .cons hrecounts.bringsUp .nil⟩
    rw [run_nil, htrace, splitOnP_of_last_loading hloading hpart]
  | cons o rest ih =>
    rw [run_cons, rosters]
    by_cases ho : b.startsOver o = true
    · obtain ⟨asides, reloading, next, htrace', hasides, hreloading, hnext, hrecounts'⟩ :=
        trace_perform_of_startsOver rack ho
      obtain ⟨parts, hparts, hall⟩ := ih (h.perform rack o) htrace' hreloading hnext hrecounts'
      -- The fault lamp, which is lit before the loading, still belongs to the part that ends here.
      have hended : ∀ e ∈ part ++ asides, e.stage ≠ .loading :=
        List.forall_mem_append.mpr ⟨hpart, fun e he ↦ by simp [hasides e he]⟩
      refine ⟨(part ++ asides) :: parts, ?_, ?_⟩
      · rw [hparts, htrace, List.append_assoc, List.cons_append,
          splitOnP_of_last_loading hloading hended, List.append_assoc, List.singleton_append]
      · rw [if_pos ho]
        exact .cons (hrecounts.append_asides hasides rfl rfl).bringsUp hall
    · have ho : b.startsOver o = false := by simpa using ho
      obtain ⟨events, hevents, hquiet, hkeeps⟩ := h.continues_perform rack ho
      rw [if_neg (by simp [ho])]
      refine ih (h.perform rack o) ?_ hloading ?_ (hkeeps part hrecounts)
      · rw [hevents, htrace, List.append_assoc, List.cons_append]
      · exact List.forall_mem_append.mpr ⟨hpart, hquiet⟩

/-- **Modules are brought up in order.**  Whatever the rack does and in every history, each part of
the trace between two times of starting all over shows that the roster of that part was brought up
in order. -/
theorem bringsUp_run {state : σ} {settings : Settings} {b : Bridge σ}
    (hb : start rack state settings = .ok b) (operations : List Operation) :
    List.Forall₂ Roster.BringsUp (b.rosters rack operations)
      (b.run rack operations).bus.chapters := by
  have hcoherent := coherent_start rack hb
  obtain ⟨declared, -, rfl⟩ := eq_of_start hb
  obtain ⟨parts, hparts, hall⟩ := bringsUp_run_of_recounts rack hcoherent
    (show _ = [] ++ .loaded (rack.load state).1 :: [.indicated .fault true] from rfl) rfl
    (by simp [Event.stage])
    ⟨fun _ ↦ by simp [Event.IsEarly, Event.stage], fun hsome ↦ absurd rfl hsome⟩ operations
  rw [Bus.chapters, hparts]
  exact hall

/-- Three modules are polled, a reset comes, and one module is polled. -/
def relaunchHistory : List Operation :=
  busyHistory ++ (List.range 20).map fun i ↦ .cycle (1000000 + 50000 * UInt64.ofNat i)

theorem bringsUp_run_relaunchHistory :
    ∃ b, start Chains.rack threeModules roomForThree = .ok b ∧
      List.Forall₂ Roster.BringsUp (b.rosters Chains.rack relaunchHistory)
        (b.run Chains.rack relaunchHistory).bus.chapters ∧
      (b.rosters Chains.rack relaunchHistory).map Roster.drivers =
        [[(⟨96⟩, 1), (⟨97⟩, 2)], [(⟨98⟩, 1)]] ∧
      (b.run Chains.rack relaunchHistory).bus.chapters.map
        (fun part ↦ part.countP fun e ↦ e.stage = .exchanging) = [6, 9] :=
  ⟨_, rfl,
    bringsUp_run Chains.rack (show start Chains.rack threeModules roomForThree = _ from rfl)
      relaunchHistory, by decide +kernel, by decide +kernel⟩

end Bridge

end RackBus
