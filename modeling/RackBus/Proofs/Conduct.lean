import RackBus.Proofs.Cycle

/-!
# What a bridge asks of its rack

The work of a bridge has parts, and each part asks for things of its own: a survey reads and drives
the wires and enrols modules, polling exchanges their data, a lamp is switched to show an outcome.

* `Task` names the parts, and `Event.serves` says which events belong to a part.
* `Bus.Step` is one thing that is asked of a rack, and `Bus.Asks` any number of them, all with a
  given property.  Whatever every such step keeps, the whole keeps (`Bus.Asks.invariant`), and the
  trace grows by the events (`Bus.Asks.exists_trace_eq`).  `Bus.last?` is what the last event says
  that says anything, for instance the level that a lamp was given last.
* `Bus.Works` are steps that all serve one of some tasks.  There is one lemma for each function of a
  bridge, `Bridge.works_work` and its companions: it asks only for what serves its tasks.
  `Site.asks_check` says more of a survey: which module it speaks to.
-/

set_option autoImplicit false

namespace RackBus

universe u

/-! ## The parts of the work -/

/-- A part of the work of a bridge. -/
inductive Task where
  /-- The enable lines are set. -/
  | wiring
  /-- The modules are found and enrolled. -/
  | survey
  /-- The exchange and the drivers are started. -/
  | launch
  /-- The data of the modules is exchanged. -/
  | polling
  /-- A maintenance command is performed. -/
  | upkeep
  /-- The fault lamp shows whether the bridge runs. -/
  | alarm
  /-- The lamps of the application are switched. -/
  | lamps
  /-- The declared configuration is loaded. -/
  | loading
  deriving DecidableEq

/-- The part of the work that sends a request. -/
def Command.task : Command → Task
  | deviceInfo | configure | setAddress => .survey
  | startExchange => .launch
  | firmwareUpdate | forceReset | writeSerial => .upkeep

/-- The part of the work that sends a telegram, if it is a request. -/
def Telegram.task? (t : Telegram) : Option Task :=
  (Command.all.find? fun c ↦ c.code == t.command).map Command.task

theorem Telegram.task?_eq {t : Telegram} {c : Command} (h : t.command = c.code) :
    t.task? = some c.task := by
  rw [task?, h]
  cases c <;> rfl

theorem Maintenance.task_command (action : Maintenance) : action.command.task = .upkeep := by
  cases action <;> rfl

theorem Maintenance.length_payload_le (action : Maintenance) :
    action.payload.length ≤ Telegram.payloadLimit := by
  cases action <;> simp [payload, Telegram.payloadLimit]

/-- Does an event belong to a part of the work? -/
def Event.serves : Event → Task → Bool
  | sent request _, task => request.task? == some task
  | drove _ _, .wiring => true
  | sensed _ _, .survey => true
  | paused _, .survey => true
  | paused _, .launch => true
  | startedDriver _ _ _, .launch => true
  | exchanged _ _ _, .polling => true
  | indicated lamp _, .alarm => lamp == .fault
  | indicated lamp _, .lamps => lamp != .fault
  | loaded _, .loading => true
  | _, _ => false

/-- Does an event belong to the enrolment of a module under an address? -/
def Event.enrols (address : Address) : Event → Bool
  | sent request _ => request.task? == some .survey && request.destination == address
  | paused _ => true
  | _ => false

theorem Event.serves_of_enrols {address : Address} {e : Event} (h : e.enrols address = true) :
    e.serves .survey = true := by
  cases e with
  | sent request answer => exact (Bool.and_eq_true_iff.mp h).1
  | paused ms => rfl
  | _ => exact absurd h (by simp [enrols])

namespace Bus

variable {σ : Type u} {rack : Rack σ} {P Q : Event → Prop}

/-! ## Steps -/

/-- One thing is asked of the rack. -/
inductive Step (rack : Rack σ) (bus : Bus σ) : Event → Bus σ → Prop
  | sense (side : Side) :
    Step rack bus (.sensed side (rack.sense side bus.rack).1) (bus.sense rack side).2
  | drive (side : Side) (line : Line) : Step rack bus (.drove side line) (bus.drive rack side line)
  | send (request : Telegram) :
    Step rack bus (.sent request (rack.transfer request bus.rack).1)
      (bus.advance.transfer rack request).2
  | load : Step rack bus (.loaded (rack.load bus.rack).1) (bus.load rack).2
  | startDriver (type : ModuleType) (index : Nat) :
    Step rack bus (.startedDriver type index (rack.startDriver type index bus.rack).1)
      (bus.startDriver rack type index)
  | exchangeData (index : Nat) (row : Row) (image : Image) :
    Step rack bus (.exchanged index row (rack.exchange index row image bus.rack).1)
      (bus.exchangeData rack index row image).2.2
  | indicate (lamp : Lamp) (level : Bool) :
    Step rack bus (.indicated lamp level) (bus.indicate rack lamp level)
  | pause (ms : UInt32) : Step rack bus (.paused ms) (bus.pause rack ms)

theorem Step.trace_eq {bus after : Bus σ} {e : Event} (h : Step rack bus e after) :
    after.trace = bus.trace ++ [e] := by
  cases h <;> rfl

/-- Any number of things are asked of the rack, all of them with a property. -/
inductive Asks (rack : Rack σ) (P : Event → Prop) : Bus σ → Bus σ → Prop
  | refl (bus : Bus σ) : Asks rack P bus bus
  | head {bus next after : Bus σ} {e : Event} (step : Step rack bus e next) (hp : P e)
    (rest : Asks rack P next after) : Asks rack P bus after

namespace Asks

variable {bus next after : Bus σ}

theorem single {e : Event} (step : Step rack bus e after) (hp : P e) : Asks rack P bus after :=
  .head step hp (.refl after)

theorem trans (first : Asks rack P bus next) (second : Asks rack P next after) :
    Asks rack P bus after := by
  induction first with
  | refl => exact second
  | head step hp _ ih => exact .head step hp (ih second)

theorem mono (h : Asks rack P bus after) (hpq : ∀ e, P e → Q e) : Asks rack Q bus after := by
  induction h with
  | refl bus => exact .refl bus
  | head step hp _ ih => exact .head step (hpq _ hp) ih

/-- **What every step keeps**, any number of steps keeps. -/
theorem invariant {J : Bus σ → Prop} (h : Asks rack P bus after)
    (keeps : ∀ b e b', Step rack b e b' → P e → J b → J b') (hj : J bus) : J after := by
  induction h with
  | refl => exact hj
  | head step hp _ ih => exact ih (keeps _ _ _ step hp hj)

/-- **The trace grows** by events with the property. -/
theorem exists_trace_eq (h : Asks rack P bus after) :
    ∃ events, after.trace = bus.trace ++ events ∧ ∀ e ∈ events, P e := by
  induction h with
  | refl bus => exact ⟨[], (List.append_nil _).symm, by simp⟩
  | @head _ _ _ e step hp _ ih =>
    obtain ⟨events, htrace, hevents⟩ := ih
    refine ⟨e :: events, ?_, ?_⟩
    · rw [htrace, step.trace_eq, List.append_assoc, List.singleton_append]
    · exact List.forall_mem_cons.mpr ⟨hp, hevents⟩

end Asks

/-! ## The last word -/

/-- What the last event says that says anything. -/
def last? {α : Type} (bus : Bus σ) (says? : Event → Option α) : Option α :=
  bus.trace.reverse.findSome? says?

section

variable {α : Type} {says? : Event → Option α} {bus after : Bus σ} {e : Event}

theorem last?_eq (h : after.trace = bus.trace ++ [e]) :
    after.last? says? = (says? e).or (bus.last? says?) := by
  rw [last?, last?, h, List.reverse_append, List.reverse_singleton, List.singleton_append,
    List.findSome?_cons]
  cases says? e <;> rfl

/-- Events that do not say anything leave the last word alone. -/
theorem Asks.last?_eq (h : Asks rack P bus after) (hp : ∀ e, P e → says? e = none) :
    after.last? says? = bus.last? says? := by
  refine h.invariant (J := fun b ↦ b.last? says? = bus.last? says?) ?_ rfl
  intro b e b' step he hb
  rw [Bus.last?_eq step.trace_eq, hp e he, Option.none_or, hb]

end

/-! ## Work -/

/-- Only things that serve one of the tasks are asked of the rack. -/
abbrev Works (rack : Rack σ) (tasks : List Task) : Bus σ → Bus σ → Prop :=
  Asks rack fun e ↦ tasks.any e.serves = true

theorem Works.subset {tasks more : List Task} {bus after : Bus σ} (h : Works rack tasks bus after)
    (hsub : tasks ⊆ more) : Works rack more bus after := by
  refine h.mono ?_
  intro e he
  obtain ⟨task, htask, hserves⟩ := List.any_eq_true.mp he
  exact List.any_eq_true.mpr ⟨task, hsub htask, hserves⟩

/-! ## Requests and enrolments -/

/-- A request is sent, unless it is too long. -/
theorem exchange_eq_transfer (bus : Bus σ) (rack : Rack σ) (address : Address) (command : Command)
    {payload : List UInt8} (hp : payload.length ≤ Telegram.payloadLimit) :
    (bus.exchange rack address command payload).2 =
      (bus.advance.transfer rack ⟨address, .core, command.code, bus.sequence, payload⟩).2 := by
  rw [exchange, Telegram.request, if_neg (Nat.not_lt.mpr hp)]

theorem works_exchange (bus : Bus σ) (rack : Rack σ) (address : Address) (command : Command)
    {payload : List UInt8} (hp : payload.length ≤ Telegram.payloadLimit) :
    Works rack [command.task] bus (bus.exchange rack address command payload).2 := by
  rw [bus.exchange_eq_transfer rack address command hp]
  refine .single (.send _) ?_
  rw [List.any_cons, Event.serves, Telegram.task?_eq rfl, beq_self_eq_true, Bool.true_or]

/-- So is a request to all modules. -/
theorem broadcast_eq_transfer (bus : Bus σ) (rack : Rack σ) (command : Command)
    {payload : List UInt8} (hp : payload.length ≤ Telegram.payloadLimit) :
    (bus.broadcast rack command payload).2 =
      (bus.advance.transfer rack ⟨.broadcast, .core, command.code, bus.sequence, payload⟩).2 := by
  rw [broadcast, Telegram.request, if_neg (Nat.not_lt.mpr hp)]
  dsimp only
  split <;> rename_i h <;> rw [h]

theorem works_broadcast (bus : Bus σ) (rack : Rack σ) (command : Command) :
    Works rack [command.task] bus (bus.broadcast rack command []).2 := by
  have hsent : (bus.broadcast rack command []).2 =
      (bus.exchange rack .broadcast command []).2 :=
    (bus.broadcast_eq_transfer rack command (Nat.zero_le _)).trans
      (bus.exchange_eq_transfer rack .broadcast command (Nat.zero_le _)).symm
  rw [hsent]
  exact bus.works_exchange rack .broadcast command (Nat.zero_le _)

/-- Behind its first request, an enrolment sends two more to the same address, with pauses between
them. -/
theorem asks_enrol_rest (bus : Bus σ) (rack : Rack σ) (address : Address) (side : Side)
    (pause : UInt32) {P : Event → Prop}
    (hsent : ∀ request answer, request.destination = address →
      request.command = Command.configure.code ∨ request.command = Command.setAddress.code →
        P (.sent request answer)) (hpaused : P (.paused pause)) :
    Asks rack P (bus.exchange rack address .deviceInfo []).2
      (bus.enrol rack address side pause).2 := by
  have hask (bus : Bus σ) (command : Command) (payload : List UInt8)
      (hp : payload.length ≤ Telegram.payloadLimit)
      (hcommand : command = .configure ∨ command = .setAddress)
      {result : Except Failure (List UInt8)} {after : Bus σ}
      (h : bus.exchange rack address command payload = (result, after)) :
      Asks rack P bus after := by
    obtain rfl : (bus.exchange rack address command payload).2 = after := congrArg Prod.snd h
    rw [bus.exchange_eq_transfer rack address command hp]
    refine .single (.send _) (hsent _ _ rfl ?_)
    exact hcommand.imp (congrArg Command.code) (congrArg Command.code)
  have hpause (bus : Bus σ) : Asks rack P bus (bus.pause rack pause) := .single (.pause pause) hpaused
  rw [enrol]
  split
  · rename_i hinfo
    rw [hinfo]
    exact .refl _
  · rename_i info told hinfo
    rw [hinfo]
    split
    · exact .refl _
    · split
      · rename_i hconfigure
        exact (hpause told).trans (hask _ _ [] (Nat.zero_le _) (Or.inl rfl) hconfigure)
      · rename_i configured hconfigure
        have hconfigured := (hpause told).trans (hask _ _ [] (Nat.zero_le _) (Or.inl rfl) hconfigure)
        have hready := hconfigured.trans (hpause configured)
        have hlength : [address.value, side.code].length ≤ Telegram.payloadLimit :=
          show 2 ≤ 256 by decide
        split
        · rename_i haddress
          exact hready.trans (hask _ _ _ hlength (Or.inr rfl) haddress)
        · rename_i haddress
          exact hready.trans (hask _ _ _ hlength (Or.inr rfl) haddress)

/-- An enrolment sends requests to one address, with pauses between them. -/
theorem asks_enrol (bus : Bus σ) (rack : Rack σ) (address : Address) (side : Side)
    (pause : UInt32) :
    Asks rack (fun e ↦ e.enrols address = true) bus (bus.enrol rack address side pause).2 := by
  have henrols (request : Telegram) (answer : Except Failure (Option Telegram))
      (hdestination : request.destination = address) (htask : request.task? = some .survey) :
      Event.enrols address (.sent request answer) = true := by
    rw [Event.enrols, htask, hdestination, beq_self_eq_true, beq_self_eq_true, Bool.and_true]
  have hinfo : Asks rack (fun e ↦ e.enrols address = true) bus
      (bus.exchange rack address .deviceInfo []).2 := by
    rw [bus.exchange_eq_transfer rack address .deviceInfo (Nat.zero_le _)]
    exact .single (.send _) (henrols _ _ rfl (Telegram.task?_eq (c := .deviceInfo) rfl))
  refine hinfo.trans (bus.asks_enrol_rest rack address side pause ?_ rfl)
  rintro request answer hdestination (hcommand | hcommand) <;>
    exact henrols _ _ hdestination (Telegram.task?_eq hcommand)

end Bus

/-! ## Surveys -/

namespace Site

variable {σ : Type u} (site : Site σ) (rack : Rack σ)

/-- The actions of a phase only set lines. -/
theorem works_enterIfNew (timings : Timings) (now : UInt64) :
    Bus.Works rack [.wiring] site.bus (site.enterIfNew rack timings now).bus := by
  have hdrive (bus : Bus σ) (side : Side) (line : Line) :
      Bus.Works rack [.wiring] bus (bus.drive rack side line) :=
    .single (.drive side line) rfl
  have hboth (bus : Bus σ) (line : Line) : Bus.Works rack [.wiring] bus (bus.driveBoth rack line) :=
    (hdrive bus .right line).trans (hdrive _ .left line)
  rw [enterIfNew]
  split
  · rw [enter]
    split
    iterate 3 exact hboth _ _
    · exact hdrive _ _ _
    · exact .refl _
    iterate 2 exact hdrive _ _ _
    iterate 2 exact .refl _
  · exact .refl _

/-- What is asked when it is decided whether a phase is over: the sense line of a side is read, or a
module is enrolled under the next address of the side that is spoken to. -/
def Inquires (site : Site σ) (e : Event) : Prop :=
  (∃ side level, e = .sensed side level) ∨
    ∃ side address, site.survey.phase = .dialogue side ∧
      site.survey.next? side = some address ∧ e.enrols address = true

theorem Inquires.serves {e : Event} (h : site.Inquires e) : e.serves .survey = true := by
  rcases h with ⟨side, level, rfl⟩ | ⟨side, address, -, -, h⟩
  · rfl
  · exact Event.serves_of_enrols h

theorem asks_listen (side : Side) (present : Phase) :
    Bus.Asks rack site.Inquires site.bus (site.listen rack side present).2.bus :=
  .single (.sense side) (Or.inl ⟨_, _, rfl⟩)

/-- A conversation asks for nothing but the enrolment under the next address of its side. -/
theorem asks_converse (settings : Settings) (side : Side) :
    Bus.Asks rack
      (fun e ↦ ∃ address, site.survey.next? side = some address ∧ e.enrols address = true)
      site.bus (site.converse rack settings side).2.bus := by
  rw [converse]
  split
  · exact .refl _
  · rename_i address hfree
    have henrol := site.bus.asks_enrol rack address side settings.timings.enrolmentPause
    replace henrol := henrol.mono fun e he ↦
      (⟨address, hfree, he⟩ : ∃ a, site.survey.next? side = some a ∧ e.enrols a = true)
    split
    · exact .refl _
    · split
      · rename_i h
        rw [h] at henrol
        split <;> exact henrol
      · rename_i h
        rw [h] at henrol
        exact henrol

theorem asks_check (settings : Settings) (now : UInt64) :
    Bus.Asks rack site.Inquires site.bus (site.check rack settings now).2.bus := by
  rw [check]
  split
  iterate 3 exact .refl _
  · exact site.asks_listen rack _ _
  · exact .refl _
  · rename_i side hphase
    refine (site.asks_converse rack settings side).mono fun e he ↦ ?_
    obtain ⟨address, hfree, henrols⟩ := he
    exact Or.inr ⟨side, address, hphase, hfree, henrols⟩
  · exact site.asks_listen rack _ _
  · exact .refl _

/-- What decides whether a phase is over sets no line. -/
theorem works_check (settings : Settings) (now : UInt64) :
    Bus.Works rack [.survey] site.bus (site.check rack settings now).2.bus := by
  refine (site.asks_check rack settings now).mono fun e he ↦ ?_
  exact List.any_eq_true.mpr ⟨.survey, List.mem_singleton_self _, he.serves⟩

theorem bus_goTo (phase : Option Phase) : (site.goTo phase).bus = site.bus := by
  cases phase <;> rfl

/-- **A step of a survey.** -/
theorem works_step (settings : Settings) (now : UInt64) :
    Bus.Works rack [.wiring, .survey] site.bus (site.step rack settings now).2.bus := by
  have henter := site.works_enterIfNew rack settings.timings now
  have hcheck := (site.enterIfNew rack settings.timings now).works_check rack settings now
  rw [step, bus_goTo]
  exact (henter.subset (by simp)).trans (hcheck.subset (by simp))

end Site

/-! ## Polling -/

section Polling

variable {σ : Type u} (rack : Rack σ)

theorem Sweep.works_visit (s : Sweep σ) (base : Address) (index : Nat) (row : Row) :
    Bus.Works rack [.polling] s.bus (s.visit rack base index row).2.bus := by
  have hexchange : Bus.Works rack [.polling] s.bus
      (s.bus.exchangeData rack index row s.image).2.2 :=
    .single (.exchangeData index row s.image) rfl
  rw [visit]
  split
  · exact .refl _
  · split
    · rw [noteGateway]
      split <;> exact .refl _
    · split
      · rename_i h
        rw [h] at hexchange
        exact hexchange
      · rename_i h
        rw [h] at hexchange
        exact hexchange

theorem Sweep.works_visitAll (s : Sweep σ) (base : Address) (index : Nat) (rows : List Row) :
    Bus.Works rack [.polling] s.bus (s.visitAll rack base index rows).2.bus := by
  induction rows generalizing s index with
  | nil => exact .refl _
  | cons row rest ih => exact (s.works_visit rack base index row).trans (ih _ _)

end Polling

/-! ## Bridges -/

namespace Bridge

variable {σ : Type u} (b : Bridge σ) (rack : Rack σ)

theorem works_applyRunning : Bus.Works rack [.alarm] b.bus (b.applyRunning rack).bus := by
  rw [applyRunning]
  split
  · exact .refl _
  · exact .single (.indicate .fault _) rfl

theorem works_publish : Bus.Works rack [.lamps] b.bus (b.publish rack).bus := by
  have hlamps (bus : Bus σ) (byte : UInt8) (lamps : List (Lamp × Nat))
      (h : ∀ e ∈ lamps, e.1 ≠ .fault) :
      Bus.Works rack [.lamps] bus
        (lamps.foldl (fun bus e ↦ bus.indicate rack e.1 (bit byte e.2)) bus) := by
    induction lamps generalizing bus with
    | nil => exact .refl _
    | cons e rest ih =>
      obtain ⟨hfirst, hrest⟩ := List.forall_mem_cons.mp h
      refine .head (.indicate e.1 (bit byte e.2)) ?_ (ih _ hrest)
      simpa [Event.serves] using hfirst
  rw [publish]
  split
  · exact .refl _
  · dsimp only
    split
    · exact .refl _
    · split
      · exact .refl _
      · exact hlamps _ _ _ (by decide)

theorem works_loading : Bus.Works rack [.alarm, .loading] b.bus (b.loading rack).2 := by
  have halarm : Bus.Works rack [.alarm, .loading] b.bus (b.alarmed rack) := by
    rw [alarmed]
    split
    · exact .single (.indicate .fault true) rfl
    · exact .refl _
  exact halarm.trans (.single .load rfl)

theorem works_restart : Bus.Works rack [.alarm, .loading] b.bus (b.restart rack).2.bus := by
  have hloading := b.works_loading rack
  rw [restart_eq]
  split <;> rename_i h <;> rw [h] at hloading <;> exact hloading

theorem works_resetIfRequested :
    Bus.Works rack [.alarm, .loading] b.bus (b.resetIfRequested rack).bus := by
  rw [resetIfRequested]
  split
  · exact works_restart { b with control := { b.control with resetRequested := false } } rack
  · exact .refl _

theorem works_performMaintenance :
    Bus.Works rack [.upkeep] b.bus (b.performMaintenance rack).bus := by
  rw [performMaintenance]
  split
  · exact .refl _
  · rename_i action _
    rw [← action.task_command]
    exact b.bus.works_exchange rack action.address action.command action.length_payload_le

theorem works_startDrivers (bus : Bus σ) (roster : Roster) :
    Bus.Works rack [.launch] bus (startDrivers bus rack roster) := by
  rw [startDrivers]
  generalize roster.active.filter (fun e ↦ e.1.identity.type.isInputOutput) = rows
  induction rows generalizing bus with
  | nil => exact .refl _
  | cons e rest ih => exact .head (.startDriver e.1.identity.type e.2) rfl (ih _)

theorem works_endSurvey : Bus.Works rack [.launch] b.bus (b.endSurvey rack).bus :=
  ((b.bus.works_broadcast rack .startExchange).trans
    (.single (.pause b.settings.timings.startPause) rfl)).trans (works_startDrivers rack _ _)

theorem works_poll (now : UInt64) : Bus.Works rack [.polling] b.bus (b.poll rack now).bus := by
  rw [poll]
  split
  · exact .refl _
  · exact Sweep.works_visitAll rack
      { bus := b.bus, image := b.image, gateways := b.poller.gateways, status := b.control.status,
        polled := 0, failed := false } b.settings.rightBase 1 b.roster.modules

theorem works_surveyed (now : UInt64) :
    Bus.Works rack [.wiring, .survey] b.bus (b.surveyed rack now).bus :=
  b.site.works_step rack b.settings now

/-- The outcome of a cycle is shown by lamps only. -/
theorem works_shown :
    Bus.Works rack [.alarm, .lamps] b.bus ((b.applyRunning rack).publish rack).bus :=
  ((b.works_applyRunning rack).subset (by simp)).trans
    (((b.applyRunning rack).works_publish rack).subset (by simp))

/-- After the step of the survey, a cycle of work starts what follows a survey, and polls. -/
theorem works_afterSurvey (now : UInt64) :
    Bus.Works rack [.launch, .polling] (b.surveyed rack now).bus (b.work rack now).bus := by
  refine b.work_keeps rack
    (P := fun c ↦ Bus.Works rack [.launch, .polling] (b.surveyed rack now).bus c.bus) ?_ ?_ ?_
  · exact .refl _
  · exact fun _ ↦ (works_endSurvey _ rack).subset (by simp)
  · exact fun c hc ↦ hc.trans ((c.works_poll rack now).subset (by simp))

/-- **A cycle of work.** -/
theorem works_work (now : UInt64) :
    Bus.Works rack [.wiring, .survey, .launch, .polling] b.bus (b.work rack now).bus :=
  ((b.works_surveyed rack now).subset (by simp)).trans
    ((b.works_afterSurvey rack now).subset (by simp))

end Bridge

end RackBus
