import RackBus.Proofs.Exploration
import RackBus.Proofs.Upkeep
import RackBus.Proofs.Wiring

/-!
# Who performs a request

A request is meant for the module that holds its address, and a request to all modules for those
that have an address.  If nobody holds the address, the nearest module without one performs the
request, on a side whose enable line is high.  During a survey that is how modules get their
addresses; a maintenance command should not be performed so.

* `Chains.audience` are the modules that a request reaches, `Chains.deeds` what they do about it,
  and `Recorded.rack` the simulated rack with a record of all that modules have performed.
* `Bridge.addressed_run`: if no line is high whenever a survey is stopped, maintenance is performed
  only where somebody has asked for it: by the module that the command names, and by all that have
  an address if it names all of them.
* `Bridge.strayed_run`: a survey that is stopped while an enable line is high leaves the line so,
  and a maintenance command for an address nobody holds is then performed by a module without an
  address.
-/

set_option autoImplicit false

namespace RackBus

/-! ## Deeds -/

namespace SimulatedModule

/-- Does a module perform the next request, whatever it answers? -/
def performs (m : SimulatedModule) : Bool :=
  match m.misbehaviours.headD .ok with
  | .silent | .absent | .refuse => false
  | _ => true

/-- Is a module meant by an address: by its own, or by the one for all modules if it has any? -/
def IsMeant (m : SimulatedModule) (address : Address) : Prop :=
  m.address = some address ∨ address = .broadcast ∧ m.address ≠ none

end SimulatedModule

/-- A request that was performed. -/
structure Deed where
  /-- The module that performed it, as it was before. -/
  module : SimulatedModule
  request : Telegram
  deriving DecidableEq

/-- Maintenance is done by a module that is meant. -/
def Deed.IsProper (d : Deed) : Prop :=
  d.request.task? = some .upkeep → d.module.IsMeant d.request.destination

/-- A module has performed a maintenance command that it was to perform. -/
structure Deed.Fulfils (d : Deed) (action : Maintenance) : Prop where
  /-- This is what it was asked for. -/
  errand : d.request.errand = action.errand
  /-- If the command names a single module, it has this address. -/
  single : action.address ≠ .broadcast → d.module.address = some action.address
  /-- If it names all of them, the module has some address. -/
  all : action.address = .broadcast → d.module.address ≠ none

/-- The modules that a request reaches. -/
def Chains.audience (c : Chains) (request : Telegram) : List SimulatedModule :=
  if request.destination.isBroadcast then
    if c.heedsAll && !c.failBroadcast then (c.right ++ c.left).filter fun m ↦ m.address.isSome
    else []
  else
    match c.responder? request.destination with
    | none => []
    | some (side, i) => (c.chain side)[i]?.toList

/-- What is done because of a request. -/
def Chains.deeds (c : Chains) (request : Telegram) : List Deed :=
  ((c.audience request).filter SimulatedModule.performs).map (⟨·, request⟩)

/-- The simulated rack with a record of what its modules have done. -/
structure Recorded where
  chains : Chains
  /-- Oldest first. -/
  deeds : List Deed

/-- The simulated rack, which records what its modules do, as a rack. -/
def Recorded.rack : Rack Recorded where
  sense side r := ((r.chains.sense side).1, { r with chains := (r.chains.sense side).2 })
  drive side line r := { r with chains := r.chains.drive side line }
  transfer request r :=
    ((r.chains.transfer request).1,
      ⟨(r.chains.transfer request).2, r.deeds ++ r.chains.deeds request⟩)
  load r := (r.chains.load.1, { r with chains := r.chains.load.2 })
  startDriver type index r :=
    ((r.chains.startDriver type index).1, { r with chains := (r.chains.startDriver type index).2 })
  exchange index row image r :=
    ((r.chains.exchange index row image).1, (r.chains.exchange index row image).2.1,
      { r with chains := (r.chains.exchange index row image).2.2 })
  indicate lamp level r := { r with chains := Chains.rack.indicate lamp level r.chains }
  pause ms r := { r with chains := Chains.rack.pause ms r.chains }

/-! ## What the simulated rack does -/

namespace Chains

/-- Two racks with the same lines that load the same. -/
structure Alike (c c' : Chains) : Prop where
  load : c'.load.1 = c.load.1
  line : ∀ side, c'.line side = c.line side

theorem fst_load_congr {c c' : Chains} (hfail : c'.failLoad = c.failLoad)
    (hdocument : c'.document = c.document) (hdeclared : c'.declared = c.declared) :
    c'.load.1 = c.load.1 := by
  rw [load, load, hfail, hdocument, hdeclared]
  split
  · rfl
  · split <;> rfl

variable (c : Chains)

theorem alike_refl : c.Alike c := ⟨rfl, fun _ ↦ rfl⟩

theorem alike_sense (side : Side) : c.Alike (c.sense side).2 := by
  cases side with
  | right =>
    rw [sense]
    split <;> exact ⟨fst_load_congr rfl rfl rfl, fun s ↦ by cases s <;> rfl⟩
  | left =>
    rw [sense]
    split <;> exact ⟨fst_load_congr rfl rfl rfl, fun s ↦ by cases s <;> rfl⟩

theorem alike_announce (request : Telegram) : c.Alike (c.announce request) := by
  rw [announce]
  split
  · exact ⟨fst_load_congr rfl rfl rfl, fun side ↦ by cases side <;> rfl⟩
  · exact c.alike_refl

theorem alike_transfer (request : Telegram) : c.Alike (c.transfer request).2 := by
  have hwith (side : Side) (modules : List SimulatedModule) :
      c.Alike (c.withChain side modules) := by
    refine ⟨?_, c.line_withChain side modules⟩
    cases side <;> exact fst_load_congr rfl rfl rfl
  rw [transfer]
  split
  · split
    · exact c.alike_refl
    · exact c.alike_announce request
  · split
    · exact c.alike_refl
    · split
      · exact c.alike_refl
      · exact hwith _ _

theorem load_drive (side : Side) (line : Line) : (c.drive side line).load.1 = c.load.1 := by
  cases side <;> exact fst_load_congr rfl rfl rfl

theorem line_drive (side other : Side) (line : Line) :
    (c.drive side line).line other = if side = other then line else c.line other := by
  cases side <;> cases other <;> rfl

variable {c}

theorem of_mem_deeds {request : Telegram} {d : Deed} (h : d ∈ c.deeds request) :
    d.request = request ∧ d.module ∈ c.audience request := by
  obtain ⟨m, hm, rfl⟩ := List.mem_map.mp h
  exact ⟨rfl, List.mem_of_mem_filter hm⟩

/-- If no line is high, a request that is not for all modules reaches the one that has its
address. -/
theorem address_of_responder? (hlines : ∀ side, c.line side = .released) {address : Address}
    {side : Side} {i : Nat} (hplace : c.responder? address = some (side, i)) {m : SimulatedModule}
    (hm : (c.chain side)[i]? = some m) : m.address = some address := by
  have henabled : c.enabled? = none := by
    have hright : c.rightLine = .released := hlines .right
    have hleft : c.leftLine = .released := hlines .left
    rw [enabled?, hright, hleft]
    rfl
  have hholder {s : Side} (hplace : c.holder? s address = some (side, i)) :
      m.address = some address := by
    obtain ⟨j, hj, heq⟩ := Option.map_eq_some_iff.mp hplace
    obtain ⟨rfl, rfl⟩ := Prod.mk.inj heq
    obtain ⟨hlt, hfound, -⟩ := List.findIdx?_eq_some_iff_getElem.mp hj
    obtain ⟨-, rfl⟩ := List.getElem?_eq_some_iff.mp hm
    exact beq_iff_eq.mp hfound
  rw [responder?, henabled] at hplace
  split at hplace
  · rename_i place hplaced
    obtain rfl := Option.some.inj hplace
    rcases Option.or_eq_some_iff.mp hplaced with hright | ⟨-, hleft⟩
    · exact hholder hright
    · exact hholder hleft
  · exact absurd hplace (by simp)

/-- **If no line is high, a request reaches only modules that are meant.** -/
theorem isMeant_of_mem_audience (hlines : ∀ side, c.line side = .released) {request : Telegram}
    {m : SimulatedModule} (h : m ∈ c.audience request) : m.IsMeant request.destination := by
  rw [audience] at h
  split at h
  · rename_i hall
    split at h
    · obtain ⟨-, haddress⟩ := List.mem_filter.mp h
      exact Or.inr ⟨beq_iff_eq.mp hall, Option.isSome_iff_ne_none.mp haddress⟩
    · exact absurd h List.not_mem_nil
  · split at h
    · exact absurd h List.not_mem_nil
    · rename_i side i hplace
      exact Or.inl (address_of_responder? hlines hplace (Option.mem_toList.mp h))

end Chains

/-! ## What the record says -/

namespace Recorded

variable {declared : List Declaration} {bus after : Bus Recorded}

/-- The lines of the rack are what was last done to them, and the configuration can be loaded. -/
structure Fits (declared : List Declaration) (bus : Bus Recorded) : Prop where
  load : bus.rack.chains.load.1 = .ok declared
  line : ∀ side, bus.rack.chains.line side = (bus.line? side).getD .released

/-- All maintenance was done by modules that were meant, and all that was done was asked for. -/
structure AllProper (bus : Bus Recorded) : Prop where
  proper : ∀ d ∈ bus.rack.deeds, d.IsProper
  asked : ∀ d ∈ bus.rack.deeds, ∃ answer, .sent d.request answer ∈ bus.trace

theorem Fits.step {e : Event} (step : Bus.Step rack bus e after) (h : Fits declared bus) :
    Fits declared after := by
  have hline (side : Side) : after.line? side = (Event.sets? side e).or (bus.line? side) :=
    Bus.last?_eq step.trace_eq
  have halike {c : Chains} (hc : bus.rack.chains.Alike c) (hquiet : ∀ side, e.sets? side = none)
      (hrack : after.rack.chains = c) : Fits declared after := by
    refine ⟨?_, ?_⟩
    · rw [hrack, hc.load, h.load]
    · intro side
      rw [hrack, hc.line, hline, hquiet, Option.none_or, h.line]
  have hself := bus.rack.chains.alike_refl
  cases step with
  | drive side line =>
    refine ⟨(bus.rack.chains.load_drive side line).trans h.load, ?_⟩
    intro other
    refine (bus.rack.chains.line_drive side other line).trans ?_
    rw [hline, Event.sets?, h.line]
    split <;> rfl
  | sense side => exact halike (bus.rack.chains.alike_sense side) (fun _ ↦ rfl) rfl
  | send request => exact halike (bus.rack.chains.alike_transfer request) (fun _ ↦ rfl) rfl
  | load => exact halike hself (fun _ ↦ rfl) bus.rack.chains.snd_load
  | startDriver type index => exact halike hself (fun _ ↦ rfl) rfl
  | exchangeData index row image =>
    exact halike hself (fun _ ↦ rfl) (bus.rack.chains.snd_exchange index row image)
  | indicate lamp level => exact halike hself (fun _ ↦ rfl) rfl
  | pause ms => exact halike hself (fun _ ↦ rfl) rfl

/-- Maintenance goes astray only if a line is high. -/
theorem AllProper.step {e : Event} (step : Bus.Step rack bus e after) (h : AllProper bus)
    {tasks : List Task} (he : tasks.any e.serves = true)
    (hsafe : .upkeep ∈ tasks → ∀ side, bus.rack.chains.line side = .released) :
    AllProper after := by
  have hasked (d : Deed) (hd : d ∈ bus.rack.deeds) :
      ∃ answer, .sent d.request answer ∈ after.trace := by
    obtain ⟨answer, hsent⟩ := h.asked d hd
    exact ⟨answer, step.trace_eq ▸ List.mem_append_left _ hsent⟩
  cases step with
  | send request =>
    refine ⟨fun d hd ↦ ?_, fun d hd ↦ ?_⟩
    · rcases List.mem_append.mp hd with hd | hd
      · exact h.proper d hd
      · intro htask
        obtain ⟨hrequest, hreached⟩ := Chains.of_mem_deeds hd
        rw [hrequest] at htask ⊢
        obtain ⟨task, hmem, hserves⟩ := List.any_eq_true.mp he
        have hserves : some Task.upkeep = some task := by simpa [Event.serves, htask] using hserves
        obtain rfl := Option.some.inj hserves
        exact Chains.isMeant_of_mem_audience (hsafe hmem) hreached
    · rcases List.mem_append.mp hd with hd | hd
      · exact hasked d hd
      · rw [(Chains.of_mem_deeds hd).1]
        exact ⟨_, List.mem_append_right _ (List.mem_singleton_self _)⟩
  | _ => exact ⟨h.proper, hasked⟩

/-- **Whatever is asked of the rack**, maintenance is done by the modules that are meant, if the
lines stay low during maintenance. -/
theorem works {tasks : List Task} (h : Bus.Works rack tasks bus after) (hfits : Fits declared bus)
    (hproper : AllProper bus)
    (hsafe : .upkeep ∈ tasks → .wiring ∉ tasks ∧ ∀ side, bus.line? side ≠ some .high) :
    Fits declared after ∧ AllProper after := by
  have hkept : Fits declared after ∧ AllProper after ∧
      (.upkeep ∈ tasks → after.line? = bus.line?) := by
    refine h.invariant (J := fun b ↦
      Fits declared b ∧ AllProper b ∧ (.upkeep ∈ tasks → b.line? = bus.line?)) ?_
      ⟨hfits, hproper, fun _ ↦ rfl⟩
    rintro b e b' step he ⟨hfits, hproper, hline⟩
    refine ⟨hfits.step step, hproper.step step he ?_, ?_⟩
    · intro hupkeep side
      have hlow := (hsafe hupkeep).2 side
      rw [hfits.line, hline hupkeep]
      cases hline? : bus.line? side with
      | none => rfl
      | some line =>
        cases line with
        | high => exact absurd hline? hlow
        | released => rfl
    · intro hupkeep
      have hb' : Bus.Works rack tasks b b' := .single step he
      rw [hb'.line?_eq (hsafe hupkeep).1, hline hupkeep]
  exact ⟨hkept.1, hkept.2.1⟩

end Recorded

/-! ## Bridges -/

namespace Bridge

variable {b : Bridge Recorded} {declared : List Declaration}

/-- A bridge on the simulated rack of which all maintenance was done by the modules that were meant,
and will be. -/
structure IsProper (b : Bridge Recorded) (declared : List Declaration) : Prop where
  coherent : b.Coherent
  wired : b.IsWired
  fits : Recorded.Fits declared b.bus
  proper : Recorded.AllProper b.bus
  /-- Where maintenance is performed, no line is high. -/
  low : b.control.state = .stopped → ∀ side, b.bus.line? side ≠ some .high

theorem line?_ne_high {side : Side} (h : b.bus.line? side = some .released) :
    b.bus.line? side ≠ some .high := by
  rw [h]
  exact fun heq ↦ absurd heq (by decide)

theorem IsProper.restart (h : b.IsProper declared) :
    (b.restart Recorded.rack).2.IsProper declared := by
  obtain ⟨hfits, hproper⟩ :=
    Recorded.works (b.works_restart Recorded.rack) h.fits h.proper
      (fun hmem ↦ absurd hmem (by simp))
  refine ⟨coherent_restart _ b, isWired_restart _ b, hfits, hproper, ?_⟩
  -- The configuration can be loaded as it was before, so the bridge does not stay stopped.
  have hload : (b.loading Recorded.rack).1 = .ok declared := by
    have halarmed : (b.alarmed Recorded.rack).rack = b.bus.rack := by
      rw [alarmed]
      split <;> rfl
    rw [← h.fits.load, ← halarmed]
    rfl
  rw [restart_eq]
  split
  · rename_i hloading
    rw [hloading] at hload
    exact absurd hload (by simp)
  · intro hstopped
    exact absurd hstopped (by simp [renewed])

theorem IsProper.performMaintenance (h : b.IsProper declared)
    (hstopped : b.control.state = .stopped) :
    (b.performMaintenance Recorded.rack).IsProper declared := by
  have hworks := b.works_performMaintenance Recorded.rack
  obtain ⟨hfits, hproper⟩ :=
    Recorded.works hworks h.fits h.proper fun _ ↦ ⟨by simp, h.low hstopped⟩
  have hline := hworks.line?_eq (by simp)
  obtain ⟨bus, hmaintenance⟩ := b.performMaintenance_eq Recorded.rack
  rw [hmaintenance] at hfits hproper hline ⊢
  refine ⟨coherent_of_stopped hstopped, fun hworking ↦ absurd hstopped hworking, hfits, hproper, ?_⟩
  intro _ side
  rw [hline]
  exact h.low hstopped side

theorem IsProper.work (h : b.IsProper declared) (hworking : b.control.state ≠ .stopped)
    (now : UInt64) : (b.work Recorded.rack now).IsProper declared := by
  obtain ⟨hfits, hproper⟩ :=
    Recorded.works (b.works_work Recorded.rack now) h.fits h.proper
      (fun hmem ↦ absurd hmem (by simp))
  have hwired := wired_work Recorded.rack (h.wired hworking) now
  refine ⟨h.coherent.work _ hworking now, fun _ ↦ hwired, hfits, hproper, ?_⟩
  intro hstopped side
  have hended := h.coherent.established_work Recorded.rack hworking hstopped
  exact line?_ne_high (hended.line?_eq hwired side)

theorem IsProper.shown (h : b.IsProper declared) :
    ((b.applyRunning Recorded.rack).publish Recorded.rack).IsProper declared := by
  have hworks := b.works_shown Recorded.rack
  obtain ⟨hfits, hproper⟩ :=
    Recorded.works hworks h.fits h.proper (fun hmem ↦ absurd hmem (by simp))
  refine ⟨h.coherent.shown _, h.wired.shown _, hfits, hproper, ?_⟩
  rw [state_shown, hworks.line?_eq (by simp)]
  exact h.low

/-- Does an operation leave a survey alone while a line is high?  Only a stop may fail to. -/
def isTimely (b : Bridge Recorded) : Operation → Bool
  | .stop => b.control.state != .initializing ||
      (b.bus.line? .right != some .high && b.bus.line? .left != some .high)
  | _ => true

/-- No survey is stopped while a line is high. -/
def allTimely (b : Bridge Recorded) : List Operation → Bool
  | [] => true
  | o :: rest => b.isTimely o && (b.perform Recorded.rack o).allTimely rest

theorem IsProper.stop (h : b.IsProper declared) (htimely : b.isTimely .stop = true) :
    (b.perform Recorded.rack .stop).IsProper declared := by
  refine ⟨coherent_of_stopped rfl, fun hworking ↦ absurd rfl hworking, h.fits, h.proper, ?_⟩
  intro _ side
  cases hstate : b.control.state with
  | stopped => exact h.low hstate side
  | running =>
    exact line?_ne_high ((h.coherent.running hstate).line?_eq (h.wired (by simp [hstate])) side)
  | initializing =>
    have hlow : b.bus.line? .right ≠ some .high ∧ b.bus.line? .left ≠ some .high := by
      simpa [isTimely, hstate] using htimely
    cases side with
    | right => exact hlow.1
    | left => exact hlow.2

theorem IsProper.perform (h : b.IsProper declared) {o : Operation} (ho : b.isTimely o = true) :
    (b.perform Recorded.rack o).IsProper declared := by
  have hcoherent := h.coherent.perform Recorded.rack o
  have hwired := h.wired.perform Recorded.rack o
  cases o with
  | cycle now =>
    refine b.runCycle_keeps Recorded.rack (P := fun c ↦ c.IsProper declared) ?_ ?_ ?_ ?_ h
    · intro c hc
      refine c.resetIfRequested_keeps Recorded.rack (P := fun d ↦ d.IsProper declared) ?_
        (fun _ hd ↦ hd.restart) hc
      intro d hd
      exact ⟨hd.coherent.congr rfl rfl rfl rfl rfl, hd.wired, hd.fits, hd.proper, hd.low⟩
    · exact fun c hstopped hc ↦ hc.performMaintenance hstopped
    · exact fun c hworking hc ↦ hc.work hworking now
    · exact fun c hc ↦ hc.shown
  | reset =>
    rw [Bridge.perform, reset_eq]
    exact h.restart
  | stop => exact h.stop ho
  | requestReset => exact ⟨hcoherent, hwired, h.fits, h.proper, h.low⟩
  | requestMaintenance action =>
    refine ⟨hcoherent, hwired, h.fits, h.proper, ?_⟩
    obtain ⟨waiting, hwaiting⟩ := b.control.requestMaintenance_eq action
    rw [Bridge.perform, hwaiting]
    exact h.low
  | writeByte offset value => exact ⟨hcoherent, hwired, h.fits, h.proper, h.low⟩

theorem IsProper.run (h : b.IsProper declared) {operations : List Operation}
    (hoperations : b.allTimely operations = true) :
    (b.run Recorded.rack operations).IsProper declared := by
  induction operations generalizing b with
  | nil => exact h
  | cons o rest ih =>
    obtain ⟨ho, hrest⟩ := Bool.and_eq_true_iff.mp hoperations
    exact ih (h.perform ho) hrest

theorem isProper_start {c : Chains} {settings : Settings}
    (hb : start Recorded.rack ⟨c, []⟩ settings = .ok b) (hlines : ∀ side, c.line side = .released) :
    ∃ declared, b.IsProper declared := by
  have hcoherent := coherent_start Recorded.rack hb
  have hwired := wired_run Recorded.rack hb []
  obtain ⟨declared, hload, rfl⟩ := eq_of_start hb
  have hworks (bus : Bus Recorded) : Bus.Works Recorded.rack [.loading, .alarm] bus
      ((bus.load Recorded.rack).2.indicate Recorded.rack .fault true) :=
    .head .load rfl (.single (.indicate .fault true) rfl)
  have hfits : Recorded.Fits declared (.attach ⟨c, []⟩) := ⟨hload, hlines⟩
  have hproper : Recorded.AllProper (.attach ⟨c, []⟩) :=
    ⟨fun _ hd ↦ absurd hd List.not_mem_nil, fun _ hd ↦ absurd hd List.not_mem_nil⟩
  obtain ⟨hfits, hproper⟩ :=
    Recorded.works (hworks _) hfits hproper (fun hmem ↦ absurd hmem (by simp))
  refine ⟨declared, hcoherent, hwired, hfits, hproper, ?_⟩
  intro _ side
  rw [(hworks _).line?_eq (by simp)]
  exact fun heq ↦ absurd heq (by simp [Bus.line?, Bus.last?, Bus.attach])

/-- **Maintenance commands are performed by the modules they name**, after every history in which no
survey is stopped while an enable line is high. -/
theorem addressed_run {c : Chains} {settings : Settings}
    (hb : start Recorded.rack ⟨c, []⟩ settings = .ok b) (hlines : ∀ side, c.line side = .released)
    {operations : List Operation} (hoperations : b.allTimely operations = true) :
    ∀ d ∈ (b.run Recorded.rack operations).bus.rack.deeds, d.request.task? = some .upkeep →
      ∃ action, .requestMaintenance action ∈ operations ∧ d.Fulfils action := by
  obtain ⟨declared, hstart⟩ := isProper_start hb hlines
  obtain ⟨hproper, hasked⟩ := (hstart.run hoperations).proper
  intro d hd htask
  obtain ⟨answer, hsent⟩ := hasked d hd
  have herrand : d.request.errand ∈ (b.run Recorded.rack operations).bus.errands :=
    List.mem_filterMap.mpr ⟨_, hsent, if_pos htask⟩
  obtain ⟨action, haction, herrand⟩ := exists_requested hb herrand
  have haddress : d.request.destination = action.address := congrArg Errand.address herrand
  refine ⟨action, haction, herrand, fun hsingle ↦ ?_, fun hall ↦ ?_⟩
  · rcases hproper d hd htask with hown | ⟨hall, -⟩
    · rw [hown, haddress]
    · exact absurd (haddress.symm.trans hall) hsingle
  · rcases hproper d hd htask with hown | ⟨-, hsome⟩
    · simp [hown]
    · exact hsome

/-- A module on the right side of a rack that heeds what is sent to all modules. -/
def oneModule : Chains :=
  { Chains.ofModules [⟨⟨0, ⟨96⟩, 0, 0, 0, 0, 2, 2, 0⟩, none, []⟩] [] with heedsAll := true }

/-- The bridge is stopped after some cycles, and gets a maintenance command. -/
def stoppedAfter (cycles : Nat) (action : Maintenance) : List Operation :=
  (List.range cycles).map (fun i ↦ .cycle (50000 * UInt64.ofNat i)) ++
    [.stop, .requestMaintenance action, .cycle 1000000]

/-- The module is found, and performs the command for its address. -/
theorem addressed_run_stoppedAfter :
    ∃ b, start Recorded.rack ⟨oneModule, []⟩ .usual = .ok b ∧
      (∀ side, oneModule.line side = .released) ∧
      b.allTimely (stoppedAfter 13 (.writeSerial ⟨32⟩ 5)) = true ∧
      (∀ d ∈ (b.run Recorded.rack (stoppedAfter 13 (.writeSerial ⟨32⟩ 5))).bus.rack.deeds,
        d.request.task? = some .upkeep → ∃ action,
          .requestMaintenance action ∈ stoppedAfter 13 (.writeSerial ⟨32⟩ 5) ∧ d.Fulfils action) ∧
      ∃ d ∈ (b.run Recorded.rack (stoppedAfter 13 (.writeSerial ⟨32⟩ 5))).bus.rack.deeds,
        d.request.task? = some .upkeep := by
  have hlines : ∀ side, oneModule.line side = .released := by
    intro side
    cases side <;> rfl
  refine ⟨_, rfl, hlines, by decide +kernel, ?_, by decide +kernel⟩
  exact addressed_run (show start Recorded.rack ⟨oneModule, []⟩ .usual = _ from rfl) hlines
    (by decide +kernel)

/-- A command that names all modules is performed by the one that has an address. -/
example :
    ∃ b, start Recorded.rack ⟨oneModule, []⟩ .usual = .ok b ∧
      ∃ d ∈ (b.run Recorded.rack (stoppedAfter 13 (.forceReset .broadcast))).bus.rack.deeds,
        d.request.task? = some .upkeep ∧ d.request.destination = .broadcast ∧
          d.module.address = some ⟨32⟩ :=
  ⟨_, rfl, by decide +kernel⟩

/-- **A maintenance command goes astray** if a survey is stopped while a line is high: nobody has
the address 7, and a module without an address performs the command. -/
theorem strayed_run :
    ∃ b, start Recorded.rack ⟨oneModule, []⟩ .usual = .ok b ∧
      ∃ d ∈ (b.run Recorded.rack (stoppedAfter 8 (.writeSerial ⟨7⟩ 5))).bus.rack.deeds,
        d.request.task? = some .upkeep ∧ d.request.destination = ⟨7⟩ ∧ d.module.address = none :=
  ⟨_, rfl, by decide +kernel⟩

end Bridge

end RackBus
