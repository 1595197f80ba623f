import RackBus.Proofs.Anchor

/-!
# What the lamps show

A lamp is switched only if the bridge believes that it shows something else.  The bridge can be
stopped, started all over and written to between two cycles, so it has to believe what is true.

* `Bus.Reflects` says that the lamps of the application show the bits of a byte, and
  `Bridge.ShowsLamps` that they show the byte that the bridge believes they show.  There is one
  lemma for each part of a cycle, as there is for the fault lamp (`Bridge.ShowsRunning`).
* `Bridge.Mirrors` is what the lamps show after a cycle, and `Bridge.mirrors_run` says so of every
  cycle in every history.
-/

set_option autoImplicit false

namespace RackBus

universe u

/-! ## The lamps of the application -/

namespace Bus

variable {σ : Type u} {rack : Rack σ} {bus after : Bus σ} {byte : UInt8}

/-- The level that a lamp was given last, if it was ever switched. -/
def light? (bus : Bus σ) (lamp : Lamp) : Option Bool := bus.last? (Event.lights? lamp)

theorem light?_indicate (bus : Bus σ) (rack : Rack σ) (lamp other : Lamp) (level : Bool) :
    (bus.indicate rack other level).light? lamp =
      if other = lamp then some level else bus.light? lamp := by
  rw [light?, indicate, last?_eq (trace_record _ _ _), Event.lights?]
  split <;> rfl

/-- Each lamp of the application shows its bit of a byte. -/
structure Reflects (bus : Bus σ) (byte : UInt8) : Prop where
  a1Green : bus.light? .a1Green = some (byte.toNat.testBit 0)
  a1Red : bus.light? .a1Red = some (byte.toNat.testBit 1)
  a2Green : bus.light? .a2Green = some (byte.toNat.testBit 2)
  a2Red : bus.light? .a2Red = some (byte.toNat.testBit 3)

/-- Work that switches none of them leaves them as they are. -/
theorem Reflects.of_works (h : bus.Reflects byte) {tasks : List Task}
    (hworks : Works rack tasks bus after) (htasks : .lamps ∉ tasks) : after.Reflects byte := by
  have hsame {lamp : Lamp} (hlamp : lamp.task = .lamps) : after.light? lamp = bus.light? lamp :=
    hworks.light_eq (hlamp ▸ htasks)
  exact ⟨(hsame rfl).trans h.a1Green, (hsame rfl).trans h.a1Red, (hsame rfl).trans h.a2Green,
    (hsame rfl).trans h.a2Red⟩

/-- Lamps that are switched one after the other show the bits of the byte. -/
theorem reflects_switched (bus : Bus σ) (rack : Rack σ) (byte : UInt8) :
    (Bridge.lamps.zipIdx.foldl (fun bus e ↦ bus.indicate rack e.1 (Bridge.bit byte e.2))
      bus).Reflects byte := by
  constructor <;> simp [Bridge.lamps, light?_indicate, Bridge.bit]

end Bus

namespace Bridge

variable {σ : Type u} {b : Bridge σ} (rack : Rack σ)

/-- The lamps of the application are as the bridge believes. -/
def ShowsLamps (b : Bridge σ) : Prop := ∀ byte, b.shownLamps = some byte → b.bus.Reflects byte

variable {rack} in
/-- Work that switches no lamp of the application leaves them as they are. -/
theorem ShowsLamps.of_works {after : Bridge σ} (h : b.ShowsLamps)
    (hshown : after.shownLamps = b.shownLamps) {tasks : List Task}
    (hworks : Bus.Works rack tasks b.bus after.bus) (htasks : .lamps ∉ tasks) :
    after.ShowsLamps :=
  fun byte hbyte ↦ (h byte (hshown ▸ hbyte)).of_works hworks htasks

theorem ShowsLamps.applyRunning (h : b.ShowsLamps) : (b.applyRunning rack).ShowsLamps := by
  obtain ⟨status, bus, hrunning⟩ := b.applyRunning_eq rack
  exact h.of_works (by rw [hrunning]) (b.works_applyRunning rack) (by decide)

theorem ShowsLamps.performMaintenance (h : b.ShowsLamps) :
    (b.performMaintenance rack).ShowsLamps := by
  obtain ⟨bus, hmaintenance⟩ := b.performMaintenance_eq rack
  exact h.of_works (by rw [hmaintenance]) (b.works_performMaintenance rack) (by decide)

theorem ShowsLamps.work (h : b.ShowsLamps) (now : UInt64) : (b.work rack now).ShowsLamps :=
  h.of_works (congrArg Standing.shownLamps (b.standing_work rack now)) (b.works_work rack now)
    (by decide)

/-- After starting all over, the bridge believes nothing about the lamps. -/
theorem showsLamps_restart (b : Bridge σ) : (b.restart rack).2.ShowsLamps := by
  have hnone : (b.restart rack).2.shownLamps = none := by
    rw [restart_eq]
    split <;> rfl
  exact fun byte hbyte ↦ absurd (hnone.symm.trans hbyte) (by simp)

/-- **Publishing** switches the lamps if they do not show what they should. -/
theorem ShowsLamps.publish (h : b.ShowsLamps) : (b.publish rack).ShowsLamps := by
  rw [Bridge.publish]
  split
  · exact h
  dsimp only
  split
  · exact h
  rename_i byte _
  split
  · exact h
  · intro other hother
    obtain rfl : byte = other := Option.some.inj hother
    exact b.bus.reflects_switched rack byte

/-- What the bridge then believes is what it reads. -/
theorem shownLamps_publish {core : CoreBlock} (hcore : b.core = some core) {byte : UInt8}
    (hread : core.readLamps (b.publish rack).image = .ok byte) :
    (b.publish rack).shownLamps = some byte := by
  rw [b.image_publish rack hcore] at hread
  rw [Bridge.publish, hcore]
  dsimp only
  rw [hread]
  dsimp only
  split
  · rename_i hsame
    exact hsame
  · rfl

/-! ## Histories -/

/-- **Every operation** leaves the lamps as the bridge believes. -/
theorem ShowsLamps.perform (h : b.ShowsLamps) (o : Operation) : (b.perform rack o).ShowsLamps :=
  b.perform_keeps rack (P := ShowsLamps) (fun _ _ _ hc ↦ hc) (fun _ _ _ hc ↦ hc) (fun _ hc ↦ hc)
    (fun c _ ↦ showsLamps_restart rack c) (fun _ _ hc ↦ hc.performMaintenance rack)
    (fun _ now _ hc ↦ hc.work rack now) (fun _ hc ↦ (hc.applyRunning rack).publish rack) h o

theorem showsLamps_start {state : σ} {settings : Settings}
    (hb : start rack state settings = .ok b) : b.ShowsLamps := by
  obtain ⟨declared, -, rfl⟩ := eq_of_start hb
  exact fun byte hbyte ↦ absurd hbyte (by simp)

/-! ## What can be relied on -/

/-- What the lamps show after a cycle. -/
structure Mirrors (rack : Rack σ) (b : Bridge σ) : Prop where
  /-- The fault lamp is lit exactly if the bridge does not run. -/
  fault : b.bus.light? .fault = some (decide (b.control.state ≠ .running))
  /-- Once the core's bytes have a place, the other lamps show what the application has set there.
  The byte can be read as long as the drivers leave the size of the image alone. -/
  lamps : ∀ core, b.core = some core →
    (rack.KeepsSize → ∃ byte, core.readLamps b.image = .ok byte) ∧
      ∀ byte, core.readLamps b.image = .ok byte → b.bus.Reflects byte

variable {rack}

/-- A fault lamp that is as the bridge believes is lit exactly if the bridge does not run, once this
belief is up to date. -/
theorem ShowsRunning.light?_eq (h : b.ShowsRunning) (hshown : b.shownRunning = b.isRunning) :
    b.bus.light? .fault = some (decide (b.control.state ≠ .running)) := by
  refine h.trans (congrArg some ?_)
  rw [hshown, isRunning]
  cases b.control.state <;> rfl

/-- A cycle ends by showing its outcome. -/
theorem shownRunning_runCycle (b : Bridge σ) (now : UInt64) :
    (b.runCycle rack now).shownRunning = (b.runCycle rack now).isRunning := by
  obtain ⟨status, bus, image, shownLamps, hshown, -⟩ := (b.worked rack now).shown_eq rack
  rw [runCycle_eq_worked, hshown]
  rfl

/-- After a cycle, the bridge believes that the lamps show what it reads. -/
theorem shownLamps_runCycle {now : UInt64} {core : CoreBlock}
    (hcore : (b.runCycle rack now).core = some core) {byte : UInt8}
    (hread : core.readLamps (b.runCycle rack now).image = .ok byte) :
    (b.runCycle rack now).shownLamps = some byte := by
  obtain ⟨status, bus, hrunning⟩ := (b.worked rack now).applyRunning_eq rack
  have hplaced : ((b.worked rack now).applyRunning rack).core = some core := by
    rw [hrunning, ← hcore, core_runCycle]
  exact shownLamps_publish rack hplaced hread

/-- **The lamps mirror the bridge** after every cycle, whatever happened before, and the fault lamp
does so after every reset as well. -/
theorem mirrors_run {state : σ} {settings : Settings} (hb : start rack state settings = .ok b)
    (operations : List Operation) :
    (∀ now, ((b.run rack operations).runCycle rack now).Mirrors rack) ∧
      (let c := ((b.run rack operations).reset rack).2
      c.bus.light? .fault = some (decide (c.control.state ≠ .running))) := by
  have hrunning := showsRunning_run hb operations
  have hlamps : (b.run rack operations).ShowsLamps :=
    run_invariant (P := ShowsLamps) (fun _ o hc ↦ hc.perform rack o) (showsLamps_start rack hb)
      operations
  refine ⟨fun now ↦ ⟨?_, fun core hcore ↦ ⟨fun hrack ↦ ?_, fun byte hread ↦ ?_⟩⟩, ?_⟩
  · exact (hrunning.perform rack (.cycle now)).light?_eq (shownRunning_runCycle _ now)
  · -- the bridge after the cycle ends a history of its own
    have hlies := (accessible_run hrack hb (operations ++ [.cycle now])).1 core
      (by rw [run_append]; exact hcore)
    rw [run_append] at hlies
    exact hlies.accessible.lamps
  · exact hlamps.perform rack (.cycle now) byte (shownLamps_runCycle hcore hread)
  · have hstopped : ((b.run rack operations).reset rack).2.shownRunning =
        ((b.run rack operations).reset rack).2.isRunning := by
      rw [reset_eq, restart_eq]
      split <;> rfl
    exact (hrunning.perform rack .reset).light?_eq hstopped

/-- A rack with one digital module. -/
def oneDigital : Chains := .ofModules [⟨⟨0, ⟨96⟩, 0, 0, 0, 0, 2, 2, 0⟩, none, []⟩] []

/-- After the cycles of `pollingHistory` the application switches both green lamps on. -/
def greenHistory : List Operation := pollingHistory ++ [.writeByte 6 5]

/-- The next cycle shows them, and the fault lamp goes on with the reset. -/
theorem mirrors_run_greenHistory :
    ∃ b, start Chains.rack oneDigital .usual = .ok b ∧
      (let c := b.run Chains.rack greenHistory
      ((∀ now, (c.runCycle Chains.rack now).Mirrors Chains.rack) ∧
        (let d := (c.reset Chains.rack).2
        d.bus.light? .fault = some (decide (d.control.state ≠ .running)))) ∧
      (let d := c.runCycle Chains.rack 750000
      d.control.state = .running ∧ d.core = some .atStart ∧
        CoreBlock.atStart.readLamps d.image = .ok 5) ∧
      (c.reset Chains.rack).2.control.state ≠ .running) :=
  ⟨_, rfl, mirrors_run (show start Chains.rack oneDigital .usual = _ from rfl) greenHistory,
    ⟨by decide +kernel, by decide +kernel, Image.readByte_eq_ok_iff.mpr (by decide +kernel)⟩,
    by decide +kernel⟩

end Bridge

end RackBus
