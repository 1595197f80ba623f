import RackBus.Document.Check
import RackBus.Proofs.Anchor

/-!
# The core and what the application has set

The lamps and the error limits are output bytes of the core, which the application writes and the
core reads.  The core writes its input bytes, so it leaves them alone if the two groups of bytes are
apart.

* `Rack.Serves` says that a rack loads what a document declares, and `Document.SeparatesCore` that
  the document keeps the two groups apart.
* `Bridge.SparesControls` says of a cycle that lamps and limits are those that the drivers have
  left.
* `Bridge.controls_run`: with a document that keeps the groups apart, this holds of every cycle in
  every history.
* `Bridge.overwritten_run`: the check of a document does not ask for that, and then the core can
  overwrite a lamp.
-/

set_option autoImplicit false

namespace RackBus

universe u

/-- Whatever the rack loads is what a document declares. -/
def Rack.Serves {σ : Type u} (rack : Rack σ) (d : Document) : Prop :=
  ∀ s declared, (rack.load s).1 = .ok declared → declared = d.devices

/-- A document keeps the inputs and the outputs of the core apart: it does not declare the core, or
it puts them apart, or they do not end inside the image where it puts them and the drivers leave the
size of the image alone. -/
def Document.SeparatesCore {σ : Type u} (d : Document) (rack : Rack σ) : Prop :=
  ∀ e, Declaration.first? d.devices .core = some e →
    e.coreBlock.IsApart ∨ rack.KeepsSize ∧ ¬e.SeatsCore d.settings.imageSize

namespace Bridge

variable {σ : Type u} {rack : Rack σ} {d : Document} {b : Bridge σ}

/-! ## The place of the core's bytes -/

/-- A bridge has nothing declared but what a document declares. -/
theorem declared_run (hserves : rack.Serves d) {state : σ} {settings : Settings}
    (hb : start rack state settings = .ok b) (operations : List Operation) :
    (b.run rack operations).declared = d.devices := by
  have hload (bus : Bus σ) {declared : List Declaration} (h : (bus.load rack).1 = .ok declared) :
      declared = d.devices := hserves bus.rack declared h
  have hrestart (c : Bridge σ) (hc : c.declared = d.devices) :
      (c.restart rack).2.declared = d.devices := by
    rw [restart_eq]
    cases hloading : c.loading rack with
    | mk result bus =>
      cases result with
      | error e => exact hc
      | ok declared => exact hload (c.alarmed rack) (congrArg Prod.fst hloading)
  refine run_invariant (P := fun c ↦ c.declared = d.devices) (fun c o hc ↦ ?_) ?_ operations
  · refine c.perform_keeps rack (P := fun c ↦ c.declared = d.devices) (fun _ _ _ hc ↦ hc)
      (fun _ _ _ hc ↦ hc) (fun _ hc ↦ hc) hrestart ?_
      (fun c now _ hc ↦ (congrArg Standing.declared (c.standing_work rack now)).trans hc) ?_ hc o
    · intro c _ hc
      obtain ⟨bus, hmaintenance⟩ := c.performMaintenance_eq rack
      rw [hmaintenance]
      exact hc
    · intro c hc
      obtain ⟨status, bus, image, shownLamps, hshown, -⟩ := c.shown_eq rack
      rw [hshown]
      exact hc
  · obtain ⟨declared, hloaded, rfl⟩ := eq_of_start hb
    exact hload (Bus.attach state) hloaded

/-- The core's bytes are at the start of the image, or where the document puts them. -/
theorem Anchored.core_eq {settings : Settings} (h : b.Anchored rack settings)
    (hdeclared : b.declared = d.devices) {core : CoreBlock} (hcore : b.core = some core) :
    core = .atStart ∨ ∃ e, Declaration.first? d.devices .core = some e ∧ core = e.coreBlock := by
  obtain ⟨size, -, rfl⟩ := h.core core hcore
  rw [hdeclared, CoreBlock.anchor]
  cases hfirst : Declaration.first? d.devices .core with
  | none => exact Or.inl rfl
  | some e =>
    dsimp only
    split
    · exact Or.inr ⟨e, rfl, rfl⟩
    · exact Or.inl rfl

/-- **A document that keeps them apart** does so wherever the core's bytes are. -/
theorem Anchored.isApart (h : b.Anchored rack d.settings) (hdeclared : b.declared = d.devices)
    (hseparates : d.SeparatesCore rack) {core : CoreBlock} (hcore : b.core = some core) :
    core.IsApart := by
  obtain ⟨size, hsize, rfl⟩ := h.core core hcore
  rw [hdeclared, CoreBlock.anchor]
  cases hfirst : Declaration.first? d.devices .core with
  | none => exact CoreBlock.isApart_atStart
  | some e =>
    dsimp only
    split
    · rename_i hseats
      rcases hseparates e hfirst with hapart | ⟨hrack, hmoved⟩
      · exact hapart
      · rw [hsize hrack] at hseats
        exact absurd hseats hmoved
    · exact CoreBlock.isApart_atStart

/-! ## What a cycle leaves alone -/

/-- A cycle leaves the lamps and the limits as the drivers have left them. -/
structure SparesControls (rack : Rack σ) (b : Bridge σ) (now : UInt64) : Prop where
  /-- The limits that a round of polling obeys are read after the error count and the cycle time
  were shown. -/
  round : ∀ c core, b.polling? rack now = some (c, core) →
    core.controls (c.polled.timed rack c.settings.rightBase core now).2 =
      core.controls (b.driven rack now)
  /-- The lamps are read after the status flags were shown. -/
  cycle : ∀ core, (b.runCycle rack now).core = some core →
    core.controls (b.runCycle rack now).image = core.controls (b.driven rack now)

/-- **The core leaves the controls alone** as long as its two groups of bytes are apart. -/
theorem sparesControls_of_isApart {now : UInt64}
    (h : ∀ core, (b.runCycle rack now).core = some core → core.IsApart) :
    b.SparesControls rack now := by
  refine ⟨fun c core hpolling ↦ ?_, fun core hcore ↦ ?_⟩
  · have hcore : (b.runCycle rack now).core = some core :=
      (b.core_runCycle rack now).trans (core_worked_of_polling? hpolling)
    rw [driven, hpolling]
    exact (h core hcore).controls_eq
      (c.polled.changesOnly_cycle rack c.settings.rightBase core now)
  · exact (h core hcore).controls_eq (changesOnly_runCycle hcore)

/-- **The core never overwrites its own controls** if the document keeps them apart: after every
history its bytes are at the start of the image or where the document puts them, and with such a
document no cycle changes the lamps and the limits that the drivers have left. -/
theorem controls_run (hserves : rack.Serves d) {state : σ}
    (hb : start rack state d.settings = .ok b) (operations : List Operation) :
    (∀ core, (b.run rack operations).core = some core → core = .atStart ∨
      ∃ e, Declaration.first? d.devices .core = some e ∧ core = e.coreBlock) ∧
    (d.SeparatesCore rack →
      (∀ core, (b.run rack operations).core = some core → core.IsApart) ∧
        ∀ now, (b.run rack operations).SparesControls rack now) := by
  have hanchored (history : List Operation) := anchored_run hb history
  have hdeclared (history : List Operation) := declared_run hserves hb history
  refine ⟨fun core hcore ↦ (hanchored operations).core_eq (hdeclared operations) hcore,
    fun hseparates ↦ ?_⟩
  have hapart (history : List Operation) (core : CoreBlock)
      (hcore : (b.run rack history).core = some core) : core.IsApart :=
    (hanchored history).isApart (hdeclared history) hseparates hcore
  refine ⟨hapart operations, fun now ↦ sparesControls_of_isApart fun core hcore ↦ ?_⟩
  -- the state that a cycle leads to ends a history of its own
  have hafter : (b.run rack operations).runCycle rack now =
      b.run rack (operations ++ [.cycle now]) := by
    rw [run_append]
    rfl
  exact hapart _ core (hafter ▸ hcore)

/-- A simulated rack on which a document is loaded. -/
def serving (d : Document) : Rack Chains := { Chains.rack with load := fun c ↦ (.ok d.devices, c) }

/-- A document that puts the outputs of the core before its inputs, and a digital module behind
them. -/
def lampsFirst : Document :=
  .ofDeclarations [⟨.core, .core, 6, 5, 0, 0, 5, 0, 0, 0⟩, ⟨⟨32⟩, ⟨96⟩, 2, 2, 0, 0, 11, 13, 0, 0⟩]

/-- A rack with a digital module. -/
def digitalRack : Chains := .ofModules [⟨⟨0, ⟨96⟩, 0, 0, 0, 0, 2, 2, 0⟩, none, []⟩] []

/-- The application sets the lamps behind the fifteen cycles of `pollingHistory`. -/
def lampsHistory (offset : Nat) : List Operation := pollingHistory ++ [.writeByte offset 5]

theorem controls_run_lampsFirst :
    lampsFirst.check = .ok () ∧ (serving lampsFirst).Serves lampsFirst ∧
      ∃ b, start (serving lampsFirst) digitalRack lampsFirst.settings = .ok b ∧
        (let c := b.run (serving lampsFirst) (lampsHistory 0)
        ((∀ core, c.core = some core → core = .atStart ∨
          ∃ e, Declaration.first? lampsFirst.devices .core = some e ∧ core = e.coreBlock) ∧
        (lampsFirst.SeparatesCore (serving lampsFirst) →
          (∀ core, c.core = some core → core.IsApart) ∧
            ∀ now, c.SparesControls (serving lampsFirst) now)) ∧
        lampsFirst.SeparatesCore (serving lampsFirst) ∧ c.core = some ⟨5, 0⟩ ∧
        (c.polling? (serving lampsFirst) 750000).isSome = true) := by
  have hserves : (serving lampsFirst).Serves lampsFirst :=
    fun _ _ h ↦ (Except.ok.inj h).symm
  refine ⟨rfl, hserves, _, rfl, controls_run hserves
    (show start (serving lampsFirst) digitalRack lampsFirst.settings = _ from rfl) (lampsHistory 0),
    ?_, by decide +kernel, by decide +kernel⟩
  intro e he
  obtain rfl : _ = e := Option.some.inj he
  exact Or.inl (by decide)

/-- A document that declares the core with two input and two output bytes, which do not overlap.
The core has more of both. -/
def narrowCore : Document := .ofDeclarations [⟨.core, .core, 2, 2, 0, 0, 0, 2, 0, 0⟩]

/-- **The check of a document does not keep the controls apart.**  This one passes it, and the core
shows its error count where the lamps are: the application switches two of them on, and the next
cycle switches them off. -/
theorem overwritten_run :
    narrowCore.check = .ok () ∧
      ∃ b, start Chains.rack { digitalRack with declared := narrowCore.devices }
          narrowCore.settings = .ok b ∧
        (let c := b.run Chains.rack (lampsHistory 2)
        ∃ core, c.core = some core ∧ ¬core.IsApart ∧
          core.readLamps c.image = .ok 5 ∧
          core.readLamps (c.driven Chains.rack 750000) = .ok 5 ∧
          core.readLamps (c.runCycle Chains.rack 750000).image = .ok 0) :=
  ⟨rfl, _, rfl, ⟨0, 2⟩, by decide +kernel, by decide,
    Image.readByte_eq_ok_iff.mpr (by decide +kernel),
    Image.readByte_eq_ok_iff.mpr (by decide +kernel),
    Image.readByte_eq_ok_iff.mpr (by decide +kernel)⟩

end Bridge

end RackBus
