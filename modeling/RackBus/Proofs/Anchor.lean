import RackBus.Proofs.Dispatch
import RackBus.Simulation.Chain

/-!
# Where the core's bytes are

The place of the core's bytes is decided at the end of a survey, by the declarations and the size of
the image alone.  It stays until the bridge starts all over.

* `CoreBlock.anchor` is this place: the declared one if all of it ends inside the image, and the
  start of the image otherwise.  `Roster.core_report_reconcile` says that this is what a comparison
  with the declarations arrives at.
* `Bridge.Anchored` is the invariant, with one lemma for each part of a cycle, and
  `Bridge.Anchored.polling?` carries it to the bridge that a cycle polls with.
* `Bridge.accessible_run`: the core's bytes always end inside the image, and no access to them
  fails, whatever was declared.
-/

set_option autoImplicit false

namespace RackBus

universe u

/-! ## The place of the core's bytes -/

namespace CoreBlock

/-- The place at the start of the image, the outputs behind the inputs. -/
def atStart : CoreBlock := ⟨0, inputLength⟩

theorem liesIn_atStart {size : Nat} (h : 11 ≤ size) : atStart.LiesIn size :=
  liesIn_iff.mpr ⟨Nat.le_trans (by decide) h, h⟩

theorem isApart_atStart : atStart.IsApart := by decide

end CoreBlock

namespace Declaration

/-- The place that a declaration of the core gives its bytes. -/
def coreBlock (d : Declaration) : CoreBlock := ⟨d.inputOffset, d.outputOffset⟩

/-- Do the core's bytes end inside an image of `size` bytes where the declaration puts them, and the
configuration bytes as well? -/
def SeatsCore (d : Declaration) (size : Nat) : Prop :=
  d.coreBlock.LiesIn size ∧ (Region.ofWords d.configOffset d.configLength).endsWithin size = true

instance (d : Declaration) (size : Nat) : Decidable (d.SeatsCore size) :=
  inferInstanceAs (Decidable (_ ∧ _))

end Declaration

/-- **The place of the core's bytes** in an image of `size` bytes: the one that the first
declaration of the core gives them, if they end inside the image there, and the start of the image
otherwise. -/
def CoreBlock.anchor (declared : List Declaration) (size : Nat) : CoreBlock :=
  match Declaration.first? declared .core with
  | none => atStart
  | some d => if d.SeatsCore size then d.coreBlock else atStart

/-- The core's bytes end inside an image that has room for them at its start. -/
theorem CoreBlock.liesIn_anchor (declared : List Declaration) {size : Nat} (h : 11 ≤ size) :
    (anchor declared size).LiesIn size := by
  rw [anchor]
  split
  · exact liesIn_atStart h
  · split
    · rename_i hseats
      exact hseats.1
    · exact liesIn_atStart h

/-! ## The comparison with the declarations -/

section Reconcile

variable {settings : Settings}

/-- The place of the core's bytes as its row has it. -/
def Row.coreBlock (core : Row) : CoreBlock := ⟨core.inputOffset, core.outputOffset⟩

/-- The row of the core fits into the image if its bytes do. -/
theorem Row.fits_iff_of_core (core : Row) (hcore : core.identity = settings.coreIdentity)
    (size : Nat) :
    core.fits size = true ↔ core.coreBlock.LiesIn size ∧ core.config.endsWithin size = true := by
  have hinputs : core.inputs = core.coreBlock.inputs := by
    rw [inputs, hcore]
    rfl
  have houtputs : core.outputs = core.coreBlock.outputs := by
    rw [outputs, hcore]
    rfl
  have hin : core.coreBlock.inputs.endsWithin size = true ↔ core.coreBlock.inputs.stop ≤ size :=
    Region.endsWithin_iff_stop_le (by decide : (6 : Nat) ≠ 0)
  have hout : core.coreBlock.outputs.endsWithin size = true ↔ core.coreBlock.outputs.stop ≤ size :=
    Region.endsWithin_iff_stop_le (by decide : (5 : Nat) ≠ 0)
  rw [fits_iff, hinputs, houtputs, hin, hout, ← and_assoc]
  exact and_congr_left' ⟨fun h ↦ ⟨h.1, h.2⟩, fun h ↦ ⟨h.1, h.2⟩⟩

/-- A core at the start of the image is not moved. -/
theorem Row.coreBlock_of_atStart (core : Row) (hcore : core.identity = settings.coreIdentity)
    (hplace : core.coreBlock = .atStart) (size : Nat) :
    (if Roster.sticksOut size core then core.atStart else core).coreBlock = .atStart := by
  split
  · rw [coreBlock, Row.atStart, hcore]
    rfl
  · exact hplace

/-- A core at a declared place is moved to the start of the image if it does not fit there. -/
theorem Row.coreBlock_of_place {core : Row} (hcore : core.identity = settings.coreIdentity)
    (hactive : core.active = true) (d : Declaration) (size : Nat) :
    (if Roster.sticksOut size (core.place d) then (core.place d).atStart
      else core.place d).coreBlock =
        if d.SeatsCore size then d.coreBlock else .atStart := by
  have hfits : (core.place d).fits size = true ↔ d.SeatsCore size :=
    (core.place d).fits_iff_of_core hcore size
  have hactive : (core.place d).active = true := hactive
  by_cases h : d.SeatsCore size
  · rw [Roster.sticksOut, hactive, hfits.mpr h, if_pos h]
    rfl
  · have hout : (core.place d).fits size = false := by simpa using mt hfits.mp h
    rw [Roster.sticksOut, hactive, hout, if_neg h]
    show CoreBlock.mk 0 core.identity.inputLength = _
    rw [hcore]
    rfl

/-- **The comparison puts the core's bytes** where the declarations and the size of the image
say. -/
theorem Roster.core_report_reconcile {r : Roster}
    (hcore : r.core.device = (.core, settings.coreIdentity)) (declared : List Declaration)
    (size : Nat) (status : Status) :
    (r.reconcile declared size status).2.2.core = .anchor declared size := by
  obtain ⟨haddress, hidentity⟩ := Prod.mk.inj hcore
  have hidentity : r.core.unplaced.identity = settings.coreIdentity := hidentity
  have hreport : (r.reconcile declared size status).2.2.core =
      (r.reconcile declared size status).1.core.coreBlock := rfl
  rw [hreport, CoreBlock.anchor]
  by_cases h : declared = []
  · subst h
    have hpacked : (r.reconcile [] size status).1.core =
        if sticksOut size r.unplaced.packed.core then r.unplaced.packed.core.atStart
        else r.unplaced.packed.core := rfl
    rw [hpacked]
    refine r.unplaced.packed.core.coreBlock_of_atStart hidentity ?_ size
    show CoreBlock.mk 0 (clampWord (0 + r.core.unplaced.identity.inputLength.toNat)) = _
    rw [hidentity]
    rfl
  · rw [core_reconcile r h, judgeCore, ← haddress, first?_eq_map_declarationAt?]
    cases declarationAt? declared r.core.address with
    | none =>
      refine r.core.unplaced.atStart.coreBlock_of_atStart hidentity ?_ size
      show CoreBlock.mk 0 r.core.unplaced.identity.inputLength = _
      rw [hidentity]
      rfl
    | some e => exact Row.coreBlock_of_place hidentity rfl e.1 size

end Reconcile

/-! ## The invariant -/

namespace Bridge

variable {σ : Type u} {rack : Rack σ} {settings : Settings} {b : Bridge σ}

/-- The core's bytes are where the declarations and the size of the image put them.  The drivers may
have changed this size since the bridge was made, if they do not leave it alone. -/
structure Anchored (b : Bridge σ) (rack : Rack σ) (settings : Settings) : Prop where
  orderly : b.IsOrderly settings
  size : rack.KeepsSize → b.image.size = settings.imageSize
  core : ∀ core, b.core = some core → ∃ size, (rack.KeepsSize → size = settings.imageSize) ∧
    core = .anchor b.declared size

theorem Anchored.congr {after : Bridge σ} (h : b.Anchored rack settings)
    (horderly : after.IsOrderly settings)
    (hsize : rack.KeepsSize → after.image.size = b.image.size) (hcore : after.core = b.core)
    (hdeclared : after.declared = b.declared) : after.Anchored rack settings where
  orderly := horderly
  size hrack := (hsize hrack).trans (h.size hrack)
  core := hcore ▸ hdeclared ▸ h.core

theorem Anchored.restart (h : b.Anchored rack settings) (hvalid : settings.Valid) :
    (b.restart rack).2.Anchored rack settings where
  orderly := h.orderly.restart rack hvalid
  size hrack := (size_restart b).trans (h.size hrack)
  core core hcore := by
    have hnone : (b.restart rack).2.core = none := by
      rw [restart_eq]
      split <;> rfl
    exact absurd (hnone.symm.trans hcore) (by simp)

theorem Anchored.resetIfRequested (h : b.Anchored rack settings) (hvalid : settings.Valid) :
    (b.resetIfRequested rack).Anchored rack settings :=
  b.resetIfRequested_keeps rack (P := fun c ↦ c.Anchored rack settings)
    (fun _ hc ↦ hc.congr (hc.orderly.congr rfl) (fun _ ↦ rfl) rfl rfl)
    (fun _ hc ↦ hc.restart hvalid) h

theorem Anchored.surveyed (h : b.Anchored rack settings) (now : UInt64) :
    (b.surveyed rack now).Anchored rack settings :=
  h.congr (h.orderly.surveyed rack now) (fun _ ↦ rfl) rfl rfl

/-- **The end of a survey** decides where the core's bytes are. -/
theorem Anchored.endSurvey (h : b.Anchored rack settings) (hfinished : b.survey.phase = .finished) :
    (b.endSurvey rack).Anchored rack settings where
  orderly := h.orderly.endSurvey rack hfinished
  size := h.size
  core core hcore := by
    obtain ⟨-, t, horderly⟩ := h.orderly
    have hreport : (b.roster.reconcile b.declared b.image.size b.control.status).2.2.core = core :=
      Option.some.inj hcore
    rw [← hreport]
    exact ⟨b.image.size, h.size, Roster.core_report_reconcile horderly.core_device _ _ _⟩

theorem Anchored.poll (h : b.Anchored rack settings) (now : UInt64) :
    (b.poll rack now).Anchored rack settings := by
  have hdeclared : (b.poll rack now).declared = b.declared :=
    b.poll_keeps rack (P := fun c ↦ c.declared = b.declared) (fun _ _ ↦ rfl) rfl now
  exact h.congr (h.orderly.poll rack now) (fun hrack ↦ b.size_poll hrack now)
    (b.core_poll rack now) hdeclared

theorem Anchored.work (h : b.Anchored rack settings) (now : UInt64) :
    (b.work rack now).Anchored rack settings :=
  b.work_keeps rack (P := fun c ↦ c.Anchored rack settings) (h.surveyed now)
    (fun hended ↦ (h.surveyed now).endSurvey (b.site.finished_of_step hended).1)
    fun _ hc ↦ hc.poll now

theorem Anchored.worked (h : b.Anchored rack settings) (hvalid : settings.Valid) (now : UInt64) :
    (b.worked rack now).Anchored rack settings := by
  have hreset := h.resetIfRequested hvalid
  rw [Bridge.worked]
  split
  · obtain ⟨bus, hmaintenance⟩ := (b.resetIfRequested rack).performMaintenance_eq rack
    rw [hmaintenance]
    exact hreset.congr (hreset.orderly.congr rfl) (fun _ ↦ rfl) rfl rfl
  · exact hreset.work now

theorem Anchored.perform (h : b.Anchored rack settings) (hvalid : settings.Valid)
    (o : Operation) : (b.perform rack o).Anchored rack settings := by
  have horderly := h.orderly.perform rack hvalid o
  have hsize (hrack : rack.KeepsSize) := size_perform hrack b o
  cases o with
  | cycle now =>
    have hworked := h.worked hvalid now
    obtain ⟨status, bus, image, shownLamps, hshown, himage⟩ := (b.worked rack now).shown_eq rack
    rw [Bridge.perform, runCycle_eq_worked, hshown] at horderly ⊢
    exact hworked.congr horderly (fun _ ↦ himage) rfl rfl
  | reset =>
    rw [Bridge.perform, reset_eq]
    exact h.restart hvalid
  | stop | requestReset | requestMaintenance _ | writeByte _ _ =>
    exact h.congr horderly hsize rfl rfl

theorem anchored_start {state : σ} (hb : start rack state settings = .ok b) :
    settings.Valid ∧ b.Anchored rack settings := by
  obtain ⟨hvalid, horderly⟩ := isOrderly_start rack hb
  obtain ⟨declared, -, rfl⟩ := eq_of_start hb
  exact ⟨hvalid, horderly, fun _ ↦ Image.size_zeroed _, fun _ hcore ↦ absurd hcore (by simp)⟩

/-- The core's bytes are in their place after every history. -/
theorem anchored_run {state : σ} (hb : start rack state settings = .ok b)
    (operations : List Operation) : (b.run rack operations).Anchored rack settings := by
  obtain ⟨hvalid, hstart⟩ := anchored_start hb
  exact run_invariant (P := fun c ↦ c.Anchored rack settings)
    (fun _ o hc ↦ hc.perform hvalid o) hstart operations

/-- The core's bytes are in their place in the bridge that a cycle polls with. -/
theorem Anchored.polling? (h : b.Anchored rack settings) (hvalid : settings.Valid) {now : UInt64}
    {c : Bridge σ} {core : CoreBlock} (hpolling : b.polling? rack now = some (c, core)) :
    c.Anchored rack settings :=
  polling?_keeps (P := fun d ↦ d.Anchored rack settings) hpolling (h.resetIfRequested hvalid)
    (fun _ _ hd ↦ hd.surveyed now) fun _ hphase hd ↦ hd.endSurvey hphase

/-! ## Accesses never fail -/

/-- As long as the drivers leave the size of the image alone, the core's bytes end inside it. -/
theorem Anchored.liesIn (h : b.Anchored rack settings) (hvalid : settings.Valid)
    (hrack : rack.KeepsSize) {core : CoreBlock} (hcore : b.core = some core) :
    core.LiesIn b.image.size := by
  obtain ⟨size, hsize, rfl⟩ := h.core core hcore
  rw [h.size hrack, hsize hrack]
  exact CoreBlock.liesIn_anchor _ hvalid.coreBytes_le

theorem Anchored.accesses (h : b.Anchored rack settings) (hvalid : settings.Valid)
    (hrack : rack.KeepsSize) (now : UInt64) : b.Accesses rack now := by
  refine accesses_of_liesIn (fun c core hpolling ↦ ?_) fun core hcore ↦ ?_
  · have hc := h.polling? hvalid hpolling
    rw [c.polled.size_swept c.settings.rightBase hrack]
    exact hc.liesIn hvalid hrack (worked_of_polling? hpolling).1
  · exact (h.worked hvalid now).liesIn hvalid hrack hcore

/-- **The core's bytes can always be accessed**: after every history and whatever was loaded, they
end inside the image once they have a place, and no access of a cycle to them fails.  The drivers
have to leave the size of the image alone. -/
theorem accessible_run (hrack : rack.KeepsSize) {state : σ}
    (hb : start rack state settings = .ok b) (operations : List Operation) :
    (∀ core, (b.run rack operations).core = some core →
      core.LiesIn (b.run rack operations).image.size) ∧
      ∀ now, (b.run rack operations).Accesses rack now := by
  obtain ⟨hvalid, -⟩ := anchored_start hb
  have hrun := anchored_run hb operations
  exact ⟨fun _ hcore ↦ hrun.liesIn hvalid hrack hcore, hrun.accesses hvalid hrack⟩

/-- Cycles in which a module is found and then polled four times. -/
def pollingHistory : List Operation := (List.range 15).map fun i ↦ .cycle (50000 * UInt64.ofNat i)

/-- A configuration that puts the input bytes of the core one byte too far back for the usual
image. -/
def coreTooFarBack : Chains :=
  { Chains.ofModules [⟨⟨0, ⟨96⟩, 0, 0, 0, 0, 2, 2, 0⟩, none, []⟩] [] with
    declared := [⟨.core, .core, 6, 5, 0, 0, 4091, 4080, 0, 0⟩] }

/-- The core's bytes are at the start of the image, and the next cycle polls and reads the limits
there. -/
theorem accessible_run_coreTooFarBack :
    Chains.rack.KeepsSize ∧
      ∃ b, start Chains.rack coreTooFarBack .usual = .ok b ∧
        (let c := b.run Chains.rack pollingHistory
        ((∀ core, c.core = some core → core.LiesIn c.image.size) ∧
          ∀ now, c.Accesses Chains.rack now) ∧
        c.core = some .atStart ∧ (c.polling? Chains.rack 750000).isSome = true) :=
  ⟨Chains.rack_keepsSize, _, rfl,
    accessible_run Chains.rack_keepsSize
      (show start Chains.rack coreTooFarBack .usual = _ from rfl) pollingHistory,
    by decide +kernel, by decide +kernel⟩

end Bridge

end RackBus
