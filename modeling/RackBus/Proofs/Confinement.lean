import RackBus.Proofs.Layout

/-!
# What takes part lies in the image

When every row has its place, reconciliation looks at those that take part.  A module that does not
fit into the image is left out.  The core cannot be left out, so it is moved to the start of the
image instead.

* `Roster.arranged` is the roster with every row in its place, before anything is left out or
  moved, whether there are declarations or not.
* `Roster.fits_of_mem_confine` is about the modules, and `Roster.endsWithin_core_confine` about the
  inputs and outputs of the core, which are what moving it is good for.
* `Roster.fits_reconcile`: everything that takes part lies in the image, except for configuration
  bytes of the core that are declared outside.  Those stay where they are, as
  `Roster.core_left_outside` shows.
-/

set_option autoImplicit false

namespace RackBus

/-- The configuration bytes of a declaration. -/
def Declaration.config (d : Declaration) : Region := .ofWords d.configOffset d.configLength

namespace Roster

/-! ## Leaving out and moving -/

section Confine

variable {r : Roster} {size : Nat}

/-- A module that still takes part fits into the image. -/
theorem fits_of_mem_confine {row : Row} (hrow : row ∈ (r.confine size).modules)
    (hactive : row.active = true) : row.fits size = true := by
  obtain ⟨before, -, rfl⟩ := List.mem_map.mp hrow
  by_cases hout : sticksOut size before = true
  · rw [if_pos hout] at hactive
    exact absurd hactive (by simp [Row.deactivate])
  · rw [if_neg hout] at hactive ⊢
    simpa [sticksOut, hactive] using hout

/-- The inputs and outputs of the core end inside an image that has room for them at its start. -/
theorem endsWithin_core_confine (hactive : r.core.active = true)
    (hroom : r.core.identity.inputLength.toNat + r.core.identity.outputLength.toNat ≤ size) :
    (r.confine size).core.inputs.endsWithin size = true ∧
      (r.confine size).core.outputs.endsWithin size = true := by
  have hcore : (r.confine size).core =
      if sticksOut size r.core then r.core.atStart else r.core := rfl
  by_cases hout : sticksOut size r.core = true
  · rw [hcore, if_pos hout]
    refine ⟨Region.endsWithin_of_stop_le ?_, Region.endsWithin_of_stop_le hroom⟩
    show 0 + r.core.identity.inputLength.toNat ≤ size
    omega
  · rw [hcore, if_neg hout]
    have hfits : r.core.fits size = true := by simpa [sticksOut, hactive] using hout
    exact ⟨(Row.fits_iff.mp hfits).1, (Row.fits_iff.mp hfits).2.1⟩

/-- Moving the core leaves its configuration bytes where they are. -/
theorem config_core_confine (r : Roster) (size : Nat) :
    (r.confine size).core.config = r.core.config := by
  rw [confine]
  split <;> rfl

theorem active_core_confine (r : Roster) (size : Nat) :
    (r.confine size).core.active = r.core.active := by
  rw [confine]
  split <;> rfl

end Confine

/-! ## Reconciliation -/

/-- The roster with every row in its place, before it is confined to the image. -/
def arranged (r : Roster) (declared : List Declaration) : Roster :=
  if declared.isEmpty then r.unplaced.packed else r.unplaced.matched declared

section Reconcile

variable (r : Roster) (declared : List Declaration)

theorem roster_reconcile (imageSize : Nat) (status : Status) :
    (r.reconcile declared imageSize status).1 = (r.arranged declared).confine imageSize := rfl

/-- Wherever the core is put, it takes part and keeps its identity. -/
theorem core_arranged :
    (r.arranged declared).core.active = true ∧
      (r.arranged declared).core.identity = r.core.identity := by
  rw [arranged]
  split
  · exact ⟨rfl, rfl⟩
  · rw [matched]
    cases judgeCore declared r.unplaced.core <;> exact ⟨rfl, rfl⟩

/-- The core's configuration bytes are those that the first declaration of its address gives it. -/
theorem endsWithin_config_core_arranged (size : Nat) :
    (r.arranged declared).core.config.endsWithin size = true ↔
      ∀ d, Declaration.first? declared r.core.address = some d →
        d.config.endsWithin size = true := by
  by_cases h : declared = []
  · subst h
    exact ⟨fun _ d hd ↦ absurd hd (by simp [Declaration.first?]), fun _ ↦ rfl⟩
  · have hfree : declared.isEmpty = false := by simpa using h
    have hcore : (r.arranged declared).core =
        (judgeCore declared r.core).settleCore r.core.unplaced := by
      rw [arranged, hfree]
      rfl
    rw [hcore, judgeCore, first?_eq_map_declarationAt?]
    cases declarationAt? declared r.core.address with
    | none => exact ⟨fun _ d hd ↦ absurd hd (by simp), fun _ ↦ rfl⟩
    | some e =>
      constructor
      · rintro hconfig d hd
        obtain rfl := Option.some.inj hd
        exact hconfig
      · intro hall
        exact hall e.1 rfl

end Reconcile

/-- **What takes part lies in the image**, if the image has room for the core at its start: the
modules that take part, and the inputs and outputs of the core.  So every row that takes part fits
into the image exactly if the configuration bytes declared for the core lie there. -/
theorem fits_reconcile {r : Roster} (hin : r.core.identity.inputLength = CoreBlock.inputLength)
    (hout : r.core.identity.outputLength = CoreBlock.outputLength) (declared : List Declaration)
    {imageSize : Nat} (hsize : 11 ≤ imageSize) (status : Status) :
    let after := (r.reconcile declared imageSize status).1
    (∀ row ∈ after.modules, row.active = true → row.fits imageSize = true) ∧
      after.core.inputs.endsWithin imageSize = true ∧
      after.core.outputs.endsWithin imageSize = true ∧
      ((∀ row ∈ after.rows, row.active = true → row.fits imageSize = true) ↔
        ∀ d, Declaration.first? declared r.core.address = some d →
          d.config.endsWithin imageSize = true) := by
  intro after
  obtain ⟨hactive, hidentity⟩ := r.core_arranged declared
  have hroom : (r.arranged declared).core.identity.inputLength.toNat +
      (r.arranged declared).core.identity.outputLength.toNat ≤ imageSize := by
    rw [hidentity, hin, hout]
    exact hsize
  obtain ⟨hinputs, houtputs⟩ := endsWithin_core_confine hactive hroom
  have hmodules : ∀ row ∈ after.modules, row.active = true → row.fits imageSize = true :=
    fun _ hrow ha ↦ fits_of_mem_confine hrow ha
  have hcore : after.core.fits imageSize = true ↔
      ∀ d, Declaration.first? declared r.core.address = some d →
        d.config.endsWithin imageSize = true := by
    rw [← r.endsWithin_config_core_arranged declared, Row.fits_iff,
      ← config_core_confine (r.arranged declared) imageSize]
    exact ⟨fun h ↦ h.2.2, fun h ↦ ⟨hinputs, houtputs, h⟩⟩
  have hcoreActive : after.core.active = true :=
    (active_core_confine (r.arranged declared) imageSize).trans hactive
  refine ⟨hmodules, hinputs, houtputs, ?_⟩
  rw [← hcore, rows, List.forall_mem_cons]
  exact ⟨fun h ↦ h.1 hcoreActive, fun h ↦ ⟨fun _ ↦ h, hmodules⟩⟩

/-- Declarations that lead the core and one of the modules of `threeFound` out of an image of 64
bytes, and put configuration bytes of the core at its end. -/
def twoAstray : List Declaration :=
  [⟨.core, .core, 6, 5, 2, 0, 60, 70, 62, 0⟩, ⟨⟨32⟩, ⟨96⟩, 2, 2, 0, 0, 63, 20, 0, 0⟩,
    ⟨⟨31⟩, ⟨98⟩, 0, 2, 0, 0, 0, 30, 0, 0⟩]

/-- The core is back at the start, one module is left out, and another one takes part. -/
theorem fits_reconcile_twoAstray :
    threeFound.core.identity.inputLength = CoreBlock.inputLength ∧
      threeFound.core.identity.outputLength = CoreBlock.outputLength ∧ 11 ≤ 64 ∧
      (∀ row ∈ (threeFound.reconcile twoAstray 64 .empty).1.rows,
        row.active = true → row.fits 64 = true) ∧
      (threeFound.reconcile twoAstray 64 .empty).1.rows.map
          (fun row ↦ (row.address.value, row.active, row.inputOffset, row.outputOffset)) =
        [(0, true, 0, 6), (32, false, 63, 20), (33, false, 0, 0), (31, true, 0, 30)] := by
  refine ⟨rfl, rfl, by decide, ?_, by decide⟩
  have h := fits_reconcile (r := threeFound) rfl rfl twoAstray (show 11 ≤ 64 by decide) .empty
  exact h.2.2.2.mpr (by decide)

/-- A declaration of the core whose two configuration bytes begin with the last one of an image of
64 bytes. -/
def configAstray : List Declaration := [⟨.core, .core, 6, 5, 2, 0, 0, 6, 63, 0⟩]

/-- **The core can be left outside.**  Moving it to the start of the image does not move its
configuration bytes, so it takes part and does not fit. -/
theorem core_left_outside :
    ¬∀ (r : Roster) (declared : List Declaration) (imageSize : Nat) (status : Status),
      r.core.identity.inputLength = CoreBlock.inputLength →
        r.core.identity.outputLength = CoreBlock.outputLength → 11 ≤ imageSize →
          ∀ row ∈ (r.reconcile declared imageSize status).1.rows,
            row.active = true → row.fits imageSize = true := by
  intro h
  have hfits := h threeFound configAstray 64 .empty rfl rfl (by decide)
    (threeFound.reconcile configAstray 64 .empty).1.core List.mem_cons_self (by decide)
  exact absurd hfits (by decide)

end Roster

end RackBus
