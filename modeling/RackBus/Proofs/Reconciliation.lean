import RackBus.Proofs.Declared

/-!
# What reconciliation makes of a roster

`Roster.reconcile` goes over the rows several times: it forgets their places, compares them with
the declarations, adds rows for what is missing, and takes out what does not fit into the image.
This file says what comes out in the end, row by row.

* `Row.Settled` relates a module's row to the row it becomes: it takes part exactly if the first
  declaration of its address describes it and leads to bytes inside the image, and it then has the
  place this declaration gives it.
* `Row.StandsFor` describes the row of a declaration that nobody has taken.
* `Roster.Reconciled` is the whole roster, and `reconciled_reconcile` the statement that this is
  what reconciliation does, whatever the roster, the declarations and the image.
-/

set_option autoImplicit false

namespace RackBus

/-! ## The pieces -/

/-- Is this the place a declaration gives? -/
structure Row.IsPlacedBy (row : Row) (d : Declaration) : Prop where
  inputOffset : row.inputOffset = d.inputOffset
  outputOffset : row.outputOffset = d.outputOffset
  configOffset : row.configOffset = d.configOffset
  configLength : row.configLength = d.configLength

/-- The row `after` is what becomes of the row `before` of a module. -/
structure Row.Settled (declared : List Declaration) (imageSize : Nat) (before after : Row) :
    Prop where
  /-- The address is the same. -/
  address : after.address = before.address
  /-- The identity is the same. -/
  identity : after.identity = before.identity
  /-- The error count is the same. -/
  errors : after.errors = before.errors
  /-- It takes part exactly if the first declaration of its address describes it and leads to bytes
  inside the image. -/
  active_iff : after.active = true ↔
    ∃ d, Declaration.first? declared before.address = some d ∧ d.Describes before.identity ∧
      ∀ region ∈ d.regions, region.endsWithin imageSize = true
  /-- If it takes part, it has the place that declaration gives it. -/
  placed : after.active = true →
    ∃ d, Declaration.first? declared before.address = some d ∧ after.IsPlacedBy d

/-- The row of a declaration that nobody has taken. -/
structure Row.StandsFor (row : Row) (d : Declaration) : Prop where
  /-- It takes no part in the cyclic exchange. -/
  inactive : row.active = false
  /-- Its type is the declared one with the mark of a module that was not found. -/
  type : row.identity.type = d.type.absent
  address : row.address = d.address
  serial : row.identity.serial = d.serial
  inputLength : row.identity.inputLength = d.inputLength
  outputLength : row.identity.outputLength = d.outputLength
  place : row.IsPlacedBy d
  /-- It has no error. -/
  errors : row.errors = 0

/-- The roster `after` is what becomes of the roster `before`. -/
structure Roster.Reconciled (declared : List Declaration) (imageSize : Nat)
    (before after : Roster) : Prop where
  /-- The number of rows the survey found is fixed. -/
  scanned : after.scanned = some before.scannedSize
  /-- The core takes part. -/
  core_active : after.core.active = true
  core_address : after.core.address = before.core.address
  core_identity : after.core.identity = before.core.identity
  core_errors : after.core.errors = before.core.errors
  /-- The modules the survey found are all there, in the same order, each settled. -/
  modules : List.Forall₂ (Row.Settled declared imageSize) before.scannedOnly.modules
    (after.modules.take before.scannedOnly.modules.length)
  /-- Behind them come the declarations nobody has taken, as many as there is room for. -/
  added : List.Forall₂ Row.StandsFor
    (after.modules.drop before.scannedOnly.modules.length)
    ((leftOver before.scannedOnly [] declared).take (before.capacity - before.scannedOnly.size))

/-! ## One row -/

/-- The row of a module as reconciliation leaves it. -/
def Row.reconciled (declared : List Declaration) (imageSize : Nat) (row : Row) : Row :=
  let placed := (judge declared row.unplaced).settle row.unplaced
  if Roster.sticksOut imageSize placed then placed.deactivate else placed

@[simp] theorem judge_unplaced (declared : List Declaration) (row : Row) :
    judge declared row.unplaced = judge declared row := rfl

/-- A row fits if all three of its regions end inside the image. -/
theorem Row.fits_iff {row : Row} {size : Nat} :
    row.fits size = true ↔ row.inputs.endsWithin size = true ∧
      row.outputs.endsWithin size = true ∧ row.config.endsWithin size = true := by
  simp only [fits, regions, List.all_cons, List.all_nil, Bool.and_true, Bool.and_eq_true]

/-- A row at its declared place fits into the image if the declared bytes lie there. -/
theorem fits_place_iff {row : Row} {d : Declaration} {imageSize : Nat}
    (h : d.Describes row.identity) :
    (row.place d).fits imageSize = true ↔
      ∀ region ∈ d.regions, region.endsWithin imageSize = true := by
  obtain ⟨-, hin, hout⟩ := h
  simp only [Row.fits, Row.regions, Row.inputs, Row.outputs, Row.config, Row.place,
    Declaration.regions, hin, hout, List.all_eq_true]

/-- A module that no declaration fits takes no part and has no place. -/
theorem reconciled_of_isMatched_eq_false {declared : List Declaration} {row : Row}
    (h : (judge declared row).isMatched = false) (imageSize : Nat) :
    row.reconciled declared imageSize = row.unplaced.deactivate := by
  rw [Row.reconciled, judge_unplaced]
  cases hj : judge declared row with
  | matched d position =>
    rw [hj] at h
    exact absurd h (by simp [Verdict.isMatched, Verdict.position?])
  | different kind expected found => rfl
  | undeclared => rfl

theorem reconciled_of_judge_eq_matched {declared : List Declaration} {row : Row}
    {d : Declaration} {position : Nat} (h : judge declared row = .matched d position)
    (imageSize : Nat) :
    row.reconciled declared imageSize =
      if (row.unplaced.place d).fits imageSize then row.unplaced.place d
      else (row.unplaced.place d).deactivate := by
  have hactive : Roster.sticksOut imageSize (row.unplaced.place d) =
      !(row.unplaced.place d).fits imageSize := rfl
  rw [Row.reconciled, judge_unplaced, h, Verdict.settle, hactive]
  cases (row.unplaced.place d).fits imageSize <;> rfl

/-- **What becomes of a module's row.** -/
theorem settled_reconciled (declared : List Declaration) (imageSize : Nat) (row : Row) :
    Row.Settled declared imageSize row (row.reconciled declared imageSize) := by
  cases hm : (judge declared row).isMatched with
  | false =>
    have hnone (d : Declaration) :
        ¬(Declaration.first? declared row.address = some d ∧ d.Describes row.identity) := by
      rw [← exists_judge_eq_matched_iff]
      rintro ⟨position, hj⟩
      rw [hj] at hm
      exact absurd hm (by simp [Verdict.isMatched, Verdict.position?])
    rw [reconciled_of_isMatched_eq_false hm]
    refine ⟨rfl, rfl, rfl, ⟨fun h ↦ absurd h (by simp [Row.deactivate]), ?_⟩,
      fun h ↦ absurd h (by simp [Row.deactivate])⟩
    rintro ⟨d, hd, hdesc, -⟩
    exact absurd ⟨hd, hdesc⟩ (hnone d)
  | true =>
    obtain ⟨position, hp⟩ := Option.isSome_iff_exists.mp hm
    obtain ⟨d, hj⟩ := Verdict.position?_eq_some_iff.mp hp
    obtain ⟨hd, hdesc⟩ := exists_judge_eq_matched_iff.mp ⟨position, hj⟩
    have hfits : (row.unplaced.place d).fits imageSize = true ↔ _ := fits_place_iff hdesc
    rw [reconciled_of_judge_eq_matched hj]
    split
    · rename_i hf
      exact ⟨rfl, rfl, rfl, ⟨fun _ ↦ ⟨d, hd, hdesc, hfits.mp hf⟩, fun _ ↦ rfl⟩,
        fun _ ↦ ⟨d, hd, rfl, rfl, rfl, rfl⟩⟩
    · rename_i hf
      refine ⟨rfl, rfl, rfl, ⟨fun h ↦ absurd h (by simp [Row.deactivate]), ?_⟩,
        fun h ↦ absurd h (by simp [Row.deactivate])⟩
      rintro ⟨d', hd', -, hin⟩
      obtain rfl := Option.some.inj (hd.symm.trans hd')
      exact absurd (hfits.mpr hin) hf

/-- **The row of a declaration that nobody has taken.** -/
theorem standsFor_missing (d : Declaration) : (Row.missing d).StandsFor d :=
  ⟨rfl, rfl, rfl, rfl, rfl, rfl, ⟨rfl, rfl, rfl, rfl⟩, rfl⟩

/-! ## The whole roster -/

namespace Roster

theorem takes_unplaced_iff (r : Roster) (d : Declaration) :
    r.unplaced.Takes d ↔ r.scannedOnly.Takes d := by
  simp only [Takes, unplaced, List.mem_map, exists_exists_and_eq_and]
  rfl

theorem leftOver_congr {r s : Roster} (h : ∀ d, r.Takes d ↔ s.Takes d) (earlier : List Address)
    (declared : List Declaration) : leftOver r earlier declared = leftOver s earlier declared := by
  induction declared generalizing earlier with
  | nil => rfl
  | cons d rest ih =>
    rw [leftOver, leftOver, ih]
    simp only [h]

/-- What nobody has claimed does not depend on the places of the rows. -/
theorem unclaimed_unplaced (r : Roster) (declared : List Declaration) :
    r.unplaced.unclaimed declared = leftOver r.scannedOnly [] declared := by
  rw [unclaimed_eq_leftOver, leftOver_congr (takes_unplaced_iff r)]

/-- The modules after reconciliation: those that were found, then those that are missing. -/
theorem modules_reconcile (r : Roster) {declared : List Declaration} (h : declared ≠ [])
    (imageSize : Nat) (status : Status) :
    (r.reconcile declared imageSize status).1.modules =
      r.scannedOnly.modules.map (Row.reconciled declared imageSize) ++
        ((leftOver r.scannedOnly [] declared).take (r.capacity - r.scannedOnly.size)).map
          Row.missing := by
  have hfree : declared.isEmpty = false := by simpa using h
  have hsize : r.unplaced.size = r.scannedOnly.size := by simp [size, unplaced]
  have hmodules : (r.reconcile declared imageSize status).1.modules =
      ((r.unplaced.matched declared).confine imageSize).modules := by
    simp only [reconcile, hfree, Bool.false_eq_true, if_false]
  rw [hmodules, confine, matched, hsize, unclaimed_unplaced, List.map_append, unplaced, List.map_map,
    List.map_map, List.map_map]
  rfl

/-- The core after reconciliation: at its declared place, or at the start of the image. -/
theorem core_reconcile (r : Roster) {declared : List Declaration} (h : declared ≠ [])
    (imageSize : Nat) (status : Status) :
    let placed := (judgeCore declared r.core).settleCore r.core.unplaced
    (r.reconcile declared imageSize status).1.core =
      if sticksOut imageSize placed then placed.atStart else placed := by
  have hfree : declared.isEmpty = false := by simpa using h
  simp only [reconcile, hfree, Bool.false_eq_true, if_false]
  rfl

/-- Wherever the core is put, it takes part and stays the same device. -/
theorem core_settleCore (v : Verdict) (core : Row) (imageSize : Nat) :
    let placed := v.settleCore core.unplaced
    let after := if sticksOut imageSize placed then placed.atStart else placed
    after.active = true ∧ after.address = core.address ∧ after.identity = core.identity ∧
      after.errors = core.errors := by
  intro placed after
  have hplaced : placed.active = true ∧ placed.address = core.address ∧
      placed.identity = core.identity ∧ placed.errors = core.errors := by
    cases v <;> exact ⟨rfl, rfl, rfl, rfl⟩
  by_cases h : sticksOut imageSize placed = true
  · have hafter : after = placed.atStart := if_pos h
    rw [hafter]
    exact hplaced
  · have hafter : after = placed := if_neg h
    rw [hafter]
    exact hplaced

/-- The report, given any declarations. -/
theorem report_reconcile (r : Roster) {declared : List Declaration} (h : declared ≠ [])
    (imageSize : Nat) (status : Status) :
    let laidOut := r.unplaced.matched declared
    (r.reconcile declared imageSize status).2.2 =
      { matched := (r.unplaced.claimed declared).length
        extra := (r.unplaced.verdicts declared).countP fun v ↦ !v.isMatched
        missing := (leftOver r.scannedOnly [] declared).length
        issues := r.unplaced.mismatches declared ++
          (laidOut.outside imageSize).map Issue.outsideImage ++
            (laidOut.confine imageSize).clash?.toList.map fun e ↦ Issue.overlap e.1 e.2
        core := (laidOut.confine imageSize).coreBlock } := by
  have hfree : declared.isEmpty = false := by simpa using h
  simp only [reconcile, hfree, Bool.false_eq_true, if_false, unclaimed_unplaced]
  cases ((r.unplaced.matched declared).confine imageSize).clash? <;> rfl

theorem scanned_reconcile (r : Roster) (declared : List Declaration) (imageSize : Nat)
    (status : Status) : (r.reconcile declared imageSize status).1.scanned = some r.scannedSize := by
  simp only [reconcile]
  split <;> rfl

/-- **What reconciliation makes of a roster**, given any declarations. -/
theorem reconciled_reconcile (r : Roster) {declared : List Declaration} (h : declared ≠ [])
    (imageSize : Nat) (status : Status) :
    Reconciled declared imageSize r (r.reconcile declared imageSize status).1 := by
  have hmodules := modules_reconcile r h imageSize status
  obtain ⟨hactive, haddress, hidentity, herrors⟩ :=
    core_settleCore (judgeCore declared r.core) r.core imageSize
  have hcore := core_reconcile r h imageSize status
  refine ⟨scanned_reconcile r declared imageSize status, ?_, ?_, ?_, ?_, ?_, ?_⟩
  · rw [hcore, hactive]
  · rw [hcore, haddress]
  · rw [hcore, hidentity]
  · rw [hcore, herrors]
  · rw [hmodules, List.take_left' (List.length_map ..), List.forall₂_map_right_iff]
    exact List.forall₂_same.mpr fun row _ ↦ settled_reconciled declared imageSize row
  · rw [hmodules, List.drop_left' (List.length_map ..), List.forall₂_map_left_iff]
    exact List.forall₂_same.mpr fun d _ ↦ standsFor_missing d

/-- A roster of three modules with room for two more rows. -/
def threeFound : Roster where
  core := .fresh .core ⟨0, .core, 0, 0, 0, 0, 6, 5, 0⟩
  modules :=
    [.fresh ⟨32⟩ ⟨0, ⟨96⟩, 0, 0, 0, 0, 2, 2, 0⟩, .fresh ⟨33⟩ ⟨0, ⟨97⟩, 0, 0, 0, 0, 2, 0, 0⟩,
      .fresh ⟨31⟩ ⟨0, ⟨98⟩, 0, 0, 0, 0, 0, 2, 0⟩]
  capacity := 6
  scanned := none

/-- Declarations that fit the first module of `threeFound`, name its address once more, differ from
the second one, lead the third one out of an image of 64 bytes, and ask for a fourth one. -/
def fiveDeclared : List Declaration :=
  [⟨⟨32⟩, ⟨96⟩, 2, 2, 0, 0, 11, 13, 0, 0⟩, ⟨⟨32⟩, ⟨96⟩, 2, 2, 0, 0, 20, 22, 0, 7⟩,
    ⟨⟨33⟩, ⟨97⟩, 4, 0, 0, 0, 24, 0, 0, 8⟩, ⟨⟨31⟩, ⟨98⟩, 0, 2, 0, 0, 0, 63, 0, 0⟩,
    ⟨⟨40⟩, ⟨96⟩, 2, 2, 0, 0, 30, 32, 0, 9⟩]

/-- One module takes part, two are left out, and there is room for two of the three declarations
that nobody has taken. -/
theorem reconciled_reconcile_threeFound :
    fiveDeclared ≠ [] ∧
      Reconciled fiveDeclared 64 threeFound (threeFound.reconcile fiveDeclared 64 .empty).1 ∧
      (threeFound.reconcile fiveDeclared 64 .empty).1.modules.map
          (fun row ↦ (row.address.value, row.active, row.inputOffset, row.identity.serial)) =
        [(32, true, 11, 0), (33, false, 0, 0), (31, false, 0, 0), (32, false, 20, 7),
          (33, false, 24, 8)] :=
  ⟨by decide, reconciled_reconcile threeFound (by decide) 64 .empty, by decide⟩

end Roster

end RackBus
