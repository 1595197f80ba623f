import RackBus.Proofs.Anchor
import RackBus.Proofs.Lifecycle
import RackBus.Snapshot

/-!
# The error count is exact

The error count that can be seen from outside is set by polling alone, and cleared when the bridge
starts all over.  In between the rows come and go with the survey and the comparison, but none that
comes or goes has an error.

* `errorTotal` adds up the error counts of rows, and `Roster.Orderly.errorSum_le` bounds it for a
  roster: there are not more addresses than 254, and each counter stops at 255.
* `Bridge.CountsAll` is the invariant, with one lemma for each part of a cycle.
* `Bridge.CountsErrors` is what can be seen of it, and `Bridge.exact_count_run` says that it holds
  after every history, and that a cycle that polls leaves the same number in the image.
-/

set_option autoImplicit false

namespace RackBus

universe u

/-! ## Adding up -/

/-- The sum of the error counts of rows. -/
def errorTotal (rows : List Row) : Nat := (rows.map fun row ↦ row.errors.toNat).sum

theorem errorTotal_cons (row : Row) (rows : List Row) :
    errorTotal (row :: rows) = row.errors.toNat + errorTotal rows :=
  List.sum_cons

theorem errorTotal_append (rows more : List Row) :
    errorTotal (rows ++ more) = errorTotal rows + errorTotal more := by
  rw [errorTotal, List.map_append, List.sum_append]
  rfl

/-- Modules that were not found have no errors. -/
theorem errorTotal_of_isMissing {rows : List Row} (h : ∀ row ∈ rows, row.IsMissing) :
    errorTotal rows = 0 := by
  induction rows with
  | nil => rfl
  | cons row rest ih =>
    rw [List.forall_mem_cons] at h
    rw [errorTotal_cons, h.1.errors, ih h.2]
    rfl

/-- No counter goes beyond 255. -/
theorem errorTotal_le (rows : List Row) : errorTotal rows ≤ 255 * rows.length := by
  induction rows with
  | nil => exact Nat.le_refl 0
  | cons row rest ih =>
    have hrow : row.errors.toNat < 256 := row.errors.toNat_lt
    rw [errorTotal_cons, List.length_cons]
    omega

/-- The place of a row does not matter to its errors. -/
theorem errorTotal_of_unplaced {before after : List Row}
    (h : after.map Row.unplaced = before.map Row.unplaced) :
    errorTotal after = errorTotal before := by
  have hunplaced (rows : List Row) : errorTotal rows = errorTotal (rows.map Row.unplaced) := by
    rw [errorTotal, errorTotal, List.map_map]
    rfl
  rw [hunplaced, h, ← hunplaced]

namespace Roster

theorem errorSum_eq (r : Roster) : r.errorSum = errorTotal r.rows := by
  rw [errorSum, errorTotal, List.sum_eq_foldr, List.foldr_map]

variable {r : Roster} {settings : Settings} {survey : Survey} {t : Tally}

/-- Only the rows that were found can have errors. -/
theorem Orderly.errorSum_eq (h : r.Orderly settings survey t) :
    r.errorSum = errorTotal (r.core :: r.scannedOnly.modules) := by
  have hmissing : errorTotal (r.rows.drop r.scannedSize) = 0 := by
    rw [drop_rows_scannedSize h.scannedSize_pos]
    exact errorTotal_of_isMissing h.missing
  rw [Roster.errorSum_eq, ← List.take_append_drop r.scannedSize r.rows, errorTotal_append, hmissing,
    take_rows_scannedSize h.scannedSize_pos, Nat.add_zero]

/-- **The sum of all error counts** is far from the largest word: there are at most 254 addresses
for modules, and the core has a row as well. -/
theorem Orderly.errorSum_le (h : r.Orderly settings survey t) (hvalid : settings.Valid) :
    r.errorSum ≤ 255 * 255 := by
  have hlength : r.scannedOnly.modules.length = t.right + t.left := by
    have hnumbers := congrArg List.length h.numbers
    rw [List.length_map, found, List.length_map, length_allotted] at hnumbers
    exact hnumbers
  have hright : t.right ≤ 255 - settings.rightBase.number := h.allots.le .right
  have hleft : t.left ≤ settings.rightBase.number - 1 := h.allots.le .left
  have hbase := settings.rightBase.number_lt
  have hpos : 2 ≤ settings.rightBase.number := hvalid.two_le_rightBase
  have htotal := errorTotal_le (r.core :: r.scannedOnly.modules)
  rw [List.length_cons, hlength] at htotal
  rw [h.errorSum_eq]
  omega

/-- **The comparison with the declarations** loses no error and invents none. -/
theorem Orderly.errorSum_reconcile (h : r.Orderly settings survey t) (declared : List Declaration)
    (imageSize : Nat) (status : Status) :
    (r.reconcile declared imageSize status).1.errorSum = r.errorSum := by
  obtain ⟨rows, extra, hmodules, hrows, -, -⟩ :=
    exists_modules_reconcile h.scannedSize_le declared imageSize status
  have hcore := r.core_unplaced_reconcile declared imageSize status
  have hmissing : errorTotal (extra.map Row.missing) = 0 := by
    refine errorTotal_of_isMissing fun row hrow ↦ ?_
    obtain ⟨d, -, rfl⟩ := List.mem_map.mp hrow
    exact Row.isMissing_missing d
  have hfound : errorTotal ((r.reconcile declared imageSize status).1.core :: rows) =
      errorTotal (r.core :: r.scannedOnly.modules) := by
    refine errorTotal_of_unplaced ?_
    rw [List.map_cons, List.map_cons, hcore, hrows]
  rw [Roster.errorSum_eq, Roster.rows, hmodules, ← List.cons_append, errorTotal_append, hmissing,
    hfound, Nat.add_zero, h.errorSum_eq]

end Roster

/-- A step of the survey brings no error. -/
theorem Site.errorSum_step {σ : Type u} (site : Site σ) (rack : Rack σ) (settings : Settings)
    (now : UInt64) : (site.step rack settings now).2.roster.errorSum = site.roster.errorSum := by
  cases site.outcome_step rack settings now with
  | quiet roster _ => rw [roster]
  | enrolled side address identity _ _ roster _ =>
    rw [Roster.errorSum_eq, Roster.rows_append roster, errorTotal_append, Roster.errorSum_eq]
    rfl

/-! ## The invariant -/

namespace Bridge

variable {σ : Type u} {rack : Rack σ} {settings : Settings} {b : Bridge σ}

/-- The error count that is seen from outside is that of the roster. -/
structure CountsAll (b : Bridge σ) (settings : Settings) : Prop where
  orderly : b.IsOrderly settings
  errors : b.control.errors = clampWord b.roster.errorSum

theorem CountsAll.congr {after : Bridge σ} (h : b.CountsAll settings)
    (hfindings : after.findings = b.findings) (herrors : after.control.errors = b.control.errors) :
    after.CountsAll settings := by
  obtain ⟨-, hrest⟩ := Prod.mk.inj hfindings
  obtain ⟨-, hroster⟩ := Prod.mk.inj hrest
  refine ⟨h.orderly.congr hfindings, ?_⟩
  rw [herrors, h.errors, hroster]

/-- Starting all over leaves no row but the core's, and no error. -/
theorem CountsAll.restart (h : b.CountsAll settings) (hvalid : settings.Valid) :
    (b.restart rack).2.CountsAll settings where
  orderly := h.orderly.restart rack hvalid
  errors := by
    rw [restart_eq]
    split <;> rfl

theorem CountsAll.surveyed (h : b.CountsAll settings) (now : UInt64) :
    (b.surveyed rack now).CountsAll settings where
  orderly := h.orderly.surveyed rack now
  errors := by
    have hsum : (b.surveyed rack now).roster.errorSum = b.roster.errorSum :=
      b.site.errorSum_step rack b.settings now
    rw [hsum]
    exact h.errors

theorem CountsAll.endSurvey (h : b.CountsAll settings) (hfinished : b.survey.phase = .finished) :
    (b.endSurvey rack).CountsAll settings where
  orderly := h.orderly.endSurvey rack hfinished
  errors := by
    obtain ⟨-, t, horderly⟩ := h.orderly
    have hsum : (b.endSurvey rack).roster.errorSum = b.roster.errorSum :=
      horderly.errorSum_reconcile b.declared b.image.size b.control.status
    rw [hsum]
    exact h.errors

/-- **A round of polling** counts all rows anew. -/
theorem CountsAll.poll (h : b.CountsAll settings) (now : UInt64) :
    (b.poll rack now).CountsAll settings where
  orderly := h.orderly.poll rack now
  errors := by
    cases hcore : b.core with
    | none =>
      rw [b.poll_of_core_eq_none rack hcore now]
      exact h.errors
    | some core =>
      rw [b.poll_eq rack hcore now]
      exact b.polled.errors_cycle rack b.settings.rightBase core now

theorem CountsAll.work (h : b.CountsAll settings) (now : UInt64) :
    (b.work rack now).CountsAll settings :=
  b.work_keeps rack (P := fun c ↦ c.CountsAll settings) (h.surveyed now)
    (fun hended ↦ (h.surveyed now).endSurvey (b.site.finished_of_step hended).1)
    fun _ hc ↦ hc.poll now

theorem CountsAll.perform (h : b.CountsAll settings) (hvalid : settings.Valid) (o : Operation) :
    (b.perform rack o).CountsAll settings := by
  refine b.perform_keeps rack (P := fun c ↦ c.CountsAll settings) (fun _ _ _ hc ↦ hc.congr rfl rfl)
    (fun _ _ _ hc ↦ hc.congr rfl rfl) (fun _ hc ↦ hc.congr rfl rfl)
    (fun _ hc ↦ hc.restart hvalid) ?_ (fun _ now _ hc ↦ hc.work now) ?_ h o
  · intro c _ hc
    obtain ⟨bus, hmaintenance⟩ := c.performMaintenance_eq rack
    rw [hmaintenance]
    exact hc.congr rfl rfl
  · intro c hc
    obtain ⟨status, bus, image, shownLamps, hshown, -⟩ := c.shown_eq rack
    rw [hshown]
    exact hc.congr rfl rfl

theorem countsAll_run {state : σ} (hb : start rack state settings = .ok b)
    (operations : List Operation) : (b.run rack operations).CountsAll settings := by
  obtain ⟨hvalid, horderly⟩ := isOrderly_start rack hb
  have hstart : b.CountsAll settings := by
    refine ⟨horderly, ?_⟩
    obtain ⟨declared, -, rfl⟩ := eq_of_start hb
    rfl
  exact run_invariant (P := fun c ↦ c.CountsAll settings) (fun _ o hc ↦ hc.perform hvalid o) hstart
    operations

/-! ## What can be seen -/

/-- The error count of a bridge is exact wherever it can be seen. -/
structure CountsErrors (b : Bridge σ) : Prop where
  /-- It is the sum over all rows. -/
  total : b.control.errors.toNat = (b.roster.rows.map fun row ↦ row.errors.toNat).sum
  /-- This sum is far below the largest word, so that nothing is clamped. -/
  fits : (b.roster.rows.map fun row ↦ row.errors.toNat).sum ≤ 255 * 255
  /-- A snapshot shows the same number, and the errors it shows of the rows add up to it. -/
  snapshot : (Snapshot.capture b).errors.toNat =
    ((Snapshot.capture b).devices.map fun v ↦ v.row.errors.toNat).sum

theorem CountsAll.countsErrors (h : b.CountsAll settings) (hvalid : settings.Valid) :
    b.CountsErrors := by
  obtain ⟨-, t, horderly⟩ := h.orderly
  have hfits := horderly.errorSum_le hvalid
  have hsum : b.roster.errorSum = (b.roster.rows.map fun row ↦ row.errors.toNat).sum :=
    b.roster.errorSum_eq
  have htotal : b.control.errors.toNat = b.roster.errorSum := by
    rw [h.errors, toNat_clampWord]
    omega
  have hdevices : (Snapshot.capture b).devices.map (fun v ↦ v.row.errors.toNat) =
      b.roster.rows.map fun row ↦ row.errors.toNat := by
    have hrows := List.zipIdx_map_fst 0 b.roster.rows
    rw [Snapshot.capture, List.map_map, ← hrows, List.map_map, hrows]
    rfl
  refine ⟨htotal.trans hsum, hsum ▸ hfits, ?_⟩
  rw [hdevices, ← hsum, ← htotal]
  rfl

/-- **A cycle that polls** leaves the error count in the image. -/
theorem Anchored.readErrors_runCycle (h : b.Anchored rack settings) (hvalid : settings.Valid)
    (hrack : rack.KeepsSize) {now : UInt64} {c : Bridge σ} {core : CoreBlock}
    (hpolling : b.polling? rack now = some (c, core)) :
    core.readErrors (b.runCycle rack now).image = .ok (b.runCycle rack now).control.errors := by
  obtain ⟨hcore, hworked⟩ := worked_of_polling? hpolling
  have hlies : core.LiesIn (c.polled.swept rack c.settings.rightBase).size := by
    rw [c.polled.size_swept c.settings.rightBase hrack]
    exact (h.polling? hvalid hpolling).liesIn hvalid hrack hcore
  have herrors : (b.runCycle rack now).control.errors =
      (c.polled.cycle rack c.settings.rightBase core now).1.errors := by
    obtain ⟨status, bus, image, shownLamps, hshown, -⟩ := (b.worked rack now).shown_eq rack
    rw [runCycle_eq_worked, hshown, hworked, c.poll_eq rack hcore]
    rfl
  rw [image_runCycle (core_worked_of_polling? hpolling), CoreBlock.readErrors_writeStatus, hworked,
    c.poll_eq rack hcore, herrors]
  exact c.polled.readErrors_cycle rack c.settings.rightBase core now hlies

/-- **The error count is exact** after every history, whatever the rack does.  A cycle that polls
shows the same number among the core's bytes, if the drivers leave the size of the image alone. -/
theorem exact_count_run {state : σ} (hb : start rack state settings = .ok b)
    (operations : List Operation) :
    (b.run rack operations).CountsErrors ∧
      ∀ now c core, rack.KeepsSize → (b.run rack operations).polling? rack now = some (c, core) →
        let after := (b.run rack operations).runCycle rack now
        after.core = some core ∧ after.CountsErrors ∧
          core.readErrors after.image = .ok after.control.errors := by
  obtain ⟨hvalid, -⟩ := anchored_start hb
  refine ⟨(countsAll_run hb operations).countsErrors hvalid, fun now c core hrack hpolling ↦ ?_⟩
  have hafter : ((b.run rack operations).runCycle rack now).CountsAll settings :=
    (countsAll_run hb operations).perform hvalid (.cycle now)
  refine ⟨?_, hafter.countsErrors hvalid, ?_⟩
  · rw [core_runCycle, core_worked_of_polling? hpolling]
  · exact (anchored_run hb operations).readErrors_runCycle hvalid hrack hpolling

/-- Four exchanges with a module have failed, and the next cycle counts the fifth one. -/
theorem exact_count_run_pollingHistory :
    ∃ b, start Chains.rack failingModule .usual = .ok b ∧
      (let c := b.run Chains.rack pollingHistory
      (c.CountsErrors ∧ ∀ now d core, Chains.rack.KeepsSize →
        c.polling? Chains.rack now = some (d, core) →
          let after := c.runCycle Chains.rack now
          after.core = some core ∧ after.CountsErrors ∧
            core.readErrors after.image = .ok after.control.errors) ∧
        Chains.rack.KeepsSize ∧ c.control.errors = 4 ∧
        (c.polling? Chains.rack 750000).isSome = true ∧
        (c.runCycle Chains.rack 750000).control.errors = 5) :=
  ⟨_, rfl, exact_count_run (show start Chains.rack failingModule .usual = _ from rfl)
    pollingHistory, Chains.rack_keepsSize, by decide +kernel, by decide +kernel,
    by decide +kernel⟩

end Bridge

end RackBus
