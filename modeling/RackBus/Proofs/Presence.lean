import RackBus.Snapshot
import RackBus.Proofs.Dialogue
import RackBus.Proofs.RosterHistory

/-!
# Which modules a snapshot shows as connected

Nothing in a row says whether its module was found.  A reader can tell it from the index, as the
rows that a survey has found come first.  A snapshot tells it from the type code instead: it shows a
row as connected if the code lacks the mark of a module that was not found.  This file compares the
two, after every history of a bridge.

* `ModuleType.isAbsent_iff` says which codes carry the mark: those from 32768 on.
* `Bridge.HasEnrolled` ties the rows of the modules that were found to the trace: what such a row
  says about its module is what the module said when it was enrolled (`HasEnrolled.perform`).
* `Bridge.ShowsPresence` is what a snapshot says then.  Rows of modules that were not found are
  never shown as connected, and those of modules that were found are, unless the module itself
  reports a code with the mark.
-/

set_option autoImplicit false

namespace RackBus

universe u

/-- **The mark** is the highest bit of a code. -/
theorem ModuleType.isAbsent_iff (t : ModuleType) : t.isAbsent = true ↔ absentMark ≤ t.code := by
  rw [isAbsent, and_bne_zero t.code absentMark 15 rfl, UInt16.le_iff_toNat_le]
  constructor
  · exact Nat.ge_two_pow_of_testBit
  · exact fun h ↦ Nat.testBit_of_two_pow_le_and_two_pow_add_one_gt h t.code.toNat_lt

theorem RowView.connected_iff (v : RowView) :
    v.connected = true ↔ v.row.identity.type.code < ModuleType.absentMark := by
  rw [connected, Bool.not_eq_true', ← Bool.not_eq_true, ModuleType.isAbsent_iff,
    UInt16.not_le]

/-! ## Enrolments in a growing trace -/

/-- What is completed stays completed. -/
theorem completed_subset_append (queries more : List Query) :
    completed queries ⊆ completed (queries ++ more) := by
  induction queries with
  | nil => exact List.nil_subset _
  | cons first rest ih =>
    have hfirst : (completed? (first :: rest)).toList ⊆
        (completed? (first :: (rest ++ more))).toList := by
      match rest with
      | [] => exact List.nil_subset _
      | [_] => exact List.nil_subset _
      | _ :: _ :: _ => exact List.Subset.refl _
    rw [List.cons_append, completed_cons, completed_cons]
    exact List.append_subset.mpr ⟨List.Subset.trans hfirst (List.subset_append_left _ _),
      List.Subset.trans ih (List.subset_append_right _ _)⟩

/-! ## Rows by their index -/

namespace Roster

variable {r : Roster} {index : Nat} {row : Row}

/-- While the number of rows is open, more rows are more modules that were found. -/
theorem found_append_of_open (h : r.scanned = none) (rows : List Row) :
    { r with modules := r.modules ++ rows }.found = r.found ++ rows.map Row.device := by
  rw [(found_of_open h).1, ← List.map_append]
  exact (found_of_open (r := { r with modules := r.modules ++ rows }) h).1

/-- Behind the core's row are those of the modules. -/
theorem getElem?_modules_of_row? (h : r.row? index = some row) (hzero : index ≠ 0) :
    r.modules[index - 1]? = some row := by
  obtain ⟨i, rfl⟩ := Nat.exists_eq_succ_of_ne_zero hzero
  exact h

theorem device_mem_found (h : r.row? index = some row) (hzero : index ≠ 0)
    (hlt : index < r.scannedSize) : row.device ∈ r.found := by
  refine List.mem_map_of_mem (List.mem_of_getElem? (i := index - 1) ?_)
  rw [List.getElem?_take_of_lt (by omega), getElem?_modules_of_row? h hzero]

theorem Orderly.isMissing {settings : Settings} {survey : Survey} {t : Tally}
    (horder : r.Orderly settings survey t) (h : r.row? index = some row)
    (hle : r.scannedSize ≤ index) : row.IsMissing := by
  have hpos := horder.scannedSize_pos
  refine horder.missing row (List.mem_of_getElem? (i := index - r.scannedSize) ?_)
  rw [List.getElem?_drop, show r.scannedSize - 1 + (index - r.scannedSize) = index - 1 by omega,
    getElem?_modules_of_row? h (by omega)]

end Roster

namespace Bridge

variable {σ : Type u}

/-- What the rows of the modules that were found say, the modules have said when they were
enrolled. -/
def HasEnrolled (b : Bridge σ) : Prop :=
  ∀ e ∈ b.roster.found, (e.1, .ok e.2) ∈ completed (queriesIn b.bus.trace)

section Steps

variable {b b' : Bridge σ} {settings : Settings} {rack : Rack σ}

/-- Where nothing else is found, the trace only grows. -/
theorem HasEnrolled.of_asks (h : b.HasEnrolled) {P : Event → Prop}
    (hbus : Bus.Asks rack P b.bus b'.bus) (hfound : b'.roster.found = b.roster.found) :
    b'.HasEnrolled := by
  obtain ⟨events, htrace, -⟩ := hbus.exists_trace_eq
  intro e he
  rw [hfound] at he
  rw [htrace, queriesIn_append]
  exact completed_subset_append _ _ (h e he)

variable (b rack)

theorem found_restart : (b.restart rack).2.roster.found = [] :=
  congrArg (fun findings ↦ findings.2.2.found) (b.findings_restart rack)

theorem found_of_findings_eq (h : b'.findings = b.findings) :
    b'.roster.found = b.roster.found :=
  congrArg (fun findings ↦ findings.2.2.found) h

variable {b}

/-- **A step of a survey** finds what it enrols. -/
theorem HasEnrolled.surveyed (h : b.HasEnrolled) (horder : b.IsOrderly settings) (now : UInt64) :
    (b.surveyed rack now).HasEnrolled := by
  obtain ⟨-, t, horder⟩ := horder
  obtain ⟨events, htrace, hadmits⟩ := b.site.admits_step rack b.settings now
  rcases horder.scanned with hfinished | hopen
  · -- the survey is over, and nothing is asked any more
    have hsilent : queriesIn events = [] := by
      by_contra hasks
      obtain ⟨side, address, hphase, -⟩ := hadmits.asks_iff.mp hasks
      exact absurd (hfinished.symm.trans hphase) (by simp)
    have hroster : (b.surveyed rack now).roster = b.roster :=
      (hadmits.fails (by rw [hsilent, completed_nil])).1
    exact h.of_asks (b.works_surveyed rack now) (by rw [hroster])
  · obtain ⟨found, hcompleted, hroster⟩ := hadmits.exists_found
    have hroster : (b.surveyed rack now).roster = { b.roster with
        modules := b.roster.modules ++ found.map fun e ↦ .fresh e.1 e.2 } := hroster
    have hfound : (b.surveyed rack now).roster.found = b.roster.found ++ found := by
      rw [hroster, Roster.found_append_of_open hopen, List.map_map]
      exact congrArg _ (List.map_id found)
    have htrace : (b.surveyed rack now).bus.trace = b.bus.trace ++ events := htrace
    intro e he
    rw [hfound, List.mem_append] at he
    rw [htrace, queriesIn_append, completed_append _ hadmits.command_head, hcompleted,
      List.mem_append]
    exact he.imp (h e) fun he ↦ List.mem_map.mpr ⟨e, he, rfl⟩

theorem HasEnrolled.endSurvey (h : b.HasEnrolled) (horder : b.IsOrderly settings) :
    (b.endSurvey rack).HasEnrolled := by
  obtain ⟨-, t, horder⟩ := horder
  exact h.of_asks (b.works_endSurvey rack)
    (Roster.found_reconcile horder.scannedSize_le b.declared b.image.size b.control.status)

theorem HasEnrolled.poll (h : b.HasEnrolled) (now : UInt64) : (b.poll rack now).HasEnrolled :=
  h.of_asks (b.works_poll rack now) (b.roster_poll rack now).2.2

/-- **A cycle of work.** -/
theorem HasEnrolled.work (h : b.HasEnrolled) (horder : b.IsOrderly settings) (now : UInt64) :
    (b.work rack now).HasEnrolled := by
  have hsurveyed := h.surveyed rack horder now
  refine b.work_keeps rack (P := HasEnrolled) hsurveyed (fun _ ↦ ?_) fun c hc ↦ hc.poll rack now
  exact hsurveyed.endSurvey rack (horder.surveyed rack now)

/-- Every operation keeps the rows and the trace together. -/
theorem HasEnrolled.perform (hv : settings.Valid) (horder : b.IsOrderly settings)
    (h : b.HasEnrolled) (o : Operation) :
    (b.perform rack o).IsOrderly settings ∧ (b.perform rack o).HasEnrolled := by
  refine b.perform_keeps rack (P := fun c ↦ c.IsOrderly settings ∧ c.HasEnrolled)
    (fun _ _ _ hc ↦ hc) (fun _ _ _ hc ↦ hc) (fun _ hc ↦ hc) ?_ ?_ ?_ ?_ ⟨horder, h⟩ o
  · rintro c ⟨hc, -⟩
    refine ⟨hc.restart rack hv, fun e he ↦ ?_⟩
    rw [c.found_restart rack] at he
    exact absurd he List.not_mem_nil
  · rintro c - ⟨hc, hrows⟩
    have hfindings := c.findings_performMaintenance rack
    exact ⟨hc.congr hfindings,
      hrows.of_asks (c.works_performMaintenance rack) (c.found_of_findings_eq hfindings)⟩
  · rintro c now - ⟨hc, hrows⟩
    exact ⟨hc.work rack now, hrows.work rack hc now⟩
  · rintro c ⟨hc, hrows⟩
    have hfindings := c.findings_shown rack
    exact ⟨hc.congr hfindings, hrows.of_asks (c.works_shown rack) (c.found_of_findings_eq hfindings)⟩

/-- A new bridge has not found anything. -/
theorem hasEnrolled_start {state : σ} (hb : start rack state settings = .ok b) :
    b.HasEnrolled := by
  obtain ⟨declared, -, rfl⟩ := eq_of_start hb
  exact fun e he ↦ absurd he List.not_mem_nil

end Steps

/-! ## Snapshots -/

/-- What a snapshot says about the presence of modules, for a bridge whose survey has found the
first `n` rows. -/
structure ShowsPresence (b : Bridge σ) (n : Nat) : Prop where
  /-- There is one line for every row, in order. -/
  indices : (Snapshot.capture b).devices.map RowView.index = List.range b.roster.size
  rows : ∀ v ∈ (Snapshot.capture b).devices, b.roster.row? v.index = some v.row
  /-- The core is the first row that was found. -/
  pos : 0 < n
  le : n ≤ b.roster.size
  core : ∀ v ∈ (Snapshot.capture b).devices, v.index = 0 → v.row.identity.type = .core
  /-- Any other row that was found is that of a module that was enrolled under its address, and it
  shows what this module has said about itself. -/
  enrolled : ∀ v ∈ (Snapshot.capture b).devices, v.index ≠ 0 → v.index < n →
    (v.row.address, .ok v.row.identity) ∈ completed (queriesIn b.bus.trace)
  /-- A row is shown as connected exactly if it was found and has a code without the mark. -/
  connected_iff : ∀ v ∈ (Snapshot.capture b).devices,
    v.connected = true ↔ v.index < n ∧ v.row.identity.type.code < 0x8000
  /-- So as long as no module has reported a code with the mark, the rows that are shown as
  connected are those that were found. -/
  connected_iff_lt : (∀ address identity,
      (address, .ok identity) ∈ completed (queriesIn b.bus.trace) → identity.type.code < 0x8000) →
    ∀ v ∈ (Snapshot.capture b).devices, v.connected = true ↔ v.index < n

/-- The lines of a snapshot are the rows with their indices. -/
theorem mem_devices_capture {b : Bridge σ} {v : RowView} :
    v ∈ (Snapshot.capture b).devices ↔ b.roster.row? v.index = some v.row := by
  rw [Snapshot.capture, List.mem_map, Roster.row?]
  constructor
  · rintro ⟨⟨row, index⟩, hmem, rfl⟩
    exact List.mem_zipIdx_iff_getElem?.mp hmem
  · intro h
    exact ⟨(v.row, v.index), List.mem_zipIdx_iff_getElem?.mpr h, rfl⟩

theorem map_index_capture (b : Bridge σ) :
    (Snapshot.capture b).devices.map RowView.index = List.range b.roster.size := by
  rw [Snapshot.capture, List.map_map, List.range_eq_range']
  exact List.zipIdx_map_snd 0 b.roster.rows

/-- The first row is the core's and has its type. -/
theorem IsOrderly.type_core {b : Bridge σ} {settings : Settings} (h : b.IsOrderly settings)
    {row : Row} (hrow : b.roster.row? 0 = some row) : row.identity.type = .core := by
  have hcore : b.roster.core = row := Option.some.inj hrow
  rw [← hcore, h.core_identity]
  rfl

/-- **The rows that a survey has found**, and those behind them, in a snapshot. -/
theorem HasEnrolled.showsPresence {b : Bridge σ} {settings : Settings} (h : b.HasEnrolled)
    (hb : b.IsOrderly settings) {n : Nat} (hn : b.roster.scanned = some n) :
    b.ShowsPresence n := by
  have ⟨_, t, horder⟩ := hb
  have hscanned : b.roster.scannedSize = n := by rw [Roster.scannedSize, hn, Option.getD_some]
  subst hscanned
  have henrolled (v : RowView) (hv : v ∈ (Snapshot.capture b).devices) (hzero : v.index ≠ 0)
      (hlt : v.index < b.roster.scannedSize) :
      (v.row.address, .ok v.row.identity) ∈ completed (queriesIn b.bus.trace) :=
    h v.row.device (Roster.device_mem_found (mem_devices_capture.mp hv) hzero hlt)
  have hcore (v : RowView) (hv : v ∈ (Snapshot.capture b).devices) (hzero : v.index = 0) :
      v.row.identity.type = .core :=
    hb.type_core (hzero ▸ mem_devices_capture.mp hv)
  have hconnected (v : RowView) (hv : v ∈ (Snapshot.capture b).devices) :
      v.connected = true ↔
        v.index < b.roster.scannedSize ∧ v.row.identity.type.code < 0x8000 := by
    rw [v.connected_iff]
    refine ⟨fun hcode ↦ ⟨?_, hcode⟩, fun h ↦ h.2⟩
    by_contra hbehind
    have hmissing := horder.isMissing (mem_devices_capture.mp hv) (Nat.le_of_not_lt hbehind)
    exact UInt16.not_le.mpr hcode ((ModuleType.isAbsent_iff _).mp hmissing.absent)
  exact
    { indices := b.map_index_capture
      rows := fun v hv ↦ mem_devices_capture.mp hv
      pos := horder.scannedSize_pos
      le := horder.scannedSize_le
      core := hcore
      enrolled := henrolled
      connected_iff := hconnected
      connected_iff_lt := by
        intro hunmarked v hv
        rw [hconnected v hv, and_iff_left_iff_imp]
        intro hlt
        by_cases hzero : v.index = 0
        · rw [hcore v hv hzero]
          decide
        · exact hunmarked _ _ (henrolled v hv hzero hlt) }

/-- **What a snapshot shows as connected**, after every history of a bridge whose roster has been
reconciled: the rows that the survey has found, but for those whose module reports a code with the
mark. -/
theorem showsPresence_run {rack : Rack σ} {state : σ} {settings : Settings} {b : Bridge σ}
    (hb : start rack state settings = .ok b) (operations : List Operation) {n : Nat}
    (hn : (b.run rack operations).roster.scanned = some n) :
    (b.run rack operations).ShowsPresence n := by
  obtain ⟨hv, horder⟩ := isOrderly_start rack hb
  obtain ⟨horder', hrows⟩ := run_invariant
    (P := fun c ↦ c.IsOrderly settings ∧ c.HasEnrolled)
    (fun c o hc ↦ hc.2.perform rack hv hc.1 o) ⟨horder, hasEnrolled_start rack hb⟩ operations
  exact hrows.showsPresence horder' hn

/-- Two declared modules, of which only the first one is there, with the given type. -/
def oneOfTwo (type : ModuleType) : Chains :=
  { Chains.ofModules [⟨⟨0, type, 0, 0, 0, 0, 2, 2, 0⟩, none, []⟩] [] with
    declared :=
      [⟨⟨32⟩, type, 2, 2, 0, 0, 11, 13, 0, 0⟩, ⟨⟨40⟩, ⟨96⟩, 2, 2, 0, 0, 15, 17, 0, 0⟩] }

/-- Cycles of work until the survey is over. -/
def surveyHistory : List Operation :=
  (List.range 15).map fun i ↦ .cycle (50000 * UInt64.ofNat i)

theorem showsPresence_run_oneOfTwo :
    ∃ b, start Chains.rack (oneOfTwo ⟨96⟩) .usual = .ok b ∧
      (b.run Chains.rack surveyHistory).roster.scanned = some 2 ∧
      (b.run Chains.rack surveyHistory).ShowsPresence 2 ∧
      (Snapshot.capture (b.run Chains.rack surveyHistory)).devices.map RowView.connected =
        [true, true, false] :=
  ⟨_, rfl, by decide +kernel,
    showsPresence_run (show start Chains.rack (oneOfTwo ⟨96⟩) .usual = _ from rfl) surveyHistory
      (by decide +kernel), by decide +kernel⟩

/-- **A module that reports a code with the mark** is found and takes part in the cyclic exchange,
but is shown as if it was not there. -/
theorem active_and_not_connected :
    ∃ b, start Chains.rack (oneOfTwo ⟨0x8060⟩) .usual = .ok b ∧
      (b.run Chains.rack surveyHistory).roster.scanned = some 2 ∧
      ∃ v ∈ (Snapshot.capture (b.run Chains.rack surveyHistory)).devices,
        v.index < 2 ∧ v.row.active = true ∧ v.connected = false :=
  ⟨_, rfl, by decide +kernel, by decide +kernel⟩

end Bridge

end RackBus
