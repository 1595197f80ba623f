import RackBus.Proofs.Allotment
import RackBus.Proofs.Cycle
import RackBus.Proofs.Reconciliation
import RackBus.Proofs.SurveyStep
import RackBus.Simulation.Chain

/-!
# The roster through the history of a bridge

Surveys fill the roster, reconciliation adds rows behind those that were found, polling counts
errors, and a reset starts all over.  This file says what stays true of the roster through all of
it, whatever the rack does and in whatever order a bridge is used.

* `Roster.Orderly` is the invariant.  It ties the roster to the settings and to the addresses that
  the survey has given away.
* There is one lemma for each way of changing the roster: `orderly_start`, `Orderly.step` for a
  step of a survey, `Orderly.reconcile`, and `Orderly.cycle` for a round of polling.
* `Bridge.InOrder` is what a reader of the roster can rely on, and `Bridge.inOrder_run` says that
  it holds after every history.
-/

set_option autoImplicit false

namespace RackBus

universe u

/-! ## Rows -/

/-- The module a row is about: its address and its identity. -/
def Row.device (row : Row) : Address × Identity := (row.address, row.identity)

/-- Is this the row of a module that was declared and not found? -/
structure Row.IsMissing (row : Row) : Prop where
  /-- It takes no part in the cyclic exchange. -/
  inactive : row.active = false
  /-- Its type has the mark of a module that was not found. -/
  absent : row.identity.type.isAbsent = true
  /-- It has no error. -/
  errors : row.errors = 0

theorem Row.isMissing_missing (d : Declaration) : (Row.missing d).IsMissing :=
  ⟨rfl, ModuleType.isAbsent_absent d.type, rfl⟩

/-- What a round of polling can do to a row: an active one gets another error count. -/
structure Row.Polled (before after : Row) : Prop where
  device : after.device = before.device
  eq_of_inactive : before.active = false → after = before

namespace Roster

/-- The modules that were found. -/
def found (r : Roster) : List (Address × Identity) :=
  (r.modules.take (r.scannedSize - 1)).map Row.device

/-- While the number of rows is open, all of them were found. -/
theorem found_of_open {r : Roster} (h : r.scanned = none) :
    r.found = r.modules.map Row.device ∧ r.scannedSize = r.size := by
  have hsize : r.scannedSize = r.size := by rw [scannedSize, h, Option.getD_none]
  refine ⟨?_, hsize⟩
  rw [found, hsize, size, Nat.add_sub_cancel, List.take_length]

/-- The core's row is the first of those that were found. -/
theorem take_rows_scannedSize {r : Roster} (h : 1 ≤ r.scannedSize) :
    r.rows.take r.scannedSize = r.core :: r.scannedOnly.modules := by
  obtain ⟨n, hn⟩ := Nat.exists_eq_add_of_le' h
  rw [rows, scannedOnly, hn, List.take_succ_cons, Nat.add_sub_cancel]

theorem drop_rows_scannedSize {r : Roster} (h : 1 ≤ r.scannedSize) :
    r.rows.drop r.scannedSize = r.modules.drop (r.scannedSize - 1) := by
  obtain ⟨n, hn⟩ := Nat.exists_eq_add_of_le' h
  rw [rows, hn, List.drop_succ_cons, Nat.add_sub_cancel]

/-! ## Reconciliation -/

theorem map_unplaced_pack (cursor : UInt16) (rows : List Row) :
    (pack cursor rows).map Row.unplaced = rows.map Row.unplaced := by
  induction rows generalizing cursor with
  | nil => rfl
  | cons row rest ih =>
    rw [pack, List.map_cons, List.map_cons, ih]
    rfl

theorem unplaced_reconciled (declared : List Declaration) (imageSize : Nat) (row : Row) :
    (row.reconciled declared imageSize).unplaced = row.unplaced := by
  have h := settled_reconciled declared imageSize row
  rw [Row.unplaced, Row.unplaced, h.address, h.identity, h.errors]

/-- **The rows after reconciliation**, with or without declarations: the modules that were found,
the same but for their places, and then rows for modules that were not found, as many as there is
room for. -/
theorem exists_modules_reconcile {r : Roster} (hle : r.scannedSize ≤ r.size)
    (declared : List Declaration) (imageSize : Nat) (status : Status) :
    ∃ (rows : List Row) (extra : List Declaration),
      (r.reconcile declared imageSize status).1.modules = rows ++ extra.map Row.missing ∧
        rows.map Row.unplaced = r.scannedOnly.modules.map Row.unplaced ∧
        rows.length = r.scannedSize - 1 ∧ extra.length ≤ r.capacity - r.scannedSize := by
  have hlength : r.scannedOnly.modules.length = r.scannedSize - 1 := by
    rw [scannedOnly, List.length_take]
    rw [size] at hle
    omega
  by_cases h : declared = []
  · subst h
    have hmodules : (r.reconcile [] imageSize status).1.modules =
        (pack _ r.unplaced.modules).map fun row ↦
          if sticksOut imageSize row then row.deactivate else row := rfl
    have hconfine : (Row.unplaced ∘ fun row : Row ↦
        if sticksOut imageSize row then row.deactivate else row) = Row.unplaced := by
      funext row
      rw [Function.comp]
      split <;> rfl
    have hrows : (r.reconcile [] imageSize status).1.modules.map Row.unplaced =
        r.scannedOnly.modules.map Row.unplaced := by
      rw [hmodules, List.map_map, hconfine, map_unplaced_pack, unplaced, List.map_map]
      rfl
    refine ⟨(r.reconcile [] imageSize status).1.modules, [], by simp, hrows, ?_, by simp⟩
    rw [← hlength, ← List.length_map Row.unplaced, hrows, List.length_map]
  · refine ⟨_, _, modules_reconcile r h imageSize status, ?_, ?_, ?_⟩
    · rw [List.map_map]
      exact List.map_congr_left fun row _ ↦ unplaced_reconciled declared imageSize row
    · rw [List.length_map, hlength]
    · rw [List.length_take, size, hlength]
      omega

theorem scannedSize_reconcile (r : Roster) (declared : List Declaration) (imageSize : Nat)
    (status : Status) :
    (r.reconcile declared imageSize status).1.scannedSize = r.scannedSize := by
  rw [scannedSize, scanned_reconcile, Option.getD_some]

/-- The module a row is about does not depend on its place. -/
theorem map_device_of_unplaced {before after : List Row}
    (h : after.map Row.unplaced = before.map Row.unplaced) :
    after.map Row.device = before.map Row.device := by
  have hdevice (rows : List Row) : rows.map Row.device = (rows.map Row.unplaced).map Row.device := by
    rw [List.map_map]
    rfl
  rw [hdevice, h, ← hdevice]

/-- **The modules that were found** are the same after reconciliation. -/
theorem found_reconcile {r : Roster} (hle : r.scannedSize ≤ r.size) (declared : List Declaration)
    (imageSize : Nat) (status : Status) :
    (r.reconcile declared imageSize status).1.found = r.found := by
  obtain ⟨rows, extra, hmodules, hrows, hlength, -⟩ :=
    exists_modules_reconcile hle declared imageSize status
  rw [found, scannedSize_reconcile, hmodules, List.take_left' hlength,
    map_device_of_unplaced hrows]
  rfl

/-- The core is the same after reconciliation, but for its place. -/
theorem core_unplaced_reconcile (r : Roster) (declared : List Declaration) (imageSize : Nat)
    (status : Status) :
    (r.reconcile declared imageSize status).1.core.unplaced = r.core.unplaced := by
  by_cases h : declared = []
  · subst h
    have hcore : (r.reconcile [] imageSize status).1.core =
        if sticksOut imageSize r.unplaced.packed.core then r.unplaced.packed.core.atStart
        else r.unplaced.packed.core := rfl
    rw [hcore]
    split <;> rfl
  · obtain ⟨-, haddress, hidentity, herrors⟩ :=
      core_settleCore (judgeCore declared r.core) r.core imageSize
    rw [core_reconcile r h, Row.unplaced, haddress, hidentity, herrors, Row.unplaced]

theorem core_device_reconcile (r : Roster) (declared : List Declaration) (imageSize : Nat)
    (status : Status) :
    (r.reconcile declared imageSize status).1.core.device = r.core.device := by
  have hdevice := congrArg Row.device (r.core_unplaced_reconcile declared imageSize status)
  exact hdevice

theorem capacity_reconcile (r : Roster) (declared : List Declaration) (imageSize : Nat)
    (status : Status) : (r.reconcile declared imageSize status).1.capacity = r.capacity := by
  simp only [reconcile]
  split <;> rfl

end Roster

/-! ## Polling -/

section Polling

variable {σ : Type u}

theorem Sweep.polled_visit (s : Sweep σ) (rack : Rack σ) (base : Address) (index : Nat)
    (row : Row) : row.Polled (s.visit rack base index row).1 := by
  rw [visit]
  split
  · exact ⟨rfl, fun _ ↦ rfl⟩
  · rename_i hactive
    have hactive : row.active ≠ false := by simpa using hactive
    split
    · exact ⟨rfl, fun _ ↦ rfl⟩
    · split
      · exact ⟨rfl, fun h ↦ absurd h hactive⟩
      · exact ⟨rfl, fun h ↦ absurd h hactive⟩

/-- A round of polling goes through the rows one by one. -/
theorem Sweep.polled_visitAll (s : Sweep σ) (rack : Rack σ) (base : Address) (index : Nat)
    (rows : List Row) : List.Forall₂ Row.Polled rows (s.visitAll rack base index rows).1 := by
  induction rows generalizing s index with
  | nil => exact .nil
  | cons row rest ih => exact .cons (polled_visit s rack base index row) (ih _ _)

/-- The rows are all that polling changes in a roster. -/
theorem Polled.roster_cycle (p : Polled σ) (rack : Rack σ) (base : Address) (core : CoreBlock)
    (now : UInt64) : ∃ modules, (p.cycle rack base core now).2.roster = { p.roster with modules } ∧
      List.Forall₂ Row.Polled p.roster.modules modules :=
  ⟨_, rfl, Sweep.polled_visitAll _ rack base 1 p.roster.modules⟩

theorem map_device_of_polled {before after : List Row} (h : List.Forall₂ Row.Polled before after) :
    after.map Row.device = before.map Row.device := by
  induction h with
  | nil => rfl
  | cons hrow _ ih => rw [List.map_cons, List.map_cons, hrow.device, ih]

/-- Rows of modules that were not found are passed over. -/
theorem eq_of_polled_of_isMissing {before after : List Row}
    (h : List.Forall₂ Row.Polled before after) (hmissing : ∀ row ∈ before, row.IsMissing) :
    after = before := by
  induction h with
  | nil => rfl
  | cons hrow _ ih =>
    rw [List.forall_mem_cons] at hmissing
    rw [hrow.eq_of_inactive hmissing.1.inactive, ih hmissing.2]

/-- Neither the number of rows nor the modules that were found change. -/
theorem Roster.found_setModules {r : Roster} {modules : List Row}
    (h : List.Forall₂ Row.Polled r.modules modules) :
    { r with modules }.size = r.size ∧ { r with modules }.scannedSize = r.scannedSize ∧
      { r with modules }.found = r.found := by
  have hlength : modules.length = r.modules.length := h.length_eq.symm
  have hsize : { r with modules }.size = r.size := by rw [size, size, hlength]
  have hscanned : { r with modules }.scannedSize = r.scannedSize := by
    rw [scannedSize, scannedSize, hsize]
  refine ⟨hsize, hscanned, ?_⟩
  rw [found, found, hscanned, List.map_take, List.map_take, map_device_of_polled h]

end Polling

/-! ## The invariant -/

namespace Roster

/-- The roster of a bridge whose survey has given away the addresses of the modules of a tally. -/
structure Orderly (r : Roster) (settings : Settings) (survey : Survey) (t : Tally) : Prop where
  capacity : r.capacity = settings.maxDevices
  size_le : r.size ≤ settings.maxDevices
  /-- The first row is the core's. -/
  core_device : r.core.device = (.core, settings.coreIdentity)
  scannedSize_pos : 1 ≤ r.scannedSize
  scannedSize_le : r.scannedSize ≤ r.size
  /-- The modules that were found have the addresses given away. -/
  numbers : r.found.map (fun e ↦ e.1.number) = allotted settings.rightBase t
  /-- Behind them are only modules that were not found. -/
  missing : ∀ row ∈ r.modules.drop (r.scannedSize - 1), row.IsMissing
  allots : survey.Allots settings.rightBase t
  /-- The left side comes after the right side. -/
  turned : t.left = 0 ∨ survey.phase.isLeft = true
  /-- As long as the survey goes on, the number of rows is open. -/
  scanned : survey.phase = .finished ∨ r.scanned = none

theorem eq_of_append {r r' : Roster} {address : Address} {identity : Identity}
    (h : r.append address identity = .ok r') :
    r.isFull = false ∧ r' = { r with modules := r.modules ++ [.fresh address identity] } := by
  rw [append] at h
  split at h
  · exact absurd h (by simp)
  · rename_i hroom
    exact ⟨by simpa using hroom, (Except.ok.inj h).symm⟩

section Steps

variable {settings : Settings}

/-- **A new roster** with a new survey. -/
theorem orderly_start (h : settings.Valid) :
    Orderly (ofCore settings.maxDevices settings.coreIdentity) settings
      (.start settings.rightBase) .zero where
  capacity := rfl
  size_le := h.maxDevices_pos
  core_device := rfl
  scannedSize_pos := Nat.le_refl 1
  scannedSize_le := Nat.le_refl 1
  numbers := rfl
  missing := by simp [ofCore]
  allots := Survey.allots_start h.two_le_rightBase h.rightBase_lt
  turned := Or.inl rfl
  scanned := Or.inr rfl

variable {r : Roster} {survey : Survey} {t : Tally}

/-- As long as the survey is about the right side, no module of the left side was found. -/
theorem Orderly.turned_of_side? (h : r.Orderly settings survey t) {side : Side}
    (hphase : survey.phase.side? = some side) : side = .left ∨ t.left = 0 := by
  rcases h.turned with hzero | hturned
  · exact Or.inr hzero
  · rw [Phase.isLeft_of_side? hphase] at hturned
    exact Or.inl (by simpa using hturned)

/-- **A module is enrolled** under the next address of its side. -/
theorem Orderly.enrol (h : r.Orderly settings survey t) {side : Side} {address : Address}
    {identity : Identity} {r' : Roster} {survey' : Survey}
    (hphase : survey.phase = .dialogue side) (hfree : survey.next? side = some address)
    (happend : r.append address identity = .ok r')
    (hnext : ∀ s, survey'.next? s = (survey.advance side).next? s)
    (hleft : survey.phase.isLeft = true → survey'.phase.isLeft = true) :
    r'.Orderly settings survey' (t.add side) := by
  have hopen : r.scanned = none := h.scanned.resolve_left (by simp [hphase])
  obtain ⟨hfound, hscanned⟩ := found_of_open hopen
  obtain ⟨hroom, hr'⟩ := eq_of_append happend
  have hroom : r.size < settings.maxDevices := by simpa [isFull, h.capacity] using hroom
  have hopen' : r'.scanned = none := by rw [hr', hopen]
  obtain ⟨hfound', hscanned'⟩ := found_of_open hopen'
  have hsize : r'.size = r.size + 1 := by simp [size, hr']
  obtain ⟨hnumber, -⟩ := h.allots.number_next hfree
  have hturned : side = .left ∨ t.left = 0 := h.turned_of_side? (by rw [hphase]; rfl)
  exact
    { capacity := by rw [hr', h.capacity]
      size_le := by omega
      core_device := by rw [hr', h.core_device]
      scannedSize_pos := by omega
      scannedSize_le := by omega
      numbers := by
        rw [hfound', allotted_add hturned, ← h.numbers, hfound, ← hnumber, hr', List.map_append,
          List.map_append]
        rfl
      missing := by
        rw [hscanned', size, Nat.add_sub_cancel, List.drop_length]
        simp
      allots := (h.allots.advance hfree).congr hnext
      turned := by
        cases side with
        | right => exact Or.inl (hturned.resolve_left (by simp))
        | left => exact Or.inr (hleft (by rw [hphase]; rfl))
      scanned := Or.inr hopen' }

/-- The survey goes on and gives no address away. -/
theorem Orderly.quiet (h : r.Orderly settings survey t) {survey' : Survey}
    (hnext : ∀ side, survey'.next? side = survey.next? side)
    (hleft : survey.phase.isLeft = true → survey'.phase.isLeft = true)
    (hscanned : survey'.phase = .finished ∨ r.scanned = none) : r.Orderly settings survey' t :=
  ⟨h.capacity, h.size_le, h.core_device, h.scannedSize_pos, h.scannedSize_le, h.numbers, h.missing,
    h.allots.congr hnext, h.turned.imp_right hleft, hscanned⟩

/-- **A step of a survey.** -/
theorem Orderly.step {σ : Type u} {site : Site σ} (h : site.roster.Orderly settings site.survey t)
    (rack : Rack σ) (now : UInt64) :
    ∃ t', (site.step rack settings now).2.roster.Orderly settings
      (site.step rack settings now).2.survey t' := by
  have hleft := site.isLeft_step rack settings now
  cases site.outcome_step rack settings now with
  | quiet roster next =>
    have hscanned : (site.step rack settings now).2.survey.phase = .finished ∨
        site.roster.scanned = none := by
      rcases h.scanned with hf | hopen
      · left
        rcases site.phase_step rack settings now with hp | ⟨hp, -⟩
        · rw [hp, hf]
        · rw [hf] at hp
          exact absurd hp (by simp [Phase.successors])
      · exact Or.inr hopen
    rw [roster]
    exact ⟨t, h.quiet next hleft hscanned⟩
  | enrolled side address identity phase free roster next =>
    exact ⟨t.add side, h.enrol phase free roster next hleft⟩

/-- **Reconciliation** after the survey. -/
theorem Orderly.reconcile (h : r.Orderly settings survey t)
    (hfinished : survey.phase = .finished) (declared : List Declaration) (imageSize : Nat)
    (status : Status) :
    (r.reconcile declared imageSize status).1.Orderly settings survey t := by
  have hpos := h.scannedSize_pos
  have hle := h.scannedSize_le
  have hcapacity := h.capacity
  have hmax := h.size_le
  have hscanned := r.scannedSize_reconcile declared imageSize status
  obtain ⟨rows, extra, hmodules, -, hlength, hextra⟩ :=
    exists_modules_reconcile hle declared imageSize status
  have hsize : (r.reconcile declared imageSize status).1.size = r.scannedSize + extra.length := by
    rw [size, hmodules, List.length_append, List.length_map, hlength]
    omega
  exact
    { capacity := by rw [capacity_reconcile, h.capacity]
      size_le := by omega
      core_device := by rw [core_device_reconcile, h.core_device]
      scannedSize_pos := by omega
      scannedSize_le := by omega
      numbers := by rw [found_reconcile hle, h.numbers]
      missing := by
        rw [hscanned, hmodules, List.drop_left' hlength]
        intro row hrow
        obtain ⟨d, -, rfl⟩ := List.mem_map.mp hrow
        exact Row.isMissing_missing d
      allots := h.allots
      turned := h.turned
      scanned := Or.inl hfinished }

/-- Other error counts. -/
theorem Orderly.setModules (h : r.Orderly settings survey t) {modules : List Row}
    (hpolled : List.Forall₂ Row.Polled r.modules modules) :
    { r with modules }.Orderly settings survey t := by
  obtain ⟨hsize, hscanned, hfound⟩ := found_setModules hpolled
  exact
    { capacity := h.capacity
      size_le := hsize ▸ h.size_le
      core_device := h.core_device
      scannedSize_pos := hscanned ▸ h.scannedSize_pos
      scannedSize_le := by rw [hscanned, hsize]; exact h.scannedSize_le
      numbers := by rw [hfound, h.numbers]
      missing := by
        rw [hscanned, eq_of_polled_of_isMissing (List.forall₂_drop _ hpolled) h.missing]
        exact h.missing
      allots := h.allots
      turned := h.turned
      scanned := h.scanned }

/-- **A round of polling.** -/
theorem Orderly.cycle {σ : Type u} {p : Polled σ} (h : p.roster.Orderly settings survey t)
    (rack : Rack σ) (base : Address) (core : CoreBlock) (now : UInt64) :
    (p.cycle rack base core now).2.roster.Orderly settings survey t := by
  obtain ⟨modules, hmodules, hpolled⟩ := p.roster_cycle rack base core now
  rw [hmodules]
  exact h.setModules hpolled

end Steps

end Roster

/-! ## Bridges -/

namespace Bridge

variable {σ : Type u} (b : Bridge σ) (rack : Rack σ)

/-- What the invariant is about: the settings, the survey and the roster. -/
def findings : Settings × Survey × Roster := (b.settings, b.survey, b.roster)

/-- A bridge whose survey and roster are orderly. -/
def IsOrderly (settings : Settings) : Prop :=
  b.settings = settings ∧ ∃ t, b.roster.Orderly settings b.survey t

variable {b rack} {settings : Settings}

theorem IsOrderly.congr {b' : Bridge σ} (h : b.IsOrderly settings)
    (hb : b'.findings = b.findings) : b'.IsOrderly settings := by
  obtain ⟨hsettings, hrest⟩ := Prod.mk.inj hb
  obtain ⟨hsurvey, hroster⟩ := Prod.mk.inj hrest
  rw [IsOrderly, hsettings, hsurvey, hroster]
  exact h

/-! ### What leaves the findings alone -/

variable (b rack)

theorem findings_shown : ((b.applyRunning rack).publish rack).findings = b.findings := by
  obtain ⟨status, bus, image, shownLamps, hshown, -⟩ := b.shown_eq rack
  rw [hshown]
  rfl

theorem findings_performMaintenance : (b.performMaintenance rack).findings = b.findings := by
  obtain ⟨bus, hmaintenance⟩ := b.performMaintenance_eq rack
  rw [hmaintenance]
  rfl

/-- Starting all over leaves a new survey and a new roster, whether or not the declared
configuration can be loaded. -/
theorem findings_restart :
    (b.restart rack).2.findings = (b.settings, .start b.settings.rightBase,
      .ofCore b.roster.capacity b.settings.coreIdentity) := by
  rw [restart_eq]
  split <;> rfl

/-- A round of polling changes neither the core nor the modules that were found. -/
theorem roster_poll (now : UInt64) :
    (b.poll rack now).roster.scanned = b.roster.scanned ∧
      (b.poll rack now).roster.core = b.roster.core ∧
      (b.poll rack now).roster.found = b.roster.found := by
  rw [poll]
  split
  · exact ⟨rfl, rfl, rfl⟩
  · exact ⟨rfl, rfl,
      (Roster.found_setModules (Sweep.polled_visitAll _ rack b.settings.rightBase 1
        b.roster.modules)).2.2⟩

/-! ### What keeps them in order -/

variable {b}

theorem IsOrderly.core_identity (h : b.IsOrderly settings) :
    b.roster.core.identity = settings.coreIdentity := by
  obtain ⟨rfl, t, h⟩ := h
  exact congrArg Prod.snd h.core_device

theorem IsOrderly.restart (h : b.IsOrderly settings) (hv : settings.Valid) :
    (b.restart rack).2.IsOrderly settings := by
  obtain ⟨rfl, t, h⟩ := h
  have hnew := findings_restart b rack
  rw [h.capacity] at hnew
  obtain ⟨hsettings, hrest⟩ := Prod.mk.inj hnew
  obtain ⟨hsurvey, hroster⟩ := Prod.mk.inj hrest
  refine ⟨hsettings, .zero, ?_⟩
  rw [hsurvey, hroster]
  exact Roster.orderly_start hv

theorem IsOrderly.poll (h : b.IsOrderly settings) (now : UInt64) :
    (b.poll rack now).IsOrderly settings := by
  rw [Bridge.poll]
  split
  · exact h
  · rename_i core hcore
    obtain ⟨hsettings, t, h⟩ := h
    exact ⟨hsettings, t, h.cycle rack b.settings.rightBase core now⟩

theorem IsOrderly.endSurvey (h : b.IsOrderly settings) (hfinished : b.survey.phase = .finished) :
    (b.endSurvey rack).IsOrderly settings := by
  obtain ⟨hsettings, t, h⟩ := h
  exact ⟨hsettings, t, h.reconcile hfinished b.declared b.image.size b.control.status⟩

theorem IsOrderly.surveyed (h : b.IsOrderly settings) (now : UInt64) :
    (b.surveyed rack now).IsOrderly settings := by
  obtain ⟨rfl, t, h⟩ := h
  obtain ⟨t', h'⟩ :=
    Roster.Orderly.step (show b.site.roster.Orderly _ b.site.survey t from h) rack now
  exact ⟨rfl, t', h'⟩

theorem IsOrderly.work (h : b.IsOrderly settings) (now : UInt64) :
    (b.work rack now).IsOrderly settings := by
  have hsurveyed := h.surveyed rack now
  refine b.work_keeps rack (P := fun c ↦ c.IsOrderly settings) hsurveyed (fun hended ↦ ?_)
    fun _ hc ↦ hc.poll rack now
  exact hsurveyed.endSurvey rack (b.site.finished_of_step hended).1

/-- Every operation keeps the findings in order. -/
theorem IsOrderly.perform (hv : settings.Valid) (h : b.IsOrderly settings) (o : Operation) :
    (b.perform rack o).IsOrderly settings :=
  b.perform_keeps rack (P := fun c ↦ c.IsOrderly settings) (fun _ _ _ hc ↦ hc.congr rfl)
    (fun _ _ _ hc ↦ hc.congr rfl) (fun _ hc ↦ hc.congr rfl) (fun _ hc ↦ hc.restart rack hv)
    (fun c _ hc ↦ hc.congr (c.findings_performMaintenance rack))
    (fun _ now _ hc ↦ hc.work rack now) (fun c hc ↦ hc.congr (c.findings_shown rack)) h o

/-- A new bridge is in order, and its settings are good. -/
theorem isOrderly_start {state : σ} (hb : start rack state settings = .ok b) :
    settings.Valid ∧ b.IsOrderly settings := by
  rw [start] at hb
  split at hb
  · exact absurd hb (by simp)
  · rename_i hcheck
    split at hb
    · exact absurd hb (by simp)
    · obtain rfl := Except.ok.inj hb
      have hv := Settings.check_eq_ok_iff.mp hcheck
      exact ⟨hv, rfl, .zero, Roster.orderly_start hv⟩

/-! ### What can be relied on -/

/-- What a reader of the roster can rely on, for a bridge whose survey has found `right` modules on
the right side and `left` modules on the left. -/
structure InOrder (b : Bridge σ) (settings : Settings) (right left : Nat) : Prop where
  /-- There is at least one row, and there are no more than the settings allow. -/
  size_pos : 1 ≤ b.roster.size
  size_le : b.roster.size ≤ settings.maxDevices
  /-- The first row is the core's, and it is one of those that were found. -/
  core_address : b.roster.core.address = .core
  core_identity : b.roster.core.identity = settings.coreIdentity
  scannedSize_pos : 1 ≤ b.roster.scannedSize
  scannedSize_le : b.roster.scannedSize ≤ b.roster.size
  /-- The modules that were found have the addresses from the base upwards, and then those from
  below the base downwards. -/
  numbers : (b.roster.rows.take b.roster.scannedSize).tail.map (fun row ↦ row.address.number) =
    (List.range right).map (fun i ↦ settings.rightBase.number + i) ++
      (List.range left).map fun j ↦ settings.rightBase.number - 1 - j
  /-- All these addresses are different. -/
  distinct : ((b.roster.rows.take b.roster.scannedSize).tail.map Row.address).Nodup
  /-- None of them is reserved. -/
  unreserved : ∀ row ∈ (b.roster.rows.take b.roster.scannedSize).tail,
    row.address ≠ .core ∧ row.address ≠ .broadcast
  /-- The next address of the right side is the one above them, unless that is reserved. -/
  nextRight : (b.survey.next? .right).map Address.number =
    if settings.rightBase.number + right = 255 then none
    else some (settings.rightBase.number + right)
  /-- The next address of the left side is the one below them, unless that is reserved. -/
  nextLeft : (b.survey.next? .left).map Address.number =
    if settings.rightBase.number - 1 - left = 0 then none
    else some (settings.rightBase.number - 1 - left)
  /-- All other rows are those of modules that were not found. -/
  missing : ∀ row ∈ b.roster.rows.drop b.roster.scannedSize, row.IsMissing

theorem IsOrderly.inOrder (hv : settings.Valid) (h : b.IsOrderly settings) :
    ∃ right left, b.InOrder settings right left := by
  obtain ⟨-, t, h⟩ := h
  have hbase : 0 < settings.rightBase.number := Nat.lt_of_lt_of_le (by decide) hv.two_le_rightBase
  obtain ⟨haddress, hidentity⟩ := Prod.mk.inj h.core_device
  have hpos := h.scannedSize_pos
  have hfound : (b.roster.rows.take b.roster.scannedSize).tail = b.roster.scannedOnly.modules := by
    rw [Roster.take_rows_scannedSize hpos, List.tail_cons]
  have hnumbers : b.roster.scannedOnly.modules.map (fun row ↦ row.address.number) =
      allotted settings.rightBase t := by
    rw [← h.numbers, Roster.found, List.map_map]
    rfl
  have hnodup := nodup_allotted hbase h.allots.le
  refine ⟨t.right, t.left, ⟨Nat.le_add_left 1 _, h.size_le, haddress, hidentity, hpos,
    h.scannedSize_le, ?_, ?_, ?_, h.allots.next_right hv.rightBase_lt, h.allots.next_left, ?_⟩⟩
  · rw [hfound, hnumbers]
    rfl
  · rw [← hnumbers, ← Function.comp_def, ← List.map_map] at hnodup
    rw [hfound]
    exact hnodup.of_map _
  · rw [hfound]
    intro row hrow
    have hmem : row.address.number ∈ allotted settings.rightBase t := by
      rw [← hnumbers]
      exact List.mem_map_of_mem hrow
    obtain ⟨hlow, hhigh⟩ := mem_allotted hbase h.allots.le hmem
    constructor
    · intro heq
      rw [heq] at hlow
      exact absurd hlow (by decide)
    · intro heq
      rw [heq] at hhigh
      exact absurd hhigh (by decide)
  · rw [Roster.drop_rows_scannedSize hpos]
    exact h.missing

/-- **The roster is in order after every history** of a bridge, whatever the rack does. -/
theorem inOrder_run {rack : Rack σ} {state : σ} {settings : Settings} {b : Bridge σ}
    (hb : start rack state settings = .ok b) (operations : List Operation) :
    ∃ right left, (b.run rack operations).InOrder settings right left := by
  obtain ⟨hv, hstart⟩ := isOrderly_start rack hb
  exact (run_invariant (fun c o (hc : c.IsOrderly settings) ↦ hc.perform rack hv o) hstart
    operations).inOrder hv

/-- Settings with room for three rows. -/
def roomForThree : Settings := { Settings.usual with maxDevices := 3 }

/-- Two modules on the right side, of which one is silent at first, and one on the left side. -/
def threeModules : Chains :=
  .ofModules [⟨⟨0, ⟨96⟩, 0, 0, 0, 0, 2, 2, 0⟩, none, [.silent]⟩,
    ⟨⟨0, ⟨97⟩, 0, 0, 0, 0, 2, 0, 0⟩, none, []⟩] [⟨⟨0, ⟨98⟩, 0, 0, 0, 0, 0, 2, 0⟩, none, []⟩]

/-- A reset in the middle of a survey, which then fills the roster. -/
def resetHistory : List Operation :=
  (List.range 10).map (fun i ↦ .cycle (50000 * UInt64.ofNat i)) ++ [.stop, .requestReset] ++
    (List.range 20).map fun i ↦ .cycle (500000 + 50000 * UInt64.ofNat i)

theorem inOrder_run_resetHistory :
    ∃ b, start Chains.rack threeModules roomForThree = .ok b ∧
      (∃ right left, (b.run Chains.rack resetHistory).InOrder roomForThree right left) ∧
      (b.run Chains.rack resetHistory).roster.rows.map (fun row ↦ row.address.number) =
        [0, 32, 33] :=
  ⟨_, rfl, inOrder_run (show start Chains.rack threeModules roomForThree = _ from rfl) resetHistory,
    by decide +kernel⟩

end Bridge

end RackBus
