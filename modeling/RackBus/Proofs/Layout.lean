import RackBus.Proofs.Checked
import RackBus.Proofs.Reconciliation

/-!
# Checked documents and the layout of the image

`Document.check` compares declarations with each other.  `Roster.reconcile` lays out rows, and the
row of the core always has six input and five output bytes, whatever the document declares for it.
This file says how far the two agree.

* `Roster.FromSurvey` is what is known of a roster after a survey.
* `coreBytes` are the core's own regions in the layout, and `CoreHasRoom` says that they are in the
  image and apart from the modules that take part.
* `issues_reconcile_of_check`: among the modules nothing goes wrong, and with the core nothing goes
  wrong exactly if it has room.  `ReservesCore` is a condition on the document alone.
* `check_ignores_core`: without such a condition a document can pass and a layout have an overlap.
-/

set_option autoImplicit false

namespace RackBus

/-! ## The words of the statement -/

/-- The input and output bytes of a declaration, which are those that are exchanged. -/
def Declaration.exchanged (d : Declaration) : List Region :=
  [.ofWords d.inputOffset d.inputLength, .ofWords d.outputOffset d.outputLength]

/-- The input and output bytes of a row. -/
def Row.exchanged (row : Row) : List Region := [row.inputs, row.outputs]

/-- The core's own bytes: where the document puts them, or at the start of the image, and in both
cases as many as the core really has. -/
def coreBytes (declared : List Declaration) : List Region :=
  match Declaration.first? declared .core with
  | some d =>
    [.ofWords d.inputOffset CoreBlock.inputLength, .ofWords d.outputOffset CoreBlock.outputLength]
  | none =>
    [.ofWords 0 CoreBlock.inputLength, .ofWords CoreBlock.inputLength CoreBlock.outputLength]

/-- Is this the declaration of a module that was found and fits it? -/
def Roster.Present (r : Roster) (declared : List Declaration) (d : Declaration) : Prop :=
  ∃ row ∈ r.scannedOnly.modules,
    Declaration.first? declared row.address = some d ∧ d.Describes row.identity

/-- The core's bytes lie in the image, and no module that takes part has one of them. -/
structure Roster.CoreHasRoom (r : Roster) (declared : List Declaration) (imageSize : Nat) :
    Prop where
  /-- The core's bytes lie in the image. -/
  within : ∀ g ∈ coreBytes declared, g.endsWithin imageSize = true
  /-- No module that takes part has one of them. -/
  apart : ∀ d, r.Present declared d → ∀ g ∈ coreBytes declared, ∀ h ∈ d.exchanged,
    g.meets h = false

/-- A roster as a survey leaves it. -/
structure Roster.FromSurvey (r : Roster) (settings : Settings) : Prop where
  /-- The first row is the core's. -/
  core_address : r.core.address = .core
  core_identity : r.core.identity = settings.coreIdentity
  /-- No two rows have the same address. -/
  distinct : (r.scannedOnly.rows.map Row.address).Nodup

/-- A document that leaves the core its bytes: it declares them as they are, or it does not declare
the core and keeps the start of the image free. -/
def Document.ReservesCore (d : Document) : Prop :=
  match Declaration.first? d.devices .core with
  | some c => c.inputLength = CoreBlock.inputLength ∧ c.outputLength = CoreBlock.outputLength
  | none => ∀ e ∈ d.devices, ∀ g ∈ coreBytes d.devices, ∀ h ∈ e.exchanged, g.meets h = false

instance (d : Document) : Decidable d.ReservesCore :=
  match hc : Declaration.first? d.devices .core with
  | some c =>
    decidable_of_iff
      (c.inputLength = CoreBlock.inputLength ∧ c.outputLength = CoreBlock.outputLength)
      (by rw [Document.ReservesCore, hc])
  | none =>
    decidable_of_iff
      (∀ e ∈ d.devices, ∀ g ∈ coreBytes d.devices, ∀ h ∈ e.exchanged, g.meets h = false)
      (by rw [Document.ReservesCore, hc])

/-- An issue about the place of a row in the image. -/
def Issue.IsAboutLayout : Issue → Prop
  | .mismatch _ => False
  | .overlap _ _ => True
  | .outsideImage _ => True

/-! ## Regions of rows and declarations -/

theorem Region.endsWithin_of_stop_le {g : Region} {size : Nat} (h : g.stop ≤ size) :
    g.endsWithin size = true := by
  rw [endsWithin, decide_eq_true h, Bool.or_true]

theorem Declaration.mem_regions_of_mem_exchanged {d : Declaration} {g : Region}
    (h : g ∈ d.exchanged) : g ∈ d.regions := by
  rw [exchanged, List.mem_pair] at h
  rcases h with rfl | rfl <;> simp [regions]

theorem Row.clashes_eq_false_iff {a b : Row} :
    a.clashes b = false ↔ ∀ g ∈ a.exchanged, ∀ h ∈ b.exchanged, g.meets h = false := by
  simp only [clashes, exchanged, List.any_eq_false, Bool.not_eq_true]

/-- A row at the place of a declaration that describes it has the bytes of the declaration. -/
theorem Row.IsPlacedBy.exchanged_eq {row : Row} {d : Declaration} (h : row.IsPlacedBy d)
    (hd : d.Describes row.identity) : row.exchanged = d.exchanged := by
  obtain ⟨-, hin, hout⟩ := hd
  rw [exchanged, inputs, outputs, h.inputOffset, h.outputOffset, hin, hout, Declaration.exchanged]

/-! ## One search for each kind of issue -/

namespace Roster

/-- If only the core may stick out, nothing else does. -/
theorem outside_eq {r : Roster} {size : Nat}
    (h : ∀ row ∈ r.modules, sticksOut size row = false) :
    r.outside size = if sticksOut size r.core then [0] else [] := by
  have hrest : (r.modules.zipIdx 1).filter (fun e ↦ sticksOut size e.1) = [] := by
    rw [List.filter_eq_nil_iff]
    intro e he
    rw [h e.1 (List.fst_mem_of_mem_zipIdx he)]
    simp
  rw [outside, rows, List.zipIdx_cons, List.filter_cons, Nat.zero_add, hrest]
  split <;> rfl

/-- If no two modules clash, only the core can clash with one. -/
theorem clash?_eq {r : Roster} (hcore : r.core.active = true)
    (h : r.modules.Pairwise fun a b ↦ a.active = true → b.active = true → a.clashes b = false) :
    r.clash? = (((r.modules.zipIdx 1).filter fun e ↦ e.1.active).find?
      fun e ↦ r.core.clashes e.1).map fun e ↦ (0, e.2) := by
  have hzip : (r.modules.zipIdx 1).Pairwise fun a b ↦
      a.1.active = true → b.1.active = true → a.1.clashes b.1 = false := by
    rw [← List.zipIdx_map_fst 1 r.modules, List.pairwise_map] at h
    exact h
  have hrest : firstPair (fun a b : Row × Nat ↦ a.1.clashes b.1)
      ((r.modules.zipIdx 1).filter fun e ↦ e.1.active) = none := by
    rw [firstPair_eq_none_iff, List.pairwise_filter]
    exact hzip.imp fun hab ha hb ↦ hab ha hb
  rw [clash?, active, rows, List.zipIdx_cons, List.filter_cons, if_pos hcore, firstPair, hrest,
    Nat.zero_add]
  split
  · rename_i e he
    rw [he]
    rfl
  · rename_i hn
    rw [hn]
    rfl

/-- The search finds nothing exactly if the core clashes with no module that takes part. -/
theorem clash?_eq_none_iff {r : Roster} (hcore : r.core.active = true)
    (h : r.modules.Pairwise fun a b ↦ a.active = true → b.active = true → a.clashes b = false) :
    r.clash? = none ↔ ∀ row ∈ r.modules, row.active = true → r.core.clashes row = false := by
  have hmem (row : Row) : row ∈ r.modules ↔ ∃ i, (row, i) ∈ r.modules.zipIdx 1 := by
    rw [← List.zipIdx_map_fst 1 r.modules, List.mem_map]
    simp
  simp only [clash?_eq hcore h, Option.map_eq_none_iff, List.find?_eq_none, List.mem_filter,
    Bool.not_eq_true, hmem]
  constructor
  · rintro hall row ⟨i, hi⟩ hactive
    exact hall (row, i) ⟨hi, hactive⟩
  · rintro hall ⟨row, i⟩ ⟨hi, hactive⟩
    exact hall row ⟨i, hi⟩ hactive

/-- The roster after the declarations were applied, before it is confined to the image. -/
abbrev laidOut (r : Roster) (declared : List Declaration) : Roster := r.unplaced.matched declared

/-- What is reported about the layout, given declarations. -/
theorem mem_issues_reconcile_iff (r : Roster) {declared : List Declaration} (h : declared ≠ [])
    (imageSize : Nat) (status : Status) {i : Issue} (hi : i.IsAboutLayout) :
    i ∈ (r.reconcile declared imageSize status).2.2.issues ↔
      (∃ index ∈ (r.laidOut declared).outside imageSize, i = .outsideImage index) ∨
        ∃ a b, (r.reconcile declared imageSize status).1.clash? = some (a, b) ∧
          i = .overlap a b := by
  have hmismatch : i ∉ r.unplaced.mismatches declared := by
    intro hm
    obtain ⟨e, -, he⟩ := List.mem_filterMap.mp hm
    cases hv : judge declared e.1 with
    | matched d position => exact absurd (hv ▸ he) (by simp [Verdict.issue?])
    | different kind expected found =>
      rw [hv] at he
      obtain rfl := Option.some.inj he
      exact hi
    | undeclared => exact absurd (hv ▸ he) (by simp [Verdict.issue?])
  have hroster : (r.reconcile declared imageSize status).1 =
      (r.laidOut declared).confine imageSize := by
    simp only [reconcile, List.isEmpty_iff, h, if_false]
  simp only [report_reconcile r h, List.mem_append, hmismatch, false_or, List.mem_map, hroster]
  refine or_congr ⟨?_, ?_⟩ ?_
  · rintro ⟨index, hm, rfl⟩
    exact ⟨index, hm, rfl⟩
  · rintro ⟨index, hm, rfl⟩
    exact ⟨index, hm, rfl⟩
  · constructor
    · rintro ⟨⟨a, b⟩, hm, rfl⟩
      exact ⟨a, b, Option.mem_toList.mp hm, rfl⟩
    · rintro ⟨a, b, hc, rfl⟩
      exact ⟨(a, b), Option.mem_toList.mpr hc, rfl⟩

/-! ## The modules of a checked document -/

section Checked

variable {r : Roster} {declared : List Declaration} {imageSize : Nat}

/-- No module of a sound document sticks out. -/
theorem sticksOut_modules_laidOut (hs : Declaration.Sound imageSize declared) :
    ∀ row ∈ (r.laidOut declared).modules, sticksOut imageSize row = false := by
  intro row hrow
  rw [laidOut, matched, List.mem_append, List.mem_map, List.mem_map] at hrow
  rcases hrow with ⟨found, -, rfl⟩ | ⟨d, -, rfl⟩
  · cases hj : judge declared found with
    | matched d position =>
      obtain ⟨hd, hdesc⟩ := exists_judge_eq_matched_iff.mp ⟨position, hj⟩
      have hfits := (fits_place_iff hdesc).mpr (hs.within d (Declaration.mem_of_first? hd))
      rw [Verdict.settle, sticksOut, hfits, Bool.not_true, Bool.and_false]
    | different kind expected found => rfl
    | undeclared => rfl
  · rfl

/-- A module takes part after reconciliation at the place of its declaration. -/
theorem active_reconciled_iff (hs : Declaration.Sound imageSize declared) (row : Row) :
    (row.reconciled declared imageSize).active = true ↔
      ∃ d, Declaration.first? declared row.address = some d ∧ d.Describes row.identity := by
  rw [(settled_reconciled declared imageSize row).active_iff]
  constructor
  · rintro ⟨d, hd, hdesc, -⟩
    exact ⟨d, hd, hdesc⟩
  · rintro ⟨d, hd, hdesc⟩
    exact ⟨d, hd, hdesc, hs.within d (Declaration.mem_of_first? hd)⟩

/-- A module that takes part has the bytes of its declaration. -/
theorem exchanged_reconciled {row : Row} {d : Declaration}
    (ha : (row.reconciled declared imageSize).active = true)
    (hd : Declaration.first? declared row.address = some d) (hdesc : d.Describes row.identity) :
    (row.reconciled declared imageSize).exchanged = d.exchanged := by
  have hset := settled_reconciled declared imageSize row
  obtain ⟨e, he, hplaced⟩ := hset.placed ha
  obtain rfl := Option.some.inj (hd.symm.trans he)
  exact hplaced.exchanged_eq (hset.identity ▸ hdesc)

/-- Two modules of different addresses do not clash. -/
theorem clashes_reconciled (hs : Declaration.Sound imageSize declared) {a b : Row}
    (hne : a.address ≠ b.address) (ha : (a.reconciled declared imageSize).active = true)
    (hb : (b.reconciled declared imageSize).active = true) :
    (a.reconciled declared imageSize).clashes (b.reconciled declared imageSize) = false := by
  obtain ⟨d, hd, hdesc⟩ := (active_reconciled_iff hs a).mp ha
  obtain ⟨e, he, hesc⟩ := (active_reconciled_iff hs b).mp hb
  rw [Row.clashes_eq_false_iff, exchanged_reconciled ha hd hdesc, exchanged_reconciled hb he hesc]
  intro g hg h hh
  refine hs.meets_eq_false (Declaration.mem_of_first? hd) (Declaration.mem_of_first? he) ?_
    (Declaration.mem_regions_of_mem_exchanged hg) (Declaration.mem_regions_of_mem_exchanged hh)
  rw [Declaration.address_of_first? hd, Declaration.address_of_first? he]
  exact hne

/-- No two modules clash, if all their addresses are different. -/
theorem pairwise_modules_reconcile (h : declared ≠ []) (hs : Declaration.Sound imageSize declared)
    (hdistinct : (r.scannedOnly.modules.map Row.address).Nodup) (status : Status) :
    (r.reconcile declared imageSize status).1.modules.Pairwise fun a b ↦
      a.active = true → b.active = true → a.clashes b = false := by
  rw [modules_reconcile r h, List.pairwise_append]
  refine ⟨?_, ?_, ?_⟩
  · rw [List.pairwise_map]
    exact (List.pairwise_map.mp hdistinct).imp fun hne ha hb ↦ clashes_reconciled hs hne ha hb
  · rw [List.pairwise_map]
    exact List.pairwise_of_forall fun _ _ ha ↦ absurd ha (by simp [Row.missing, Row.deactivate])
  · intro a _ b hb _ hactive
    obtain ⟨d, -, rfl⟩ := List.mem_map.mp hb
    exact absurd hactive (by simp [Row.missing, Row.deactivate])

/-- The core clashes with no module that takes part exactly if its bytes are apart from those of
all declarations that are present. -/
theorem forall_clashes_iff (h : declared ≠ []) (hs : Declaration.Sound imageSize declared)
    (status : Status) (core : Row) :
    (∀ row ∈ (r.reconcile declared imageSize status).1.modules, row.active = true →
        core.clashes row = false) ↔
      ∀ d, r.Present declared d → ∀ g ∈ core.exchanged, ∀ k ∈ d.exchanged, g.meets k = false := by
  rw [modules_reconcile r h]
  constructor
  · rintro hall d ⟨row, hrow, hd, hdesc⟩
    have hactive := (active_reconciled_iff hs row).mpr ⟨d, hd, hdesc⟩
    have hclash := hall _ (List.mem_append_left _ (List.mem_map_of_mem hrow)) hactive
    rw [Row.clashes_eq_false_iff, exchanged_reconciled hactive hd hdesc] at hclash
    exact hclash
  · intro hall row hrow hactive
    rw [List.mem_append, List.mem_map, List.mem_map] at hrow
    rcases hrow with ⟨found, hfound, rfl⟩ | ⟨d, -, rfl⟩
    · obtain ⟨d, hd, hdesc⟩ := (active_reconciled_iff hs found).mp hactive
      rw [Row.clashes_eq_false_iff, exchanged_reconciled hactive hd hdesc]
      exact hall d ⟨found, hfound, hd, hdesc⟩
    · exact absurd hactive (by simp [Row.missing, Row.deactivate])

end Checked

/-! ## The core -/

section Core

variable {r : Roster} {settings : Settings} {declared : List Declaration} {imageSize : Nat}

/-- The core's row after the declarations were applied. -/
abbrev placedCore (r : Roster) (declared : List Declaration) : Row :=
  (judgeCore declared r.core).settleCore r.core.unplaced

/-- The core has six input and five output bytes, wherever it is put. -/
theorem exchanged_placedCore (hr : r.FromSurvey settings) (declared : List Declaration) :
    (r.placedCore declared).exchanged = coreBytes declared := by
  rw [placedCore, judgeCore, coreBytes, hr.core_address, first?_eq_map_declarationAt?]
  cases declarationAt? declared .core with
  | none =>
    simp only [Option.map_none, Verdict.settleCore, Row.atStart, Row.unplaced, Row.exchanged,
      Row.inputs, Row.outputs, hr.core_identity]
    rfl
  | some e =>
    simp only [Option.map_some, Verdict.settleCore, Row.place, Row.unplaced, Row.exchanged,
      Row.inputs, Row.outputs, hr.core_identity]
    rfl

/-- The core's row fits into the image if the core's bytes lie there; its configuration bytes are
those of a declaration that was checked. -/
theorem fits_placedCore_iff (hr : r.FromSurvey settings)
    (hs : Declaration.Sound imageSize declared) :
    (r.placedCore declared).fits imageSize = true ↔
      ∀ g ∈ coreBytes declared, g.endsWithin imageSize = true := by
  have hconfig : (r.placedCore declared).config.endsWithin imageSize = true := by
    rw [placedCore]
    cases hj : judgeCore declared r.core with
    | matched d position =>
      have hd : Declaration.first? declared r.core.address = some d := by
        rw [first?_eq_map_declarationAt?, judgeCore_eq_matched_iff.mp hj, Option.map_some]
      have hmem : Region.ofWords d.configOffset d.configLength ∈ d.regions := by
        simp [Declaration.regions]
      exact hs.within d (Declaration.mem_of_first? hd) _ hmem
    | different kind expected found => rfl
    | undeclared => rfl
  rw [← exchanged_placedCore hr]
  simp only [Row.fits_iff, hconfig, and_true, Row.exchanged, List.mem_cons, List.not_mem_nil,
    or_false, forall_eq_or_imp, forall_eq]

theorem sticksOut_placedCore (r : Roster) (declared : List Declaration) (imageSize : Nat) :
    sticksOut imageSize (r.placedCore declared) =
      !(r.placedCore declared).fits imageSize := by
  have hactive : (r.placedCore declared).active = true := by
    rw [placedCore]
    cases judgeCore declared r.core <;> rfl
  rw [sticksOut, hactive, Bool.true_and]

/-- Only the core can be reported as outside the image. -/
theorem outsideImage_mem_iff (h : declared ≠ []) (hs : Declaration.Sound imageSize declared)
    (status : Status) (index : Nat) :
    .outsideImage index ∈ (r.reconcile declared imageSize status).2.2.issues ↔
      index = 0 ∧ (r.placedCore declared).fits imageSize = false := by
  have hcore : (r.laidOut declared).core = r.placedCore declared := rfl
  rw [mem_issues_reconcile_iff r h imageSize status (i := .outsideImage index) trivial,
    outside_eq (sticksOut_modules_laidOut hs), hcore, sticksOut_placedCore]
  cases (r.placedCore declared).fits imageSize <;> simp

theorem overlap_mem_iff (h : declared ≠ []) (status : Status) (first second : Nat) :
    .overlap first second ∈ (r.reconcile declared imageSize status).2.2.issues ↔
      (r.reconcile declared imageSize status).1.clash? = some (first, second) := by
  rw [mem_issues_reconcile_iff r h imageSize status (i := .overlap first second) trivial]
  simp

/-- The modules and the core, as the search for a clash wants them. -/
theorem clash?_reconcile (h : declared ≠ []) (hr : r.FromSurvey settings)
    (hs : Declaration.Sound imageSize declared) (status : Status) :
    let after := (r.reconcile declared imageSize status).1
    after.core.active = true ∧ after.modules.Pairwise fun a b ↦
      a.active = true → b.active = true → a.clashes b = false := by
  have hdistinct : (r.scannedOnly.modules.map Row.address).Nodup :=
    (List.nodup_cons.mp hr.distinct).2
  refine ⟨?_, pairwise_modules_reconcile h hs hdistinct status⟩
  rw [core_reconcile r h imageSize status]
  exact (core_settleCore (judgeCore declared r.core) r.core imageSize).1

/-- Nothing is reported about the layout if the core fits and there is no clash. -/
theorem forall_not_isAboutLayout_iff_fits (h : declared ≠ [])
    (hs : Declaration.Sound imageSize declared) (status : Status) :
    (∀ i ∈ (r.reconcile declared imageSize status).2.2.issues, ¬i.IsAboutLayout) ↔
      (r.placedCore declared).fits imageSize = true ∧
        (r.reconcile declared imageSize status).1.clash? = none := by
  constructor
  · intro hnone
    constructor
    · by_contra hfits
      rw [Bool.not_eq_true] at hfits
      exact hnone _ ((outsideImage_mem_iff h hs status 0).mpr ⟨rfl, hfits⟩) trivial
    · rw [Option.eq_none_iff_forall_not_mem]
      rintro ⟨a, b⟩ hab
      exact hnone _ ((overlap_mem_iff h status a b).mpr hab) trivial
  · rintro ⟨hfits, hnone⟩ i hi habout
    cases i with
    | mismatch m => exact habout
    | overlap a b =>
      rw [overlap_mem_iff h status, hnone] at hi
      exact absurd hi (by simp)
    | outsideImage index =>
      rw [outsideImage_mem_iff h hs status, hfits] at hi
      exact absurd hi.2 (by simp)

/-- Nothing is reported about the layout exactly if the core has room. -/
theorem forall_not_isAboutLayout_iff (h : declared ≠ []) (hr : r.FromSurvey settings)
    (hs : Declaration.Sound imageSize declared) (status : Status) :
    (∀ i ∈ (r.reconcile declared imageSize status).2.2.issues, ¬i.IsAboutLayout) ↔
      r.CoreHasRoom declared imageSize := by
  obtain ⟨hactive, hpairs⟩ := clash?_reconcile h hr hs status
  rw [forall_not_isAboutLayout_iff_fits h hs status, clash?_eq_none_iff hactive hpairs,
    forall_clashes_iff h hs status, core_reconcile r h imageSize status]
  have hstay (hfits : (r.placedCore declared).fits imageSize = true) :
      sticksOut imageSize (r.placedCore declared) = false := by
    rw [sticksOut_placedCore, hfits, Bool.not_true]
  constructor
  · rintro ⟨hfits, hapart⟩
    rw [hstay hfits, if_neg (by simp), exchanged_placedCore hr] at hapart
    exact ⟨(fits_placedCore_iff hr hs).mp hfits, hapart⟩
  · rintro ⟨hwithin, hapart⟩
    have hfits := (fits_placedCore_iff hr hs).mpr hwithin
    refine ⟨hfits, ?_⟩
    rw [hstay hfits, if_neg (by simp), exchanged_placedCore hr]
    exact hapart

end Core

end Roster

/-! ## The document -/

/-- The declaration of a module that was found is not the core's. -/
theorem Roster.Present.address_ne {r : Roster} {settings : Settings} (hr : r.FromSurvey settings)
    {declared : List Declaration} {d : Declaration} (hd : r.Present declared d) :
    d.address ≠ .core := by
  obtain ⟨row, hrow, hfirst, -⟩ := hd
  have hne : r.core.address ∉ r.scannedOnly.modules.map Row.address :=
    (List.nodup_cons.mp hr.distinct).1
  rw [Declaration.address_of_first? hfirst, ← hr.core_address]
  intro h
  exact hne (h ▸ List.mem_map_of_mem hrow)

/-- A document that leaves the core its bytes gives it room. -/
theorem Document.ReservesCore.coreHasRoom {d : Document} (hres : d.ReservesCore)
    (hd : d.check = .ok ()) {r : Roster} (hr : r.FromSurvey d.settings) :
    r.CoreHasRoom d.devices d.settings.imageSize := by
  obtain ⟨hvalid, hs⟩ := Document.check_eq_ok_iff.mp hd
  rw [ReservesCore] at hres
  cases hc : Declaration.first? d.devices .core with
  | none =>
    rw [hc] at hres
    constructor
    · have hsize := hvalid.coreBytes_le
      intro g hg
      rw [coreBytes, hc, List.mem_pair] at hg
      rcases hg with rfl | rfl
      · exact Region.endsWithin_of_stop_le (show 6 ≤ _ by omega)
      · exact Region.endsWithin_of_stop_le hsize
    · rintro e ⟨row, -, hfirst, -⟩ g hg k hk
      exact hres e (Declaration.mem_of_first? hfirst) g hg k hk
  | some c =>
    rw [hc] at hres
    obtain ⟨hin, hout⟩ := hres
    have hbytes : coreBytes d.devices = c.exchanged := by
      rw [coreBytes, hc, Declaration.exchanged, hin, hout]
    have hmem := Declaration.mem_of_first? hc
    constructor
    · rw [hbytes]
      exact fun g hg ↦ hs.within c hmem g (Declaration.mem_regions_of_mem_exchanged hg)
    · intro e he g hg k hk
      rw [hbytes] at hg
      have hne : c.address ≠ e.address := by
        rw [Declaration.address_of_first? hc]
        exact (he.address_ne hr).symm
      obtain ⟨row, -, hfirst, -⟩ := he
      exact hs.meets_eq_false hmem (Declaration.mem_of_first? hfirst) hne
        (Declaration.mem_regions_of_mem_exchanged hg) (Declaration.mem_regions_of_mem_exchanged hk)

/-- **Checked documents and layouts.**  Among the modules that a survey found nothing ever goes
wrong: only the core is reported as outside the image, and only the core overlaps with anybody.
Neither happens exactly if the core has room, for which it is enough that the document leaves it
its bytes. -/
theorem Roster.issues_reconcile_of_check {d : Document} (hd : d.check = .ok ())
    (hne : d.devices ≠ []) {r : Roster} (hr : r.FromSurvey d.settings) (status : Status) :
    let issues := (r.reconcile d.devices d.settings.imageSize status).2.2.issues
    (∀ index, .outsideImage index ∈ issues → index = 0) ∧
      (∀ first second, .overlap first second ∈ issues → first = 0) ∧
      ((∀ i ∈ issues, ¬i.IsAboutLayout) ↔ r.CoreHasRoom d.devices d.settings.imageSize) ∧
      (d.ReservesCore → ∀ i ∈ issues, ¬i.IsAboutLayout) := by
  obtain ⟨-, hs⟩ := Document.check_eq_ok_iff.mp hd
  have hroom := forall_not_isAboutLayout_iff hne hr hs status
  refine ⟨fun index hi ↦ ?_, fun first second hi ↦ ?_, hroom, fun hres ↦ ?_⟩
  · exact ((outsideImage_mem_iff hne hs status index).mp hi).1
  · obtain ⟨hactive, hpairs⟩ := clash?_reconcile hne hr hs status
    rw [overlap_mem_iff hne status, clash?_eq hactive hpairs] at hi
    obtain ⟨e, -, he⟩ := Option.map_eq_some_iff.mp hi
    exact (Prod.mk.inj he).1.symm
  · exact hroom.mpr (hres.coreHasRoom hd hr)

/-- A digital module at address 32 that is declared with its bytes from `offset` on. -/
def digitalAt (offset : UInt16) : Document :=
  .ofDeclarations [⟨⟨32⟩, ⟨96⟩, 2, 2, 0, 0, offset, offset + 2, 0, 0⟩]

/-- The roster of a survey that found this module. -/
def digitalFound : Roster where
  core := .fresh .core Settings.usual.coreIdentity
  modules := [.fresh ⟨32⟩ ⟨0, ⟨96⟩, 0, 0, 0, 0, 2, 2, 0⟩]
  capacity := 64
  scanned := none

theorem digitalFound_fromSurvey (offset : UInt16) :
    digitalFound.FromSurvey (digitalAt offset).settings :=
  ⟨rfl, rfl, by decide⟩

/-- Behind the core's eleven bytes the module is out of the way. -/
theorem Roster.issues_reconcile_digitalAt_eleven :
    (digitalAt 11).check = .ok () ∧ (digitalAt 11).devices ≠ [] ∧
      digitalFound.FromSurvey (digitalAt 11).settings ∧
      ∀ i ∈ (digitalFound.reconcile (digitalAt 11).devices (digitalAt 11).settings.imageSize
        .empty).2.2.issues, ¬i.IsAboutLayout :=
  ⟨rfl, by decide, digitalFound_fromSurvey 11,
    (Roster.issues_reconcile_of_check (d := digitalAt 11) rfl (by decide)
      (digitalFound_fromSurvey 11) .empty).2.2.2 (by decide)⟩

/-- **The check does not know of the core.**  At the start of the image the same module passes, and
its bytes are the core's. -/
theorem check_ignores_core :
    ¬∀ (d : Document) (r : Roster) (status : Status), d.check = .ok () → d.devices ≠ [] →
      r.FromSurvey d.settings →
        ∀ i ∈ (r.reconcile d.devices d.settings.imageSize status).2.2.issues,
          ¬i.IsAboutLayout := by
  intro h
  have hi : .overlap 0 1 ∈ (digitalFound.reconcile (digitalAt 0).devices
      (digitalAt 0).settings.imageSize .empty).2.2.issues := by decide
  exact h (digitalAt 0) digitalFound .empty rfl (by decide) (digitalFound_fromSurvey 0) _ hi trivial

end RackBus
