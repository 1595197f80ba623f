import RackBus.Proofs.Accounting
import RackBus.Proofs.Confinement

/-!
# The order of the declarations

Reconciliation goes through the declarations by position: the first one of an address counts, a row
claims a position, and rows are added in the order of the declarations.  If no address is declared
twice, nothing but the order of the added rows depends on it.

* `Declaration.sameFirst_of_perm`: the first declaration of an address is the only one, so it is the
  same in every order.
* `Verdict.Agrees` relates verdicts that say the same about a row, perhaps with another position.
  Whatever follows from a verdict without its position is the same for both.
* `Roster.placed` is the roster without rows for missing modules.  These take no part, so no search
  for an issue about the layout sees them: `Roster.outside_matched`, `Roster.clash?_matched`.
* `Roster.reconcile_of_perm` puts this together.
-/

set_option autoImplicit false

namespace RackBus

/-! ## Declarations without duplicates -/

section Lookup

variable {declared d₁ d₂ : List Declaration} {address : Address}

/-- If no address is declared twice, the first declaration of an address is the only one. -/
theorem Declaration.first?_eq_some_iff (hdistinct : (declared.map Declaration.address).Nodup)
    {d : Declaration} :
    first? declared address = some d ↔ d ∈ declared ∧ d.address = address := by
  constructor
  · intro h
    exact ⟨mem_of_first? h, address_of_first? h⟩
  · rintro ⟨hd, rfl⟩
    have hsome : (first? declared d.address).isSome = true :=
      List.find?_isSome.mpr ⟨d, hd, beq_self_eq_true d.address⟩
    obtain ⟨e, he⟩ := Option.isSome_iff_exists.mp hsome
    rw [he, List.inj_on_of_nodup_map hdistinct (mem_of_first? he) hd (address_of_first? he)]

/-- Is the first declaration of every address the same? -/
def Declaration.SameFirst (d₁ d₂ : List Declaration) : Prop :=
  ∀ address, first? d₁ address = first? d₂ address

/-- **The order does not matter** for the first declaration of an address. -/
theorem Declaration.sameFirst_of_perm (hperm : d₁.Perm d₂)
    (hdistinct : (d₁.map Declaration.address).Nodup) : SameFirst d₁ d₂ := by
  have hdistinct' : (d₂.map Declaration.address).Nodup := (hperm.map _).nodup_iff.mp hdistinct
  refine fun address ↦ Option.ext fun d ↦ ?_
  rw [first?_eq_some_iff hdistinct, first?_eq_some_iff hdistinct', hperm.mem_iff]

/-- If no address is declared twice, what is left over are the declarations that nobody takes. -/
theorem leftOver_eq_filter (r : Roster) {earlier : List Address}
    (hearlier : ∀ d ∈ declared, d.address ∉ earlier)
    (hdistinct : (declared.map Declaration.address).Nodup) :
    leftOver r earlier declared = declared.filter fun d ↦ ¬r.Takes d := by
  induction declared generalizing earlier with
  | nil => rfl
  | cons d rest ih =>
    rw [List.map_cons, List.nodup_cons, List.mem_map] at hdistinct
    have hbehind : ∀ e ∈ rest, e.address ∉ d.address :: earlier := by
      intro e he hmem
      rcases List.mem_cons.mp hmem with heq | hmem
      · exact hdistinct.1 ⟨e, he, heq⟩
      · exact hearlier e (List.mem_cons_of_mem _ he) hmem
    rw [leftOver, ih hbehind hdistinct.2]
    by_cases htakes : r.Takes d
    · rw [if_pos ⟨hearlier d List.mem_cons_self, htakes⟩,
        List.filter_cons_of_neg (by simpa using htakes)]
    · rw [if_neg fun h ↦ htakes h.2, List.filter_cons_of_pos (by simpa using htakes)]

/-- The order of what is left over is that of the declarations. -/
theorem leftOver_of_perm (r : Roster) (hperm : d₁.Perm d₂)
    (hdistinct : (d₁.map Declaration.address).Nodup) :
    (leftOver r [] d₁).Perm (leftOver r [] d₂) := by
  have hdistinct' : (d₂.map Declaration.address).Nodup := (hperm.map _).nodup_iff.mp hdistinct
  rw [leftOver_eq_filter r (fun _ _ ↦ List.not_mem_nil) hdistinct,
    leftOver_eq_filter r (fun _ _ ↦ List.not_mem_nil) hdistinct']
  exact hperm.filter _

end Lookup

/-! ## Verdicts without positions -/

/-- Two verdicts that say the same, perhaps with another position of the declaration. -/
inductive Verdict.Agrees : Verdict → Verdict → Prop
  | matched (d : Declaration) (i j : Nat) : Agrees (.matched d i) (.matched d j)
  | different (kind : MismatchKind) (expected found : UInt16) :
    Agrees (.different kind expected found) (.different kind expected found)
  | undeclared : Agrees .undeclared .undeclared

namespace Verdict.Agrees

variable {v w : Verdict}

theorem settle_eq (h : v.Agrees w) (row : Row) : v.settle row = w.settle row := by
  cases h <;> rfl

theorem settleCore_eq (h : v.Agrees w) (core : Row) : v.settleCore core = w.settleCore core := by
  cases h <;> rfl

theorem issue?_eq (h : v.Agrees w) (row : Row) (index : Nat) :
    v.issue? row index = w.issue? row index := by
  cases h <;> rfl

theorem isMatched_eq (h : v.Agrees w) : v.isMatched = w.isMatched := by
  cases h <;> rfl

end Verdict.Agrees

section Agree

variable {d₁ d₂ : List Declaration}

/-- If the first declaration of an address is the same, only its position can be another one. -/
theorem declarationAt?_agree {address : Address}
    (h : Declaration.first? d₁ address = Declaration.first? d₂ address) :
    (declarationAt? d₁ address = none ∧ declarationAt? d₂ address = none) ∨
      ∃ d i j, declarationAt? d₁ address = some (d, i) ∧ declarationAt? d₂ address = some (d, j) := by
  rw [first?_eq_map_declarationAt?, first?_eq_map_declarationAt?] at h
  cases h₁ : declarationAt? d₁ address with
  | none =>
    rw [h₁, Option.map_none, eq_comm, Option.map_eq_none_iff] at h
    exact Or.inl ⟨rfl, h⟩
  | some e =>
    rw [h₁, Option.map_some, eq_comm, Option.map_eq_some_iff] at h
    obtain ⟨e', h₂, he⟩ := h
    exact Or.inr ⟨e.1, e.2, e'.2, rfl, by rw [h₂, ← he]⟩

theorem judge_agrees {row : Row}
    (h : Declaration.first? d₁ row.address = Declaration.first? d₂ row.address) :
    (judge d₁ row).Agrees (judge d₂ row) := by
  rw [judge, judge]
  obtain ⟨h₁, h₂⟩ | ⟨d, i, j, h₁, h₂⟩ := declarationAt?_agree h
  · rw [h₁, h₂]
    exact .undeclared
  · rw [h₁, h₂]
    cases hdiff : firstDifference row.identity d with
    | none =>
      simp only [hdiff]
      exact .matched d i j
    | some difference =>
      simp only [hdiff]
      exact .different ..

theorem judgeCore_agrees {core : Row}
    (h : Declaration.first? d₁ core.address = Declaration.first? d₂ core.address) :
    (judgeCore d₁ core).Agrees (judgeCore d₂ core) := by
  rw [judgeCore, judgeCore]
  obtain ⟨h₁, h₂⟩ | ⟨d, i, j, h₁, h₂⟩ := declarationAt?_agree h
  · rw [h₁, h₂]
    exact .undeclared
  · rw [h₁, h₂]
    exact .matched d i j

end Agree

namespace Roster

/-! ## Rows for missing modules -/

/-- The roster with its rows in the places that the declarations give them, but without rows for
missing modules. -/
def placed (r : Roster) (declared : List Declaration) : Roster :=
  { r with
    core := (judgeCore declared r.core).settleCore r.core
    modules := r.modules.map fun row ↦ (judge declared row).settle row }

/-- Rows at the end that a search is not about do not change what it finds. -/
theorem filter_zipIdx_append {p : Row → Bool} {added : List Row}
    (hadded : ∀ row ∈ added, p row = false) (rows : List Row) :
    ((rows ++ added).zipIdx.filter fun e ↦ p e.1) = rows.zipIdx.filter fun e ↦ p e.1 := by
  have hnone (n : Nat) : ((added.zipIdx n).filter fun e ↦ p e.1) = [] := by
    rw [List.filter_eq_nil_iff]
    intro e he
    rw [hadded e.1 (List.fst_mem_of_mem_zipIdx he)]
    simp
  rw [List.zipIdx_append, List.filter_append, hnone, List.append_nil]

/-- Rows at the end that take no part are not touched when the roster is confined to the image. -/
theorem rows_confine_append {r s : Roster} {added : List Row} (hrows : r.rows = s.rows ++ added)
    (hadded : ∀ row ∈ added, row.active = false) (size : Nat) :
    (r.confine size).rows = (s.confine size).rows ++ added := by
  rw [rows, rows, List.cons_append, List.cons.injEq] at hrows
  have hkept : (added.map fun row ↦ if sticksOut size row then row.deactivate else row) = added := by
    refine (List.map_congr_left fun row hrow ↦ ?_).trans (List.map_id added)
    rw [sticksOut, hadded row hrow, Bool.false_and, if_neg Bool.false_ne_true, id]
  simp only [rows, confine, hrows.1, hrows.2, List.map_append, hkept, List.cons_append]

section Matched

variable (r : Roster) (declared : List Declaration) (size : Nat)

/-- The rows that are added take no part. -/
theorem exists_rows_matched :
    ∃ added : List Row, (r.matched declared).rows = (r.placed declared).rows ++ added ∧
      ∀ row ∈ added, row.active = false := by
  refine ⟨_, rfl, fun row hrow ↦ ?_⟩
  obtain ⟨d, -, rfl⟩ := List.mem_map.mp hrow
  rfl

/-- None of them is outside the image, ... -/
theorem outside_matched : (r.matched declared).outside size = (r.placed declared).outside size := by
  obtain ⟨added, hrows, hadded⟩ := r.exists_rows_matched declared
  rw [outside, outside, hrows, filter_zipIdx_append fun row hrow ↦ ?_]
  rw [sticksOut, hadded row hrow, Bool.false_and]

/-- ... and none of them shares a byte with another row. -/
theorem clash?_matched :
    ((r.matched declared).confine size).clash? = ((r.placed declared).confine size).clash? := by
  obtain ⟨added, hrows, hadded⟩ := r.exists_rows_matched declared
  rw [clash?, clash?, active, active, rows_confine_append hrows hadded, filter_zipIdx_append hadded]

end Matched

/-! ## Another order -/

section Perm

variable {d₁ d₂ : List Declaration}

theorem placed_congr (r : Roster) (h : Declaration.SameFirst d₁ d₂) :
    r.placed d₁ = r.placed d₂ := by
  have hmodules : (r.modules.map fun row ↦ (judge d₁ row).settle row) =
      r.modules.map fun row ↦ (judge d₂ row).settle row :=
    List.map_congr_left fun row _ ↦ (judge_agrees (h row.address)).settle_eq row
  rw [placed, placed, hmodules, (judgeCore_agrees (h r.core.address)).settleCore_eq]

theorem mismatches_congr (r : Roster) (h : Declaration.SameFirst d₁ d₂) :
    r.mismatches d₁ = r.mismatches d₂ :=
  List.filterMap_congr fun e _ ↦ (judge_agrees (h e.1.address)).issue?_eq e.1 e.2

/-- As many modules have a verdict of some kind. -/
theorem countP_verdicts_congr (r : Roster) (h : Declaration.SameFirst d₁ d₂) {p : Verdict → Bool}
    (hp : ∀ {v w}, v.Agrees w → p v = p w) :
    (r.verdicts d₁).countP p = (r.verdicts d₂).countP p := by
  rw [verdicts, verdicts, List.countP_map, List.countP_map]
  refine List.countP_congr fun row _ ↦ ?_
  rw [Function.comp, Function.comp, hp (judge_agrees (h row.address))]

theorem length_claimed_congr (r : Roster) (h : Declaration.SameFirst d₁ d₂) :
    (r.claimed d₁).length = (r.claimed d₂).length := by
  rw [length_claimed, length_claimed, List.countP_cons, List.countP_cons,
    r.countP_verdicts_congr h Verdict.Agrees.isMatched_eq,
    (judgeCore_agrees (h r.core.address)).isMatched_eq]

/-- The status flags and the report are the same if as many declarations are left over. -/
theorem snd_reconcile_congr (r : Roster) (hne₁ : d₁ ≠ []) (hne₂ : d₂ ≠ [])
    (h : Declaration.SameFirst d₁ d₂)
    (hmissing : (r.unplaced.unclaimed d₁).length = (r.unplaced.unclaimed d₂).length)
    (imageSize : Nat) (status : Status) :
    (r.reconcile d₁ imageSize status).2 = (r.reconcile d₂ imageSize status).2 := by
  have hfree₁ : d₁.isEmpty = false := by simpa using hne₁
  have hfree₂ : d₂.isEmpty = false := by simpa using hne₂
  have hblock (declared : List Declaration) :
      ((r.unplaced.matched declared).confine imageSize).coreBlock =
        ((r.unplaced.placed declared).confine imageSize).coreBlock := rfl
  have hextra := r.unplaced.countP_verdicts_congr h (p := fun v ↦ !v.isMatched)
    fun hvw ↦ congrArg not hvw.isMatched_eq
  simp only [reconcile, hfree₁, hfree₂, Bool.false_eq_true, if_false, outside_matched,
    clash?_matched, hblock, r.unplaced.placed_congr h, r.unplaced.mismatches_congr h,
    r.unplaced.length_claimed_congr h, hextra, hmissing]

/-- The rows that were found become the same. -/
theorem take_rows_reconcile_congr (r : Roster) (hne₁ : d₁ ≠ []) (hne₂ : d₂ ≠ [])
    (h : Declaration.SameFirst d₁ d₂) (imageSize : Nat) (status : Status) :
    (r.reconcile d₁ imageSize status).1.rows.take r.scannedOnly.size =
      (r.reconcile d₂ imageSize status).1.rows.take r.scannedOnly.size := by
  have hcore : (r.reconcile d₁ imageSize status).1.core =
      (r.reconcile d₂ imageSize status).1.core := by
    rw [core_reconcile r hne₁, core_reconcile r hne₂,
      (judgeCore_agrees (h r.core.address)).settleCore_eq]
  have hmodules : r.scannedOnly.modules.map (Row.reconciled d₁ imageSize) =
      r.scannedOnly.modules.map (Row.reconciled d₂ imageSize) := by
    refine List.map_congr_left fun row _ ↦ ?_
    rw [Row.reconciled, Row.reconciled, judge_unplaced, judge_unplaced,
      (judge_agrees (h row.address)).settle_eq]
  rw [rows, rows, size, List.take_succ_cons, List.take_succ_cons, hcore, modules_reconcile r hne₁,
    modules_reconcile r hne₂, hmodules, List.take_left' (List.length_map ..),
    List.take_left' (List.length_map ..)]

/-- The added rows are those of the declarations that are left over. -/
theorem drop_rows_reconcile (r : Roster) {declared : List Declaration} (hne : declared ≠ [])
    (imageSize : Nat) (status : Status) :
    (r.reconcile declared imageSize status).1.rows.drop r.scannedOnly.size =
      ((leftOver r.scannedOnly [] declared).take (r.capacity - r.scannedOnly.size)).map
        Row.missing := by
  rw [rows, show r.scannedOnly.size = r.scannedOnly.modules.length + 1 from rfl,
    List.drop_succ_cons, modules_reconcile r hne, List.drop_left' (List.length_map ..)]
  rfl

/-- **The order of the declarations does not matter**, if no address is declared twice: the rows
that were found become the same, and the status flags and the report are the same.  The added rows
are the same in another order, if there is room for all of them. -/
theorem reconcile_of_perm (r : Roster) (hperm : d₁.Perm d₂)
    (hdistinct : (d₁.map Declaration.address).Nodup) (imageSize : Nat) (status : Status) :
    let a := r.reconcile d₁ imageSize status
    let b := r.reconcile d₂ imageSize status
    let found := r.scannedOnly.size
    a.1.rows.take found = b.1.rows.take found ∧ a.1.scanned = b.1.scanned ∧ a.2 = b.2 ∧
      (a.2.2.missing ≤ r.capacity - found →
        (a.1.rows.drop found).Perm (b.1.rows.drop found)) := by
  intro a b found
  by_cases hne₁ : d₁ = []
  · subst hne₁
    obtain rfl := hperm.nil_eq
    exact ⟨rfl, rfl, rfl, fun _ ↦ .refl _⟩
  · have hne₂ : d₂ ≠ [] := fun h ↦ hne₁ (h ▸ hperm).eq_nil
    have hfirst := Declaration.sameFirst_of_perm hperm hdistinct
    have hleft (s : Roster) := leftOver_of_perm s hperm hdistinct
    have hmissing : (r.unplaced.unclaimed d₁).length = (r.unplaced.unclaimed d₂).length := by
      rw [unclaimed_unplaced, unclaimed_unplaced, (hleft _).length_eq]
    refine ⟨r.take_rows_reconcile_congr hne₁ hne₂ hfirst imageSize status, ?_,
      r.snd_reconcile_congr hne₁ hne₂ hfirst hmissing imageSize status, fun hroom ↦ ?_⟩
    · exact (scanned_reconcile ..).trans (scanned_reconcile ..).symm
    · have hcount : a.2.2.missing = (leftOver r.scannedOnly [] d₁).length :=
        congrArg Report.missing (r.report_reconcile hne₁ imageSize status)
      have hroom₁ : (leftOver r.scannedOnly [] d₁).length ≤ r.capacity - found := hcount ▸ hroom
      have hroom₂ : (leftOver r.scannedOnly [] d₂).length ≤ r.capacity - found :=
        (hleft _).length_eq ▸ hroom₁
      rw [drop_rows_reconcile r hne₁, drop_rows_reconcile r hne₂, List.take_of_length_le hroom₁,
        List.take_of_length_le hroom₂]
      exact (hleft _).map _

/-- Declarations that fit the first module of `threeFound`, differ from the second one, and ask for
a fourth one. -/
def threeDeclared : List Declaration :=
  [⟨⟨32⟩, ⟨96⟩, 2, 2, 0, 0, 11, 13, 0, 0⟩, ⟨⟨33⟩, ⟨97⟩, 4, 0, 0, 0, 24, 0, 0, 8⟩,
    ⟨⟨40⟩, ⟨96⟩, 2, 2, 0, 0, 30, 32, 0, 9⟩]

/-- The other way round the two added rows change places. -/
theorem reconcile_of_perm_threeDeclared :
    threeDeclared.Perm threeDeclared.reverse ∧
      (threeDeclared.map Declaration.address).Nodup ∧
      (let a := threeFound.reconcile threeDeclared 64 .empty
      let b := threeFound.reconcile threeDeclared.reverse 64 .empty
      a.1.rows.take 4 = b.1.rows.take 4 ∧ a.2 = b.2 ∧
        (a.1.rows.drop 4).Perm (b.1.rows.drop 4) ∧
        (a.1.rows.drop 4).map (fun row ↦ row.address.value) = [33, 40] ∧
        (b.1.rows.drop 4).map (fun row ↦ row.address.value) = [40, 33]) := by
  have hperm := (List.reverse_perm threeDeclared).symm
  obtain ⟨hfound, -, hreport, hadded⟩ :=
    reconcile_of_perm threeFound hperm (by decide) 64 .empty
  exact ⟨hperm, by decide, hfound, hreport, hadded (by decide), by decide, by decide⟩

end Perm

end Roster

end RackBus
