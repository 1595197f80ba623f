import RackBus.Proofs.Declared
import RackBus.Proofs.Misfits
import RackBus.Proofs.Reconciliation

/-!
# The accounts of a reconciliation

A report counts the rows that match a declaration, the rows that do not, and the declarations that
are left over, and it lists the modules that differ from their declarations.  This file says how
these numbers go together.

* `Declaration.FirstDiffers` says what a difference is called: the first of type, input length and
  output length that is not as declared.  `Mismatch.IsAbout` is what a listed difference says about
  a row.
* `Roster.claimed_add_unclaimed` is the account of the declarations.  Rows with different addresses
  never claim the same declaration, so every declaration is either claimed once or left over.
* `Roster.claimed_add_unmatched` is the account of the rows, which is a count of verdicts.
* `Roster.Accounted` is all of it, and `Roster.accounted_reconcile` says that every reconciliation
  with declarations is accounted for.
-/

set_option autoImplicit false

namespace RackBus

/-! ## Differences -/

/-- The first field in which a module differs from a declaration, with the declared and the reported
value. -/
inductive Declaration.FirstDiffers (d : Declaration) (found : Identity) :
    MismatchKind → UInt16 → UInt16 → Prop
  | type (h : found.type ≠ d.type) : FirstDiffers d found .type d.type.code found.type.code
  | inputLength (htype : found.type = d.type) (h : found.inputLength ≠ d.inputLength) :
    FirstDiffers d found .inputLength d.inputLength found.inputLength
  | outputLength (htype : found.type = d.type) (hinput : found.inputLength = d.inputLength)
      (h : found.outputLength ≠ d.outputLength) :
    FirstDiffers d found .outputLength d.outputLength found.outputLength

/-- The search for a difference finds the first one. -/
theorem firstDiffers_of_firstDifference {found : Identity} {d : Declaration} {kind : MismatchKind}
    {expected reported : UInt16}
    (h : firstDifference found d = some (kind, expected, reported)) :
    d.FirstDiffers found kind expected reported := by
  rw [firstDifference] at h
  split at h
  · rename_i htype
    cases h
    exact .type htype
  · rename_i htype
    split at h
    · rename_i hinput
      cases h
      exact .inputLength (not_not.mp htype) hinput
    · rename_i hinput
      split at h
      · rename_i houtput
        cases h
        exact .outputLength (not_not.mp htype) (not_not.mp hinput) houtput
      · cases h

/-- Does a module differ from the first declaration of its address? -/
def Row.Differs (row : Row) (declared : List Declaration) : Prop :=
  ∃ d ∈ Declaration.first? declared row.address, ¬d.Describes row.identity

instance (row : Row) (declared : List Declaration) : Decidable (row.Differs declared) :=
  inferInstanceAs (Decidable (∃ d ∈ Declaration.first? declared row.address, _))

/-- A listed difference is about the row `e.1` with the index `e.2`: it names the first field in
which this row differs from the first declaration of its address. -/
structure Mismatch.IsAbout (m : Mismatch) (declared : List Declaration) (e : Row × Nat) : Prop where
  index : m.index = e.2
  address : m.address = e.1.address
  names : ∃ d, Declaration.first? declared e.1.address = some d ∧
    d.FirstDiffers e.1.identity m.kind m.expected m.found

/-- The difference that an issue is about. -/
def Issue.mismatch? : Issue → Option Mismatch
  | mismatch m => some m
  | _ => none

theorem Report.mismatches_eq (r : Report) : r.mismatches = r.issues.filterMap Issue.mismatch? := rfl

/-- The difference that is listed for the row `e.1` with the index `e.2`. -/
def difference? (declared : List Declaration) (e : Row × Nat) : Option Mismatch :=
  ((judge declared e.1).issue? e.1 e.2).bind Issue.mismatch?

/-- **A difference is listed** for a module that differs. -/
theorem exists_difference? {declared : List Declaration} {e : Row × Nat}
    (h : e.1.Differs declared) :
    ∃ m, difference? declared e = some m ∧ m.IsAbout declared e := by
  obtain ⟨d, hfirst, hd⟩ := h
  have hat := hfirst
  rw [first?_eq_map_declarationAt?, Option.mem_def, Option.map_eq_some_iff] at hat
  obtain ⟨⟨d, position⟩, hat, rfl⟩ := hat
  obtain ⟨⟨kind, expected, reported⟩, hdiff⟩ := Option.ne_none_iff_exists'.mp
    (mt firstDifference_eq_none_iff.mp hd)
  have hjudge : judge declared e.1 = .different kind expected reported := by
    rw [judge, hat]
    simp only [hdiff]
  rw [difference?, hjudge]
  exact ⟨_, rfl, rfl, rfl, d, hfirst, firstDiffers_of_firstDifference hdiff⟩

/-- Nothing is listed for another one. -/
theorem difference?_eq_none {declared : List Declaration} {e : Row × Nat}
    (h : ¬e.1.Differs declared) : difference? declared e = none := by
  rw [difference?]
  cases hjudge : judge declared e.1 with
  | matched d position => rfl
  | undeclared => rfl
  | different kind expected reported =>
    refine absurd ?_ h
    rw [judge] at hjudge
    split at hjudge
    · cases hjudge
    · rename_i d position hat
      split at hjudge
      · cases hjudge
      · rename_i hdiff
        refine ⟨d, ?_, ?_⟩
        · rw [first?_eq_map_declarationAt?, hat]
          rfl
        · rw [← firstDifference_eq_none_iff, hdiff]
          simp

/-- A list with the elements left out that a function has no value for, and the values of the
others. -/
theorem forall₂_filter_filterMap {α β : Type*} {R : α → β → Prop} {p : α → Prop} [DecidablePred p]
    {f : α → Option β} (hsome : ∀ {a}, p a → ∃ b, f a = some b ∧ R a b)
    (hnone : ∀ {a}, ¬p a → f a = none) (l : List α) :
    List.Forall₂ R (l.filter p) (l.filterMap f) := by
  induction l with
  | nil => exact .nil
  | cons a rest ih =>
    by_cases hp : p a
    · obtain ⟨b, hb, hr⟩ := hsome hp
      rw [List.filter_cons_of_pos (by simpa using hp), List.filterMap_cons_some hb]
      exact .cons hr ih
    · rw [List.filter_cons_of_neg (by simpa using hp), List.filterMap_cons_none (hnone hp)]
      exact ih

namespace Roster

variable {r : Roster} {declared : List Declaration}

/-! ## The account of the declarations -/

/-- A claimed position is one of a declaration of the row's address. -/
theorem exists_address_of_judge {row : Row} {position : Nat}
    (h : (judge declared row).position? = some position) :
    ∃ d, declared[position]? = some d ∧ d.address = row.address := by
  obtain ⟨d, hd⟩ := Verdict.position?_eq_some_iff.mp h
  obtain ⟨haddress, hposition, -⟩ :=
    declarationAt?_eq_some_iff.mp (judge_eq_matched_iff.mp hd).1
  exact ⟨d, hposition, haddress⟩

theorem exists_address_of_judgeCore {core : Row} {position : Nat}
    (h : (judgeCore declared core).position? = some position) :
    ∃ d, declared[position]? = some d ∧ d.address = core.address := by
  obtain ⟨d, hd⟩ := Verdict.position?_eq_some_iff.mp h
  obtain ⟨haddress, hposition, -⟩ := declarationAt?_eq_some_iff.mp (judgeCore_eq_matched_iff.mp hd)
  exact ⟨d, hposition, haddress⟩

/-- A claimed position is one of a declaration. -/
theorem lt_of_mem_claimed {position : Nat} (h : position ∈ r.claimed declared) :
    position < declared.length := by
  have hlt {d : Declaration} (hd : declared[position]? = some d) : position < declared.length :=
    (List.getElem?_eq_some_iff.mp hd).1
  rw [claimed, verdicts, List.mem_filterMap] at h
  obtain ⟨v, hv, hposition⟩ := h
  rcases List.mem_cons.mp hv with rfl | hv
  · obtain ⟨d, hd, -⟩ := exists_address_of_judgeCore hposition
    exact hlt hd
  · obtain ⟨row, -, rfl⟩ := List.mem_map.mp hv
    obtain ⟨d, hd, -⟩ := exists_address_of_judge hposition
    exact hlt hd

/-- **Rows with different addresses** never claim the same declaration. -/
theorem nodup_claimed (hdistinct : (r.rows.map Row.address).Nodup)
    (declared : List Declaration) : (r.claimed declared).Nodup := by
  have hne {a b : Address} {i j : Nat} (ha : ∃ d, declared[i]? = some d ∧ d.address = a)
      (hb : ∃ d, declared[j]? = some d ∧ d.address = b) (hab : a ≠ b) : i ≠ j := by
    rintro rfl
    obtain ⟨d, hd, rfl⟩ := ha
    obtain ⟨e, he, rfl⟩ := hb
    rw [hd, Option.some_inj] at he
    exact hab (congrArg Declaration.address he)
  rw [rows, List.map_cons, List.nodup_cons, List.mem_map] at hdistinct
  rw [claimed, verdicts, List.Nodup, List.pairwise_filterMap, List.pairwise_cons,
    List.pairwise_map]
  constructor
  · intro v hv i hi j hj
    obtain ⟨row, hrow, rfl⟩ := List.mem_map.mp hv
    exact hne (exists_address_of_judgeCore hi) (exists_address_of_judge hj)
      fun heq ↦ hdistinct.1 ⟨row, hrow, heq.symm⟩
  · exact (List.pairwise_map.mp hdistinct.2).imp fun hab i hi j hj ↦
      hne (exists_address_of_judge hi) (exists_address_of_judge hj) hab

/-- **The account of the declarations**: each of them is claimed by one row or left over. -/
theorem claimed_add_unclaimed (hdistinct : (r.rows.map Row.address).Nodup)
    (declared : List Declaration) :
    (r.claimed declared).length + (r.unclaimed declared).length = declared.length := by
  have hperm : ((List.range declared.length).filter fun i ↦ (r.claimed declared).contains i).Perm
      (r.claimed declared) := by
    rw [List.perm_ext_iff_of_nodup (List.nodup_range.filter _) (nodup_claimed hdistinct declared)]
    intro i
    simp only [List.mem_filter, List.mem_range, List.contains_iff_mem, and_iff_right_iff_imp]
    exact lt_of_mem_claimed
  have hclaimed : declared.zipIdx.countP (fun e ↦ (r.claimed declared).contains e.2) =
      (r.claimed declared).length := by
    rw [← hperm.length_eq, ← List.countP_eq_length_filter, List.range_eq_range',
      ← List.zipIdx_map_snd 0 declared, List.countP_map]
    rfl
  have hunclaimed : (r.unclaimed declared).length =
      declared.zipIdx.countP fun e ↦ !(r.claimed declared).contains e.2 := by
    rw [unclaimed, List.length_map, List.countP_eq_length_filter]
  have hboth := List.length_eq_countP_add_countP (l := declared.zipIdx)
    fun e ↦ (r.claimed declared).contains e.2
  rw [hunclaimed, ← hclaimed, ← List.length_zipIdx (l := declared) (i := 0), hboth]
  simp

/-! ## The account of the rows -/

theorem length_claimed (r : Roster) (declared : List Declaration) :
    (r.claimed declared).length =
      (judgeCore declared r.core :: r.verdicts declared).countP Verdict.isMatched :=
  List.length_filterMap_eq_countP ..

/-- **The account of the rows**: each of them matches a declaration or does not.  A core that is not
declared counts as neither. -/
theorem claimed_add_unmatched (r : Roster) (declared : List Declaration) :
    (r.claimed declared).length + ((r.verdicts declared).countP fun v ↦ !v.isMatched) +
      (if Declaration.first? declared r.core.address = none then 1 else 0) = r.size := by
  have hmodules : (r.verdicts declared).countP Verdict.isMatched +
      ((r.verdicts declared).countP fun v ↦ !v.isMatched) = r.modules.length := by
    rw [← List.length_map (judge declared), ← verdicts,
      List.length_eq_countP_add_countP Verdict.isMatched]
    simp
  have hcore : (judgeCore declared r.core).isMatched =
      decide (Declaration.first? declared r.core.address ≠ none) := by
    rw [judgeCore, first?_eq_map_declarationAt?]
    cases declarationAt? declared r.core.address <;> rfl
  rw [length_claimed, List.countP_cons, hcore, size]
  by_cases hnone : Declaration.first? declared r.core.address = none
  · simp only [hnone, ne_eq, not_true_eq_false, decide_false, Bool.false_eq_true, if_false,
      if_true]
    omega
  · simp only [hnone, ne_eq, not_false_eq_true, decide_true, if_false, if_true]
    omega

/-! ## The whole reconciliation -/

/-- The numbers and the differences of a report, the number of rows behind those that were found,
and the status flags go together. -/
structure Accounted (before : Roster) (declared : List Declaration) (after : Roster)
    (status : Status) (report : Report) : Prop where
  /-- Every declaration is matched by one row or missing. -/
  declarations : report.matched + report.missing = declared.length
  /-- Every row that was found matches a declaration or is an extra one, but for a core that is not
  declared. -/
  rows : report.matched + report.extra +
    (if Declaration.first? declared before.core.address = none then 1 else 0) =
      before.scannedOnly.size
  /-- Rows are added for the missing declarations, as far as there is room. -/
  added : after.size = before.scannedOnly.size +
    min report.missing (before.capacity - before.scannedOnly.size)
  /-- The listed differences are those of the modules that differ, one for each and in order. -/
  mismatches : List.Forall₂ (fun e m ↦ m.IsAbout declared e)
    ((before.scannedOnly.modules.zipIdx 1).filter fun e ↦ e.1.Differs declared) report.mismatches
  extraModule : status.contains .extraModule = true ↔ 0 < report.extra
  missingModule : status.contains .missingModule = true ↔ 0 < report.missing
  sizeMismatch : status.contains .sizeMismatch = true ↔ report.Misfits

/-- The listed differences are those of the modules, in order. -/
theorem mismatches_reconcile (r : Roster) (hne : declared ≠ []) (imageSize : Nat)
    (status : Status) :
    (r.reconcile declared imageSize status).2.2.mismatches =
      (r.scannedOnly.modules.zipIdx 1).filterMap (difference? declared) := by
  have houtside (l : List Nat) : (l.map Issue.outsideImage).filterMap Issue.mismatch? = [] := by
    rw [List.filterMap_map, List.filterMap_eq_nil_iff]
    exact fun _ _ ↦ rfl
  have hoverlap (l : List (Nat × Nat)) :
      (l.map fun e ↦ Issue.overlap e.1 e.2).filterMap Issue.mismatch? = [] := by
    rw [List.filterMap_map, List.filterMap_eq_nil_iff]
    exact fun _ _ ↦ rfl
  have hlisted : (r.unplaced.mismatches declared).filterMap Issue.mismatch? =
      (r.scannedOnly.modules.zipIdx 1).filterMap (difference? declared) := by
    have hrows : r.unplaced.rows.zipIdx.tail =
        (r.scannedOnly.modules.map Row.unplaced).zipIdx 1 := rfl
    rw [Roster.mismatches, hrows, List.zipIdx_map, List.filterMap_map, List.filterMap_filterMap]
    rfl
  rw [report_reconcile r hne, Report.mismatches_eq, List.filterMap_append, List.filterMap_append,
    houtside, hoverlap, List.append_nil, List.append_nil, hlisted]

/-- **Every reconciliation with declarations is accounted for**, if the rows that were found have
different addresses. -/
theorem accounted_reconcile {r : Roster} (hne : declared ≠ [])
    (hdistinct : (r.scannedOnly.rows.map Row.address).Nodup) (imageSize : Nat) (status : Status) :
    let after := r.reconcile declared imageSize status
    r.Accounted declared after.1 after.2.1 after.2.2 := by
  intro after
  have hreport := r.report_reconcile hne imageSize status
  have hmatched : after.2.2.matched = (r.unplaced.claimed declared).length :=
    congrArg Report.matched hreport
  have hextra : after.2.2.extra = (r.unplaced.verdicts declared).countP fun v ↦ !v.isMatched :=
    congrArg Report.extra hreport
  have hmissing : after.2.2.missing = (leftOver r.scannedOnly [] declared).length :=
    congrArg Report.missing hreport
  have haddresses : r.unplaced.rows.map Row.address = r.scannedOnly.rows.map Row.address := by
    show r.core.address :: (r.scannedOnly.modules.map Row.unplaced).map Row.address = _
    rw [List.map_map]
    rfl
  have hsize : r.unplaced.size = r.scannedOnly.size := by simp [size, unplaced]
  obtain ⟨hextraFlag, hmissingFlag, hmisfits⟩ := r.decided_reconcile declared imageSize status
  exact
    { declarations := by
        rw [hmatched, hmissing, ← unclaimed_unplaced]
        exact claimed_add_unclaimed (haddresses ▸ hdistinct) declared
      rows := by
        rw [hmatched, hextra, ← hsize]
        exact claimed_add_unmatched r.unplaced declared
      added := by
        rw [size, modules_reconcile r hne, List.length_append, List.length_map, List.length_map,
          List.length_take, ← hmissing, size]
        omega
      mismatches := by
        rw [mismatches_reconcile r hne]
        exact forall₂_filter_filterMap exists_difference? difference?_eq_none _
      extraModule := (Bool.eq_iff_iff.mp (Status.contains_status _ .extraModule)).trans hextraFlag
      missingModule :=
        (Bool.eq_iff_iff.mp (Status.contains_status _ .missingModule)).trans hmissingFlag
      sizeMismatch :=
        (Bool.eq_iff_iff.mp (Status.contains_status _ .sizeMismatch)).trans hmisfits }

/-- Two rows match, one differs, and of three missing declarations two have room for a row. -/
theorem accounted_reconcile_threeFound :
    fiveDeclared ≠ [] ∧ (threeFound.scannedOnly.rows.map Row.address).Nodup ∧
      (let after := threeFound.reconcile fiveDeclared 64 .empty
      threeFound.Accounted fiveDeclared after.1 after.2.1 after.2.2 ∧
        (after.2.2.matched, after.2.2.extra, after.2.2.missing, after.1.size) = (2, 1, 3, 6) ∧
        after.2.2.mismatches = [⟨2, ⟨33⟩, .inputLength, 4, 2⟩]) :=
  ⟨by decide, by decide, accounted_reconcile (by decide) (by decide) 64 .empty, by decide,
    by decide⟩

end Roster

end RackBus
