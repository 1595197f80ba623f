import RackBus.Proofs.Confinement
import RackBus.Proofs.Misfits

/-!
# Which shared bytes are reported

When every row has its place, reconciliation looks for two rows that take part and share a byte of
the image, and reports the first two that it finds.  It looks at inputs and outputs only.

* `Row.Shares` says that two rows share a byte, be it of their configuration.
* `Roster.IsPair` and `Roster.IsFirstPair` are about the indices of two rows that take part, and
  `Report.TellsOverlap` says that a report tells of the first such pair.
* `Roster.overlap_reconcile`: the report tells of the first two rows that share an input or output
  byte.  It tells of all shared bytes if no two rows share configuration bytes only.  Those go
  unnoticed, as `Roster.overlap_unnoticed` shows.
-/

set_option autoImplicit false

namespace RackBus

universe u

/-! ## The first pair by number -/

section FirstPair

variable {α : Type u} {key : α → Nat} {l : List α}

/-- In a list in the order of its numbers, they are compared like the positions. -/
theorem key_lt_iff (hl : l.Pairwise fun a b ↦ key a < key b) {i j : Nat} {a b : α}
    (ha : l[i]? = some a) (hb : l[j]? = some b) : key a < key b ↔ i < j := by
  obtain ⟨hi, rfl⟩ := List.getElem?_eq_some_iff.mp ha
  obtain ⟨hj, rfl⟩ := List.getElem?_eq_some_iff.mp hb
  rw [List.pairwise_iff_getElem] at hl
  refine ⟨fun hlt ↦ ?_, hl i j hi hj⟩
  rcases Nat.lt_trichotomy i j with hij | rfl | hji
  · exact hij
  · exact absurd hlt (Nat.lt_irrefl _)
  · exact absurd (hl j i hj hi hji) (Nat.lt_asymm hlt)

/-- A first pair consists of two elements in the order of their numbers. -/
theorem mem_of_firstPair (hl : l.Pairwise fun a b ↦ key a < key b) {p : α → α → Bool} {a b : α}
    (h : firstPair p l = some (a, b)) : a ∈ l ∧ b ∈ l ∧ key a < key b ∧ p a b = true := by
  obtain ⟨i, j, hlt, ha, hb, hp, -⟩ := firstPair_eq_some_iff.mp h
  exact ⟨List.mem_of_getElem? ha, List.mem_of_getElem? hb, (key_lt_iff hl ha hb).mpr hlt, hp⟩

/-- **The first pair** comes before all others, by the number of the first and then of the second
element. -/
theorem least_of_firstPair (hl : l.Pairwise fun a b ↦ key a < key b) {p : α → α → Bool} {a b : α}
    (h : firstPair p l = some (a, b)) {c d : α} (hc : c ∈ l) (hd : d ∈ l) (hlt : key c < key d)
    (hp : p c d = true) : key a < key c ∨ key a = key c ∧ key b ≤ key d := by
  obtain ⟨i, j, -, ha, hb, -, hfirst⟩ := firstPair_eq_some_iff.mp h
  obtain ⟨k, hk⟩ := List.getElem?_of_mem hc
  obtain ⟨m, hm⟩ := List.getElem?_of_mem hd
  rcases hfirst k m c d ((key_lt_iff hl hk hm).mp hlt) hk hm hp with hik | ⟨rfl, hjm⟩
  · exact Or.inl ((key_lt_iff hl ha hk).mpr hik)
  · obtain rfl := Option.some.inj (ha.symm.trans hk)
    exact Or.inr ⟨rfl, Nat.not_lt.mp (mt (key_lt_iff hl hm hb).mp (Nat.not_lt.mpr hjm))⟩

end FirstPair

/-! ## Rows that share a byte -/

/-- Two rows share a byte of the image. -/
def Row.Shares (a b : Row) : Prop := ∃ g ∈ a.regions, ∃ h ∈ b.regions, ∃ i, i ∈ g ∧ i ∈ h

instance (a b : Row) : Decidable (a.Shares b) :=
  decidable_of_iff (∃ g ∈ a.regions, ∃ h ∈ b.regions, g.meets h = true)
    (by simp only [Row.Shares, Region.meets_iff])

/-- What the search looks at are inputs and outputs. -/
theorem Row.clashes_iff {a b : Row} :
    a.clashes b = true ↔ ∃ g ∈ a.exchanged, ∃ h ∈ b.exchanged, ∃ i, i ∈ g ∧ i ∈ h := by
  simp only [clashes, exchanged, List.any_eq_true, Region.meets_iff]

theorem Row.shares_of_clashes {a b : Row} (h : a.clashes b = true) : a.Shares b := by
  have hsub (row : Row) : row.exchanged ⊆ row.regions := by simp [exchanged, regions]
  obtain ⟨g, hg, k, hk, hi⟩ := clashes_iff.mp h
  exact ⟨g, hsub a hg, k, hsub b hk, hi⟩

namespace Roster

/-- The rows with two indices take part, in this order, and something holds of them. -/
def IsPair (r : Roster) (p : Row → Row → Prop) (i j : Nat) : Prop :=
  i < j ∧ ∃ a b, r.rows[i]? = some a ∧ r.rows[j]? = some b ∧ a.active = true ∧ b.active = true ∧
    p a b

/-- No other such pair comes before this one, by the first and then by the second index. -/
structure IsFirstPair (r : Roster) (p : Row → Row → Prop) (i j : Nat) : Prop where
  isPair : r.IsPair p i j
  first : ∀ k l, r.IsPair p k l → i < k ∨ i = k ∧ j ≤ l

/-- Of the rows that take part, any two that share a byte share an input or output byte. -/
def SharesExchanged (r : Roster) : Prop :=
  (r.rows.filter Row.active).Pairwise fun a b ↦ a.Shares b → a.clashes b = true

instance (r : Roster) : Decidable r.SharesExchanged :=
  inferInstanceAs (Decidable (List.Pairwise _ _))

theorem SharesExchanged.isPair_iff {r : Roster} (h : r.SharesExchanged) {i j : Nat} :
    r.IsPair Row.Shares i j ↔ r.IsPair (fun a b ↦ a.clashes b = true) i j := by
  constructor
  · rintro ⟨hlt, a, b, ha, hb, haActive, hbActive, hshares⟩
    refine ⟨hlt, a, b, ha, hb, haActive, hbActive, ?_⟩
    obtain ⟨hi, rfl⟩ := List.getElem?_eq_some_iff.mp ha
    obtain ⟨hj, rfl⟩ := List.getElem?_eq_some_iff.mp hb
    have hpairwise := List.pairwise_iff_getElem.mp (List.pairwise_filter.mp h)
    exact hpairwise i j hi hj hlt haActive hbActive hshares
  · rintro ⟨hlt, a, b, ha, hb, haActive, hbActive, hclashes⟩
    exact ⟨hlt, a, b, ha, hb, haActive, hbActive, Row.shares_of_clashes hclashes⟩

/-! ## What the search finds -/

section Search

variable {r : Roster}

/-- The rows that take part come in the order of their indices. -/
theorem pairwise_active (r : Roster) : r.active.Pairwise fun a b ↦ a.2 < b.2 := by
  have hindices : r.rows.zipIdx.Pairwise fun a b ↦ a.2 < b.2 := by
    rw [← List.pairwise_map, List.zipIdx_map_snd]
    exact List.pairwise_lt_range'
  exact hindices.filter _

theorem mem_active_iff {row : Row} {i : Nat} :
    (row, i) ∈ r.active ↔ r.rows[i]? = some row ∧ row.active = true := by
  rw [active, List.mem_filter, List.mk_mem_zipIdx_iff_getElem?]

theorem isFirstPair_of_clash? {i j : Nat} (h : r.clash? = some (i, j)) :
    r.IsFirstPair (fun a b ↦ a.clashes b = true) i j := by
  obtain ⟨⟨⟨a, i⟩, ⟨b, j⟩⟩, hpair, hindices⟩ := Option.map_eq_some_iff.mp h
  obtain ⟨rfl, rfl⟩ := Prod.mk.inj hindices
  obtain ⟨ha, hb, hlt, hclashes⟩ := mem_of_firstPair r.pairwise_active hpair
  rw [mem_active_iff] at ha hb
  refine ⟨⟨hlt, a, b, ha.1, hb.1, ha.2, hb.2, hclashes⟩, ?_⟩
  rintro k l ⟨hkl, c, d, hc, hd, hcActive, hdActive, hp⟩
  exact least_of_firstPair r.pairwise_active hpair (mem_active_iff.mpr ⟨hc, hcActive⟩)
    (mem_active_iff.mpr ⟨hd, hdActive⟩) hkl hp

theorem not_isPair_of_clash?_eq_none (h : r.clash? = none) (i j : Nat) :
    ¬r.IsPair (fun a b ↦ a.clashes b = true) i j := by
  rintro ⟨hlt, a, b, ha, hb, haActive, hbActive, hclashes⟩
  rw [clash?, Option.map_eq_none_iff, firstPair_eq_none_iff, active, List.pairwise_filter,
    List.pairwise_iff_getElem] at h
  obtain ⟨hi, rfl⟩ := List.getElem?_eq_some_iff.mp ha
  obtain ⟨hj, rfl⟩ := List.getElem?_eq_some_iff.mp hb
  have hfree := h i j (by simpa using hi) (by simpa using hj) hlt
  simp only [List.getElem_zipIdx] at hfree
  exact absurd hclashes (by simp [hfree haActive hbActive])

end Search

end Roster

/-! ## What is reported -/

/-- The indices of the rows that an issue says to share a byte. -/
def Issue.overlap? : Issue → Option (Nat × Nat)
  | overlap first second => some (first, second)
  | _ => none

namespace Report

/-- The indices of the rows that are reported to share a byte. -/
def overlaps (r : Report) : List (Nat × Nat) := r.issues.filterMap Issue.overlap?

/-- A report tells of the first two rows that take part and that something holds of. -/
structure TellsOverlap (report : Report) (r : Roster) (p : Row → Row → Prop) : Prop where
  /-- Something is reported exactly if there are two such rows. -/
  reported_iff : report.overlaps ≠ [] ↔ ∃ i j, r.IsPair p i j
  /-- It is reported once, and about the first two. -/
  first : ∀ i j, (i, j) ∈ report.overlaps → report.overlaps = [(i, j)] ∧ r.IsFirstPair p i j

theorem TellsOverlap.congr {report : Report} {r : Roster} {p q : Row → Row → Prop}
    (h : report.TellsOverlap r p) (hpq : ∀ i j, r.IsPair q i j ↔ r.IsPair p i j) :
    report.TellsOverlap r q := by
  refine ⟨by simp only [h.reported_iff, hpq], fun i j hij ↦ ?_⟩
  obtain ⟨honly, hpair, hfirst⟩ := h.first i j hij
  exact ⟨honly, (hpq i j).mpr hpair, fun k l hkl ↦ hfirst k l ((hpq k l).mp hkl)⟩

end Report

namespace Roster

/-- Of shared bytes, reconciliation reports what the search finds. -/
theorem overlaps_reconcile (r : Roster) (declared : List Declaration) (imageSize : Nat)
    (status : Status) :
    (r.reconcile declared imageSize status).2.2.overlaps =
      (r.reconcile declared imageSize status).1.clash?.toList := by
  have hmismatches : (if declared.isEmpty then [] else r.unplaced.mismatches declared).filterMap
      Issue.overlap? = [] := by
    rw [List.filterMap_eq_nil_iff]
    intro issue hissue
    split at hissue
    · exact absurd hissue List.not_mem_nil
    · obtain ⟨m, rfl⟩ := exists_eq_mismatch _ declared hissue
      rfl
  have houtside (l : List Nat) : (l.map Issue.outsideImage).filterMap Issue.overlap? = [] := by
    rw [List.filterMap_map, List.filterMap_eq_nil_iff]
    exact fun _ _ ↦ rfl
  rw [Report.overlaps, roster_reconcile]
  simp only [reconcile]
  rw [List.filterMap_append, List.filterMap_append, hmismatches, houtside, List.nil_append,
    List.nil_append, ← arranged]
  cases ((r.arranged declared).confine imageSize).clash? <;> rfl

/-- **Shared inputs and outputs are always reported**: the report tells of the first two rows that
take part and share one of these bytes.  It tells of every kind of shared byte, unless all that two
rows share are bytes of which one is configuration. -/
theorem overlap_reconcile (r : Roster) (declared : List Declaration) (imageSize : Nat)
    (status : Status) :
    let after := r.reconcile declared imageSize status
    after.2.2.TellsOverlap after.1 (fun a b ↦ a.clashes b = true) ∧
      (after.1.SharesExchanged → after.2.2.TellsOverlap after.1 Row.Shares) := by
  intro after
  have hoverlaps : after.2.2.overlaps = after.1.clash?.toList :=
    r.overlaps_reconcile declared imageSize status
  have hclashes : after.2.2.TellsOverlap after.1 (fun a b ↦ a.clashes b = true) := by
    constructor
    · cases hclash : after.1.clash? with
      | none =>
        rw [hoverlaps, hclash]
        exact ⟨fun h ↦ absurd rfl h,
          fun ⟨i, j, hpair⟩ ↦ absurd hpair (not_isPair_of_clash?_eq_none hclash i j)⟩
      | some e =>
        rw [hoverlaps, hclash]
        exact ⟨fun _ ↦ ⟨e.1, e.2, (isFirstPair_of_clash? hclash).isPair⟩, fun _ ↦ by simp⟩
    · intro i j hij
      rw [hoverlaps, Option.mem_toList] at hij
      exact ⟨by rw [hoverlaps, hij]; rfl, isFirstPair_of_clash? hij⟩
  exact ⟨hclashes, fun hexchanged ↦ hclashes.congr fun _ _ ↦ hexchanged.isPair_iff⟩

/-- Declarations that put inputs, outputs and configurations of the modules of `threeFound` over one
another. -/
def crowded : List Declaration :=
  [⟨.core, .core, 6, 5, 0, 0, 0, 6, 0, 0⟩, ⟨⟨32⟩, ⟨96⟩, 2, 2, 2, 0, 11, 13, 40, 0⟩,
    ⟨⟨33⟩, ⟨97⟩, 2, 0, 4, 0, 14, 0, 41, 0⟩, ⟨⟨31⟩, ⟨98⟩, 0, 2, 0, 0, 0, 12, 0, 0⟩]

/-- The first module shares bytes with both others, and the report names the nearer one. -/
theorem overlap_reconcile_crowded :
    (threeFound.reconcile crowded 64 .empty).1.SharesExchanged ∧
      (threeFound.reconcile crowded 64 .empty).2.2.TellsOverlap
        (threeFound.reconcile crowded 64 .empty).1 Row.Shares ∧
      (threeFound.reconcile crowded 64 .empty).2.2.overlaps = [(1, 2)] :=
  ⟨by decide, (overlap_reconcile threeFound crowded 64 .empty).2 (by decide), by decide⟩

/-- A declaration that puts the configuration of a module at the start of the image, where the core
is when it is not declared. -/
def configOverCore : List Declaration := [⟨⟨32⟩, ⟨96⟩, 2, 2, 2, 0, 20, 22, 0, 0⟩]

/-- **Shared configuration goes unnoticed.**  The core and the first module of `threeFound` share
two bytes, and nothing is reported. -/
theorem overlap_unnoticed :
    ¬∀ (r : Roster) (declared : List Declaration) (imageSize : Nat) (status : Status),
      (r.reconcile declared imageSize status).2.2.TellsOverlap
        (r.reconcile declared imageSize status).1 Row.Shares := by
  intro h
  have hreported := (h threeFound configOverCore 64 .empty).reported_iff.mpr
    ⟨0, 1, by decide, _, _, rfl, rfl, by decide, by decide, by decide⟩
  exact hreported (by decide)

end Roster

end RackBus
