import RackBus.Proofs.Sharing
import Mathlib.Algebra.Ring.Nat

/-!
# Packed rosters

Without declarations the modules lie one behind the other in the image.  This file says how far that
goes: offsets are sixteen-bit words, and beyond the largest of them all offsets are the same.

* `Roster.blocks` are the regions of all rows in the order of the roster, and `blockBytes` counts
  their bytes.  `Roster.Packed` says that every block of a row that takes part starts where the ones
  before it end, and that no two share a byte.
* `start_blocks_pack`: a block starts behind all bytes before it, or at the largest offset.
* `Roster.WithinReach` says that no block of a row that takes part lies beyond the largest offset,
  and `Roster.packed_reconcile` that the roster is packed exactly then.  An image of at most 65535
  bytes sees to it.  A larger one does not, as `Roster.packed_heaped` shows.
-/

set_option autoImplicit false

namespace RackBus

/-! ## Blocks -/

/-- The regions of some rows in order, each with its row. -/
def blocksOf (rows : List Row) : List (Row × Region) :=
  rows.flatMap fun row ↦ row.regions.map fun g ↦ (row, g)

/-- The number of bytes in some blocks. -/
def blockBytes (blocks : List (Row × Region)) : Nat := (blocks.map fun e ↦ e.2.length).sum

@[simp] theorem blockBytes_nil : blockBytes [] = 0 := rfl

@[simp] theorem blockBytes_cons (e : Row × Region) (blocks : List (Row × Region)) :
    blockBytes (e :: blocks) = e.2.length + blockBytes blocks :=
  List.sum_cons

theorem blockBytes_append (blocks more : List (Row × Region)) :
    blockBytes (blocks ++ more) = blockBytes blocks + blockBytes more := by
  rw [blockBytes, List.map_append, List.sum_append]
  rfl

/-- The number of bytes is a matter of the regions. -/
theorem blockBytes_map (f : Row → Row) (blocks : List (Row × Region)) :
    blockBytes (blocks.map (Prod.map f id)) = blockBytes blocks := by
  rw [blockBytes, List.map_map]
  rfl

theorem blockBytes_take_le (blocks : List (Row × Region)) (i : Nat) :
    blockBytes (blocks.take i) ≤ blockBytes blocks := by
  have happend := blockBytes_append (blocks.take i) (blocks.drop i)
  rw [List.take_append_drop] at happend
  omega

/-- The bytes of a block come before those of a later one. -/
theorem blockBytes_take_add_le {blocks : List (Row × Region)} {i j : Nat} (hij : i < j)
    (hi : i < blocks.length) :
    blockBytes (blocks.take i) + blocks[i].2.length ≤ blockBytes (blocks.take j) := by
  have hnext : blockBytes (blocks.take (i + 1)) =
      blockBytes (blocks.take i) + blocks[i].2.length := by
    rw [List.take_succ_eq_append_getElem hi, blockBytes_append, blockBytes_cons, blockBytes_nil,
      Nat.add_zero]
  have hle := blockBytes_take_le (blocks.take j) (i + 1)
  rw [List.take_take, Nat.min_eq_left (show i + 1 ≤ j from hij)] at hle
  omega

theorem blocksOf_cons (row : Row) (rows : List Row) :
    blocksOf (row :: rows) =
      (row, row.inputs) :: (row, row.outputs) :: (row, row.config) :: blocksOf rows := rfl

theorem mem_regions_of_blocksOf {rows : List Row} {i : Nat} {row : Row} {g : Region}
    (h : (blocksOf rows)[i]? = some (row, g)) : g ∈ row.regions := by
  have hmem := List.mem_of_getElem? h
  simp only [blocksOf, List.mem_flatMap, List.mem_map] at hmem
  obtain ⟨_, -, _, hregion, heq⟩ := hmem
  obtain ⟨rfl, rfl⟩ := Prod.mk.inj heq
  exact hregion

/-- Rows that are changed but for their regions have the same blocks. -/
theorem blocksOf_map {f : Row → Row} (hf : ∀ row, (f row).regions = row.regions)
    (rows : List Row) : blocksOf (rows.map f) = (blocksOf rows).map (Prod.map f id) := by
  rw [blocksOf, blocksOf, List.flatMap_map, List.map_flatMap]
  refine congrArg (rows.flatMap ·) (funext fun row ↦ ?_)
  rw [hf, List.map_map]
  rfl

theorem filter_blocksOf (rows : List Row) :
    (blocksOf rows).filter (fun e ↦ e.1.active) = blocksOf (rows.filter Row.active) := by
  induction rows with
  | nil => rfl
  | cons row rest ih =>
    rw [blocksOf_cons]
    cases hactive : row.active <;> simp [hactive, ih, blocksOf_cons]

/-- **Blocks that start where the ones before them end** share no byte.  This is asked only of the
blocks of rows that take part. -/
theorem pairwise_of_start_eq {blocks : List (Row × Region)}
    (h : ∀ i row g, blocks[i]? = some (row, g) → row.active = true → g.isEmpty = false →
      g.start = blockBytes (blocks.take i)) :
    (blocks.filter fun e ↦ e.1.active).Pairwise fun e f ↦ ∀ k ∈ e.2, k ∉ f.2 := by
  rw [List.pairwise_filter, List.pairwise_iff_getElem]
  intro i j hi hj hij hiActive hjActive k hki hkj
  rw [Region.mem_iff] at hki hkj
  have hnonempty {g : Region} (hg : g.start ≤ k ∧ k < g.start + g.length) : g.isEmpty = false := by
    rw [Region.isEmpty, beq_eq_false_iff_ne]
    omega
  have hstarti : blocks[i].2.start = blockBytes (blocks.take i) :=
    h i _ _ (List.getElem?_eq_getElem hi) hiActive (hnonempty hki)
  have hstartj : blocks[j].2.start = blockBytes (blocks.take j) :=
    h j _ _ (List.getElem?_eq_getElem hj) hjActive (hnonempty hkj)
  have hle := blockBytes_take_add_le hij hi
  omega

/-! ## Packing -/

/-- **A packed block** starts behind all bytes before it, or at the largest offset. -/
theorem start_blocks_pack {rows : List Row} (hconfig : ∀ row ∈ rows, row.configLength = 0)
    {cursor : UInt16} {n : Nat} (hcursor : cursor.toNat = min n 65535) {i : Nat} {row : Row}
    {g : Region} (hi : (blocksOf (Roster.pack cursor rows))[i]? = some (row, g))
    (hg : g.isEmpty = false) :
    g.start = min (n + blockBytes ((blocksOf (Roster.pack cursor rows)).take i)) 65535 := by
  induction rows generalizing cursor n i with
  | nil => exact absurd hi (by simp [Roster.pack, blocksOf])
  | cons first rest ih =>
    obtain ⟨hfirst, hrest⟩ := List.forall_mem_cons.mp hconfig
    rw [Roster.pack, blocksOf_cons] at hi ⊢
    have hmiddle := toNat_clampWord (cursor.toNat + first.identity.inputLength.toNat)
    have hstop := toNat_clampWord
      ((clampWord (cursor.toNat + first.identity.inputLength.toNat)).toNat +
        first.identity.outputLength.toNat)
    match i with
    | 0 =>
      obtain ⟨-, rfl⟩ := Prod.mk.inj (Option.some.inj hi)
      exact hcursor
    | 1 =>
      obtain ⟨-, rfl⟩ := Prod.mk.inj (Option.some.inj hi)
      show (clampWord _).toNat = min (n + (first.identity.inputLength.toNat + 0)) 65535
      omega
    | 2 =>
      -- the configuration has no bytes
      obtain ⟨-, rfl⟩ := Prod.mk.inj (Option.some.inj hi)
      have hempty : first.configLength.toNat = 0 := by rw [hfirst]; rfl
      exact absurd hg (by simp [Region.isEmpty, Row.config, Region.ofWords, hempty])
    | i + 3 =>
      have hempty : first.configLength.toNat = 0 := by rw [hfirst]; rfl
      have hstart := ih hrest (n := n + first.identity.inputLength.toNat +
        first.identity.outputLength.toNat) (by omega) hi
      rw [hstart, List.take_succ_cons, List.take_succ_cons, List.take_succ_cons, blockBytes_cons,
        blockBytes_cons, blockBytes_cons]
      show min _ 65535 = min (n + (first.identity.inputLength.toNat +
        (first.identity.outputLength.toNat + (first.configLength.toNat + _)))) 65535
      omega

namespace Roster

/-- The regions of all rows in order, each with its row. -/
def blocks (r : Roster) : List (Row × Region) := blocksOf r.rows

/-- What takes part lies one behind the other, as if everything else did so as well. -/
structure Packed (r : Roster) : Prop where
  /-- A block with bytes in it starts behind as many bytes as all blocks before it have. -/
  start_eq : ∀ i row g, r.blocks[i]? = some (row, g) → row.active = true → g.isEmpty = false →
    g.start = blockBytes (r.blocks.take i)
  /-- No two blocks share a byte, not even those of the same row. -/
  apart : (r.blocks.filter fun e ↦ e.1.active).Pairwise fun e f ↦ ∀ k ∈ e.2, k ∉ f.2

/-- No block of a row that takes part lies behind more bytes than the largest offset. -/
def WithinReach (r : Roster) : Prop :=
  ∀ i row g, r.blocks[i]? = some (row, g) → row.active = true → g.isEmpty = false →
    blockBytes (r.blocks.take i) ≤ 65535

section Packed

variable {r : Roster}

/-- In a packed roster no two rows clash. -/
theorem Packed.clash?_eq_none (h : r.Packed) : r.clash? = none := by
  have hapart := h.apart
  rw [blocks, filter_blocksOf, blocksOf, List.pairwise_flatMap] at hapart
  cases hclash : r.clash? with
  | none => rfl
  | some e =>
    obtain ⟨hlt, a, b, ha, hb, haActive, hbActive, hclashes⟩ := (isFirstPair_of_clash? hclash).isPair
    obtain ⟨g, hg, k, hk, byte, hbyteg, hbytek⟩ := Row.shares_of_clashes hclashes
    obtain ⟨hi, rfl⟩ := List.getElem?_eq_some_iff.mp ha
    obtain ⟨hj, rfl⟩ := List.getElem?_eq_some_iff.mp hb
    have hrows := List.pairwise_iff_getElem.mp (List.pairwise_filter.mp hapart.2)
    exact absurd hbytek (hrows _ _ hi hj hlt haActive hbActive _ (List.mem_map_of_mem hg) _
      (List.mem_map_of_mem hk) byte hbyteg)

/-- Offsets are words. -/
theorem Packed.withinReach (h : r.Packed) : r.WithinReach := by
  intro i row g hi hactive hg
  rw [← h.start_eq i row g hi hactive hg]
  have hregion := mem_regions_of_blocksOf hi
  have hword (w : UInt16) : w.toNat ≤ 65535 := Nat.le_of_lt_succ w.toNat_lt
  simp only [Row.regions, List.mem_cons, List.not_mem_nil, or_false] at hregion
  rcases hregion with rfl | rfl | rfl <;> exact hword _

end Packed

/-- The input and output bytes of all rows. -/
def exchangedBytes (r : Roster) : Nat :=
  (r.rows.map fun row ↦ row.identity.inputLength.toNat + row.identity.outputLength.toNat).sum

/-- Packing keeps all bytes. -/
theorem blockBytes_pack {rows : List Row} (hconfig : ∀ row ∈ rows, row.configLength = 0)
    (cursor : UInt16) :
    blockBytes (blocksOf (pack cursor rows)) =
      (rows.map fun row ↦
        row.identity.inputLength.toNat + row.identity.outputLength.toNat).sum := by
  induction rows generalizing cursor with
  | nil => rfl
  | cons first rest ih =>
    obtain ⟨hfirst, hrest⟩ := List.forall_mem_cons.mp hconfig
    have hempty : first.configLength.toNat = 0 := by rw [hfirst]; rfl
    rw [pack, blocksOf_cons, blockBytes_cons, blockBytes_cons, blockBytes_cons, ih hrest,
      List.map_cons, List.sum_cons]
    show first.identity.inputLength.toNat + (first.identity.outputLength.toNat +
      (first.configLength.toNat + _)) = _
    omega

/-! ## Reconciliation without declarations -/

section Reconcile

variable {r : Roster} {imageSize : Nat} (status : Status)

/-- Rows without places have no configuration bytes. -/
theorem configLength_unplaced (r : Roster) : ∀ row ∈ r.unplaced.rows, row.configLength = 0 := by
  rw [rows, List.forall_mem_cons]
  refine ⟨rfl, fun row hrow ↦ ?_⟩
  obtain ⟨found, -, rfl⟩ := List.mem_map.mp hrow
  rfl

/-- The rows one behind the other, and those left out that do not fit into the image.  The core fits
into every image that has room for it at its start. -/
theorem rows_reconcile_nil (hin : r.core.identity.inputLength = CoreBlock.inputLength)
    (hout : r.core.identity.outputLength = CoreBlock.outputLength) (hsize : 11 ≤ imageSize) :
    (r.reconcile [] imageSize status).1.rows =
      (pack 0 r.unplaced.rows).map fun row ↦
        if sticksOut imageSize row then row.deactivate else row := by
  have hfits : r.unplaced.packed.core.fits imageSize = true := by
    refine Row.fits_iff.mpr ⟨Region.endsWithin_of_stop_le ?_, Region.endsWithin_of_stop_le ?_, rfl⟩
    · show 0 + r.core.identity.inputLength.toNat ≤ imageSize
      rw [hin]
      exact Nat.le_trans (by decide) hsize
    · show (clampWord (0 + r.core.identity.inputLength.toNat)).toNat +
        r.core.identity.outputLength.toNat ≤ imageSize
      rw [hin, hout]
      exact hsize
  have hcore : sticksOut imageSize r.unplaced.packed.core = false := by
    rw [sticksOut, hfits, Bool.not_true, Bool.and_false]
  rw [roster_reconcile, arranged, List.isEmpty_nil, if_pos rfl, rows, confine, if_neg (by simp [hcore])]
  show _ = (if sticksOut imageSize r.unplaced.packed.core then
    r.unplaced.packed.core.deactivate else r.unplaced.packed.core) :: _
  rw [if_neg (by simp [hcore])]
  rfl

/-- Leaving rows out does not change their blocks. -/
theorem blocks_reconcile_nil (hin : r.core.identity.inputLength = CoreBlock.inputLength)
    (hout : r.core.identity.outputLength = CoreBlock.outputLength) (hsize : 11 ≤ imageSize) :
    (r.reconcile [] imageSize status).1.blocks =
      (blocksOf (pack 0 r.unplaced.rows)).map (Prod.map (fun row ↦
        if sticksOut imageSize row then row.deactivate else row) id) := by
  rw [blocks, rows_reconcile_nil status hin hout hsize, blocksOf_map]
  intro row
  split <;> rfl

/-- **After reconciliation without declarations** a block starts behind all bytes before it, or at
the largest offset, and it lies in the image if its row takes part. -/
theorem start_blocks_reconcile_nil
    (hin : r.core.identity.inputLength = CoreBlock.inputLength)
    (hout : r.core.identity.outputLength = CoreBlock.outputLength) (hsize : 11 ≤ imageSize)
    {i : Nat} {row : Row} {g : Region}
    (hi : (r.reconcile [] imageSize status).1.blocks[i]? = some (row, g))
    (hactive : row.active = true) (hg : g.isEmpty = false) :
    g.start = min (blockBytes ((r.reconcile [] imageSize status).1.blocks.take i)) 65535 ∧
      g.stop ≤ imageSize := by
  rw [blocks_reconcile_nil status hin hout hsize] at hi ⊢
  rw [List.getElem?_map, Option.map_eq_some_iff] at hi
  obtain ⟨⟨packed, g'⟩, hpacked, heq⟩ := hi
  obtain ⟨hrow, hregion⟩ := Prod.mk.inj heq
  obtain rfl : g' = g := hregion
  constructor
  · have hstart := start_blocks_pack (configLength_unplaced r) (n := 0) rfl hpacked hg
    rw [hstart, ← List.map_take, blockBytes_map, Nat.zero_add]
  · dsimp only at hrow
    split at hrow
    · rw [← hrow] at hactive
      exact absurd hactive (by simp [Row.deactivate])
    · rename_i hinside
      have hfits : packed.fits imageSize = true := by
        rw [← hrow] at hactive
        simpa [sticksOut, hactive] using hinside
      have hends := List.all_eq_true.mp hfits _ (mem_regions_of_blocksOf hpacked)
      exact (Region.endsWithin_iff_stop_le (by simpa [Region.isEmpty] using hg)).mp hends

/-- The blocks have as many bytes as the rows that the survey found exchange. -/
theorem blockBytes_reconcile_nil (hin : r.core.identity.inputLength = CoreBlock.inputLength)
    (hout : r.core.identity.outputLength = CoreBlock.outputLength) (hsize : 11 ≤ imageSize) :
    blockBytes (r.reconcile [] imageSize status).1.blocks = r.scannedOnly.exchangedBytes := by
  have hfound : r.unplaced.rows = r.scannedOnly.rows.map Row.unplaced := rfl
  rw [blocks_reconcile_nil status hin hout hsize, blockBytes_map,
    blockBytes_pack (configLength_unplaced r), exchangedBytes, hfound, List.map_map]
  rfl

end Reconcile

/-- **Without declarations the roster is packed as far as offsets reach**, and only so far: what
takes part lies one behind the other, no two blocks share a byte, and no shared byte is reported.
An image of at most 65535 bytes sees to it that no block lies beyond, and so do modules with no more
bytes than that. -/
theorem packed_reconcile {r : Roster} (hin : r.core.identity.inputLength = CoreBlock.inputLength)
    (hout : r.core.identity.outputLength = CoreBlock.outputLength) {imageSize : Nat}
    (hsize : 11 ≤ imageSize) (status : Status) :
    let after := r.reconcile [] imageSize status
    (after.1.WithinReach ↔ after.1.Packed ∧ after.2.2.overlaps = []) ∧
      (imageSize ≤ 65535 ∨ r.scannedOnly.exchangedBytes ≤ 65535 → after.1.WithinReach) := by
  intro after
  refine ⟨⟨fun hreach ↦ ?_, fun h ↦ h.1.withinReach⟩, ?_⟩
  · have hstart : ∀ i row g, after.1.blocks[i]? = some (row, g) → row.active = true →
        g.isEmpty = false → g.start = blockBytes (after.1.blocks.take i) := by
      intro i row g hi hactive hg
      rw [(start_blocks_reconcile_nil status hin hout hsize hi hactive hg).1]
      exact Nat.min_eq_left (hreach i row g hi hactive hg)
    have hpacked : after.1.Packed := ⟨hstart, pairwise_of_start_eq hstart⟩
    refine ⟨hpacked, ?_⟩
    rw [overlaps_reconcile, hpacked.clash?_eq_none]
    rfl
  · intro h i row g hi hactive hg
    rcases h with himage | hbytes
    · -- a block at the largest offset would end outside the image
      have ⟨hstart, hstop⟩ := start_blocks_reconcile_nil status hin hout hsize hi hactive hg
      have hlength : g.length ≠ 0 := by simpa [Region.isEmpty] using hg
      rw [Region.stop] at hstop
      change g.start = min (blockBytes (after.1.blocks.take i)) 65535 at hstart
      omega
    · have hle := blockBytes_take_le after.1.blocks i
      rw [blockBytes_reconcile_nil status hin hout hsize] at hle
      exact Nat.le_trans hle hbytes

/-- A core and two modules whose bytes do not fit below the largest offset. -/
def heaped : Roster where
  core := .fresh .core ⟨0, .core, 0, 0, 0, 0, 6, 5, 0⟩
  modules := [.fresh ⟨32⟩ ⟨0, ⟨96⟩, 0, 0, 0, 0, 65530, 10, 0⟩,
    .fresh ⟨33⟩ ⟨0, ⟨97⟩, 0, 0, 0, 0, 2, 0, 0⟩]
  capacity := 64
  scanned := none

/-- In an image that ends at the largest offset both modules are left out. -/
theorem packed_reconcile_heaped :
    (heaped.reconcile [] 65535 .empty).1.Packed ∧
      (heaped.reconcile [] 65535 .empty).1.rows.map Row.active = [true, false, false] := by
  have h := packed_reconcile (r := heaped) rfl rfl (show 11 ≤ 65535 by decide) .empty
  exact ⟨(h.1.mp (h.2 (Or.inl (Nat.le_refl _)))).1, by decide⟩

/-- **Beyond the largest offset modules lie on one another.**  In a larger image both modules of
`heaped` take part and share bytes. -/
theorem packed_heaped :
    ¬∀ (r : Roster) (imageSize : Nat) (status : Status),
      r.core.identity.inputLength = CoreBlock.inputLength →
      r.core.identity.outputLength = CoreBlock.outputLength → 11 ≤ imageSize →
      (r.reconcile [] imageSize status).1.Packed ∧
        (r.reconcile [] imageSize status).2.2.overlaps = [] := by
  intro h
  exact absurd (h heaped 70000 .empty rfl rfl (by decide)).2 (by decide)

end Roster

end RackBus
