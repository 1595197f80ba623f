import RackBus.Proofs.Misfits
import RackBus.Proofs.RosterHistory

/-!
# Reconciling again

Reconciliation leaves traces: rows for what is missing, places in the image, rows left out, a fixed
number of found rows, and status flags.  The next reconciliation, perhaps with other declarations
and another image, does not see any of them.

* `Roster.Made` are the rosters that the operations on rosters can arrive at.  All of them have at
  least as many rows as were found.
* `Roster.unplaced_reconcile` is why the rows are forgotten: without their places, and without the
  rows behind those that were found, they are the same as before.  What is forgotten of the flags
  is `Roster.remove_configuration_reconcile`.
* `Roster.reconcile_reconcile`: after another reconciliation, reconciling gives what it would have
  given at once.
-/

set_option autoImplicit false

namespace RackBus

namespace Roster

/-! ## The rosters there are -/

/-- The roster with the number of found rows fixed. -/
def sealed (r : Roster) : Roster := { r with scanned := some r.scannedSize }

/-- The roster without its rows from `size` on.  The core's row always stays. -/
def truncated (r : Roster) (size : Nat) : Roster := { r with modules := r.modules.take (size - 1) }

/-- **The rosters that can be made**: from the core alone, which is also what a reset goes back to,
by the operations on rosters. -/
inductive Made : Roster → Prop
  /-- The roster of the core alone. -/
  | ofCore (capacity : Nat) (core : Identity) : Made (.ofCore capacity core)
  /-- A row is added. -/
  | append {r s : Roster} {address : Address} {identity : Identity} (h : Made r)
      (hs : r.append address identity = .ok s) : Made s
  /-- A row is changed in any way. -/
  | modify {r : Roster} (h : Made r) (index : Nat) (f : Row → Row) : Made (r.modify index f)
  /-- The number of found rows is fixed. -/
  | sealed {r : Roster} (h : Made r) : Made r.sealed
  /-- Rows are dropped, but none of those that were found once their number is fixed. -/
  | truncated {r : Roster} (h : Made r) (size : Nat)
      (hsize : ∀ n, r.scanned = some n → n ≤ size) : Made (r.truncated size)
  /-- The roster is reconciled. -/
  | reconcile {r : Roster} (h : Made r) (declared : List Declaration) (imageSize : Nat)
      (status : Status) : Made (r.reconcile declared imageSize status).1

theorem scannedSize_le_iff {r : Roster} :
    r.scannedSize ≤ r.size ↔ ∀ n, r.scanned = some n → n ≤ r.size := by
  rw [scannedSize]
  cases r.scanned with
  | none => simp
  | some n => simp

/-- A comparison keeps at least the rows that were found. -/
theorem scannedSize_le_size_reconcile {r : Roster} (hle : r.scannedSize ≤ r.size)
    (declared : List Declaration) (imageSize : Nat) (status : Status) :
    r.scannedSize ≤ (r.reconcile declared imageSize status).1.size := by
  obtain ⟨rows, extra, hmodules, -, hlength, -⟩ :=
    exists_modules_reconcile hle declared imageSize status
  rw [size, hmodules, List.length_append, hlength]
  omega

/-- There are at least as many rows as were found. -/
theorem Made.scannedSize_le {r : Roster} (h : r.Made) : r.scannedSize ≤ r.size := by
  induction h with
  | ofCore capacity core => exact Nat.le_refl _
  | @append r s address identity _ hs ih =>
    obtain ⟨-, rfl⟩ := eq_of_append hs
    rw [scannedSize_le_iff] at ih ⊢
    intro n hn
    have hle := ih n hn
    simp only [size, List.length_append] at hle ⊢
    omega
  | @modify r _ index f ih =>
    cases index with
    | zero => exact ih
    | succ i =>
      rw [scannedSize_le_iff] at ih ⊢
      simpa [Roster.modify, size] using ih
  | sealed _ ih => exact ih
  | @truncated r _ size hsize ih =>
    rw [scannedSize_le_iff] at ih ⊢
    intro n hn
    have hle := ih n hn
    have hkept := hsize n hn
    simp only [Roster.truncated, Roster.size, List.length_take] at hle ⊢
    omega
  | @reconcile r _ declared imageSize status ih =>
    rw [scannedSize_reconcile]
    exact scannedSize_le_size_reconcile ih declared imageSize status

/-! ## What is forgotten -/

section Reconcile

variable {r : Roster}

theorem unplaced_eq (r : Roster) :
    r.unplaced = ⟨r.core.unplaced, r.scannedOnly.modules.map Row.unplaced, r.capacity,
      some r.scannedSize⟩ := rfl

/-- **The rows are the same as before** without their places and without the rows behind those that
were found. -/
theorem unplaced_reconcile (hle : r.scannedSize ≤ r.size) (declared : List Declaration)
    (imageSize : Nat) (status : Status) :
    (r.reconcile declared imageSize status).1.unplaced = r.unplaced := by
  obtain ⟨rows, extra, hmodules, hrows, hlength, -⟩ :=
    exists_modules_reconcile hle declared imageSize status
  have hfound : (r.reconcile declared imageSize status).1.scannedOnly.modules = rows := by
    rw [scannedOnly, scannedSize_reconcile, hmodules, List.take_left' hlength]
  rw [unplaced_eq, unplaced_eq, core_unplaced_reconcile, hfound, hrows, capacity_reconcile,
    scannedSize_reconcile]

/-- **The flags are the same as before** but for those that reconciliation decides. -/
theorem remove_configuration_reconcile (r : Roster) (declared : List Declaration)
    (imageSize : Nat) (status : Status) :
    (r.reconcile declared imageSize status).2.1.remove .configuration =
      status.remove .configuration := by
  refine Status.eq_of_has fun i ↦ ?_
  rw [Status.has_remove, Status.has_remove]
  cases hi : Status.configuration.has i with
  | true => simp
  | false => rw [r.has_reconcile_of_undecided declared imageSize status hi]

/-- Reconciliation looks at nothing else. -/
theorem reconcile_congr {s : Roster} {status₁ status₂ : Status} (hrows : r.unplaced = s.unplaced)
    (hstatus : status₁.remove .configuration = status₂.remove .configuration)
    (declared : List Declaration) (imageSize : Nat) :
    r.reconcile declared imageSize status₁ = s.reconcile declared imageSize status₂ := by
  simp only [reconcile, hrows, hstatus]

end Reconcile

/-! ## Twice -/

/-- **Reconciling again** gives what reconciling at once would have given: the same rows, the same
number of found rows, the same status flags and the same report, whatever the earlier declarations
and the earlier size of the image were.  With the same ones nothing changes any more.  The flags of
the cyclic exchange and of the gateways are never touched. -/
theorem reconcile_reconcile {r : Roster} (h : r.Made) (earlier declared : List Declaration)
    (earlierSize imageSize : Nat) (status : Status) :
    let first := r.reconcile earlier earlierSize status
    first.1.reconcile declared imageSize first.2.1 = r.reconcile declared imageSize status ∧
      first.1.reconcile earlier earlierSize first.2.1 = first ∧
      ∀ flag ∈ [Flag.running, .leftGateway, .rightGateway],
        first.2.1.contains flag.status = status.contains flag.status := by
  intro first
  have hrows := unplaced_reconcile h.scannedSize_le earlier earlierSize status
  have hstatus := r.remove_configuration_reconcile earlier earlierSize status
  refine ⟨reconcile_congr hrows hstatus declared imageSize,
    reconcile_congr hrows hstatus earlier earlierSize, fun flag hflag ↦ ?_⟩
  have hundecided : Status.configuration.has flag.position = false := by
    simp only [List.mem_cons, List.not_mem_nil, or_false] at hflag
    rcases hflag with rfl | rfl | rfl <;> decide
  rw [Status.contains_status, Status.contains_status,
    r.has_reconcile_of_undecided earlier earlierSize status hundecided]

theorem made_threeFound : threeFound.Made :=
  .append (.append (.append (.ofCore 6 _) rfl) rfl) rfl

/-- The first reconciliation packs the modules into too small an image; the second one has
declarations that add two rows. -/
theorem reconcile_reconcile_threeFound :
    threeFound.Made ∧
      (let first := threeFound.reconcile [] 14 .running
      first.1.reconcile fiveDeclared 64 first.2.1 = threeFound.reconcile fiveDeclared 64 .running ∧
        first.1.modules.map (fun row ↦ (row.active, row.inputOffset)) =
          [(false, 11), (false, 15), (false, 17)] ∧
        first.2.1 = Status.running.insert .sizeMismatch) ∧
      (threeFound.reconcile fiveDeclared 64 .running).1.size = 6 :=
  ⟨made_threeFound,
    ⟨(reconcile_reconcile made_threeFound [] fiveDeclared 14 64 .running).1, by decide, by decide⟩,
    by decide⟩

end Roster

end RackBus
