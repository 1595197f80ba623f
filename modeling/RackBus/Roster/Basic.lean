import RackBus.FirstPair
import RackBus.Roster.Row

/-!
# The roster

The modules a bridge knows of.  The core device always has the first row, so it has a field of its
own; the other rows follow in the order in which they were found, right side before left side, and
behind them those that were only declared.

* `Roster.rows` is the roster as one list, and an index is a position in it.
* `Roster.append` adds a row as long as there is room.
* `Roster.scannedSize` is how many rows the survey found; `Roster.scannedOnly` goes back to them.
* `Roster.clash?` finds two active rows that share a byte of the image.
-/

set_option autoImplicit false

namespace RackBus

/-- The modules a bridge knows of. -/
structure Roster where
  /-- The core device. -/
  core : Row
  /-- All others, in order. -/
  modules : List Row
  /-- The most rows there may be, the core's row among them. -/
  capacity : Nat
  /-- The number of rows the survey found, once it has been fixed. -/
  scanned : Option Nat
  deriving DecidableEq

namespace Roster

/-- A roster of the core device alone. -/
def ofCore (capacity : Nat) (core : Identity) : Roster where
  core := .fresh .core core
  modules := []
  capacity := capacity
  scanned := none

/-- All rows in order. -/
def rows (r : Roster) : List Row := r.core :: r.modules

/-- The number of rows. -/
def size (r : Roster) : Nat := r.modules.length + 1

/-- Is there no room for another row? -/
def isFull (r : Roster) : Bool := r.capacity ≤ r.size

/-- The row with the given index. -/
def row? (r : Roster) (index : Nat) : Option Row := r.rows[index]?

/-- The roster with one row changed. -/
def modify (r : Roster) (index : Nat) (f : Row → Row) : Roster :=
  match index with
  | 0 => { r with core := f r.core }
  | i + 1 => { r with modules := r.modules.modify i f }

/-- Adds a row at the end. -/
def append (r : Roster) (address : Address) (identity : Identity) : Except Failure Roster :=
  if r.isFull then .error .rosterFull
  else .ok { r with modules := r.modules ++ [.fresh address identity] }

/-- The index of the first row with the given address. -/
def find? (r : Roster) (address : Address) : Option Nat :=
  r.rows.findIdx? fun row ↦ row.address == address

/-- The sum of all error counts. -/
def errorSum (r : Roster) : Nat := r.rows.foldr (fun row total ↦ row.errors.toNat + total) 0

/-- The number of rows the survey found: fixed at the first call, and the same ever after. -/
def scannedSize (r : Roster) : Nat := r.scanned.getD r.size

/-- The rows the survey found, without those that were added behind them. -/
def scannedOnly (r : Roster) : Roster :=
  { r with modules := r.modules.take (r.scannedSize - 1), scanned := some r.scannedSize }

/-- The active rows with their indices. -/
def active (r : Roster) : List (Row × Nat) := r.rows.zipIdx.filter fun e ↦ e.1.active

/-- The first two active rows that share an input or output byte. -/
def clash? (r : Roster) : Option (Nat × Nat) :=
  (firstPair (fun a b ↦ a.1.clashes b.1) r.active).map fun e ↦ (e.1.2, e.2.2)

@[simp] theorem length_rows (r : Roster) : r.rows.length = r.size := rfl

theorem rows_append {r s : Roster} {address : Address} {identity : Identity}
    (h : r.append address identity = .ok s) : s.rows = r.rows ++ [.fresh address identity] := by
  rw [append] at h
  split at h
  · exact absurd h (by simp)
  · obtain rfl := Except.ok.inj h
    rfl

end Roster
end RackBus
