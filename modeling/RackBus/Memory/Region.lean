/-!
# Regions of the process image

A run of bytes, given by where it starts and how long it is.

* `Region.endsWithin` asks whether a region ends inside an image of a given size; a region without
  bytes always does.
* `Region.meets` asks whether two regions share a byte, and `Region.meets_iff` says that this is
  what it asks.
-/

set_option autoImplicit false

namespace RackBus

/-- A run of bytes. -/
structure Region where
  /-- The position of the first byte. -/
  start : Nat
  /-- The number of bytes. -/
  length : Nat
  deriving DecidableEq

namespace Region

/-- The position after the last byte. -/
def stop (r : Region) : Nat := r.start + r.length

/-- A region without bytes. -/
def isEmpty (r : Region) : Bool := r.length == 0

instance : Membership Nat Region where
  mem r i := r.start ≤ i ∧ i < r.stop

/-- Does the region end inside an image of `size` bytes? -/
def endsWithin (r : Region) (size : Nat) : Bool := r.isEmpty || r.stop ≤ size

/-- Do two regions share a byte? -/
def meets (a b : Region) : Bool :=
  !a.isEmpty && !b.isEmpty && a.start < b.stop && b.start < a.stop

theorem mem_iff {r : Region} {i : Nat} : i ∈ r ↔ r.start ≤ i ∧ i < r.start + r.length := Iff.rfl

/-- A region ends inside an image exactly when all of its bytes lie there. -/
theorem endsWithin_iff {r : Region} {size : Nat} :
    r.endsWithin size = true ↔ ∀ i ∈ r, i < size := by
  simp only [endsWithin, isEmpty, Bool.or_eq_true, beq_iff_eq, decide_eq_true_eq, mem_iff]
  simp only [stop]
  constructor
  · intro h i hi
    omega
  · intro h
    rcases Nat.eq_zero_or_pos r.length with hl | hl
    · exact Or.inl hl
    · have := h (r.start + r.length - 1) (by omega)
      omega

/-- A region with bytes in it ends inside an image if its last byte does. -/
theorem endsWithin_iff_stop_le {r : Region} {size : Nat} (h : r.length ≠ 0) :
    r.endsWithin size = true ↔ r.stop ≤ size := by
  rw [endsWithin, isEmpty, beq_false_of_ne h, Bool.false_or, decide_eq_true_iff]

/-- **Two regions meet** exactly when they have a byte in common. -/
theorem meets_iff {a b : Region} : a.meets b = true ↔ ∃ i, i ∈ a ∧ i ∈ b := by
  simp only [meets, isEmpty, Bool.and_eq_true, Bool.not_eq_true', beq_eq_false_iff_ne,
    decide_eq_true_eq, mem_iff]
  simp only [stop]
  constructor
  · rintro ⟨⟨⟨ha, hb⟩, h₁⟩, h₂⟩
    exact ⟨max a.start b.start, by omega, by omega⟩
  · rintro ⟨i, hi, hj⟩
    omega

theorem meets_comm (a b : Region) : a.meets b = b.meets a := by
  rw [Bool.eq_iff_iff, meets_iff, meets_iff]
  exact ⟨fun ⟨i, h, g⟩ ↦ ⟨i, g, h⟩, fun ⟨i, h, g⟩ ↦ ⟨i, g, h⟩⟩

end Region
end RackBus
