import RackBus.Survey.Basic
import Mathlib.Data.List.Nodup

/-!
# The addresses a survey gives away

A survey gives away addresses upwards from a base on the right side, and downwards from below the
base on the left side.  This file says which ones have been given away after so many modules, and
which one is next.

* `Tally` counts the modules of both sides.  `Address.nth` is the address of a module by its
  position on its side, and `Address.reach` is how many modules a side has addresses for.
* `allotted` are the addresses given away after a tally, as numbers.  They are all different
  (`nodup_allotted`) and none is reserved (`mem_allotted`).
* `Survey.Allots` says that a survey has given away exactly these; `Survey.allots_start` and
  `Survey.Allots.advance` are its two ways of coming about.
-/

set_option autoImplicit false

namespace RackBus

/-! ## Addresses by position -/

namespace Address

/-- The address as a number. -/
def number (a : Address) : Nat := a.value.toNat

theorem number_lt (a : Address) : a.number < 256 := a.value.toNat_lt

/-- The address of a module on a side whose modules are counted from the core outwards. -/
def nth (base : Address) : Side → Nat → Nat
  | .right, i => base.number + i
  | .left, i => base.number - 1 - i

/-- The number of modules a side has addresses for. -/
def reach (base : Address) : Side → Nat
  | .right => 255 - base.number
  | .left => base.number - 1

theorem nth_lt {base : Address} {side : Side} {i : Nat} (h : i < base.reach side) :
    base.nth side i < 255 := by
  have hbase := base.number_lt
  cases side with
  | right =>
    simp only [nth, reach] at *
    omega
  | left =>
    simp only [nth, reach] at *
    omega

/-- Different positions have different addresses. -/
theorem nth_injective {base : Address} {s s' : Side} {i j : Nat} (hi : i < base.reach s)
    (hj : j < base.reach s') (h : base.nth s i = base.nth s' j) : s = s' ∧ i = j := by
  cases s <;> cases s' <;> simp only [nth, reach, reduceCtorEq, true_and, false_and] at * <;> omega

/-- An address that a module may have lies on the right side from the base upwards. -/
theorem side?_eq {base a : Address} (hpos : 0 < a.number) (hlt : a.number < 255) :
    a.side? base = some (if base.number ≤ a.number then .right else .left) := by
  have hcore : a.isCore = false := by
    rw [isCore, beq_eq_false_iff_ne]
    rintro rfl
    exact absurd hpos (by decide)
  have hbroadcast : a.isBroadcast = false := by
    rw [isBroadcast, beq_eq_false_iff_ne]
    rintro rfl
    exact absurd hlt (by decide)
  have hle : base.value ≤ a.value ↔ base.number ≤ a.number := UInt8.le_iff_toNat_le
  rw [side?, hcore, hbroadcast, Bool.or_self, if_neg Bool.false_ne_true]
  simp only [hle]
  split <;> rfl

/-- The next address outwards is that of the next position, as long as there is one. -/
theorem number_beyond? {base a : Address} {side : Side} {i : Nat} (ha : a.number = base.nth side i)
    (hi : i < base.reach side) :
    (a.beyond? side).map number =
      if i + 1 = base.reach side then none else some (base.nth side (i + 1)) := by
  have hbase := base.number_lt
  rw [number] at ha hbase
  cases side with
  | right =>
    have ha : a.value.toNat = base.value.toNat + i := ha
    have hi : i < 255 - base.value.toNat := hi
    have hreach : base.reach .right = 255 - base.value.toNat := rfl
    have hnth : base.nth .right (i + 1) = base.value.toNat + (i + 1) := rfl
    cases hb : a.beyond? .right with
    | none =>
      have hend := beyond?_right_eq_none_iff.mp hb
      rw [if_pos (by omega), Option.map_none]
    | some b =>
      obtain ⟨hsucc, hlt⟩ := toNat_of_beyond?_right hb
      rw [if_neg (by omega), Option.map_some, number, Option.some_inj]
      omega
  | left =>
    have ha : a.value.toNat = base.value.toNat - 1 - i := ha
    have hi : i < base.value.toNat - 1 := hi
    have hreach : base.reach .left = base.value.toNat - 1 := rfl
    have hnth : base.nth .left (i + 1) = base.value.toNat - 1 - (i + 1) := rfl
    cases hb : a.beyond? .left with
    | none =>
      have hend := beyond?_left_eq_none_iff.mp hb
      rw [if_pos (by omega), Option.map_none]
    | some b =>
      obtain ⟨hsucc, hle⟩ := toNat_of_beyond?_left hb
      rw [if_neg (by omega), Option.map_some, number, Option.some_inj]
      omega

end Address

/-! ## Tallies -/

/-- A number of modules on each side. -/
structure Tally where
  /-- The modules on the right side. -/
  right : Nat
  /-- The modules on the left side. -/
  left : Nat
  deriving DecidableEq

namespace Tally

/-- No module at all. -/
def zero : Tally := ⟨0, 0⟩

/-- The modules of a side. -/
def of (t : Tally) : Side → Nat
  | .right => t.right
  | .left => t.left

/-- One more module on a side. -/
def add (t : Tally) : Side → Tally
  | .right => { t with right := t.right + 1 }
  | .left => { t with left := t.left + 1 }

@[simp] theorem of_add_self (t : Tally) (side : Side) : (t.add side).of side = t.of side + 1 := by
  cases side <;> rfl

@[simp] theorem of_add_other (t : Tally) (side : Side) :
    (t.add side).of side.other = t.of side.other := by
  cases side <;> rfl

end Tally

theorem Side.eq_or_eq_other (side s : Side) : s = side ∨ s = side.other := by
  cases side <;> cases s <;> simp [Side.other]

/-! ## The addresses given away -/

/-- The addresses of the modules of a tally: those of the right side and then those of the left
side, each from the core outwards. -/
def allotted (base : Address) (t : Tally) : List Nat :=
  (List.range t.right).map (base.nth .right) ++ (List.range t.left).map (base.nth .left)

/-- One more module; the left side comes after the right one. -/
theorem allotted_add {base : Address} {t : Tally} {side : Side} (h : side = .left ∨ t.left = 0) :
    allotted base (t.add side) = allotted base t ++ [base.nth side (t.of side)] := by
  cases side with
  | right =>
    have hzero : t.left = 0 := h.resolve_left (by simp)
    simp [allotted, Tally.add, Tally.of, hzero, List.range_succ]
  | left => simp [allotted, Tally.add, Tally.of, List.range_succ]

@[simp] theorem length_allotted (base : Address) (t : Tally) :
    (allotted base t).length = t.right + t.left := by
  simp [allotted]

/-- What is given away is the address of a module of the tally. -/
theorem exists_nth_of_mem_allotted {base : Address} {t : Tally} {n : Nat}
    (h : n ∈ allotted base t) :
    ∃ side i, i < t.of side ∧ n = base.nth side i := by
  rw [allotted, List.mem_append, List.mem_map, List.mem_map] at h
  rcases h with ⟨i, hi, rfl⟩ | ⟨j, hj, rfl⟩
  · exact ⟨.right, i, List.mem_range.mp hi, rfl⟩
  · exact ⟨.left, j, List.mem_range.mp hj, rfl⟩

/-- **No reserved address** is given away. -/
theorem mem_allotted {base : Address} (hbase : 0 < base.number) {t : Tally}
    (ht : ∀ side, t.of side ≤ base.reach side) {n : Nat} (h : n ∈ allotted base t) :
    0 < n ∧ n < 255 := by
  obtain ⟨side, i, hi, rfl⟩ := exists_nth_of_mem_allotted h
  have hle := ht side
  have hlt := base.number_lt
  cases side with
  | right =>
    simp only [Address.reach, Address.nth] at *
    omega
  | left =>
    simp only [Address.reach, Address.nth] at *
    omega

/-- **No address is given away twice.** -/
theorem nodup_allotted {base : Address} (hbase : 0 < base.number) {t : Tally}
    (ht : ∀ side, t.of side ≤ base.reach side) : (allotted base t).Nodup := by
  have hleft : t.left ≤ base.number - 1 := ht .left
  rw [allotted, List.nodup_append]
  refine ⟨?_, ?_, ?_⟩
  · exact List.nodup_range.map fun i j (h : base.number + i = base.number + j) ↦
      Nat.add_left_cancel h
  · refine List.nodup_range.map_on fun i hi j hj h ↦ ?_
    rw [List.mem_range] at hi hj
    simp only [Address.nth] at h
    omega
  · intro a ha b hb
    obtain ⟨i, -, rfl⟩ := List.mem_map.mp ha
    obtain ⟨j, -, rfl⟩ := List.mem_map.mp hb
    simp only [Address.nth]
    omega

/-! ## The next address of a side -/

namespace Survey

/-- The survey has given away the addresses of the modules of a tally. -/
structure Allots (s : Survey) (base : Address) (t : Tally) : Prop where
  /-- No side has gone beyond its end. -/
  le : ∀ side, t.of side ≤ base.reach side
  /-- Every side goes on from where it is, until it has reached its end. -/
  next : ∀ side, (s.next? side).map Address.number =
    if t.of side = base.reach side then none else some (base.nth side (t.of side))

/-- A new survey has given away nothing. -/
theorem allots_start {base : Address} (hlow : 2 ≤ base.number) (hhigh : base.number < 255) :
    (start base).Allots base .zero := by
  refine ⟨fun side ↦ by cases side <;> exact Nat.zero_le _, fun side ↦ ?_⟩
  cases side with
  | right =>
    have hreach : Tally.zero.of .right ≠ base.reach .right := by
      show 0 ≠ 255 - base.number
      omega
    rw [if_neg hreach]
    rfl
  | left =>
    have hreach : Tally.zero.of .left ≠ base.reach .left := by
      show 0 ≠ base.number - 1
      omega
    rw [if_neg hreach]
    show (base.beyond? .left).map Address.number = _
    cases h : base.beyond? .left with
    | none =>
      have hend := Address.beyond?_left_eq_none_iff.mp h
      rw [Address.number] at hlow
      omega
    | some a =>
      obtain ⟨ha, -⟩ := Address.toNat_of_beyond?_left h
      rw [Option.map_some, Option.some_inj]
      show a.value.toNat = base.value.toNat - 1 - 0
      omega

/-- The next address is that of the next module. -/
theorem Allots.number_next {s : Survey} {base : Address} {t : Tally} (h : s.Allots base t)
    {side : Side} {a : Address} (ha : s.next? side = some a) :
    a.number = base.nth side (t.of side) ∧ t.of side < base.reach side := by
  have hle := h.le side
  have hnext := h.next side
  rw [ha, Option.map_some] at hnext
  split at hnext
  · exact absurd hnext (by simp)
  · exact ⟨Option.some.inj hnext, by omega⟩

/-- The next address of a side lies on that side. -/
theorem Allots.side?_next {s : Survey} {base : Address} {t : Tally} (h : s.Allots base t)
    (hlow : 0 < base.number) (hhigh : base.number < 255) {side : Side} {a : Address}
    (ha : s.next? side = some a) : a.side? base = some side := by
  obtain ⟨hnumber, hlt⟩ := h.number_next ha
  cases side with
  | right =>
    have hnumber : a.number = base.number + t.of .right := hnumber
    have hlt : t.of .right < 255 - base.number := hlt
    rw [Address.side?_eq (by omega) (by omega), if_pos (by omega)]
  | left =>
    have hnumber : a.number = base.number - 1 - t.of .left := hnumber
    have hlt : t.of .left < base.number - 1 := hlt
    rw [Address.side?_eq (by omega) (by omega), if_neg (by omega)]

/-- A side without a next address has reached its end. -/
theorem Allots.eq_reach {s : Survey} {base : Address} {t : Tally} (h : s.Allots base t)
    {side : Side} (ha : s.next? side = none) : t.of side = base.reach side := by
  have hnext := h.next side
  rw [ha, Option.map_none] at hnext
  split at hnext
  · assumption
  · exact absurd hnext (by simp)

/-- The right side ends below the broadcast address. -/
theorem Allots.next_right {s : Survey} {base : Address} {t : Tally} (h : s.Allots base t)
    (hbase : base.number < 255) :
    (s.next? .right).map Address.number =
      if base.number + t.right = 255 then none else some (base.number + t.right) := by
  have hle : t.right ≤ 255 - base.number := h.le .right
  have hnext : (s.next? .right).map Address.number =
      if t.right = 255 - base.number then none else some (base.number + t.right) := h.next .right
  rw [hnext]
  by_cases hend : base.number + t.right = 255
  · rw [if_pos hend, if_pos (by omega)]
  · rw [if_neg hend, if_neg (by omega)]

/-- The left side ends above the address of the core. -/
theorem Allots.next_left {s : Survey} {base : Address} {t : Tally} (h : s.Allots base t) :
    (s.next? .left).map Address.number =
      if base.number - 1 - t.left = 0 then none else some (base.number - 1 - t.left) := by
  have hle : t.left ≤ base.number - 1 := h.le .left
  have hnext : (s.next? .left).map Address.number =
      if t.left = base.number - 1 then none else some (base.number - 1 - t.left) := h.next .left
  rw [hnext]
  by_cases hend : base.number - 1 - t.left = 0
  · rw [if_pos hend, if_pos (by omega)]
  · rw [if_neg hend, if_neg (by omega)]

/-- **Giving away an address.** -/
theorem Allots.advance {s : Survey} {base : Address} {t : Tally} (h : s.Allots base t) {side : Side}
    {a : Address} (ha : s.next? side = some a) : (s.advance side).Allots base (t.add side) := by
  obtain ⟨hnumber, hlt⟩ := h.number_next ha
  refine ⟨fun other ↦ ?_, fun other ↦ ?_⟩
  · rcases side.eq_or_eq_other other with rfl | rfl
    · rw [Tally.of_add_self]
      exact hlt
    · rw [Tally.of_add_other]
      exact h.le _
  · rcases side.eq_or_eq_other other with rfl | rfl
    · rw [next?_advance_self, ha, Option.bind_some, Tally.of_add_self]
      exact Address.number_beyond? hnumber hlt
    · rw [next?_advance_other, Tally.of_add_other]
      exact h.next _

/-- Only the next addresses count. -/
theorem Allots.congr {s s' : Survey} {base : Address} {t : Tally} (h : s.Allots base t)
    (hnext : ∀ side, s'.next? side = s.next? side) : s'.Allots base t :=
  ⟨h.le, fun side ↦ (congrArg _ (hnext side)).trans (h.next side)⟩

end Survey

end RackBus
