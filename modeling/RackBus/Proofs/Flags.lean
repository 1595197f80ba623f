import RackBus.Memory.Status

/-!
# Status flags as bits

A set of status flags is a byte, and each flag is one bit of it.  Sets are joined and taken apart by
masks, so what an operation does to one flag is read off bit by bit.

* `Status.has` is a bit of a set, `Status.has_union` and `Status.has_remove` are what the operations
  do to it, and `Status.contains_iff` says that containing is a matter of bits.
* `Flag` names the six flags, and `Status.contains_status` says that a set contains a flag exactly
  if the bit at its position is set.
-/

set_option autoImplicit false

namespace RackBus

namespace Status

/-- Is the bit at this position set? -/
def has (s : Status) (i : Nat) : Bool := s.bits.toBitVec.getLsbD i

theorem has_of_le {i : Nat} (h : 8 ≤ i) (s : Status) : s.has i = false :=
  BitVec.getLsbD_of_ge _ _ h

@[simp] theorem has_empty (i : Nat) : empty.has i = false := by
  simp [has, empty]

@[simp] theorem has_union (s t : Status) (i : Nat) :
    (s.union t).has i = (s.has i || t.has i) := by
  simp [has, union]

@[simp] theorem has_insert (s flags : Status) (i : Nat) :
    (s.insert flags).has i = (s.has i || flags.has i) := has_union s flags i

@[simp] theorem has_insertIf (s : Status) (reason : Bool) (flags : Status) (i : Nat) :
    (s.insertIf reason flags).has i = (s.has i || (reason && flags.has i)) := by
  cases reason <;> simp [insertIf]

@[simp] theorem has_remove (s flags : Status) (i : Nat) :
    (s.remove flags).has i = (s.has i && !flags.has i) := by
  by_cases h : i < 8
  · simp [has, remove, h]
  · rw [has_of_le (by omega), has_of_le (by omega), Bool.false_and]

/-- Two sets with the same bits are the same. -/
theorem eq_of_has {s t : Status} (h : ∀ i, s.has i = t.has i) : s = t := by
  have hbits : s.bits = t.bits :=
    UInt8.toBitVec_inj.mp (BitVec.eq_of_getLsbD_eq fun i _ ↦ h i)
  cases s
  cases t
  exact congrArg Status.mk hbits

/-- **Containing flags** is a matter of bits. -/
theorem contains_iff {s flags : Status} :
    s.contains flags = true ↔ ∀ i, flags.has i = true → s.has i = true := by
  have hbits : s.contains flags = true ↔
      s.bits.toBitVec &&& flags.bits.toBitVec = flags.bits.toBitVec := by
    rw [contains, beq_iff_eq, ← UInt8.toBitVec_inj, UInt8.toBitVec_and]
  rw [hbits]
  constructor
  · intro h i hi
    have hboth : (s.bits.toBitVec &&& flags.bits.toBitVec).getLsbD i = true := by
      rw [h]
      exact hi
    rw [BitVec.getLsbD_and, Bool.and_eq_true] at hboth
    exact hboth.1
  · intro h
    refine BitVec.eq_of_getLsbD_eq fun i _ ↦ ?_
    rw [BitVec.getLsbD_and, Bool.and_eq_right_iff_imp]
    exact h i

end Status

/-! ## One flag -/

/-- A status flag. -/
inductive Flag where
  | running
  | extraModule
  | missingModule
  | sizeMismatch
  | leftGateway
  | rightGateway
  deriving DecidableEq

namespace Flag

/-- The position of its bit. -/
def position : Flag → Nat
  | running => 0
  | extraModule => 1
  | missingModule => 2
  | sizeMismatch => 3
  | leftGateway => 4
  | rightGateway => 5

/-- The set of this flag alone. -/
def status : Flag → Status
  | running => .running
  | extraModule => .extraModule
  | missingModule => .missingModule
  | sizeMismatch => .sizeMismatch
  | leftGateway => .leftGateway
  | rightGateway => .rightGateway

theorem position_injective : Function.Injective position := by
  intro f g h
  cases f <;> cases g <;> first | rfl | exact absurd h (by decide)

@[simp] theorem has_status (f : Flag) (i : Nat) : f.status.has i = decide (i = f.position) := by
  by_cases h : i < 8
  · have hall : ∀ j : Fin 8, f.status.has j.val = decide (j.val = f.position) := by
      cases f <;> decide
    exact hall ⟨i, h⟩
  · have hposition : f.position < 6 := by cases f <;> decide
    rw [Status.has_of_le (by omega), eq_comm, decide_eq_false_iff_not]
    omega

end Flag

/-- The flags that reconciliation decides. -/
theorem Status.has_configuration (i : Nat) :
    configuration.has i =
      (decide (i = Flag.extraModule.position) || decide (i = Flag.missingModule.position) ||
        decide (i = Flag.sizeMismatch.position)) := by
  have hunion : configuration = (Flag.extraModule.status.union Flag.missingModule.status).union
      Flag.sizeMismatch.status := rfl
  rw [hunion, has_union, has_union, Flag.has_status, Flag.has_status, Flag.has_status]

/-- **A set contains a flag** exactly if the bit at its position is set. -/
theorem Status.contains_status (s : Status) (f : Flag) :
    s.contains f.status = s.has f.position := by
  rw [Bool.eq_iff_iff, contains_iff]
  constructor
  · intro h
    exact h f.position (by rw [Flag.has_status, decide_eq_true rfl])
  · intro h i hi
    rw [Flag.has_status, decide_eq_true_eq] at hi
    rw [hi, h]

end RackBus
