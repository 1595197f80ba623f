import RackBus.Polling

/-!
# What a round of polling does to the rows, and what it notes

A round of polling visits the rows one by one.  It gives active rows another error count, and it
notes the first active gateway of each side.

* `Sweep.map_clearErrors_visitAll` and `Polled.map_clearErrors_cycle`: apart from the error counts,
  the rows are the same afterwards.
* `Roster.gateway?` is the first active gateway of a side, and `Polled.gateways_cycle` says that it
  is noted, unless one was noted before.
-/

set_option autoImplicit false

namespace RackBus

universe u

/-! ## The rows -/

section Rows

variable {σ : Type u} (rack : Rack σ) (base : Address)

theorem Sweep.clearErrors_visit (s : Sweep σ) (index : Nat) (row : Row) :
    (s.visit rack base index row).1.clearErrors = row.clearErrors := by
  rw [visit]
  split
  · rfl
  · split
    · rfl
    · split <;> rfl

theorem Sweep.map_clearErrors_visitAll (s : Sweep σ) (index : Nat) (rows : List Row) :
    (s.visitAll rack base index rows).1.map Row.clearErrors = rows.map Row.clearErrors := by
  induction rows generalizing s index with
  | nil => rfl
  | cons row rest ih =>
    rw [visitAll, List.map_cons, List.map_cons, clearErrors_visit, ih]

/-- **Polling changes nothing but the error counts** in a roster. -/
theorem Polled.map_clearErrors_cycle (p : Polled σ) (core : CoreBlock) (now : UInt64) :
    (p.cycle rack base core now).2.roster.rows.map Row.clearErrors =
      p.roster.rows.map Row.clearErrors :=
  congrArg (p.roster.core.clearErrors :: ·)
    (Sweep.map_clearErrors_visitAll rack base _ 1 p.roster.modules)

end Rows

/-! ## The gateways -/

/-- Is this the row of an active gateway on a side? -/
def Row.isGatewayOn (row : Row) (base : Address) (side : Side) : Bool :=
  row.active && row.identity.type.isGateway && row.address.side? base == some side

/-- The address of the first active gateway on a side. -/
def Roster.gateway? (r : Roster) (base : Address) (side : Side) : Option Address :=
  (r.rows.find? fun row ↦ row.isGatewayOn base side).map Row.address

theorem Gateways.at?_note (g : Gateways) (noted side : Side) (address : Address) :
    (g.note noted address).at? side =
      if noted = side then (g.at? side).or (some address) else g.at? side := by
  cases noted <;> cases side <;> simp only [note, at?, reduceCtorEq, if_true, if_false]
  · cases g.right <;> rfl
  · cases g.left <;> rfl

section Gateways

variable {σ : Type u} (rack : Rack σ) (base : Address)

/-- A gateway with an address on neither side is passed over. -/
theorem Sweep.at?_noteGateway (s : Sweep σ) (address : Address) (side : Side) :
    (s.noteGateway base address).gateways.at? side =
      if address.side? base = some side then (s.gateways.at? side).or (some address)
      else s.gateways.at? side := by
  rw [noteGateway]
  split
  · rename_i noted hside
    simp only [Gateways.at?_note, hside, Option.some.injEq]
  · rename_i hside
    rw [hside, if_neg (by simp)]

theorem Sweep.at?_visit (s : Sweep σ) (index : Nat) (row : Row) (side : Side) :
    (s.visit rack base index row).2.gateways.at? side =
      if row.isGatewayOn base side then (s.gateways.at? side).or (some row.address)
      else s.gateways.at? side := by
  rw [visit]
  split
  · rename_i hinactive
    have hactive : row.active = false := by simpa using hinactive
    rw [Row.isGatewayOn, hactive, Bool.false_and, Bool.false_and, if_neg Bool.false_ne_true]
  · rename_i hactive
    have hactive : row.active = true := by simpa using hactive
    split
    · rename_i hgateway
      rw [at?_noteGateway, Row.isGatewayOn, hactive, hgateway]
      simp only [Bool.true_and, beq_iff_eq]
    · rename_i hgateway
      have hgateway : row.identity.type.isGateway = false := by simpa using hgateway
      rw [Row.isGatewayOn, hgateway, Bool.and_false, Bool.false_and, if_neg Bool.false_ne_true]
      split <;> rfl

theorem Sweep.at?_visitAll (s : Sweep σ) (index : Nat) (rows : List Row) (side : Side) :
    (s.visitAll rack base index rows).2.gateways.at? side = (s.gateways.at? side).or
      ((rows.find? fun row ↦ row.isGatewayOn base side).map Row.address) := by
  induction rows generalizing s index with
  | nil => exact (Option.or_none).symm
  | cons row rest ih =>
    rw [visitAll]
    refine (ih _ _).trans ?_
    rw [at?_visit, List.find?_cons]
    cases row.isGatewayOn base side with
    | true => rw [if_pos rfl, Option.or_assoc, Option.some_or, Option.map_some]
    | false => rw [if_neg Bool.false_ne_true]

/-- **The first active gateway of each side is noted**, unless one was noted before.  The core is no
gateway. -/
theorem Polled.gateways_cycle (p : Polled σ) (core : CoreBlock) (now : UInt64) (side : Side)
    (hcore : p.roster.core.identity.type.isGateway = false) :
    (p.cycle rack base core now).2.poller.gateways.at? side =
      (p.poller.gateways.at? side).or (p.roster.gateway? base side) := by
  have hfirst : p.roster.core.isGatewayOn base side = false := by
    rw [Row.isGatewayOn, hcore, Bool.and_false, Bool.false_and]
  refine (Sweep.at?_visitAll rack base _ 1 p.roster.modules side).trans ?_
  rw [Roster.gateway?, Roster.rows, List.find?_cons, hfirst]

/-- Error counts do not matter to the gateways. -/
theorem Roster.gateway?_congr {r r' : Roster}
    (h : r'.rows.map Row.clearErrors = r.rows.map Row.clearErrors) (side : Side) :
    r'.gateway? base side = r.gateway? base side := by
  have hcleared (rows : List Row) :
      (rows.find? fun row ↦ row.isGatewayOn base side).map Row.address =
        ((rows.map Row.clearErrors).find? fun row ↦ row.isGatewayOn base side).map Row.address := by
    rw [List.find?_map, Option.map_map]
    rfl
  rw [gateway?, gateway?, hcleared, h, ← hcleared]

end Gateways

end RackBus
