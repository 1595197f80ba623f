import RackBus.Bridge.Basic

/-!
# What can be done with a bridge

The owner of a bridge runs cycles and resets it; others stop it, ask for a reset, and hand in
maintenance commands; the application writes to the process image.  An `Operation` is one of these,
and `Bridge.run` performs any number of them in any order, so that a statement about `run` is one
about all histories of a bridge.
-/

set_option autoImplicit false

namespace RackBus

universe u

/-- Something that is done with a bridge. -/
inductive Operation where
  /-- One cycle, at a point in time in microseconds. -/
  | cycle (now : UInt64)
  /-- Start all over at once. -/
  | reset
  /-- Stop. -/
  | stop
  /-- Start all over with the next cycle. -/
  | requestReset
  /-- Hand in a maintenance command. -/
  | requestMaintenance (action : Maintenance)
  /-- Replace a byte of the process image, if it is there. -/
  | writeByte (offset : Nat) (value : UInt8)
  deriving DecidableEq

namespace Bridge

variable {σ : Type u}

/-- Performs one operation. -/
def perform (rack : Rack σ) (b : Bridge σ) : Operation → Bridge σ
  | .cycle now => b.runCycle rack now
  | .reset => (b.reset rack).2
  | .stop => { b with control := b.control.stop }
  | .requestReset => { b with control := b.control.requestReset }
  | .requestMaintenance action =>
    { b with control := (b.control.requestMaintenance action).2 }
  | .writeByte offset value => { b with image := (b.image.writeByte offset value).2 }

/-- Performs operations one after the other. -/
def run (rack : Rack σ) (b : Bridge σ) (operations : List Operation) : Bridge σ :=
  operations.foldl (perform rack) b

@[simp] theorem run_nil (rack : Rack σ) (b : Bridge σ) : b.run rack [] = b := rfl

@[simp] theorem run_cons (rack : Rack σ) (b : Bridge σ) (o : Operation) (rest : List Operation) :
    b.run rack (o :: rest) = (b.perform rack o).run rack rest := rfl

theorem run_append (rack : Rack σ) (b : Bridge σ) (first second : List Operation) :
    b.run rack (first ++ second) = (b.run rack first).run rack second :=
  List.foldl_append

/-- What every operation keeps, every history keeps. -/
theorem run_invariant {rack : Rack σ} {P : Bridge σ → Prop}
    (keeps : ∀ b o, P b → P (b.perform rack o)) {b : Bridge σ} (h : P b)
    (operations : List Operation) : P (b.run rack operations) := by
  induction operations generalizing b with
  | nil => exact h
  | cons o rest ih => exact ih (keeps b o h)

end Bridge
end RackBus
