import RackBus.Clamp

/-!
# Countdowns

A countdown is set at one point in time and is over once the clock has reached its end.  One that
was never set is over from the start.
-/

set_option autoImplicit false

namespace RackBus

/-- A countdown, with its end if it was set. -/
structure Countdown where
  /-- The point in time at which it is over, in microseconds. -/
  deadline : Option UInt64
  deriving DecidableEq

namespace Countdown

/-- A countdown that was not set. -/
def idle : Countdown := ⟨none⟩

/-- A countdown that is over `duration` after `now`, or at the end of time. -/
def start (now duration : UInt64) : Countdown := ⟨some (clampTime (now.toNat + duration.toNat))⟩

/-- Was it set? -/
def isSet (c : Countdown) : Bool := c.deadline.isSome

/-- Is it over? -/
def isOver (c : Countdown) (now : UInt64) : Bool :=
  match c.deadline with
  | none => true
  | some deadline => deadline ≤ now

/-- A countdown is over from its end on. -/
theorem isOver_start_iff (now duration later : UInt64) :
    (start now duration).isOver later = true ↔
      min (now.toNat + duration.toNat) 18446744073709551615 ≤ later.toNat := by
  simp only [start, isOver, decide_eq_true_eq, UInt64.le_iff_toNat_le, toNat_clampTime]

end Countdown
end RackBus
