/-!
# Clamped counters

Counters in this library stop at the largest value of their width instead of wrapping round.
Each clamp is described by its value as a natural number.
-/

set_option autoImplicit false

namespace RackBus

/-- The nearest byte to `n`. -/
def clampByte (n : Nat) : UInt8 := UInt8.ofNat (min n 255)

/-- The nearest sixteen-bit word to `n`. -/
def clampWord (n : Nat) : UInt16 := UInt16.ofNat (min n 65535)

/-- The nearest point in time to `n`, in microseconds. -/
def clampTime (n : Nat) : UInt64 := UInt64.ofNat (min n 18446744073709551615)

theorem toNat_clampByte (n : Nat) : (clampByte n).toNat = min n 255 := by
  rw [clampByte, UInt8.toNat_ofNat_of_lt']
  show min n 255 < 256
  omega

theorem toNat_clampWord (n : Nat) : (clampWord n).toNat = min n 65535 := by
  rw [clampWord, UInt16.toNat_ofNat_of_lt']
  show min n 65535 < 65536
  omega

theorem toNat_clampTime (n : Nat) : (clampTime n).toNat = min n 18446744073709551615 := by
  rw [clampTime, UInt64.toNat_ofNat_of_lt']
  show min n 18446744073709551615 < 18446744073709551616
  omega

end RackBus
