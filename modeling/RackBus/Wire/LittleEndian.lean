/-!
# Little-endian numbers

Numbers travel least significant byte first, in a fixed number of bytes.

* `LittleEndian.bytes` and `LittleEndian.value` lead from a number to its bytes and back.
* `LittleEndian.word` and `LittleEndian.double` read a sixteen-bit and a thirty-two-bit number at
  a position in a buffer.
-/

set_option autoImplicit false

namespace RackBus
namespace LittleEndian

/-- The `width` low bytes of `n`, least significant first. -/
def bytes : Nat → Nat → List UInt8
  | 0, _ => []
  | width + 1, n => UInt8.ofNat n :: bytes width (n / 256)

/-- The number a run of bytes stands for. -/
def value : List UInt8 → Nat
  | [] => 0
  | b :: bs => b.toNat + 256 * value bs

/-- The sixteen-bit number that starts at position `start`. -/
def word (buffer : List UInt8) (start : Nat) : UInt16 :=
  UInt16.ofNat (value ((buffer.drop start).take 2))

/-- The thirty-two-bit number that starts at position `start`. -/
def double (buffer : List UInt8) (start : Nat) : UInt32 :=
  UInt32.ofNat (value ((buffer.drop start).take 4))

@[simp] theorem length_bytes (width n : Nat) : (bytes width n).length = width := by
  induction width generalizing n with
  | zero => rfl
  | succ width ih => simp [bytes, ih]

end LittleEndian
end RackBus
