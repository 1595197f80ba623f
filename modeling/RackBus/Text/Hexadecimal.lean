/-!
# Hexadecimal text

Lowercase hexadecimal digits, as they stand in messages and in byte dumps.

* `Hexadecimal.bytes` writes a run of bytes, two digits each.
* `Hexadecimal.word` writes a sixteen-bit code with its `0x` mark and all four digits.
-/

set_option autoImplicit false

namespace RackBus
namespace Hexadecimal

/-- The character of a digit below sixteen. -/
def digit (d : Nat) : Char := if d < 10 then Char.ofNat (48 + d) else Char.ofNat (87 + d)

/-- The `width` lowest hexadecimal digits of `n`, most significant first. -/
def digits : Nat → Nat → List Char
  | 0, _ => []
  | width + 1, n => digits width (n / 16) ++ [digit (n % 16)]

/-- A code as messages show it: the mark `0x` and four digits. -/
def word (code : UInt16) : String := String.ofList ('0' :: 'x' :: digits 4 code.toNat)

/-- A run of bytes, two digits each. -/
def bytes (data : List UInt8) : String :=
  String.ofList (data.flatMap fun b ↦ digits 2 b.toNat)

end Hexadecimal
end RackBus
