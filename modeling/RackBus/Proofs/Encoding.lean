import Mathlib.Algebra.Ring.Nat
import RackBus.Wire.Identity

/-!
# Numbers and identities on the wire

What was written to the wire is read back as it was.

* `LittleEndian.value_bytes` and `LittleEndian.bytes_value`: numbers and their bytes are inverse to
  each other, as far as the width allows.
* `Identity.decode_encode`: an identity arrives as it was sent.
-/

set_option autoImplicit false

namespace RackBus

/-! ## Numbers -/

namespace LittleEndian

/-- Reading back gives the number, less the bits that have no room. -/
theorem value_bytes (width n : Nat) : value (bytes width n) = n % 256 ^ width := by
  induction width generalizing n with
  | zero => simp [bytes, value, Nat.mod_one]
  | succ width ih =>
    rw [bytes, value, ih, Nat.pow_succ', Nat.mod_mul, UInt8.toNat_ofNat']

theorem value_lt (bs : List UInt8) : value bs < 256 ^ bs.length := by
  induction bs with
  | nil => simp [value]
  | cons b bs ih =>
    rw [value, List.length_cons, Nat.pow_succ]
    have := b.toNat_lt
    omega

/-- Writing what was read gives the bytes back. -/
theorem bytes_value (bs : List UInt8) : bytes bs.length (value bs) = bs := by
  induction bs with
  | nil => rfl
  | cons b bs ih =>
    have hb := b.toNat_lt
    rw [List.length_cons, bytes, value]
    congr 1
    · apply UInt8.toNat_inj.1
      rw [UInt8.toNat_ofNat']
      omega
    · rw [show (b.toNat + 256 * value bs) / 256 = value bs by omega, ih]

theorem value_bytes_of_lt {width n : Nat} (h : n < 256 ^ width) : value (bytes width n) = n := by
  rw [value_bytes, Nat.mod_eq_of_lt h]

/-! ### Words -/

theorem toNat_ofNat_value (low high : UInt8) :
    (UInt16.ofNat (value [low, high])).toNat = value [low, high] := by
  have hlt : value [low, high] < 256 ^ 2 := value_lt [low, high]
  exact UInt16.toNat_ofNat_of_lt' hlt

/-- A word is written as the two bytes it was read from. -/
theorem bytes_ofNat_value (low high : UInt8) :
    bytes 2 (UInt16.ofNat (value [low, high])).toNat = [low, high] := by
  rw [toNat_ofNat_value]
  exact bytes_value [low, high]

/-- A word is read from the two bytes it was written as. -/
theorem ofNat_value_bytes (n : UInt16) : UInt16.ofNat (value (bytes 2 n.toNat)) = n := by
  rw [value_bytes_of_lt n.toNat_lt, UInt16.ofNat_toNat]

/-! ### Numbers inside a buffer -/

theorem word_of_bytes {buffer : List UInt8} {start : Nat} {n : UInt16}
    (h : (buffer.drop start).take 2 = bytes 2 n.toNat) : word buffer start = n := by
  rw [word, h, ofNat_value_bytes]

theorem double_of_bytes {buffer : List UInt8} {start : Nat} {n : UInt32}
    (h : (buffer.drop start).take 4 = bytes 4 n.toNat) : double buffer start = n := by
  rw [double, h, value_bytes_of_lt n.toNat_lt, UInt32.ofNat_toNat]

end LittleEndian

/-! ## Identities -/

/-- **An identity arrives as it was sent.** -/
theorem Identity.decode_encode (d : Identity) : decode d.encode = .ok d := by
  rw [decode, length_encode, if_neg (Nat.lt_irrefl _)]
  have hserial : LittleEndian.double d.encode 0 = d.serial := LittleEndian.double_of_bytes rfl
  have htype : LittleEndian.word d.encode 4 = d.type.code := LittleEndian.word_of_bytes rfl
  have hhardware : LittleEndian.word d.encode 6 = d.hardware := LittleEndian.word_of_bytes rfl
  have hmajor : LittleEndian.word d.encode 8 = d.major := LittleEndian.word_of_bytes rfl
  have hminor : LittleEndian.word d.encode 10 = d.minor := LittleEndian.word_of_bytes rfl
  have hrevision : LittleEndian.double d.encode 12 = d.revision :=
    LittleEndian.double_of_bytes rfl
  have hinput : LittleEndian.word d.encode 16 = d.inputLength := LittleEndian.word_of_bytes rfl
  have houtput : LittleEndian.word d.encode 18 = d.outputLength := LittleEndian.word_of_bytes rfl
  have hfeatures : LittleEndian.word d.encode 20 = d.features := LittleEndian.word_of_bytes rfl
  rw [hserial, htype, hhardware, hmajor, hminor, hrevision, hinput, houtput, hfeatures]

end RackBus
