import RackBus.Failure
import RackBus.Wire.LittleEndian

/-!
# The process image

The bytes that the application and the modules share.  The size is fixed when the image is made;
every access is checked against it, and an access that leaves the image changes nothing.

A write answers with its outcome and with the image afterwards, so that what a refused write leaves
behind is part of its meaning.

* `Image.readByte`, `Image.writeByte`: one byte.
* `Image.readWord`, `Image.writeWord`: two bytes, least significant first.
* `Image.slice`, `Image.fill`: any number of bytes.
* `size_writeByte` and its companions: no access changes the size.
-/

set_option autoImplicit false

namespace RackBus

/-- The bytes shared by the application and the modules. -/
structure Image where
  /-- The bytes, by position. -/
  bytes : Array UInt8
  deriving DecidableEq

namespace Image

/-- An image of `size` zeros. -/
def zeroed (size : Nat) : Image := ⟨Array.replicate size 0⟩

/-- The number of bytes. -/
def size (image : Image) : Nat := image.bytes.size

/-- The same image with every byte zero. -/
def clear (image : Image) : Image := zeroed image.size

/-- Do the `length` bytes from `offset` lie in the image? -/
def holds (image : Image) (offset length : Nat) : Bool := offset + length ≤ image.size

/-! ## Reading -/

/-- The byte at `offset`. -/
def readByte (image : Image) (offset : Nat) : Except Failure UInt8 :=
  match image.bytes[offset]? with
  | some b => .ok b
  | none => .error (.outsideImage offset 1)

/-- The word at `offset`. -/
def readWord (image : Image) (offset : Nat) : Except Failure UInt16 :=
  match image.bytes[offset]?, image.bytes[offset + 1]? with
  | some low, some high => .ok (UInt16.ofNat (LittleEndian.value [low, high]))
  | _, _ => .error (.outsideImage offset 2)

/-- The `length` bytes from `offset`. -/
def slice (image : Image) (offset length : Nat) : Except Failure (List UInt8) :=
  if image.holds offset length then .ok (image.bytes.extract offset (offset + length)).toList
  else .error (.outsideImage offset length)

/-! ## Writing -/

/-- Replaces the byte at `offset`. -/
def writeByte (image : Image) (offset : Nat) (value : UInt8) : Except Failure Unit × Image :=
  if image.holds offset 1 then (.ok (), ⟨image.bytes.setIfInBounds offset value⟩)
  else (.error (.outsideImage offset 1), image)

/-- Replaces the word at `offset`. -/
def writeWord (image : Image) (offset : Nat) (value : UInt16) : Except Failure Unit × Image :=
  if image.holds offset 2 then
    (.ok (), ⟨(image.bytes.setIfInBounds offset (UInt8.ofNat value.toNat)).setIfInBounds
      (offset + 1) (UInt8.ofNat (value.toNat / 256))⟩)
  else (.error (.outsideImage offset 2), image)

/-- The bytes after `length` of them, from `offset` on, were set to `value`. -/
def filled (bytes : Array UInt8) (value : UInt8) (offset : Nat) : Nat → Array UInt8
  | 0 => bytes
  | length + 1 => filled (bytes.setIfInBounds offset value) value (offset + 1) length

/-- Sets the `length` bytes from `offset` to `value`. -/
def fill (image : Image) (offset length : Nat) (value : UInt8) : Except Failure Unit × Image :=
  if image.holds offset length then (.ok (), ⟨filled image.bytes value offset length⟩)
  else (.error (.outsideImage offset length), image)

/-! ## No access changes the size -/

@[simp] theorem size_zeroed (n : Nat) : (zeroed n).size = n := Array.size_replicate

@[simp] theorem size_clear (image : Image) : image.clear.size = image.size := size_zeroed _

@[simp] theorem size_writeByte (image : Image) (offset : Nat) (value : UInt8) :
    (image.writeByte offset value).2.size = image.size := by
  rw [writeByte]
  split <;> simp [size]

@[simp] theorem size_writeWord (image : Image) (offset : Nat) (value : UInt16) :
    (image.writeWord offset value).2.size = image.size := by
  rw [writeWord]
  split <;> simp [size]

@[simp] theorem size_filled (bytes : Array UInt8) (value : UInt8) (offset length : Nat) :
    (filled bytes value offset length).size = bytes.size := by
  induction length generalizing bytes offset with
  | zero => rfl
  | succ length ih => rw [filled, ih, Array.size_setIfInBounds]

@[simp] theorem size_fill (image : Image) (offset length : Nat) (value : UInt8) :
    (image.fill offset length value).2.size = image.size := by
  rw [fill]
  split <;> simp [size]

/-! ## Reading what was written -/

/-- A byte can be read exactly where the image has one. -/
theorem readByte_eq_ok_iff {image : Image} {offset : Nat} {b : UInt8} :
    image.readByte offset = .ok b ↔ image.bytes[offset]? = some b := by
  rw [readByte]
  split <;> simp_all

theorem holds_iff {image : Image} {offset length : Nat} :
    image.holds offset length = true ↔ offset + length ≤ image.bytes.size := by
  rw [holds, decide_eq_true_eq, size]

theorem readByte_writeByte {image : Image} {offset : Nat} (value : UInt8)
    (h : image.holds offset 1 = true) :
    (image.writeByte offset value).2.readByte offset = .ok value := by
  rw [writeByte, if_pos h, readByte_eq_ok_iff]
  exact Array.getElem?_setIfInBounds_self_of_lt (holds_iff.1 h)

/-! ## Accesses that lie in the image -/

theorem exists_readByte {image : Image} {offset : Nat} (h : image.holds offset 1 = true) :
    ∃ b, image.readByte offset = .ok b := by
  have hlt : offset < image.bytes.size := holds_iff.1 h
  exact ⟨_, readByte_eq_ok_iff.2 (Array.getElem?_eq_getElem hlt)⟩

theorem exists_readWord {image : Image} {offset : Nat} (h : image.holds offset 2 = true) :
    ∃ w, image.readWord offset = .ok w := by
  have hle : offset + 2 ≤ image.bytes.size := holds_iff.1 h
  rw [readWord, Array.getElem?_eq_getElem (by omega), Array.getElem?_eq_getElem (by omega)]
  exact ⟨_, rfl⟩

theorem fst_writeByte {image : Image} {offset : Nat} (value : UInt8)
    (h : image.holds offset 1 = true) : (image.writeByte offset value).1 = .ok () := by
  rw [writeByte, if_pos h]

theorem fst_writeWord {image : Image} {offset : Nat} (value : UInt16)
    (h : image.holds offset 2 = true) : (image.writeWord offset value).1 = .ok () := by
  rw [writeWord, if_pos h]

/-! ## Bytes that an access leaves alone -/

theorem readByte_congr {a b : Image} {offset : Nat} (h : a.bytes[offset]? = b.bytes[offset]?) :
    a.readByte offset = b.readByte offset := by
  rw [readByte, readByte, h]

theorem readWord_congr {a b : Image} {offset : Nat} (hlow : a.bytes[offset]? = b.bytes[offset]?)
    (hhigh : a.bytes[offset + 1]? = b.bytes[offset + 1]?) :
    a.readWord offset = b.readWord offset := by
  rw [readWord, readWord, hlow, hhigh]

theorem getElem?_writeByte_of_ne (image : Image) {offset i : Nat} (value : UInt8)
    (h : i ≠ offset) : (image.writeByte offset value).2.bytes[i]? = image.bytes[i]? := by
  rw [writeByte]
  split
  · exact Array.getElem?_setIfInBounds_ne h.symm
  · rfl

theorem getElem?_writeWord_of_ne (image : Image) {offset i : Nat} (value : UInt16)
    (hlow : i ≠ offset) (hhigh : i ≠ offset + 1) :
    (image.writeWord offset value).2.bytes[i]? = image.bytes[i]? := by
  rw [writeWord]
  split
  · exact (Array.getElem?_setIfInBounds_ne hhigh.symm).trans
      (Array.getElem?_setIfInBounds_ne hlow.symm)
  · rfl

end Image
end RackBus
