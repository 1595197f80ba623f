import RackBus.Failure
import RackBus.ModuleType
import RackBus.Wire.LittleEndian

/-!
# Identity records

What a module says about itself when it is asked: twenty-two bytes with nine numbers, in the order
of the fields below.

* `Identity.encode` and `Identity.decode` are the two directions of the record; `Identity.store`
  writes it into a buffer of the caller.
-/

set_option autoImplicit false

namespace RackBus

/-- A module's description of itself. -/
structure Identity where
  /-- The serial number; 0 when it is not known. -/
  serial : UInt32
  /-- The type code. -/
  type : ModuleType
  /-- The hardware revision. -/
  hardware : UInt16
  /-- The first part of the software version. -/
  major : UInt16
  /-- The second part of the software version. -/
  minor : UInt16
  /-- The source revision of the software. -/
  revision : UInt32
  /-- The number of input bytes in the process image. -/
  inputLength : UInt16
  /-- The number of output bytes in the process image. -/
  outputLength : UInt16
  /-- The feature bits. -/
  features : UInt16
  deriving DecidableEq

namespace Identity

/-- The number of bytes in a record. -/
def encodedLength : Nat := 22

/-- The bytes of a record. -/
def encode (d : Identity) : List UInt8 :=
  LittleEndian.bytes 4 d.serial.toNat ++ LittleEndian.bytes 2 d.type.code.toNat ++
    LittleEndian.bytes 2 d.hardware.toNat ++ LittleEndian.bytes 2 d.major.toNat ++
    LittleEndian.bytes 2 d.minor.toNat ++ LittleEndian.bytes 4 d.revision.toNat ++
    LittleEndian.bytes 2 d.inputLength.toNat ++ LittleEndian.bytes 2 d.outputLength.toNat ++
    LittleEndian.bytes 2 d.features.toNat

/-- Reads a record from the start of a buffer; whatever follows it is ignored. -/
def decode (buffer : List UInt8) : Except Failure Identity :=
  if buffer.length < encodedLength then .error .shortBuffer
  else .ok
    { serial := LittleEndian.double buffer 0
      type := ⟨LittleEndian.word buffer 4⟩
      hardware := LittleEndian.word buffer 6
      major := LittleEndian.word buffer 8
      minor := LittleEndian.word buffer 10
      revision := LittleEndian.double buffer 12
      inputLength := LittleEndian.word buffer 16
      outputLength := LittleEndian.word buffer 18
      features := LittleEndian.word buffer 20 }

/-- Writes a record over the start of a buffer.  Answers with the number of bytes written and the
buffer afterwards, which is the same one when there was no room. -/
def store (d : Identity) (buffer : List UInt8) : Except Failure Nat × List UInt8 :=
  if buffer.length < encodedLength then (.error .shortBuffer, buffer)
  else (.ok encodedLength, d.encode ++ buffer.drop encodedLength)

@[simp] theorem length_encode (d : Identity) : d.encode.length = encodedLength := by
  simp [encode, encodedLength]

end Identity
end RackBus
