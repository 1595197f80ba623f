import RackBus.Memory.Region
import RackBus.Wire.Identity

/-!
# Declared modules

What the configuration says about a module that is expected on the bus: its address, its type, and
where its bytes are in the process image.
-/

set_option autoImplicit false

namespace RackBus

/-- The region of `length` bytes from `offset` on. -/
def Region.ofWords (offset length : UInt16) : Region := ⟨offset.toNat, length.toNat⟩

/-- A module that is expected on the bus. -/
structure Declaration where
  /-- The address it is expected at. -/
  address : Address
  /-- The type it is expected to have. -/
  type : ModuleType
  /-- The number of input bytes. -/
  inputLength : UInt16
  /-- The number of output bytes. -/
  outputLength : UInt16
  /-- The number of configuration bytes. -/
  configLength : UInt16
  /-- Where the module's part of the image begins; kept, but not used for the layout. -/
  baseOffset : UInt16
  /-- The first input byte. -/
  inputOffset : UInt16
  /-- The first output byte. -/
  outputOffset : UInt16
  /-- The first configuration byte. -/
  configOffset : UInt16
  /-- The serial number; 0 when it is not known. -/
  serial : UInt32
  deriving DecidableEq

namespace Declaration

/-- The three regions of the process image, in the order inputs, outputs, configuration. -/
def regions (d : Declaration) : List Region :=
  [.ofWords d.inputOffset d.inputLength, .ofWords d.outputOffset d.outputLength,
    .ofWords d.configOffset d.configLength]

/-- The identity of a module that is known from its declaration alone. -/
def identity (d : Declaration) : Identity where
  serial := d.serial
  type := d.type
  hardware := 0
  major := 0
  minor := 0
  revision := 0
  inputLength := d.inputLength
  outputLength := d.outputLength
  features := 0

end Declaration
end RackBus
