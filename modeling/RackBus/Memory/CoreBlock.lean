import RackBus.Memory.Image
import RackBus.Memory.Status

/-!
# The core's own bytes in the process image

The core device has six input bytes, which it writes, and five output bytes, which the application
writes.  The input bytes are the status flags, the duration of the last cycle in milliseconds, the
error count in two bytes, and two bytes that stay zero.  The output bytes are the lamps and two
error limits of two bytes each.

A `CoreBlock` says where the two groups of bytes are.
-/

set_option autoImplicit false

namespace RackBus

/-- Where the core's bytes are. -/
structure CoreBlock where
  /-- The first input byte. -/
  input : UInt16
  /-- The first output byte. -/
  output : UInt16
  deriving DecidableEq

namespace CoreBlock

/-- The number of input bytes. -/
def inputLength : UInt16 := 6

/-- The number of output bytes. -/
def outputLength : UInt16 := 5

/-- The position of the status flags. -/
def statusOffset (core : CoreBlock) : Nat := core.input.toNat

/-- The position of the cycle time. -/
def cycleOffset (core : CoreBlock) : Nat := core.input.toNat + 1

/-- The position of the error count. -/
def errorsOffset (core : CoreBlock) : Nat := core.input.toNat + 2

/-- The position of the lamps. -/
def lampsOffset (core : CoreBlock) : Nat := core.output.toNat

/-- The position of the lower error limit. -/
def lowerLimitOffset (core : CoreBlock) : Nat := core.output.toNat + 1

/-- The position of the upper error limit. -/
def upperLimitOffset (core : CoreBlock) : Nat := core.output.toNat + 3

/-! ## What the core writes -/

/-- Shows the status flags. -/
def writeStatus (core : CoreBlock) (image : Image) (status : Status) :
    Except Failure Unit × Image :=
  image.writeByte core.statusOffset status.bits

/-- The status flags that are shown. -/
def readStatus (core : CoreBlock) (image : Image) : Except Failure Status :=
  (image.readByte core.statusOffset).map Status.ofByte

/-- Shows how long the last cycle took, in milliseconds. -/
def writeCycle (core : CoreBlock) (image : Image) (ms : UInt8) : Except Failure Unit × Image :=
  image.writeByte core.cycleOffset ms

/-- Shows the error count. -/
def writeErrors (core : CoreBlock) (image : Image) (count : UInt16) :
    Except Failure Unit × Image :=
  image.writeWord core.errorsOffset count

/-- The error count that is shown. -/
def readErrors (core : CoreBlock) (image : Image) : Except Failure UInt16 :=
  image.readWord core.errorsOffset

/-! ## What the application writes -/

/-- The lamps the application wants, one bit each. -/
def readLamps (core : CoreBlock) (image : Image) : Except Failure UInt8 :=
  image.readByte core.lampsOffset

/-- Sets the lamps. -/
def writeLamps (core : CoreBlock) (image : Image) (lamps : UInt8) : Except Failure Unit × Image :=
  image.writeByte core.lampsOffset lamps

/-- The lower and the upper error limit. -/
def readLimits (core : CoreBlock) (image : Image) : Except Failure (UInt16 × UInt16) :=
  match image.readWord core.lowerLimitOffset with
  | .error e => .error e
  | .ok lower =>
    match image.readWord core.upperLimitOffset with
    | .error e => .error e
    | .ok upper => .ok (lower, upper)

/-- Sets the lower and then the upper error limit.  If there is no room for the upper one, the
lower one has been set all the same. -/
def writeLimits (core : CoreBlock) (image : Image) (lower upper : UInt16) :
    Except Failure Unit × Image :=
  match image.writeWord core.lowerLimitOffset lower with
  | (.error e, image) => (.error e, image)
  | (.ok (), image) => image.writeWord core.upperLimitOffset upper

end CoreBlock
end RackBus
