import RackBus.Clamp
import RackBus.Declaration

/-!
# Rows of the roster

What the bridge keeps about one module: the address it answers to, the identity it reported, where
its bytes are in the process image, whether it takes part in the cyclic exchange, and how many
exchanges in a row have failed.
-/

set_option autoImplicit false

namespace RackBus

/-- What is kept about one module. -/
structure Row where
  /-- The address it answers to. -/
  address : Address
  /-- The identity it reported, or the one it was declared with. -/
  identity : Identity
  /-- The first input byte. -/
  inputOffset : UInt16
  /-- The first output byte. -/
  outputOffset : UInt16
  /-- The first configuration byte. -/
  configOffset : UInt16
  /-- The number of configuration bytes. -/
  configLength : UInt16
  /-- Does it take part in the cyclic exchange? -/
  active : Bool
  /-- How many exchanges in a row have failed, up to 255. -/
  errors : UInt8
  deriving DecidableEq

namespace Row

/-- A row without a place in the image, ready to take part. -/
def fresh (address : Address) (identity : Identity) : Row where
  address := address
  identity := identity
  inputOffset := 0
  outputOffset := 0
  configOffset := 0
  configLength := 0
  active := true
  errors := 0

/-! ## The place in the process image -/

/-- The input bytes. -/
def inputs (row : Row) : Region := .ofWords row.inputOffset row.identity.inputLength

/-- The output bytes. -/
def outputs (row : Row) : Region := .ofWords row.outputOffset row.identity.outputLength

/-- The configuration bytes. -/
def config (row : Row) : Region := .ofWords row.configOffset row.configLength

/-- All three regions. -/
def regions (row : Row) : List Region := [row.inputs, row.outputs, row.config]

/-- Do all bytes lie in an image of `size` bytes? -/
def fits (row : Row) (size : Nat) : Bool := row.regions.all fun r ↦ r.endsWithin size

/-- Do two rows share an input or output byte? -/
def clashes (a b : Row) : Bool :=
  [a.inputs, a.outputs].any fun r ↦ [b.inputs, b.outputs].any fun s ↦ r.meets s

/-- The row without a place in the image, ready to take part. -/
def unplaced (row : Row) : Row :=
  { row with
    inputOffset := 0
    outputOffset := 0
    configOffset := 0
    configLength := 0
    active := true }

/-- The row at the place its declaration gives it. -/
def place (row : Row) (d : Declaration) : Row :=
  { row with
    inputOffset := d.inputOffset
    outputOffset := d.outputOffset
    configOffset := d.configOffset
    configLength := d.configLength }

/-- The row, left out of the cyclic exchange. -/
def deactivate (row : Row) : Row := { row with active := false }

/-- The row with its inputs at the start of the image and its outputs after them. -/
def atStart (row : Row) : Row :=
  { row with inputOffset := 0, outputOffset := row.identity.inputLength }

/-- The row of a module that is declared and was not found. -/
def missing (d : Declaration) : Row :=
  ((fresh d.address { d.identity with type := d.type.absent }).place d).deactivate

/-! ## The error count -/

/-- One more failed exchange. -/
def recordError (row : Row) : Row := { row with errors := clampByte (row.errors.toNat + 1) }

/-- An exchange went well. -/
def clearErrors (row : Row) : Row := { row with errors := 0 }

end Row
end RackBus
