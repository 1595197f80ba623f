import RackBus.Document.Basic
import RackBus.FirstPair

/-!
# Checking declarations

Declared modules have addresses of their own, their bytes lie in the process image, and no two of
them share one.

* `Declaration.check` tries one declaration after the other, and then the pairs.
* `Document.check` checks the settings first and takes the size of the image from them.
-/

set_option autoImplicit false

namespace RackBus
namespace Declaration

/-- Do two modules share a byte of the process image? -/
def overlaps (a b : Declaration) : Bool :=
  a.regions.any fun r ↦ b.regions.any fun s ↦ r.meets s

/-- One declaration, behind those of the given addresses.  The address of all modules is refused
before a repeated one, and both before bytes outside the image. -/
def checkOne (imageSize : Nat) (earlier : List Address) (d : Declaration) :
    Except Document.Failure Unit :=
  if d.address.isBroadcast then .error (.reserved d.address)
  else if earlier.contains d.address then .error (.duplicate d.address)
  else
    match d.regions.find? fun r ↦ !r.endsWithin imageSize with
    | some r => .error (.outsideImage d.address r.stop imageSize)
    | none => .ok ()

/-- Declarations in order, behind those of the given addresses. -/
def checkEach (imageSize : Nat) (earlier : List Address) :
    List Declaration → Except Document.Failure Unit
  | [] => .ok ()
  | d :: rest =>
    match checkOne imageSize earlier d with
    | .error e => .error e
    | .ok () => checkEach imageSize (d.address :: earlier) rest

/-- **The check** of all declared modules, for an image of the given size. -/
def check (imageSize : Nat) (declared : List Declaration) : Except Document.Failure Unit :=
  match checkEach imageSize [] declared with
  | .error e => .error e
  | .ok () =>
    match firstPair overlaps declared with
    | some (a, b) => .error (.overlap a.address b.address)
    | none => .ok ()

end Declaration

/-- Checks the settings and then the declared modules. -/
def Document.check (d : Document) : Except Document.Failure Unit :=
  match d.settings.check with
  | .error e => .error (.settings e)
  | .ok () => Declaration.check d.settings.imageSize d.devices

end RackBus
