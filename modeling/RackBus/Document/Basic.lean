import RackBus.Declaration
import RackBus.Settings

/-!
# Configuration documents

A document declares the modules that are expected on the bus, and overrides some of the usual
settings.  What it does not mention stays as it is.

* `Document.settings` are the usual settings with the overrides applied.
* `Document.Failure` names what can be wrong with a document, for a person and for the library.
-/

set_option autoImplicit false

namespace RackBus

/-- The waiting times a document sets. -/
structure TimingOverrides where
  presencePulse : Option UInt64
  presenceSettle : Option UInt64
  enableDwell : Option UInt64
  enrolmentPause : Option UInt32
  startPause : Option UInt32
  deriving DecidableEq

/-- The settings a document sets. -/
structure Overrides where
  rightBase : Option UInt8
  retryLimit : Option UInt8
  maxDevices : Option UInt64
  imageSize : Option UInt64
  autoStart : Option Bool
  serial : Option UInt32
  timings : Option TimingOverrides
  deriving DecidableEq

/-- A configuration document. -/
structure Document where
  /-- The settings it sets. -/
  bridge : Overrides
  /-- The modules it declares. -/
  devices : List Declaration
  deriving DecidableEq

/-- Nothing is set. -/
def TimingOverrides.none : TimingOverrides := ⟨.none, .none, .none, .none, .none⟩

/-- Nothing is set. -/
def Overrides.none : Overrides := ⟨.none, .none, .none, .none, .none, .none, .none⟩

/-- The waiting times with those that are set taken over. -/
def TimingOverrides.apply (o : TimingOverrides) (t : Timings) : Timings where
  presencePulse := o.presencePulse.getD t.presencePulse
  presenceSettle := o.presenceSettle.getD t.presenceSettle
  enableDwell := o.enableDwell.getD t.enableDwell
  enrolmentPause := o.enrolmentPause.getD t.enrolmentPause
  startPause := o.startPause.getD t.startPause

/-- The settings with those that are set taken over. -/
def Overrides.apply (o : Overrides) (s : Settings) : Settings :=
  { s with
    rightBase := (o.rightBase.map Address.mk).getD s.rightBase
    retryLimit := o.retryLimit.getD s.retryLimit
    maxDevices := (o.maxDevices.map UInt64.toNat).getD s.maxDevices
    imageSize := (o.imageSize.map UInt64.toNat).getD s.imageSize
    autoStart := o.autoStart.getD s.autoStart
    serial := o.serial.getD s.serial
    timings := (o.timings.map fun t ↦ t.apply s.timings).getD s.timings }

namespace Document

/-- The settings a document asks for. -/
def settings (d : Document) : Settings := d.bridge.apply .usual

/-- A document that declares modules and sets nothing. -/
def ofDeclarations (declared : List Declaration) : Document := ⟨.none, declared⟩

/-- What can be wrong with a document. -/
inductive Failure where
  /-- The text is not a document. -/
  | malformed
  /-- There is no text to read. -/
  | unreadable
  /-- An address is declared twice. -/
  | duplicate (address : Address)
  /-- The address of all modules is declared. -/
  | reserved (address : Address)
  /-- Two modules share a byte of the process image. -/
  | overlap (first second : Address)
  /-- A module's bytes do not all lie in the process image. -/
  | outsideImage (address : Address) (stop imageSize : Nat)
  /-- The settings could not work. -/
  | settings (cause : RackBus.Failure)
  deriving DecidableEq

namespace Failure

/-- What a person is told. -/
def message : Failure → String
  | malformed => "malformed configuration document"
  | unreadable => "configuration file unreadable"
  | duplicate a => s!"Address {a.text} is declared more than once"
  | reserved a => s!"Address {a.text} is reserved and cannot be declared"
  | overlap a b => s!"Process image regions of modules {a.text} and {b.text} overlap"
  | outsideImage a stop size =>
    s!"Module {a.text} ends at byte {Decimal.text stop}, " ++
      s!"past the {Decimal.text size}-byte process image"
  | settings cause => s!"Invalid bridge settings: {cause.message}"

/-- The cause as a bridge knows it, which leaves out where in the document it is. -/
def toFailure : Failure → RackBus.Failure
  | malformed => .notLoaded "malformed configuration document"
  | unreadable => .notLoaded "configuration file unreadable"
  | duplicate _ => .invalid "duplicate declared address"
  | reserved _ => .invalid "reserved declared address"
  | overlap _ _ => .invalid "overlapping declared regions"
  | outsideImage _ _ _ => .invalid "declared region outside the process image"
  | settings cause => cause

end Failure

end Document
end RackBus
