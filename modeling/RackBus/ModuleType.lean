import RackBus.Text.Decimal

/-!
# Module types

The type code a module reports about itself.  The codes of real hardware fit in fifteen bits; the
sixteenth marks a module that was declared but never found.

* `ModuleType.base` is the code without the mark, `ModuleType.absent` the code with it.
* Gateways speak to an outside network and are never polled; the built-in input and output
  modules are the ones with a cyclic driver.
-/

set_option autoImplicit false

namespace RackBus

/-- A module's type code. -/
structure ModuleType where
  /-- The code as the module reports it. -/
  code : UInt16
  deriving DecidableEq

namespace ModuleType

/-- The bit that marks a module as declared but not found. -/
def absentMark : UInt16 := 0x8000

/-- The core device. -/
def core : ModuleType := ⟨95⟩

/-- The same type without the mark. -/
def base (t : ModuleType) : ModuleType := ⟨t.code &&& 0x7FFF⟩

/-- The same type, marked as declared but not found. -/
def absent (t : ModuleType) : ModuleType := ⟨t.code ||| absentMark⟩

/-- Does the code carry the mark? -/
def isAbsent (t : ModuleType) : Bool := t.code &&& absentMark != 0

/-- The codes of the gateways, one for each kind of outside network. -/
def gateways : List UInt16 :=
  [71, 72, 73, 74, 75, 76, 77, 78, 79, 80, 81, 82, 83, 84, 85, 92, 93]

/-- The built-in modules: mixed digital, digital inputs, digital outputs, analog, and mixed
analog with digital. -/
def inputsOutputs : List UInt16 := [96, 97, 98, 103, 118]

/-- Is this a gateway, found or not? -/
def isGateway (t : ModuleType) : Bool := gateways.contains t.base.code

/-- Is this a built-in input or output module, found or not? -/
def isInputOutput (t : ModuleType) : Bool := inputsOutputs.contains t.base.code

/-- The code as text, with a remark for a module that was not found. -/
def text (t : ModuleType) : String :=
  if t.isAbsent then Decimal.text t.base.code.toNat ++ " (not connected)"
  else Decimal.text t.code.toNat

/-! ## The mark -/

/-- Masking a union masks both of its parts. -/
private theorem union_masked (a b c : UInt16) : (a ||| b) &&& c = (a &&& c) ||| (b &&& c) :=
  UInt16.toBitVec_inj.1 BitVec.and_or_distrib_right

theorem isAbsent_absent (t : ModuleType) : t.absent.isAbsent = true := by
  have h : (t.code ||| absentMark) &&& absentMark = absentMark := by
    apply UInt16.toBitVec_inj.1
    ext i hi
    simp only [UInt16.toBitVec_and, UInt16.toBitVec_or, BitVec.getElem_and, BitVec.getElem_or]
    cases t.code.toBitVec[i] <;> cases absentMark.toBitVec[i] <;> rfl
  simp only [isAbsent, absent, h]
  decide

theorem isAbsent_base (t : ModuleType) : t.base.isAbsent = false := by
  have h : (t.code &&& 0x7FFF) &&& absentMark = 0 := by
    rw [UInt16.and_assoc, show (0x7FFF : UInt16) &&& absentMark = 0 from rfl, UInt16.and_zero]
  simp [isAbsent, base, h]

theorem base_absent (t : ModuleType) : t.absent.base = t.base := by
  simp only [base, absent, union_masked]
  rw [show absentMark &&& 0x7FFF = 0 from rfl, UInt16.or_zero]

end ModuleType
end RackBus
