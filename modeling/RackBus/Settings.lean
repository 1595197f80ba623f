import RackBus.Memory.CoreBlock
import RackBus.Wire.Identity

/-!
# Settings of a bridge

The parameters a bridge is made with.  `Settings.check` refuses the ones that could not work.
-/

set_option autoImplicit false

namespace RackBus

/-- The waiting times of a survey.  The first three are compared with the clock, in microseconds;
the other two are pauses, in milliseconds. -/
structure Timings where
  /-- How long both enable lines stay high while the modules are woken. -/
  presencePulse : UInt64
  /-- How long the modules get to settle afterwards. -/
  presenceSettle : UInt64
  /-- How long a side's enable line is high before its modules are spoken to. -/
  enableDwell : UInt64
  /-- The pause between the steps of an enrolment. -/
  enrolmentPause : UInt32
  /-- The pause after the cyclic exchange was started. -/
  startPause : UInt32
  deriving DecidableEq

/-- The parameters of a bridge. -/
structure Settings where
  /-- The first address of the right side.  The left side counts down from the one below. -/
  rightBase : Address
  /-- How many failed enrolments an address is allowed before its side is given up. -/
  retryLimit : UInt8
  /-- The most rows of the roster, the core's row among them. -/
  maxDevices : Nat
  /-- The number of bytes in the process image. -/
  imageSize : Nat
  /-- The waiting times. -/
  timings : Timings
  /-- The core's serial number. -/
  serial : UInt32
  /-- The core's hardware revision. -/
  hardware : UInt16
  /-- The first part of the core's software version. -/
  major : UInt16
  /-- The second part of the core's software version. -/
  minor : UInt16
  /-- Does the survey begin at once? -/
  autoStart : Bool
  deriving DecidableEq

namespace Timings

/-- The usual waiting times. -/
def usual : Timings where
  presencePulse := 10000
  presenceSettle := 30000
  enableDwell := 10000
  enrolmentPause := 5
  startPause := 100

end Timings

namespace Settings

/-- The usual parameters. -/
def usual : Settings where
  rightBase := ⟨32⟩
  retryLimit := 5
  maxDevices := 64
  imageSize := 4096
  timings := .usual
  serial := 0
  hardware := 0
  major := 0
  minor := 0
  autoStart := true

/-- The identity of the core device. -/
def coreIdentity (s : Settings) : Identity where
  serial := s.serial
  type := .core
  hardware := s.hardware
  major := s.major
  minor := s.minor
  revision := 0
  inputLength := CoreBlock.inputLength
  outputLength := CoreBlock.outputLength
  features := 0

/-- Refuses parameters that could not work: a side without addresses, a roster without room for
the core, an image without room for the core's bytes. -/
def check (s : Settings) : Except Failure Unit :=
  if s.rightBase.value ≤ 1 || s.rightBase.value == 255 then
    .error (.invalid "right base address must be between 2 and 254")
  else if s.maxDevices == 0 then
    .error (.invalid "device table needs room for the core entry")
  else if s.imageSize < 11 then
    .error (.invalid "process image cannot hold the core status block")
  else .ok ()

/-- Good parameters: addresses for both sides, room for the core in roster and image. -/
structure Valid (s : Settings) : Prop where
  two_le_rightBase : 2 ≤ s.rightBase.value.toNat
  rightBase_lt : s.rightBase.value.toNat < 255
  maxDevices_pos : 0 < s.maxDevices
  coreBytes_le : 11 ≤ s.imageSize

/-- **The check accepts exactly the good parameters.** -/
theorem check_eq_ok_iff {s : Settings} : s.check = .ok () ↔ s.Valid := by
  have hlt := s.rightBase.value.toNat_lt
  have hle : s.rightBase.value ≤ 1 ↔ s.rightBase.value.toNat ≤ 1 := UInt8.le_iff_toNat_le
  have heq : s.rightBase.value = 255 ↔ s.rightBase.value.toNat = 255 := UInt8.toNat_inj.symm
  simp only [check, Bool.or_eq_true, decide_eq_true_eq, beq_iff_eq, hle, heq]
  constructor
  · intro h
    split at h
    · exact absurd h (by simp)
    · split at h
      · exact absurd h (by simp)
      · split at h
        · exact absurd h (by simp)
        · exact ⟨by omega, by omega, by omega, by omega⟩
  · rintro ⟨h₁, h₂, h₃, h₄⟩
    rw [if_neg (by omega), if_neg (by omega), if_neg (by omega)]

end Settings
end RackBus
