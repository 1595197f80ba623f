import RackBus.Declaration
import RackBus.Memory.CoreBlock
import RackBus.Proofs.Encoding

/-!
# Access to the core's bytes

The core writes its input bytes and reads its output bytes by their positions.  This file says when
these accesses succeed, and which bytes they leave alone.

* `Image.ChangesOnly` compares two images: nothing but bytes of a region differs.
* `CoreBlock.LiesIn` says that both groups of bytes end inside an image, and `CoreBlock.Accessible`
  that every access succeeds; `CoreBlock.LiesIn.accessible` is the step from one to the other.
* `CoreBlock.changesOnly_writeStatus` and its companions: what the core writes are its input bytes.
* `CoreBlock.IsApart` says that the two groups share no byte, and then
  `CoreBlock.IsApart.controls_eq` says that what the core writes never changes what the application
  has set.
-/

set_option autoImplicit false

namespace RackBus

/-! ## Images that differ in a region only -/

namespace Image

/-- Nothing but bytes of a region has changed. -/
structure ChangesOnly (r : Region) (before after : Image) : Prop where
  size : after.size = before.size
  bytes : ∀ i, i ∉ r → after.bytes[i]? = before.bytes[i]?

theorem ChangesOnly.refl (r : Region) (image : Image) : ChangesOnly r image image :=
  ⟨rfl, fun _ _ ↦ rfl⟩

theorem ChangesOnly.trans {r : Region} {before next after : Image}
    (first : ChangesOnly r before next) (second : ChangesOnly r next after) :
    ChangesOnly r before after :=
  ⟨second.size.trans first.size, fun i hi ↦ (second.bytes i hi).trans (first.bytes i hi)⟩

theorem changesOnly_writeByte (image : Image) {r : Region} {offset : Nat} (value : UInt8)
    (h : offset ∈ r) : ChangesOnly r image (image.writeByte offset value).2 where
  size := size_writeByte image offset value
  bytes _ hi := image.getElem?_writeByte_of_ne value fun heq ↦ hi (heq ▸ h)

theorem changesOnly_writeWord (image : Image) {r : Region} {offset : Nat} (value : UInt16)
    (hlow : offset ∈ r) (hhigh : offset + 1 ∈ r) :
    ChangesOnly r image (image.writeWord offset value).2 where
  size := size_writeWord image offset value
  bytes _ hi :=
    image.getElem?_writeWord_of_ne value (fun heq ↦ hi (heq ▸ hlow)) fun heq ↦ hi (heq ▸ hhigh)

/-- A word that was written is read back. -/
theorem readWord_writeWord {image : Image} {offset : Nat} (value : UInt16)
    (h : image.holds offset 2 = true) :
    (image.writeWord offset value).2.readWord offset = .ok value := by
  have hle : offset + 2 ≤ image.bytes.size := holds_iff.1 h
  have hlow : ((image.bytes.setIfInBounds offset (UInt8.ofNat value.toNat)).setIfInBounds
      (offset + 1) (UInt8.ofNat (value.toNat / 256)))[offset]? =
        some (UInt8.ofNat value.toNat) := by
    rw [Array.getElem?_setIfInBounds_ne (by omega)]
    exact Array.getElem?_setIfInBounds_self_of_lt (by omega)
  have hhigh : ((image.bytes.setIfInBounds offset (UInt8.ofNat value.toNat)).setIfInBounds
      (offset + 1) (UInt8.ofNat (value.toNat / 256)))[offset + 1]? =
        some (UInt8.ofNat (value.toNat / 256)) :=
    Array.getElem?_setIfInBounds_self_of_lt (by rw [Array.size_setIfInBounds]; omega)
  rw [writeWord, if_pos h, readWord, hlow, hhigh]
  exact congrArg Except.ok (LittleEndian.ofNat_value_bytes value)

end Image

namespace CoreBlock

/-! ## The two groups of bytes -/

/-- The input bytes. -/
def inputs (core : CoreBlock) : Region := .ofWords core.input inputLength

/-- The output bytes. -/
def outputs (core : CoreBlock) : Region := .ofWords core.output outputLength

/-- Both groups of bytes end inside an image of `size` bytes. -/
structure LiesIn (core : CoreBlock) (size : Nat) : Prop where
  inputs : core.inputs.stop ≤ size
  outputs : core.outputs.stop ≤ size

/-- The two groups share no byte. -/
def IsApart (core : CoreBlock) : Prop := core.inputs.meets core.outputs = false

instance (core : CoreBlock) (size : Nat) : Decidable (core.LiesIn size) :=
  decidable_of_iff (core.inputs.stop ≤ size ∧ core.outputs.stop ≤ size)
    ⟨fun ⟨h, g⟩ ↦ ⟨h, g⟩, fun ⟨h, g⟩ ↦ ⟨h, g⟩⟩

instance (core : CoreBlock) : Decidable core.IsApart :=
  inferInstanceAs (Decidable (_ = _))

variable {core : CoreBlock}

theorem mem_inputs_iff {i : Nat} :
    i ∈ core.inputs ↔ core.input.toNat ≤ i ∧ i < core.input.toNat + 6 := Iff.rfl

theorem mem_outputs_iff {i : Nat} :
    i ∈ core.outputs ↔ core.output.toNat ≤ i ∧ i < core.output.toNat + 5 := Iff.rfl

theorem liesIn_iff {size : Nat} :
    core.LiesIn size ↔ core.input.toNat + 6 ≤ size ∧ core.output.toNat + 5 ≤ size :=
  ⟨fun ⟨h, g⟩ ↦ ⟨h, g⟩, fun ⟨h, g⟩ ↦ ⟨h, g⟩⟩

theorem isApart_iff : core.IsApart ↔ ∀ i ∈ core.outputs, i ∉ core.inputs := by
  rw [IsApart, ← Bool.not_eq_true, Region.meets_iff]
  exact ⟨fun h i hout hin ↦ h ⟨i, hin, hout⟩, fun h ⟨i, hin, hout⟩ ↦ h i hout hin⟩

/-! ## Accesses succeed -/

/-- Every access of the core to its bytes succeeds. -/
structure Accessible (core : CoreBlock) (image : Image) : Prop where
  status : ∀ status, (core.writeStatus image status).1 = .ok ()
  cycle : ∀ ms, (core.writeCycle image ms).1 = .ok ()
  errors : ∀ count, (core.writeErrors image count).1 = .ok ()
  lamps : ∃ lamps, core.readLamps image = .ok lamps
  limits : ∃ lower upper, core.readLimits image = .ok (lower, upper)

/-- **Bytes that end inside the image can be accessed.** -/
theorem LiesIn.accessible {image : Image} (h : core.LiesIn image.size) : core.Accessible image := by
  obtain ⟨hin, hout⟩ := liesIn_iff.mp h
  have hstatus : image.holds core.statusOffset 1 = true :=
    Image.holds_iff.mpr (Nat.le_trans (by rw [statusOffset]; omega) hin)
  have hcycle : image.holds core.cycleOffset 1 = true :=
    Image.holds_iff.mpr (Nat.le_trans (by rw [cycleOffset]; omega) hin)
  have herrors : image.holds core.errorsOffset 2 = true :=
    Image.holds_iff.mpr (Nat.le_trans (by rw [errorsOffset]; omega) hin)
  have hlamps : image.holds core.lampsOffset 1 = true :=
    Image.holds_iff.mpr (Nat.le_trans (by rw [lampsOffset]; omega) hout)
  have hlower : image.holds core.lowerLimitOffset 2 = true :=
    Image.holds_iff.mpr (Nat.le_trans (by rw [lowerLimitOffset]; omega) hout)
  have hupper : image.holds core.upperLimitOffset 2 = true :=
    Image.holds_iff.mpr (Nat.le_trans (by rw [upperLimitOffset]) hout)
  obtain ⟨lower, hreadLower⟩ := Image.exists_readWord hlower
  obtain ⟨upper, hreadUpper⟩ := Image.exists_readWord hupper
  exact
    { status := fun status ↦ Image.fst_writeByte status.bits hstatus
      cycle := fun ms ↦ Image.fst_writeByte ms hcycle
      errors := fun count ↦ Image.fst_writeWord count herrors
      lamps := Image.exists_readByte hlamps
      limits := ⟨lower, upper, by rw [readLimits, hreadLower, hreadUpper]⟩ }

/-! ## What the core writes -/

theorem changesOnly_writeStatus (core : CoreBlock) (image : Image) (status : Status) :
    Image.ChangesOnly core.inputs image (core.writeStatus image status).2 :=
  image.changesOnly_writeByte _ (mem_inputs_iff.mpr (by rw [statusOffset]; omega))

theorem changesOnly_writeCycle (core : CoreBlock) (image : Image) (ms : UInt8) :
    Image.ChangesOnly core.inputs image (core.writeCycle image ms).2 :=
  image.changesOnly_writeByte _ (mem_inputs_iff.mpr (by rw [cycleOffset]; omega))

theorem changesOnly_writeErrors (core : CoreBlock) (image : Image) (count : UInt16) :
    Image.ChangesOnly core.inputs image (core.writeErrors image count).2 :=
  image.changesOnly_writeWord _ (mem_inputs_iff.mpr (by rw [errorsOffset]; omega))
    (mem_inputs_iff.mpr (by rw [errorsOffset]; omega))

/-- The error count that was shown is read back. -/
theorem readErrors_writeErrors {image : Image} (h : core.LiesIn image.size) (count : UInt16) :
    core.readErrors (core.writeErrors image count).2 = .ok count := by
  obtain ⟨hin, -⟩ := liesIn_iff.mp h
  refine Image.readWord_writeWord count (Image.holds_iff.mpr ?_)
  rw [errorsOffset]
  exact Nat.le_trans (by omega) hin

/-- Neither the cycle time nor the status flags are shown where the error count is. -/
theorem readErrors_writeByte (image : Image) {offset : Nat} (value : UInt8)
    (h : offset < core.errorsOffset) :
    core.readErrors (image.writeByte offset value).2 = core.readErrors image :=
  Image.readWord_congr (image.getElem?_writeByte_of_ne value (by omega))
    (image.getElem?_writeByte_of_ne value (by omega))

theorem readErrors_writeCycle (image : Image) (ms : UInt8) :
    core.readErrors (core.writeCycle image ms).2 = core.readErrors image :=
  readErrors_writeByte image ms (Nat.lt_succ_self _)

theorem readErrors_writeStatus (image : Image) (status : Status) :
    core.readErrors (core.writeStatus image status).2 = core.readErrors image :=
  readErrors_writeByte image status.bits (by rw [statusOffset, errorsOffset]; omega)

/-! ## What the application has set -/

/-- What the application has set: the lamps and the error limits. -/
def controls (core : CoreBlock) (image : Image) :
    Except Failure UInt8 × Except Failure (UInt16 × UInt16) :=
  (core.readLamps image, core.readLimits image)

/-- The lamps and the limits depend on the output bytes alone. -/
theorem controls_congr {a b : Image} (h : ∀ i ∈ core.outputs, a.bytes[i]? = b.bytes[i]?) :
    core.controls a = core.controls b := by
  have hbyte (n : Nat) (hn : n < 5) :
      a.bytes[core.output.toNat + n]? = b.bytes[core.output.toNat + n]? :=
    h _ (mem_outputs_iff.mpr (by omega))
  have hlamps : core.readLamps a = core.readLamps b := Image.readByte_congr (hbyte 0 (by omega))
  have hlower : a.readWord core.lowerLimitOffset = b.readWord core.lowerLimitOffset :=
    Image.readWord_congr (hbyte 1 (by omega)) (hbyte 2 (by omega))
  have hupper : a.readWord core.upperLimitOffset = b.readWord core.upperLimitOffset :=
    Image.readWord_congr (hbyte 3 (by omega)) (hbyte 4 (by omega))
  rw [controls, controls, hlamps, readLimits, readLimits, hlower, hupper]

/-- **What the core writes is not what the application has set**, as long as the two groups of
bytes are apart. -/
theorem IsApart.controls_eq (h : core.IsApart) {before after : Image}
    (hchanges : Image.ChangesOnly core.inputs before after) :
    core.controls after = core.controls before :=
  controls_congr fun i hi ↦ hchanges.bytes i (isApart_iff.mp h i hi)

end CoreBlock

end RackBus
