import RackBus.Proofs.CoreBytes

/-!
# Writes that are done and writes that are refused

A byte or a word is written as a whole or not at all.  The core writes through these, one field at a
time, and the two error limits are two fields.  This file says what every write leaves behind,
wherever the image ends.

* `Image.WritesWhole` is about a run of bytes that is written as a whole or not at all, and
  `Image.writesWhole_writeByte` and `Image.writesWhole_writeWord` say that single bytes and words are
  written in this way.
* `CoreBlock.Write` names the writes, with their bytes (`Write.target`) and with what is read
  afterwards (`Write.IsShown`).  `Write.IsTorn` says that an image ends between the two limits.
* `CoreBlock.Write.Settles` is what becomes of a write, and `CoreBlock.Write.settles` says so of
  every write.  `CoreBlock.Write.torn_limits` is a write that is refused and yet leaves a trace.
-/

set_option autoImplicit false

namespace RackBus

/-! ## Bytes and words -/

theorem Region.mem_mk_iff {start length i : Nat} :
    i ∈ Region.mk start length ↔ start ≤ i ∧ i < start + length := Iff.rfl

namespace Image

/-- A run of bytes is written as a whole if it lies in the image, and not at all otherwise. -/
structure WritesWhole (r : Region) (before : Image) (result : Except Failure Unit × Image) :
    Prop where
  done : r.stop ≤ before.size → result.1 = .ok () ∧ ChangesOnly r before result.2
  refused : before.size < r.stop → result = (.error (.outsideImage r.start r.length), before)

theorem writesWhole_writeByte (image : Image) (offset : Nat) (value : UInt8) :
    image.WritesWhole ⟨offset, 1⟩ (image.writeByte offset value) where
  done h := ⟨fst_writeByte value (holds_iff.mpr h),
    image.changesOnly_writeByte value (Region.mem_mk_iff.mpr ⟨Nat.le_refl _, Nat.lt_succ_self _⟩)⟩
  refused h := if_neg (mt holds_iff.mp (Nat.not_le.mpr h))

theorem writesWhole_writeWord (image : Image) (offset : Nat) (value : UInt16) :
    image.WritesWhole ⟨offset, 2⟩ (image.writeWord offset value) where
  done h := ⟨fst_writeWord value (holds_iff.mpr h),
    image.changesOnly_writeWord value (Region.mem_mk_iff.mpr ⟨Nat.le_refl _, by omega⟩)
      (Region.mem_mk_iff.mpr ⟨by omega, by omega⟩)⟩
  refused h := if_neg (mt holds_iff.mp (Nat.not_le.mpr h))

variable {r : Region} {before : Image} {result : Except Failure Unit × Image}

/-- A write succeeds exactly if its bytes lie in the image. -/
theorem WritesWhole.ok_iff (h : WritesWhole r before result) :
    result.1 = .ok () ↔ r.stop ≤ before.size := by
  refine ⟨fun hok ↦ Nat.not_lt.mp fun hlt ↦ ?_, fun hle ↦ (h.done hle).1⟩
  rw [h.refused hlt] at hok
  exact absurd hok (by simp)

/-- A write that is refused changes nothing. -/
theorem WritesWhole.eq_of_error (h : WritesWhole r before result) {e : Failure}
    (herror : result.1 = .error e) : result.2 = before := by
  rcases Nat.lt_or_ge before.size r.stop with hlt | hle
  · rw [h.refused hlt]
  · exact absurd ((h.done hle).1.symm.trans herror) (by simp)

end Image

/-! ## What can be written -/

namespace CoreBlock

/-- Something that is written to the image. -/
inductive Write where
  /-- Any byte. -/
  | byte (offset : Nat) (value : UInt8)
  /-- Any word. -/
  | word (offset : Nat) (value : UInt16)
  | status (flags : Status)
  | cycle (ms : UInt8)
  | errors (count : UInt16)
  | limits (lower upper : UInt16)

namespace Write

/-- The outcome of a write, and the image afterwards. -/
def perform (core : CoreBlock) (image : Image) : Write → Except Failure Unit × Image
  | byte offset value => image.writeByte offset value
  | word offset value => image.writeWord offset value
  | status flags => core.writeStatus image flags
  | cycle ms => core.writeCycle image ms
  | errors count => core.writeErrors image count
  | limits lower upper => core.writeLimits image lower upper

/-- The bytes that are written. -/
def target (core : CoreBlock) : Write → Region
  | byte offset _ => ⟨offset, 1⟩
  | word offset _ => ⟨offset, 2⟩
  | status _ => ⟨core.statusOffset, 1⟩
  | cycle _ => ⟨core.cycleOffset, 1⟩
  | errors _ => ⟨core.errorsOffset, 2⟩
  | limits _ _ => ⟨core.lowerLimitOffset, 4⟩

/-- An image shows what was written.  Of a status, only the flags that have a meaning are read. -/
def IsShown (core : CoreBlock) (image : Image) : Write → Prop
  | byte offset value => image.readByte offset = .ok value
  | word offset value => image.readWord offset = .ok value
  | status flags => core.readStatus image = .ok (.ofByte flags.bits)
  | cycle ms => image.readByte core.cycleOffset = .ok ms
  | errors count => core.readErrors image = .ok count
  | limits lower upper => core.readLimits image = .ok (lower, upper)

/-- There is room for the lower limit, but not for the upper one. -/
def IsTorn (core : CoreBlock) (image : Image) : Write → Prop
  | limits _ _ =>
    core.lowerLimitOffset + 2 ≤ image.size ∧ image.size < core.upperLimitOffset + 2
  | _ => False

/-- What becomes of a write. -/
structure Settles (w : Write) (core : CoreBlock) (image : Image) : Prop where
  /-- It succeeds exactly if all its bytes lie in the image. -/
  ok_iff : (w.perform core image).1 = .ok () ↔ (w.target core).stop ≤ image.size
  /-- If it succeeds, nothing but its bytes has changed, and they show what was written. -/
  done : (w.perform core image).1 = .ok () →
    Image.ChangesOnly (w.target core) image (w.perform core image).2 ∧
      w.IsShown core (w.perform core image).2
  /-- If it is refused, nothing has changed, unless the image ends between the two limits. -/
  refused : ∀ e, (w.perform core image).1 = .error e → ¬w.IsTorn core image →
    (w.perform core image).2 = image
  /-- In that case the lower limit is written and the upper one is refused. -/
  torn : ∀ lower upper, w = .limits lower upper → w.IsTorn core image →
    w.perform core image = (.error (.outsideImage core.upperLimitOffset 2),
      (image.writeWord core.lowerLimitOffset lower).2)

end Write

/-! ## The limits -/

section Limits

variable {core : CoreBlock} {image : Image} (lower upper : UInt16)

/-- Without room for the lower limit, nothing is written. -/
theorem writeLimits_of_size_lt (h : image.size < core.lowerLimitOffset + 2) :
    core.writeLimits image lower upper =
      (.error (.outsideImage core.lowerLimitOffset 2), image) := by
  have hlower := (image.writesWhole_writeWord core.lowerLimitOffset lower).refused h
  rw [writeLimits, hlower]

/-- With room for it, the upper limit is written after it. -/
theorem writeLimits_of_le_size (h : core.lowerLimitOffset + 2 ≤ image.size) :
    core.writeLimits image lower upper =
      (image.writeWord core.lowerLimitOffset lower).2.writeWord core.upperLimitOffset upper := by
  have hlower := ((image.writesWhole_writeWord core.lowerLimitOffset lower).done h).1
  rw [writeLimits]
  generalize image.writeWord core.lowerLimitOffset lower = result at hlower
  obtain ⟨outcome, next⟩ := result
  obtain rfl : outcome = .ok () := hlower
  rfl

/-- **The limits are torn** where the image ends between them. -/
theorem writeLimits_of_torn (hlower : core.lowerLimitOffset + 2 ≤ image.size)
    (hupper : image.size < core.upperLimitOffset + 2) :
    core.writeLimits image lower upper = (.error (.outsideImage core.upperLimitOffset 2),
      (image.writeWord core.lowerLimitOffset lower).2) := by
  rw [writeLimits_of_le_size lower upper hlower]
  refine (Image.writesWhole_writeWord _ core.upperLimitOffset upper).refused ?_
  rw [Image.size_writeWord]
  exact hupper

/-- Limits that both have room are written and read back. -/
theorem writeLimits_of_room (h : core.upperLimitOffset + 2 ≤ image.size) :
    (core.writeLimits image lower upper).1 = .ok () ∧
      Image.ChangesOnly ⟨core.lowerLimitOffset, 4⟩ image (core.writeLimits image lower upper).2 ∧
      core.readLimits (core.writeLimits image lower upper).2 = .ok (lower, upper) := by
  have hbetween : core.upperLimitOffset = core.lowerLimitOffset + 2 := rfl
  have hlower : image.holds core.lowerLimitOffset 2 = true := Image.holds_iff.mpr (by
    rw [Image.size] at h
    omega)
  rw [writeLimits_of_le_size lower upper (Image.holds_iff.mp hlower)]
  have hfirst : Image.ChangesOnly ⟨core.lowerLimitOffset, 4⟩ image
      (image.writeWord core.lowerLimitOffset lower).2 :=
    image.changesOnly_writeWord lower (Region.mem_mk_iff.mpr (by omega))
      (Region.mem_mk_iff.mpr (by omega))
  have hread := Image.readWord_writeWord lower hlower
  generalize (image.writeWord core.lowerLimitOffset lower).2 = next at hfirst hread
  have hupper : next.holds core.upperLimitOffset 2 = true :=
    Image.holds_iff.mpr (Nat.le_trans h (Nat.le_of_eq hfirst.size.symm))
  have hsecond : Image.ChangesOnly ⟨core.lowerLimitOffset, 4⟩ next
      (next.writeWord core.upperLimitOffset upper).2 :=
    next.changesOnly_writeWord upper (Region.mem_mk_iff.mpr (by omega))
      (Region.mem_mk_iff.mpr (by omega))
  -- the upper limit is written behind the lower one
  have hkept : (next.writeWord core.upperLimitOffset upper).2.readWord core.lowerLimitOffset =
      .ok lower :=
    (Image.readWord_congr (next.getElem?_writeWord_of_ne upper (by omega) (by omega))
      (next.getElem?_writeWord_of_ne upper (by omega) (by omega))).trans hread
  refine ⟨Image.fst_writeWord upper hupper, hfirst.trans hsecond, ?_⟩
  rw [readLimits, hkept, Image.readWord_writeWord upper hupper]

/-- Both limits are written exactly if the upper one has room. -/
theorem fst_writeLimits_eq_ok_iff :
    (core.writeLimits image lower upper).1 = .ok () ↔ core.upperLimitOffset + 2 ≤ image.size := by
  refine ⟨fun hok ↦ Nat.not_lt.mp fun hlt ↦ ?_, fun h ↦ (writeLimits_of_room lower upper h).1⟩
  rcases Nat.lt_or_ge image.size (core.lowerLimitOffset + 2) with hnone | hroom
  · rw [writeLimits_of_size_lt lower upper hnone] at hok
    exact absurd hok (by simp)
  · rw [writeLimits_of_torn lower upper hroom hlt] at hok
    exact absurd hok (by simp)

end Limits

/-! ## All writes -/

namespace Write

variable {w : Write} {core : CoreBlock} {image : Image}

/-- A write of one field is done as a whole or not at all. -/
theorem settles_of_writesWhole
    (h : Image.WritesWhole (w.target core) image (w.perform core image))
    (hshown : (w.target core).stop ≤ image.size → w.IsShown core (w.perform core image).2)
    (hfield : ∀ lower upper, w ≠ .limits lower upper) : w.Settles core image where
  ok_iff := h.ok_iff
  done hok := ⟨(h.done (h.ok_iff.mp hok)).2, hshown (h.ok_iff.mp hok)⟩
  refused _ herror _ := h.eq_of_error herror
  torn lower upper hw := absurd hw (hfield lower upper)

theorem settles_limits (core : CoreBlock) (image : Image) (lower upper : UInt16) :
    (limits lower upper).Settles core image where
  ok_iff := fst_writeLimits_eq_ok_iff lower upper
  done hok := (writeLimits_of_room lower upper
    ((fst_writeLimits_eq_ok_iff lower upper).mp hok)).2
  refused e herror hwhole := by
    rcases Nat.lt_or_ge image.size (core.lowerLimitOffset + 2) with hnone | hroom
    · rw [perform, writeLimits_of_size_lt lower upper hnone]
    · have hupper : core.upperLimitOffset + 2 ≤ image.size :=
        Nat.not_lt.mp fun hlt ↦ hwhole ⟨hroom, hlt⟩
      exact absurd ((writeLimits_of_room lower upper hupper).1.symm.trans herror) (by simp)
  torn := by
    rintro _ _ hlimits ⟨hlower, hupper⟩
    obtain ⟨rfl, rfl⟩ := limits.inj hlimits
    exact writeLimits_of_torn lower upper hlower hupper

/-- **Every write settles**: it is done as a whole or refused as a whole, but for the limits where
the image ends between them. -/
theorem settles (w : Write) (core : CoreBlock) (image : Image) : w.Settles core image := by
  cases w with
  | byte offset value =>
    exact settles_of_writesWhole (image.writesWhole_writeByte offset value)
      (fun h ↦ Image.readByte_writeByte value (Image.holds_iff.mpr h)) (by simp)
  | word offset value =>
    exact settles_of_writesWhole (image.writesWhole_writeWord offset value)
      (fun h ↦ Image.readWord_writeWord value (Image.holds_iff.mpr h)) (by simp)
  | status flags =>
    exact settles_of_writesWhole (image.writesWhole_writeByte core.statusOffset flags.bits)
      (fun h ↦ congrArg (Except.map Status.ofByte)
        (Image.readByte_writeByte flags.bits (Image.holds_iff.mpr h))) (by simp)
  | cycle ms =>
    exact settles_of_writesWhole (image.writesWhole_writeByte core.cycleOffset ms)
      (fun h ↦ Image.readByte_writeByte ms (Image.holds_iff.mpr h)) (by simp)
  | errors count =>
    exact settles_of_writesWhole (image.writesWhole_writeWord core.errorsOffset count)
      (fun h ↦ Image.readWord_writeWord count (Image.holds_iff.mpr h)) (by simp)
  | limits lower upper => exact settles_limits core image lower upper

/-- **Limits that are refused leave a trace**: in an image of ten bytes the upper one has no room,
and the lower one is set all the same. -/
theorem torn_limits :
    (limits 258 3).perform ⟨0, 6⟩ (.zeroed 10) =
        (.error (.outsideImage 9 2), ⟨#[0, 0, 0, 0, 0, 0, 0, 2, 1, 0]⟩) ∧
      ((limits 258 3).perform ⟨0, 6⟩ (.zeroed 10)).2 ≠ .zeroed 10 := by
  decide

end Write
end CoreBlock
end RackBus
