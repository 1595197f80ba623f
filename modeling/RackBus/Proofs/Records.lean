import RackBus.Proofs.Encoding

/-!
# Identity records in a buffer

A module answers with its identity at the start of a buffer that may hold more.  This file says that
the nine numbers of a record tile its twenty-two bytes: nothing of a record is lost in a buffer, and
nothing but the record is touched.

* `LittleEndian.bytes_word` and `LittleEndian.bytes_double`: a number is written as the bytes of the
  buffer that it was read from.
* `Identity.decode_append` and `Identity.encode_of_decode` are the two directions of the record.
* `Identity.StoresInto` and `Identity.ReadsFrom` are what the two directions promise about a buffer,
  and `Identity.faithful_record` says that they keep it.
-/

set_option autoImplicit false

namespace RackBus

/-! ## Numbers inside a buffer -/

namespace LittleEndian

variable {buffer : List UInt8} {start : Nat}

/-- A run of bytes inside a buffer has a number that fits its width. -/
theorem bytes_value_slice {width : Nat} (h : start + width ≤ buffer.length) :
    value ((buffer.drop start).take width) < 256 ^ width ∧
      bytes width (value ((buffer.drop start).take width)) = (buffer.drop start).take width := by
  have hlength : ((buffer.drop start).take width).length = width :=
    List.length_take_of_le (by rw [List.length_drop]; omega)
  have hlt := value_lt ((buffer.drop start).take width)
  have hbytes := bytes_value ((buffer.drop start).take width)
  rw [hlength] at hlt hbytes
  exact ⟨hlt, hbytes⟩

/-- A word is written as the bytes of the buffer that it was read from. -/
theorem bytes_word (h : start + 2 ≤ buffer.length) :
    bytes 2 (word buffer start).toNat = (buffer.drop start).take 2 := by
  obtain ⟨hlt, hbytes⟩ := bytes_value_slice h
  rw [word, UInt16.toNat_ofNat_of_lt' hlt, hbytes]

/-- So is a number of four bytes. -/
theorem bytes_double (h : start + 4 ≤ buffer.length) :
    bytes 4 (double buffer start).toNat = (buffer.drop start).take 4 := by
  obtain ⟨hlt, hbytes⟩ := bytes_value_slice h
  rw [double, UInt32.toNat_ofNat_of_lt' hlt, hbytes]

/-- What follows a number does not matter. -/
theorem word_append (h : start + 2 ≤ buffer.length) (trail : List UInt8) :
    word (buffer ++ trail) start = word buffer start := by
  rw [word, List.drop_append_of_le_length (by omega),
    List.take_append_of_le_length (by rw [List.length_drop]; omega), word]

theorem double_append (h : start + 4 ≤ buffer.length) (trail : List UInt8) :
    double (buffer ++ trail) start = double buffer start := by
  rw [double, List.drop_append_of_le_length (by omega),
    List.take_append_of_le_length (by rw [List.length_drop]; omega), double]

end LittleEndian

namespace Identity

/-! ## Reading -/

/-- **Whatever follows a record is ignored.** -/
theorem decode_append {buffer : List UInt8} (h : encodedLength ≤ buffer.length)
    (trail : List UInt8) : decode (buffer ++ trail) = decode buffer := by
  have hroom : 22 ≤ buffer.length := h
  have hlong : ¬(buffer ++ trail).length < encodedLength := by
    rw [List.length_append]
    omega
  rw [decode, decode, if_neg hlong, if_neg (Nat.not_lt.mpr h)]
  simp (disch := omega) only [LittleEndian.word_append, LittleEndian.double_append]

/-- **What was written is read back**, whatever follows it. -/
theorem decode_encode_append (d : Identity) (trail : List UInt8) :
    decode (d.encode ++ trail) = .ok d := by
  rw [decode_append (Nat.le_of_eq d.length_encode.symm), decode_encode]

/-- **What was read is written as it was**: the record in a buffer has the first bytes of it. -/
theorem encode_of_decode {buffer : List UInt8} {d : Identity} (h : decode buffer = .ok d) :
    d.encode = buffer.take encodedLength := by
  rw [decode] at h
  split at h
  · exact absurd h (by simp)
  · rename_i hlong
    obtain rfl := Except.ok.inj h
    rw [encodedLength] at hlong
    rw [encode]
    dsimp only
    rw [LittleEndian.bytes_double (by omega), LittleEndian.bytes_word (by omega),
      LittleEndian.bytes_word (by omega), LittleEndian.bytes_word (by omega),
      LittleEndian.bytes_word (by omega), LittleEndian.bytes_double (by omega),
      LittleEndian.bytes_word (by omega), LittleEndian.bytes_word (by omega),
      LittleEndian.bytes_word (by omega), List.drop_zero]
    -- each field begins where the one before it ends
    simp only [← List.take_add, Nat.reduceAdd, encodedLength]

/-! ## Both directions -/

/-- What storing a record does to a buffer. -/
structure StoresInto (d : Identity) (buffer : List UInt8) : Prop where
  /-- In a buffer with room for it, the first twenty-two bytes become those of the record and all
  others stay.  The record is read back, whatever follows these bytes. -/
  stored : 22 ≤ buffer.length →
    ∃ after, d.store buffer = (.ok 22, after) ∧ after.length = buffer.length ∧
      after.take 22 = d.encode ∧ after.drop 22 = buffer.drop 22 ∧ decode after = .ok d ∧
      ∀ trail, decode (after.take 22 ++ trail) = .ok d
  /-- A buffer without room for it is refused and stays as it was. -/
  refused : buffer.length < 22 → d.store buffer = (.error .shortBuffer, buffer)

/-- What reading a record from a buffer gives. -/
structure ReadsFrom (buffer : List UInt8) : Prop where
  /-- A buffer that is long enough holds a record, and storing it where it was read from changes
  nothing. -/
  again : 22 ≤ buffer.length → ∃ d, decode buffer = .ok d ∧ d.store buffer = (.ok 22, buffer)
  /-- A shorter one is refused. -/
  refused : buffer.length < 22 → decode buffer = .error .shortBuffer

/-- Storing a record in a buffer that has room for it. -/
theorem store_of_le {d : Identity} {buffer : List UInt8} (h : 22 ≤ buffer.length) :
    d.store buffer = (.ok 22, d.encode ++ buffer.drop 22) :=
  if_neg (Nat.not_lt.mpr h)

theorem storesInto (d : Identity) (buffer : List UInt8) : d.StoresInto buffer where
  stored h := by
    have hlength : d.encode.length = 22 := d.length_encode
    refine ⟨d.encode ++ buffer.drop 22, store_of_le h, ?_, List.take_left' hlength,
      List.drop_left' hlength, d.decode_encode_append _, fun trail ↦ ?_⟩
    · rw [List.length_append, List.length_drop, hlength]
      omega
    · rw [List.take_left' hlength]
      exact d.decode_encode_append trail
  refused h := if_pos h

theorem readsFrom (buffer : List UInt8) : ReadsFrom buffer where
  again h := by
    obtain ⟨d, hd⟩ : ∃ d, decode buffer = .ok d := ⟨_, if_neg (Nat.not_lt.mpr h)⟩
    refine ⟨d, hd, ?_⟩
    rw [store_of_le h, encode_of_decode hd, encodedLength, List.take_append_drop]
  refused h := if_pos h

/-- **Identities travel unchanged.**  Whatever is stored is read back, whatever is read is stored
again as it was, and only buffers with fewer than twenty-two bytes are refused. -/
theorem faithful_record (d : Identity) (buffer : List UInt8) :
    d.StoresInto buffer ∧ ReadsFrom buffer :=
  ⟨d.storesInto buffer, readsFrom buffer⟩

/-- A module with seventy input and eighteen output bytes, in a buffer of twenty-four. -/
example :
    store ⟨0x01020304, ⟨96⟩, 2, 1, 3, 4711, 70, 18, 0⟩ (List.replicate 24 0xAA) =
      (.ok 22, [4, 3, 2, 1, 96, 0, 2, 0, 1, 0, 3, 0, 0x67, 0x12, 0, 0, 70, 0, 18, 0, 0, 0,
        0xAA, 0xAA]) := by
  decide

end Identity
end RackBus
