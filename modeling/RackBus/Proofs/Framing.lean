import RackBus.Proofs.Encoding
import RackBus.Wire.Telegram

/-!
# Telegrams on the wire

A telegram is stored in a buffer of the caller and read back from one.  Header and payload are found
again by the length field, so whatever follows them in the buffer does not matter.

* `Telegram.decode_eq_ok_iff`: a buffer is read as a telegram exactly if it starts with the bytes of
  one that is not too long.
* `Telegram.exists_decode_iff` says the same of the buffer alone, in terms of its length field.
* `Telegram.StoresInto` and `Telegram.ReadsFrom` are what the two directions promise about a buffer,
  and `Telegram.faithful_wire` says that they keep it.
-/

set_option autoImplicit false

namespace RackBus

namespace Telegram

/-! ## The header -/

/-- The number in the length field of a buffer. -/
def lengthField (buffer : List UInt8) : Nat := (LittleEndian.word buffer 6).toNat

/-- A buffer with room for a header has the eight bytes of one. -/
theorem exists_header {buffer : List UInt8} (h : headerLength ≤ buffer.length) :
    ∃ destination source c₀ c₁ s₀ s₁ l₀ l₁ rest,
      buffer = destination :: source :: c₀ :: c₁ :: s₀ :: s₁ :: l₀ :: l₁ :: rest := by
  rw [headerLength] at h
  rcases buffer with _ | ⟨destination, _ | ⟨source, _ | ⟨c₀, _ | ⟨c₁, _ | ⟨s₀, _ | ⟨s₁, _ | ⟨l₀,
    _ | ⟨l₁, rest⟩⟩⟩⟩⟩⟩⟩⟩
  -- the first eight of these are too short
  iterate 8
    · simp at h
  exact ⟨destination, source, c₀, c₁, s₀, s₁, l₀, l₁, rest, rfl⟩

theorem lengthField_header (destination source c₀ c₁ s₀ s₁ l₀ l₁ : UInt8) (rest : List UInt8) :
    lengthField (destination :: source :: c₀ :: c₁ :: s₀ :: s₁ :: l₀ :: l₁ :: rest) =
      LittleEndian.value [l₀, l₁] :=
  LittleEndian.toNat_ofNat_value l₀ l₁

/-! ## Reading -/

/-- **What was written is read back**, whatever follows it. -/
theorem decode_encode_append {t : Telegram} (h : t.payload.length ≤ payloadLimit)
    (trail : List UInt8) : decode (t.encode ++ trail) = .ok t := by
  have hlength : LittleEndian.value (LittleEndian.bytes 2 t.payload.length) = t.payload.length :=
    LittleEndian.value_bytes_of_lt (Nat.lt_of_le_of_lt h (by decide))
  have hcommand := LittleEndian.ofNat_value_bytes t.command
  have hsequence := LittleEndian.ofNat_value_bytes t.sequence
  have henough : ¬(t.payload ++ trail).length < t.payload.length := by
    rw [List.length_append]
    omega
  simp only [LittleEndian.bytes] at hlength hcommand hsequence
  simp only [encode, LittleEndian.bytes, List.cons_append, List.nil_append, decode, hlength,
    hcommand, hsequence, if_neg (Nat.not_lt.mpr h), if_neg henough, List.take_left]

/-- **What was read is written as it was**: the telegram in a buffer has the first bytes of it, as
many as the length field says. -/
theorem encode_of_decode {buffer : List UInt8} {t : Telegram} (h : decode buffer = .ok t) :
    t.payload.length ≤ payloadLimit ∧ t.encodedLength = headerLength + lengthField buffer ∧
      t.encodedLength ≤ buffer.length ∧ t.encode = buffer.take t.encodedLength := by
  rw [decode.eq_def] at h
  split at h
  · rename_i destination source c₀ c₁ s₀ s₁ l₀ l₁ rest
    dsimp only at h
    split at h
    · exact absurd h (by simp)
    · rename_i hlimit
      split at h
      · exact absurd h (by simp)
      · rename_i henough
        obtain rfl := Except.ok.inj h
        have hlength : (rest.take (LittleEndian.value [l₀, l₁])).length =
            LittleEndian.value [l₀, l₁] := List.length_take_of_le (Nat.not_lt.mp henough)
        have hbytes : LittleEndian.bytes 2 (LittleEndian.value [l₀, l₁]) = [l₀, l₁] :=
          LittleEndian.bytes_value [l₀, l₁]
        refine ⟨?_, ?_, ?_, ?_⟩
        · rw [hlength]
          exact Nat.not_lt.mp hlimit
        · rw [encodedLength, lengthField_header, hlength]
        · simp only [encodedLength, headerLength, hlength, List.length_cons]
          omega
        · simp only [encodedLength, headerLength, encode, hlength, LittleEndian.bytes_ofNat_value,
            hbytes, Nat.add_comm 8]
          rfl
  · exact absurd h (by simp)

/-- **A buffer is read as a telegram** exactly if it starts with the bytes of one that is not too
long. -/
theorem decode_eq_ok_iff {buffer : List UInt8} {t : Telegram} :
    decode buffer = .ok t ↔
      t.payload.length ≤ payloadLimit ∧ ∃ trail, buffer = t.encode ++ trail := by
  constructor
  · intro h
    obtain ⟨hlimit, -, -, hencode⟩ := encode_of_decode h
    exact ⟨hlimit, buffer.drop t.encodedLength, by rw [hencode, List.take_append_drop]⟩
  · rintro ⟨hlimit, trail, rfl⟩
    exact decode_encode_append hlimit trail

/-- A buffer is read exactly if it has a header, and as many bytes after it as the length field
says, which may not be too many. -/
theorem exists_decode_iff {buffer : List UInt8} :
    (∃ t, decode buffer = .ok t) ↔
      headerLength ≤ buffer.length ∧ lengthField buffer ≤ payloadLimit ∧
        headerLength + lengthField buffer ≤ buffer.length := by
  constructor
  · rintro ⟨t, h⟩
    obtain ⟨hlimit, hlength, hroom, -⟩ := encode_of_decode h
    have hpayload : t.encodedLength = headerLength + t.payload.length := rfl
    omega
  · rintro ⟨hheader, hlimit, hroom⟩
    obtain ⟨destination, source, c₀, c₁, s₀, s₁, l₀, l₁, rest, rfl⟩ := exists_header hheader
    rw [lengthField_header] at hlimit hroom
    have henough : LittleEndian.value [l₀, l₁] ≤ rest.length := by
      simp only [List.length_cons, headerLength] at hroom
      omega
    rw [decode, if_neg (Nat.not_lt.mpr hlimit), if_neg (Nat.not_lt.mpr henough)]
    exact ⟨_, rfl⟩

/-! ## Both directions -/

/-- Storing a telegram in a buffer that has room for it. -/
theorem store_of_le {t : Telegram} {buffer : List UInt8} (hlimit : t.payload.length ≤ payloadLimit)
    (hroom : t.encodedLength ≤ buffer.length) :
    t.store buffer = (.ok t.encodedLength, t.encode ++ buffer.drop t.encodedLength) := by
  rw [store, if_neg (Nat.not_lt.mpr hlimit), if_neg (Nat.not_lt.mpr hroom)]

/-- What storing a telegram does to a buffer. -/
structure StoresInto (t : Telegram) (buffer : List UInt8) : Prop where
  /-- If the payload is not too long and the buffer has room, the first bytes of the buffer become
  those of the telegram, all others stay, and the telegram is read back whatever follows. -/
  stored : t.payload.length ≤ payloadLimit → t.encodedLength ≤ buffer.length →
    ∃ after, t.store buffer = (.ok t.encodedLength, after) ∧ after.length = buffer.length ∧
      after.drop t.encodedLength = buffer.drop t.encodedLength ∧ decode after = .ok t ∧
      ∀ trail, decode (after.take t.encodedLength ++ trail) = .ok t
  /-- A telegram that is refused leaves the buffer as it was. -/
  refused : ∀ e after, t.store buffer = (.error e, after) → after = buffer

/-- What reading a telegram from a buffer gives. -/
structure ReadsFrom (buffer : List UInt8) : Prop where
  /-- The buffers that are read. -/
  accepted : (∃ t, decode buffer = .ok t) ↔
    headerLength ≤ buffer.length ∧ lengthField buffer ≤ payloadLimit ∧
      headerLength + lengthField buffer ≤ buffer.length
  /-- The telegram that was read is stored as the very bytes it was read from. -/
  again : ∀ t, decode buffer = .ok t →
    ∀ target : List UInt8, headerLength + lengthField buffer ≤ target.length →
      t.store target = (.ok (headerLength + lengthField buffer),
        buffer.take (headerLength + lengthField buffer) ++
          target.drop (headerLength + lengthField buffer))

theorem storesInto (t : Telegram) (buffer : List UInt8) : t.StoresInto buffer where
  stored hlimit hroom := by
    have hlength := t.length_encode
    refine ⟨_, store_of_le hlimit hroom, ?_, ?_, decode_encode_append hlimit _, fun trail ↦ ?_⟩
    · rw [List.length_append, List.length_drop, hlength]
      omega
    · rw [List.drop_left' hlength]
    · rw [List.take_left' hlength]
      exact decode_encode_append hlimit trail
  refused e after h := by
    rw [store] at h
    split at h
    · exact (Prod.mk.inj h).2.symm
    · split at h
      · exact (Prod.mk.inj h).2.symm
      · exact absurd (Prod.mk.inj h).1 (by simp)

theorem readsFrom (buffer : List UInt8) : ReadsFrom buffer where
  accepted := exists_decode_iff
  again t h target hroom := by
    obtain ⟨hlimit, hlength, -, hencode⟩ := encode_of_decode h
    rw [← hlength] at hroom ⊢
    rw [← hencode]
    exact store_of_le hlimit hroom

/-- **Telegrams travel unchanged.**  Whatever is stored is read back, whatever is read is stored
again as it was, and the bytes that are not the telegram's own stay out of it. -/
theorem faithful_wire (t : Telegram) (buffer : List UInt8) :
    t.StoresInto buffer ∧ ReadsFrom buffer :=
  ⟨t.storesInto buffer, readsFrom buffer⟩

/-- The request with which module 32 of the right side is told its address. -/
def telling32 : Telegram := ⟨⟨32⟩, .core, 0x14, 0x0102, [32, 0]⟩

/-- Its ten bytes in a buffer of twelve, read back with the two others behind them. -/
theorem faithful_wire_telling32 :
    telling32.StoresInto (List.replicate 12 0xAA) ∧
      ReadsFrom [32, 0, 0x14, 0, 0x02, 0x01, 2, 0, 32, 0, 0xAA, 0xAA] ∧
      telling32.store (List.replicate 12 0xAA) =
        (.ok 10, [32, 0, 0x14, 0, 0x02, 0x01, 2, 0, 32, 0, 0xAA, 0xAA]) :=
  ⟨(faithful_wire telling32 _).1, (faithful_wire telling32 _).2, rfl⟩

end Telegram

end RackBus
