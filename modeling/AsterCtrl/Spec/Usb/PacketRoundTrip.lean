import AsterCtrl.ForStd.List
import AsterCtrl.Spec.Usb.FramingCorrect

/-!
# Packets there and back

What `Encode` makes of a packet is decoded to the same packet, and what `Decode` accepts is a packet
that can be encoded again.  The checksum catches every change of a single byte: a step of the
checksum loses nothing, neither of the state nor of the byte, since the polynomial has its top bit
set and a state shifted right has not.

## Key results

- `crc32c_set_ne`: the checksum tells apart strings that differ in one byte
- `PacketCodec.parseRaw_flipBit`: the raw checks refuse a packet with one bit flipped
- `packet_round_trip`
-/

namespace AsterCtrl.Usb

/-! ## Checksum -/

theorem crcBit_eq (crc : UInt32) :
    crcBit crc = if crc.toNat % 2 = 1 then (crc >>> 1) ^^^ 0x82f63b78 else crc >>> 1 := by
  have hlow : (crc &&& 1).toNat = crc.toNat % 2 := by
    rw [UInt32.toNat_and, UInt32.toNat_one, Nat.and_one_is_mod]
  have hmask : crc &&& 1 = if crc.toNat % 2 = 1 then 1 else 0 := by
    apply UInt32.toNat_inj.mp
    rw [hlow]
    split
    · rename_i hodd
      exact hodd
    · rename_i heven
      exact (Nat.mod_two_eq_zero_or_one _).resolve_right heven
  rw [crcBit, hmask]
  split
  · rfl
  · simp

/-- A state shifted right has its top bit clear. -/
theorem testBit_shiftRight_one (crc : UInt32) : (crc >>> 1).toNat.testBit 31 = false := by
  rw [UInt32.toNat_shiftRight, Nat.testBit_shiftRight]
  exact Nat.testBit_lt_two_pow crc.toNat_lt

/-- The top bit of the new state is the low bit of the old one. -/
theorem testBit_crcBit (crc : UInt32) :
    (crcBit crc).toNat.testBit 31 = decide (crc.toNat % 2 = 1) := by
  rw [crcBit_eq]
  split
  · rename_i hodd
    rw [UInt32.toNat_xor, Nat.testBit_xor, testBit_shiftRight_one]
    simp only [hodd]
    decide
  · rename_i heven
    rw [testBit_shiftRight_one, decide_eq_false heven]

theorem crcBit_injective : Function.Injective crcBit := by
  intro crc crc' heq
  have hlow : crc.toNat % 2 = 1 ↔ crc'.toNat % 2 = 1 := by
    rw [← decide_eq_decide, ← testBit_crcBit, ← testBit_crcBit, heq]
  have hhigh : crc >>> 1 = crc' >>> 1 := by
    rw [crcBit_eq, crcBit_eq] at heq
    simp only [hlow] at heq
    split at heq
    · exact (UInt32.xor_left_inj _).mp heq
    · exact heq
  have hhalf : crc.toNat / 2 = crc'.toNat / 2 := by
    have := congrArg UInt32.toNat hhigh
    simpa [UInt32.toNat_shiftRight, Nat.shiftRight_one] using this
  apply UInt32.toNat_inj.mp
  omega

theorem crcByte_injective_state (value : UInt8) : Function.Injective (crcByte · value) := by
  intro crc crc' heq
  exact (UInt32.xor_left_inj _).mp (crcBit_injective.iterate 8 heq)

theorem crcByte_injective_value (crc : UInt32) : Function.Injective (crcByte crc) := by
  intro value value' heq
  have hbyte := (UInt32.xor_right_inj _).mp (crcBit_injective.iterate 8 heq)
  apply UInt8.toNat_inj.mp
  rw [← UInt8.toNat_toUInt32, hbyte, UInt8.toNat_toUInt32]

/-- The checksum tells apart strings that differ in one byte. -/
theorem crc32c_set_ne {input : List UInt8} {index : Nat} {old new : UInt8}
    (hold : input[index]? = some old) (hne : new ≠ old) :
    crc32c (input.set index new) ≠ crc32c input := by
  intro heq
  exact List.foldl_set_ne crcByte_injective_state crcByte_injective_value hold hne _
    (UInt32.not_inj.mp heq)

/-! ## Flipped bits -/

/-- The bytes with one bit flipped. -/
def flipBit (bytes : List UInt8) (index : Nat) (bit : Fin 8) : List UInt8 :=
  bytes.set index (bytes.getD index 0 ^^^ (1 <<< UInt8.ofNat bit))

theorem flipped_ne (value : UInt8) (bit : Fin 8) : value ^^^ (1 <<< UInt8.ofNat bit) ≠ value := by
  intro heq
  have hmask : (1 : UInt8) <<< UInt8.ofNat bit = 0 :=
    (UInt8.xor_right_inj value).mp (heq.trans (UInt8.xor_zero).symm)
  have hmasks : ∀ bit : Fin 8, (1 : UInt8) <<< UInt8.ofNat bit ≠ 0 := by decide
  exact hmasks bit hmask

namespace PacketCodec

variable {maxPayload : Nat} {raw : List UInt8} {rawSize : Nat} {view : PacketView}

/-- What the checks accept has the right checksum behind it. -/
theorem checksum_of_parseRaw (h : parseRaw maxPayload raw rawSize = .ok view) :
    crc32c (raw.take (rawSize - 4)) = UInt32.ofNat (readRaw raw (rawSize - 4) 4) := by
  unfold parseRaw at h
  dsimp only at h
  split_ifs at h with h₁ h₂ h₃ h₄ h₅ h₆
  exact Decidable.not_not.mp h₆

/-- What the checks accept can be encoded. -/
theorem encodeRejects_of_parseRaw (h : parseRaw maxPayload raw rawSize = .ok view)
    {payload : List UInt8} (hpayload : payload.length = view.payloadSize) :
    encodeRejects maxPayload view.header payload = false := by
  unfold parseRaw at h
  dsimp only at h
  split_ifs at h with h₁ h₂ h₃ h₄ h₅ h₆ h₇ h₈
  obtain rfl := Except.ok.inj h
  rw [encodeRejects, decide_eq_false_iff_not, hpayload]
  rintro (hroute | hmax | hkind)
  · exact h₈ hroute
  · exact h₄ hmax
  · exact h₇ hkind

/-- The checks refuse a packet in which one byte has changed. -/
theorem parseRaw_set (h : parseRaw maxPayload raw rawSize = .ok view)
    (hfits : rawSize ≤ raw.length) {index : Nat} (hindex : index < rawSize) {new : UInt8}
    (hne : new ≠ raw.getD index 0) :
    ∃ status, parseRaw maxPayload (raw.set index new) rawSize = .error status := by
  cases hparse : parseRaw maxPayload (raw.set index new) rawSize with
  | error status => exact ⟨status, rfl⟩
  | ok view' =>
    exfalso
    have hcrc := checksum_of_parseRaw h
    have hcrc' := checksum_of_parseRaw hparse
    have hlt : index < raw.length := Nat.lt_of_lt_of_le hindex hfits
    by_cases hbody : index < rawSize - 4
    · -- in the header or the payload: another checksum, compared with the same field
      have hfield : readRaw (raw.set index new) (rawSize - 4) 4 = readRaw raw (rawSize - 4) 4 := by
        rw [readRaw, List.drop_set_of_lt hbody, readRaw]
      rw [List.take_set, hfield, ← hcrc] at hcrc'
      refine crc32c_set_ne ?_ hne hcrc'
      rw [List.getElem?_take_of_lt hbody, List.getD_eq_getElem _ _ hlt, List.getElem?_eq_getElem]
    · -- in the field: the same checksum, compared with another field
      rw [List.take_set_of_le (Nat.not_lt.mp hbody), hcrc] at hcrc'
      have hfield : readRaw raw (rawSize - 4) 4 = readRaw (raw.set index new) (rawSize - 4) 4 := by
        have hnat := congrArg UInt32.toNat hcrc'
        rw [UInt32.toNat_ofNat', UInt32.toNat_ofNat'] at hnat
        exact (Nat.mod_eq_of_lt (readLE_lt 4 _)).symm.trans
          (hnat.trans (Nat.mod_eq_of_lt (readLE_lt 4 _)))
      have hbyte := getD_eq_of_readLE_eq hfield (show index - (rawSize - 4) < 4 by omega)
      rw [← getD_of_drop rfl, ← getD_of_drop rfl, Nat.add_sub_cancel' (Nat.not_lt.mp hbody)] at hbyte
      refine hne (Eq.trans ?_ hbyte.symm)
      rw [List.getD_eq_getElem?_getD, List.getElem?_set_self hlt, Option.getD_some]

/-- The checks refuse a packet in which one bit has been flipped. -/
theorem parseRaw_flipBit (h : parseRaw maxPayload raw rawSize = .ok view)
    (hfits : rawSize ≤ raw.length) {index : Nat} (hindex : index < rawSize) (bit : Fin 8) :
    ∃ status, parseRaw maxPayload (flipBit raw index bit) rawSize = .error status :=
  parseRaw_set h hfits hindex (flipped_ne _ bit)

/-! ## There and back -/

/-- What `Decode` has accepted: bytes in front of a zero that unstuff to a packet. -/
theorem decode_eq_ok {codec codec' : PacketCodec maxPayload} {encoded : List UInt8}
    (h : codec.decode encoded = (.ok view, codec')) :
    codec' = codec.unstuff encoded.dropLast ∧
      parseRaw maxPayload codec'.raw (cobsDecode encoded.dropLast codec.raw).2.written =
        .ok view := by
  unfold decode at h
  dsimp only at h
  split_ifs at h
  · cases h
  · cases h
  · obtain ⟨hparse, rfl⟩ := Prod.mk.inj h
    exact ⟨rfl, hparse⟩

/-- The payload span of an accepted packet lies in the buffer. -/
theorem length_visible {codec : PacketCodec maxPayload} (hmax : view.payloadSize ≤ maxPayload) :
    (codec.visible view).length = view.payloadSize := by
  rw [visible, List.length_take, List.length_drop, codec.length_raw, kRawCapacity]
  omega

/-- A packet that `Encode` takes is decoded to itself, by any codec with the same parameter. -/
theorem decode_encode (hsmall : maxPayload ≤ 65535) (sender receiver : PacketCodec maxPayload)
    {header : PacketHeader} {payload output : List UInt8}
    (h : encodeRejects maxPayload header payload = false)
    (houtput : output.length = kEncodedCapacity maxPayload) :
    ∃ segment sender', sender.encode header payload output = (.ok (segment ++ [0]), sender') ∧
      0 ∉ segment ∧ ∃ view receiver', receiver.decode (segment ++ [0]) = (.ok view, receiver') ∧
        view.header = header ∧ receiver'.visible view = payload := by
  have hsize : payload.length < 2 ^ 16 :=
    Nat.lt_of_le_of_lt ((payload_le_of_encodeRejects h).trans hsmall) (by decide)
  obtain ⟨view, receiver', hdecode, hheader, -, hvisible⟩ :=
    decode_ok receiver (ofSegment_encode h hsize)
  refine ⟨_, _, encode_eq sender h houtput, ?_, view, receiver', hdecode, hheader, hvisible⟩
  exact fun hzero => Cobs.ne_zero_of_mem_encode _ 0 hzero rfl

end PacketCodec

/-- Encoding and decoding give the packet back; what is accepted can be encoded and decoded again;
    and the checks on the unstuffed bytes refuse them with any one bit flipped. -/
theorem packet_round_trip {maxPayload : Nat} (hmax : maxPayload ≤ 65535) :
    (∀ (sender receiver : PacketCodec maxPayload) (header : PacketHeader)
        (payload output : List UInt8), header.routeId ≠ 0 → header.kind.isValid = true →
      payload.length ≤ maxPayload → output.length = kEncodedCapacity maxPayload →
      ∃ segment sender', sender.encode header payload output = (.ok (segment ++ [0]), sender') ∧
        0 ∉ segment ∧ ∃ view receiver', receiver.decode (segment ++ [0]) = (.ok view, receiver') ∧
          view.header = header ∧ receiver'.visible view = payload) ∧
    ∀ (codec codec' : PacketCodec maxPayload) (encoded : List UInt8) (view : PacketView),
      codec.decode encoded = (.ok view, codec') →
      (∀ (sender receiver : PacketCodec maxPayload) (output : List UInt8),
        output.length = kEncodedCapacity maxPayload →
        ∃ encoded' sender',
          sender.encode view.header (codec'.visible view) output = (.ok encoded', sender') ∧
          ∃ view' receiver', receiver.decode encoded' = (.ok view', receiver') ∧
            view'.header = view.header ∧ receiver'.visible view' = codec'.visible view) ∧
      ∀ (index : Nat) (bit : Fin 8),
        index < (cobsDecode encoded.dropLast codec.raw).2.written →
        ∃ status, PacketCodec.parseRaw maxPayload
          (flipBit (cobsDecode encoded.dropLast codec.raw).2.output index bit)
          (cobsDecode encoded.dropLast codec.raw).2.written = .error status := by
  constructor
  · intro sender receiver header payload output hroute hkind hpayload houtput
    refine PacketCodec.decode_encode hmax sender receiver ?_ houtput
    rw [encodeRejects, decide_eq_false_iff_not, hkind]
    rintro (h | h | h)
    · exact hroute h
    · exact Nat.not_lt.mpr hpayload h
    · cases h
  · intro codec codec' encoded view hdecode
    obtain ⟨rfl, hparse⟩ := PacketCodec.decode_eq_ok hdecode
    constructor
    · intro sender receiver output houtput
      have hvisible : ((codec.unstuff encoded.dropLast).visible view).length = view.payloadSize :=
        PacketCodec.length_visible (PacketCodec.rawSize_of_parseRaw hparse).2
      obtain ⟨segment, sender', hencode, -, hagain⟩ := PacketCodec.decode_encode hmax sender receiver
        (PacketCodec.encodeRejects_of_parseRaw hparse hvisible) houtput
      exact ⟨_, sender', hencode, hagain⟩
    · intro index bit hindex
      exact PacketCodec.parseRaw_flipBit hparse (cobsDecode _ codec.raw).2.written_le hindex bit

theorem packet_round_trip_byte :
    ∃ segment sender',
      ({} : PacketCodec 1).encode { routeId := 7 } [0] (List.replicate (kEncodedCapacity 1) 0) =
        (.ok (segment ++ [0]), sender') ∧ 0 ∉ segment ∧
      ∃ view receiver', ({} : PacketCodec 1).decode (segment ++ [0]) = (.ok view, receiver') ∧
        view.header = { routeId := 7 } ∧ receiver'.visible view = [0] :=
  (@packet_round_trip 1 (by decide)).1 {} {} { routeId := 7 } [0] _
    (by decide) (by decide) (by decide) (List.length_replicate ..)

end AsterCtrl.Usb
