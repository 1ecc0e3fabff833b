import AsterCtrl.ForStd.Cobs
import AsterCtrl.Native.Usb.Framing

/-!
# The packet format

The two loops over buffers compute the stuffing of the library: `CobsEncode` writes `Cobs.encode`
whenever it fits, and `CobsDecode` succeeds with the string that `Cobs.decode` gives whenever that
fits.  So `Decode` depends on nothing but the bytes of the segment in front of the zero, and what
it makes of them is `Packet.ofSegment`; what `Encode` produces is a segment of that packet.

## Key results

- `cobsEncode_eq`, `cobsDecode_eq_ok`: the loops refine the library
- `decode_ok`, `decode_error`: what `Decode` makes of a segment
- `encode_eq`, `ofSegment_encode`: what `Encode` produces, and that it can be decoded
-/

namespace AsterCtrl.Usb

open List Cobs

/-! ## Stuffing -/

/-- The buffer with one byte changed. -/
theorem setByte_append {buffer front back : List UInt8} {old : UInt8}
    (heq : buffer = front ++ old :: back) {index : Nat} (hindex : index = front.length)
    (value : UInt8) (h : index < buffer.length) :
    setByte buffer index value h = front ++ value :: back := by
  subst heq hindex
  simp [setByte]

namespace CobsEncoder

/-- The encoder has written the code `closed` and is inside the block `block`. -/
structure Writes (e : CobsEncoder) (closed block : List UInt8) : Prop where
  output : ∃ junk rest, e.output = closed ++ junk :: (block ++ rest)
  codeIndex : e.codeIndex = closed.length
  outputIndex : e.outputIndex = closed.length + 1 + block.length
  code : e.code = UInt8.ofNat (block.length + 1)

variable {e : CobsEncoder} {closed block : List UInt8}

theorem Writes.length_le (h : e.Writes closed block) :
    (closed ++ frame block).length ≤ e.output.length := by
  have := h.outputIndex
  have := e.outputIndex_le
  rw [length_append, length_frame]
  omega

theorem closeBlock_eq_error (h : e.Writes closed block)
    (hfull : e.output.length < (closed ++ frame block).length + 1) :
    e.closeBlock = .error .capacityExceeded := by
  have hindex := h.outputIndex
  rw [length_append, length_frame] at hfull
  unfold closeBlock
  dsimp only
  rw [dif_pos (by rw [length_setByte]; omega)]

theorem closeBlock_eq_ok (h : e.Writes closed block)
    (hroom : (closed ++ frame block).length + 1 ≤ e.output.length) :
    ∃ e', e.closeBlock = .ok e' ∧ e'.output.length = e.output.length ∧
      e'.Writes (closed ++ frame block) [] := by
  obtain ⟨junk, rest, houtput⟩ := h.output
  have hindex := h.outputIndex
  rw [length_append, length_frame] at hroom
  unfold closeBlock
  dsimp only
  rw [dif_neg (by rw [length_setByte]; omega)]
  refine ⟨_, rfl, length_set, ?_, ?_, ?_, rfl⟩
  · -- There is room for the code byte of the next block.
    have hlength := congrArg List.length houtput
    simp only [length_append, length_cons] at hlength
    obtain ⟨next, rest', rfl⟩ : ∃ next rest', rest = next :: rest' :=
      exists_cons_of_length_pos (by omega)
    refine ⟨next, rest', ?_⟩
    dsimp only
    rw [setByte_append houtput h.codeIndex, h.code]
    simp [frame]
  · simp only [length_append, length_frame]
    omega
  · simp only [length_append, length_frame, length_nil]
    omega

/-- The encoder with one more byte in its block. -/
theorem put_ne_zero (h : e.Writes closed block) (hlen : block.length < 254) {value : UInt8}
    (hvalue : value ≠ 0) (hroom : e.outputIndex < e.output.length) :
    ∃ e' : CobsEncoder, e'.output.length = e.output.length ∧ e'.Writes closed (block ++ [value]) ∧
      e.put value = if block.length + 1 = 254 then e'.closeBlock else .ok e' := by
  obtain ⟨junk, rest, houtput⟩ := h.output
  have hindex := h.outputIndex
  have hlength := congrArg List.length houtput
  simp only [length_append, length_cons] at hlength
  obtain ⟨old, rest', rfl⟩ : ∃ old rest', rest = old :: rest' :=
    exists_cons_of_length_pos (by omega)
  have houtput' : e.output = (closed ++ junk :: block) ++ old :: rest' := by simp [houtput]
  have hcode : e.code + 1 = UInt8.ofNat ((block ++ [value]).length + 1) := by
    rw [h.code, length_append, length_singleton, UInt8.ofNat_add (block.length + 1) 1]
    rfl
  unfold put
  rw [if_neg hvalue, dif_neg (Nat.not_le.mpr hroom)]
  dsimp only
  refine ⟨⟨setByte e.output e.outputIndex value hroom, e.codeIndex, e.outputIndex + 1, e.code + 1,
    Nat.lt_succ_of_lt e.codeIndex_lt, by rw [length_setByte]; exact hroom⟩,
    length_set, ⟨⟨junk, rest', ?_⟩, h.codeIndex, ?_, hcode⟩, ?_⟩
  · dsimp only
    rw [setByte_append houtput' (by simp only [length_append, length_cons]; omega)]
    simp
  · simp only [length_append, length_singleton]
    omega
  · have hfull : e.code + 1 = 0xff ↔ block.length + 1 = 254 := by
      rw [hcode, ← UInt8.toNat_inj, UInt8.toNat_ofNat', length_append, length_singleton]
      show (block.length + 1 + 1) % 2 ^ 8 = 255 ↔ _
      omega
    simp only [hfull]

/-- The loop ends with `bytes` written but for the code byte of the last block, or it stops
    because they do not fit. -/
def Encodes (result : Except Status CobsEncoder) (size : Nat) (bytes : List UInt8) : Prop :=
  if bytes.length ≤ size then
    ∃ e closed block, result = .ok e ∧ e.Writes closed block ∧ closed ++ Cobs.frame block = bytes
  else result = .error .capacityExceeded

theorem putAll_cons (e : CobsEncoder) (value : UInt8) (input : List UInt8) :
    e.putAll (value :: input) = (e.put value).bind (·.putAll input) := by
  rw [putAll]
  cases e.put value <;> rfl

/-- The loop after a block was closed. -/
theorem encodes_closeBlock (h : e.Writes closed block) {input : List UInt8}
    (hempty : ∀ e' : CobsEncoder, e'.Writes (closed ++ frame block) [] →
      Encodes (e'.putAll input) e'.output.length
        (closed ++ frame block ++ encodeFrom [] input)) :
    Encodes (e.closeBlock.bind (·.putAll input)) e.output.length
      (closed ++ (frame block ++ encodeFrom [] input)) := by
  rw [← append_assoc]
  by_cases hroom : (closed ++ frame block).length + 1 ≤ e.output.length
  · obtain ⟨e', hclose, hlength, hwrites⟩ := closeBlock_eq_ok h hroom
    rw [hclose, ← hlength]
    exact hempty e' hwrites
  · have hrest := lt_length_encodeFrom [] input
    rw [closeBlock_eq_error h (Nat.not_le.mp hroom), Encodes, if_neg]
    · rfl
    · rw [length_append]
      omega

/-- The loop writes the code of the rest of the input, unless that does not fit. -/
theorem encodes_putAll (h : e.Writes closed block) (hlen : block.length < 254)
    (input : List UInt8) :
    Encodes (e.putAll input) e.output.length (closed ++ encodeFrom block input) := by
  induction input generalizing e closed block with
  | nil =>
    rw [Encodes, encodeFrom, if_pos h.length_le]
    exact ⟨e, closed, block, rfl, h, rfl⟩
  | cons value input ih =>
    rw [putAll_cons, encodeFrom]
    by_cases hvalue : value = 0
    · subst hvalue
      have hindex : ¬ e.codeIndex ≥ e.output.length :=
        Nat.not_le.mpr (Nat.lt_of_lt_of_le e.codeIndex_lt e.outputIndex_le)
      rw [if_pos rfl, put, if_pos rfl, if_neg hindex]
      exact encodes_closeBlock h fun e' hwrites => ih hwrites (by simp)
    rw [if_neg hvalue]
    by_cases hroom : e.outputIndex < e.output.length
    · obtain ⟨e', hlength, hwrites, hput⟩ := put_ne_zero h hlen hvalue hroom
      rw [hput, ← hlength]
      by_cases hfull : block.length + 1 = 254
      · rw [if_pos hfull, if_pos hfull]
        exact encodes_closeBlock hwrites fun e' hwrites => ih hwrites (by simp)
      · rw [if_neg hfull, if_neg hfull]
        refine ih hwrites ?_
        rw [length_append, length_singleton]
        omega
    · -- There is no room for the byte, let alone for the rest.
      have hindex := h.outputIndex
      have hlong : closed.length + 1 + block.length <
          (closed ++ encodeFrom block (value :: input)).length := by
        have := lt_length_encodeFrom block (value :: input)
        rw [length_cons] at this
        rw [length_append]
        omega
      rw [encodeFrom, if_neg hvalue] at hlong
      rw [put, if_neg hvalue, dif_pos (Nat.not_lt.mp hroom), Encodes, if_neg (by omega)]
      rfl

end CobsEncoder

/-- `CobsEncode` writes the code of the input if the buffer can hold it. -/
theorem cobsEncode_eq (input output : List UInt8) :
    cobsEncode input output =
      if (encode input).length ≤ output.length then .ok (encode input)
      else .error .capacityExceeded := by
  unfold cobsEncode
  split
  · rename_i hempty
    have := lt_length_encodeFrom [] input
    rw [if_neg (by rw [encode]; omega)]
  · rename_i hne
    obtain ⟨first, rest, rfl⟩ :=
      exists_cons_of_ne_nil fun h => hne (length_eq_zero_iff.mpr h)
    have hstart : CobsEncoder.Writes
        ⟨first :: rest, 0, 1, 1, Nat.zero_lt_one, Nat.pos_of_ne_zero hne⟩ [] [] :=
      ⟨⟨first, rest, rfl⟩, rfl, rfl, rfl⟩
    have hloop := CobsEncoder.encodes_putAll hstart (by simp) input
    dsimp only
    rw [nil_append, ← encode] at hloop
    unfold CobsEncoder.Encodes at hloop
    split at hloop
    · rename_i hfits
      obtain ⟨e, closed, block, heq, hwrites, hbytes⟩ := hloop
      obtain ⟨junk, rest', houtput⟩ := hwrites.output
      rw [heq, if_pos hfits]
      dsimp only
      have hcode : closed.length + 1 + block.length = (closed ++ frame block).length := by
        rw [length_append, length_frame]
        omega
      have hframe : closed ++ UInt8.ofNat (block.length + 1) :: (block ++ rest') =
          closed ++ frame block ++ rest' := by
        simp [frame]
      rw [setByte_append houtput hwrites.codeIndex, hwrites.code, hwrites.outputIndex, hframe,
        hcode, take_left, hbytes]
    · rename_i hfits
      rw [hloop, if_neg hfits]

namespace CobsDecoder

/-- The decoder has written `done`, and `rest` is the buffer behind it. -/
structure Holds (d : CobsDecoder) (done rest : List UInt8) : Prop where
  output : d.output = done ++ rest
  written : d.written = done.length

theorem holds_start (output : List UInt8) :
    Holds { output := output, written_le := Nat.zero_le _ } [] output :=
  ⟨rfl, rfl⟩

variable {d : CobsDecoder} {done rest : List UInt8}

theorem Holds.isFull_iff (h : d.Holds done rest) : d.written = d.output.length ↔ rest = [] := by
  rw [h.written, h.output, length_append, ← length_eq_zero_iff]
  omega

theorem Holds.push (h : d.Holds done rest) (value : UInt8) (hroom : d.written ≠ d.output.length) :
    (d.push value hroom).Holds (done ++ [value]) (rest.drop 1) := by
  obtain ⟨old, rest', rfl⟩ := exists_cons_of_ne_nil fun hnil => hroom (h.isFull_iff.mpr hnil)
  refine ⟨?_, ?_⟩
  · have hlt := Nat.lt_of_le_of_ne d.written_le hroom
    show setByte d.output d.written value hlt = _
    rw [setByte_append h.output h.written]
    simp
  · show d.written + 1 = _
    rw [h.written, length_append, length_singleton]

/-- The inner loop copies a block without zeros if there is room for it. -/
theorem copyBlock_eq_ok (h : d.Holds done rest) {block input : List UInt8}
    (hblock : ∀ b ∈ block, b ≠ 0) (hroom : block.length ≤ rest.length) {count : Nat}
    (hcount : count = block.length) (hle : count ≤ (block ++ input).length) :
    ∃ d', d.copyBlock count (block ++ input) hle = (.ok, d', input) ∧
      d'.Holds (done ++ block) (rest.drop block.length) := by
  subst hcount
  induction block generalizing d done rest with
  | nil => exact ⟨d, rfl, by simpa using h⟩
  | cons b block ih =>
    have hnot : d.written ≠ d.output.length := by
      rw [Ne, h.isFull_iff]
      exact ne_nil_of_length_pos (by rw [length_cons] at hroom; omega)
    obtain ⟨d', hcopy, hholds⟩ := ih (h.push b hnot)
      (fun c hc => hblock c (mem_cons_of_mem _ hc)) (by simp at hroom ⊢; omega) (by simp)
    refine ⟨d', ?_, ?_⟩
    · simp only [cons_append, length_cons, copyBlock]
      rw [dif_neg hnot, if_neg (hblock b (by simp))]
      exact hcopy
    · simpa [drop_drop, Nat.add_comm] using hholds

/-- The inner loop fails on a zero and when there is no room. -/
theorem copyBlock_ne_ok (h : d.Holds done rest) {count : Nat} {input : List UInt8}
    (hle : count ≤ input.length) (hbad : 0 ∈ input.take count ∨ rest.length < count) :
    (d.copyBlock count input hle).1 ≠ .ok := by
  induction count generalizing d done rest input with
  | zero => simp at hbad
  | succ count ih =>
    cases input with
    | nil => exact absurd hle (Nat.not_succ_le_zero count)
    | cons b input =>
      unfold copyBlock
      split
      · rintro ⟨⟩
      · rename_i hnot
        split
        · rintro ⟨⟩
        · rename_i hb
          refine ih (h.push b hnot) _ (hbad.imp ?_ ?_)
          · intro hzero
            rw [take_succ_cons] at hzero
            exact (mem_cons.mp hzero).resolve_left fun heq => hb heq.symm
          · intro hshort
            rw [h.isFull_iff] at hnot
            have := length_pos_of_ne_nil hnot
            rw [length_drop]
            omega

/-- The loop writes the decoded bytes, or it fails because there are none or they do not fit. -/
def Decodes (result : Status × CobsDecoder) (decoded : Option (List UInt8))
    (done rest : List UInt8) : Prop :=
  (∀ bytes, decoded = some bytes → bytes.length ≤ rest.length →
    result.1 = .ok ∧ result.2.Holds (done ++ bytes) (rest.drop bytes.length)) ∧
  ((∀ bytes, decoded = some bytes → rest.length < bytes.length) → result.1 ≠ .ok)

/-- Decoding goes on behind `front`. -/
theorem Decodes.append {result : Status × CobsDecoder} {decoded : Option (List UInt8)}
    {front : List UInt8} (hfront : front.length ≤ rest.length)
    (h : Decodes result decoded (done ++ front) (rest.drop front.length)) :
    Decodes result (decoded.map (front ++ ·)) done rest := by
  constructor
  · intro bytes hbytes hle
    obtain ⟨tail, htail, rfl⟩ := Option.map_eq_some_iff.mp hbytes
    rw [length_append] at hle
    have := h.1 tail htail (by rw [length_drop]; omega)
    simpa [drop_drop, Nat.add_comm] using this
  · intro hshort
    refine h.2 fun tail htail => ?_
    have := hshort (front ++ tail) (by rw [htail]; rfl)
    rw [length_append] at this
    rw [length_drop]
    omega

theorem decodes_of_none {result : Status × CobsDecoder} (h : result.1 ≠ .ok) :
    Decodes result none done rest :=
  ⟨fun _ hbytes => (nomatch hbytes), fun _ => h⟩

theorem decodes_decodeBlocks (h : d.Holds done rest) (fuel : Nat) (input : List UInt8)
    (hfuel : input.length ≤ fuel) :
    Decodes (d.decodeBlocks fuel input hfuel) (decodeFrom 0 true input) done rest := by
  have hnil : ∀ {d : CobsDecoder} {done rest : List UInt8}, d.Holds done rest →
      Decodes (.ok, d) (some []) done rest := by
    intro d done rest h
    refine ⟨fun bytes hbytes _ => ?_, fun hshort => ?_⟩
    · obtain rfl := Option.some.inj hbytes
      exact ⟨rfl, by simpa using h⟩
    · exact absurd (hshort [] rfl) (Nat.not_lt_zero _)
  induction fuel generalizing d done rest input with
  | zero =>
    obtain rfl := length_eq_zero_iff.mp (Nat.le_zero.mp hfuel)
    exact hnil h
  | succ fuel ih =>
    cases input with
    | nil => exact hnil h
    | cons code input =>
      unfold decodeBlocks
      rw [decodeFrom]
      by_cases hzero : code = 0
      · rw [dif_pos (.inl hzero), if_pos hzero]
        exact decodes_of_none (by rintro ⟨⟩)
      rw [if_neg hzero, if_pos rfl]
      by_cases hshort : code.toNat - 1 > input.length
      · rw [dif_pos (.inr hshort), decodeFrom_of_length_lt hshort]
        exact decodes_of_none (by rintro ⟨⟩)
      rw [dif_neg (not_or.mpr ⟨hzero, hshort⟩)]
      -- The block is what the inner loop tries to copy.
      have hle := Nat.not_lt.mp hshort
      obtain ⟨block, tail, rfl, hlength⟩ : ∃ block tail, block ++ tail = input ∧
          code.toNat - 1 = block.length :=
        ⟨_, _, take_append_drop (code.toNat - 1) input, (length_take_of_le hle).symm⟩
      dsimp only
      by_cases hbad : 0 ∈ block ∨ rest.length < code.toNat - 1
      · have hstatus : (d.copyBlock (code.toNat - 1) (block ++ tail) hle).1 ≠ .ok := by
          refine copyBlock_ne_ok h hle ?_
          rwa [hlength, take_left, ← hlength]
        rw [if_pos hstatus]
        refine ⟨fun bytes hdecoded hfits => ?_, fun _ => hstatus⟩
        obtain ⟨bytes, hbytes, rfl⟩ := Option.map_eq_some_iff.mp hdecoded
        rcases hbad with hzero | hroom
        · rw [decodeFrom_of_zero_mem (mem_append_left _ hzero)] at hbytes
          cases hbytes
        · have := left_le_of_decodeFrom hbytes
          exact absurd hfits (by simp only [if_true]; omega)
      · obtain ⟨hblock, hroom⟩ := not_or.mp hbad
        obtain ⟨d', hcopy, hholds⟩ := copyBlock_eq_ok h
          (fun b hb heq => hblock (heq ▸ hb)) (by omega) hlength hle
        have hdecode := decodeFrom_append block (fun b hb heq => hblock (heq ▸ hb)) 0
          (code = 255) tail
        rw [Nat.add_zero, ← hlength] at hdecode
        simp only [hcopy, hdecode, if_true, ne_eq, not_true_eq_false, if_false]
        rw [Option.map_map]
        refine Decodes.append (by omega) ?_
        by_cases hnext : ¬ code = 255 ∧ ¬ tail = []
        · rw [if_pos hnext, show decide (code = 255) = false by simpa using hnext.1,
            decodeFrom_false hnext.2]
          split
          · -- No room for the zero behind the block.
            rename_i hfull
            refine ⟨fun bytes hbytes hfits => ?_, fun _ => by rintro ⟨⟩⟩
            obtain ⟨bytes, -, rfl⟩ := Option.map_eq_some_iff.mp hbytes
            rw [hholds.isFull_iff.mp hfull] at hfits
            exact absurd hfits (Nat.not_succ_le_zero _)
          · rename_i hnot
            have hpos := length_pos_of_ne_nil (mt hholds.isFull_iff.mpr hnot)
            show Decodes _ ((decodeFrom 0 true tail).map ([0] ++ ·)) _ _
            exact Decodes.append hpos (ih (hholds.push 0 hnot) tail _)
        · rw [if_neg hnext]
          have htail : decodeFrom 0 (code = 255) tail = decodeFrom 0 true tail := by
            rcases Decidable.not_and_iff_not_or_not.mp hnext with hcode | hempty
            · rw [Decidable.not_not.mp hcode]
              rfl
            · rw [Decidable.not_not.mp hempty]
              rfl
          rw [htail]
          exact ih hholds tail _

end CobsDecoder

/-- `CobsDecode` writes what the input codes to the front of the buffer. -/
theorem cobsDecode_eq_ok {input output bytes : List UInt8} (h : decode input = some bytes)
    (hfits : bytes.length ≤ output.length) :
    (cobsDecode input output).1 = .ok ∧
      (cobsDecode input output).2.Holds bytes (output.drop bytes.length) := by
  unfold decode at h
  split at h
  · cases h
  · rename_i hne
    unfold cobsDecode
    rw [if_neg hne]
    exact (CobsDecoder.decodes_decodeBlocks (CobsDecoder.holds_start output) _ input _).1 bytes h hfits

/-- `CobsDecode` fails if the input is no code or the buffer is too small. -/
theorem cobsDecode_ne_ok {input output : List UInt8}
    (h : ∀ bytes, decode input = some bytes → output.length < bytes.length) :
    (cobsDecode input output).1 ≠ .ok := by
  unfold cobsDecode
  split
  · exact nofun
  · rename_i hne
    rw [decode, if_neg hne] at h
    exact (CobsDecoder.decodes_decodeBlocks (CobsDecoder.holds_start output) _ input _).2 h

/-! ## Packets -/

/-- The packet in the bytes that were stuffed. -/
def Packet.ofRaw (maxPayload : Nat) (raw : List UInt8) : Option Packet :=
  match PacketCodec.parseRaw maxPayload raw raw.length with
  | .error _ => none
  | .ok view => some ⟨view.header, (raw.drop kHeaderSize).take view.payloadSize⟩

/-- The packet in the bytes in front of a zero, if they are a well-formed one. -/
def Packet.ofSegment (maxPayload : Nat) (segment : List UInt8) : Option Packet :=
  (Cobs.decode segment).bind (Packet.ofRaw maxPayload)

namespace PacketCodec

variable {maxPayload : Nat} {raw : List UInt8} {offset : Nat}

theorem readRaw_append {size : Nat} (h : offset + size ≤ raw.length) (junk : List UInt8) :
    readRaw (raw ++ junk) offset size = readRaw raw offset size := by
  rw [readRaw, drop_append_of_le_length (by omega),
    readLE_append (by rw [length_drop]; omega), readRaw]

/-- The checks read nothing behind the packet. -/
theorem parseRaw_append (maxPayload : Nat) (raw junk : List UInt8) :
    parseRaw maxPayload (raw ++ junk) raw.length = parseRaw maxPayload raw raw.length := by
  unfold parseRaw
  by_cases hshort : raw.length < kHeaderSize + kChecksumSize
  · rw [if_pos hshort, if_pos hshort]
  have hlong : 48 ≤ raw.length := Nat.not_lt.mp hshort
  have hgetD : ∀ i, i < 48 → (raw ++ junk).getD i 0 = raw.getD i 0 := fun i hi =>
    getD_append _ _ _ _ (by omega)
  have hhash : (Vector.ofFn fun index : Fin 16 => (raw ++ junk).getD (26 + index) 0) =
      Vector.ofFn fun index : Fin 16 => raw.getD (26 + index) 0 := by
    congr 1
    funext index
    exact hgetD _ (by omega)
  rw [readRaw_append (by omega), readRaw_append (by omega), readRaw_append (by omega),
    readRaw_append (by omega), readRaw_append (by omega), readRaw_append (by omega), readRaw_append
    (by omega), hgetD 2 (by omega), hgetD 3 (by omega), hhash, take_append_of_le_length (by omega)]

/-- What the checks reject is reported as a failure. -/
theorem parseRaw_ne_ok {rawSize : Nat} {status : Status}
    (h : parseRaw maxPayload raw rawSize = .error status) : status ≠ .ok := by
  rintro rfl
  unfold parseRaw at h
  dsimp only at h
  split_ifs at h <;> cases h

/-- What the checks accept has the length that its header says. -/
theorem rawSize_of_parseRaw {rawSize : Nat} {view : PacketView}
    (h : parseRaw maxPayload raw rawSize = .ok view) :
    rawSize = kHeaderSize + view.payloadSize + kChecksumSize ∧ view.payloadSize ≤ maxPayload := by
  unfold parseRaw at h
  dsimp only at h
  split_ifs at h with h₁ h₂ h₃ h₄ h₅
  obtain rfl := Except.ok.inj h
  exact ⟨Decidable.not_not.mp h₅, Nat.not_lt.mp h₄⟩

variable (codec : PacketCodec maxPayload) {segment : List UInt8}

/-- `Decode` behind its check of the zero at the end. -/
theorem decode_segment (hne : segment ≠ []) :
    codec.decode (segment ++ [0]) =
      if (cobsDecode segment codec.raw).1 ≠ .ok then
        (.error (cobsDecode segment codec.raw).1, codec.unstuff segment)
      else (parseRaw maxPayload (codec.unstuff segment).raw
        (cobsDecode segment codec.raw).2.written, codec.unstuff segment) := by
  have hlength : ¬ ((segment ++ [0]).length < 2 ∨ (segment ++ [0]).getLast? ≠ some 0) := by
    have := length_pos_of_ne_nil hne
    simp
    omega
  rw [decode, if_neg hlength, dropLast_concat]

/-- A well-formed packet is not too long. -/
theorem payload_le_of_ofSegment {packet : Packet}
    (h : Packet.ofSegment maxPayload segment = some packet) :
    packet.payload.length ≤ maxPayload := by
  obtain ⟨raw, -, hpacket⟩ := Option.bind_eq_some_iff.mp h
  unfold Packet.ofRaw at hpacket
  split at hpacket
  · cases hpacket
  · rename_i view hview
    obtain rfl := Option.some.inj hpacket
    exact (length_take_le _ _).trans (rawSize_of_parseRaw hview).2

/-- `Decode` of a well-formed packet. -/
theorem decode_ok {packet : Packet} (h : Packet.ofSegment maxPayload segment = some packet) :
    ∃ view codec', codec.decode (segment ++ [0]) = (.ok view, codec') ∧
      view.header = packet.header ∧ view.payloadSize = packet.payload.length ∧
      codec'.visible view = packet.payload := by
  obtain ⟨raw, hraw, hpacket⟩ := Option.bind_eq_some_iff.mp h
  have hne : segment ≠ [] := by
    rintro rfl
    cases hraw
  unfold Packet.ofRaw at hpacket
  split at hpacket
  · cases hpacket
  · rename_i view hview
    obtain rfl := Option.some.inj hpacket
    obtain ⟨hsize, hmax⟩ := rawSize_of_parseRaw hview
    obtain ⟨hok, hholds⟩ := cobsDecode_eq_ok hraw
      (show raw.length ≤ codec.raw.length by rw [codec.length_raw, hsize, kRawCapacity]; omega)
    have hunstuff : (codec.unstuff segment).raw = raw ++ codec.raw.drop raw.length :=
      hholds.output
    refine ⟨view, codec.unstuff segment, ?_, rfl, ?_, ?_⟩
    · rw [decode_segment codec hne, if_neg (not_not_intro hok), hunstuff, hholds.written,
        parseRaw_append, hview]
    · rw [length_take, length_drop]
      omega
    · rw [visible, hunstuff, drop_append_of_le_length (by omega),
        take_append_of_le_length (by rw [length_drop]; omega)]

/-- `Decode` of anything else. -/
theorem decode_error (hne : segment ≠ []) (h : Packet.ofSegment maxPayload segment = none) :
    ∃ status codec', status ≠ .ok ∧ codec.decode (segment ++ [0]) = (.error status, codec') := by
  rw [decode_segment codec hne]
  by_cases hstatus : (cobsDecode segment codec.raw).1 ≠ .ok
  · exact ⟨_, _, hstatus, if_pos hstatus⟩
  rw [if_neg hstatus]
  -- The stuffing is right and fits, so the checks fail.
  obtain ⟨raw, hraw, hfits⟩ : ∃ raw, Cobs.decode segment = some raw ∧
      raw.length ≤ codec.raw.length := by
    by_contra hnone
    refine hstatus (cobsDecode_ne_ok fun raw hraw => ?_)
    exact Nat.not_le.mp fun hfits => hnone ⟨raw, hraw, hfits⟩
  have hholds := (cobsDecode_eq_ok hraw hfits).2
  have hunstuff : (codec.unstuff segment).raw = raw ++ codec.raw.drop raw.length :=
    hholds.output
  rw [hunstuff, hholds.written, parseRaw_append]
  rw [Packet.ofSegment, hraw, Option.bind_some, Packet.ofRaw] at h
  split at h
  · rename_i status hparse
    exact ⟨status, _, parseRaw_ne_ok hparse, by rw [hparse]⟩
  · cases h

/-- Skip one more field. -/
theorem drop_add_of_drop {l field rest : List UInt8} {k n : Nat} (h : l.drop k = field ++ rest)
    (hn : field.length = n) : l.drop (k + n) = rest := by
  rw [← drop_drop, h, ← hn, drop_left]

theorem readRaw_of_drop {rest : List UInt8} {size value : Nat}
    (h : raw.drop offset = writeLE size value ++ rest) (hvalue : value < 2 ^ (size * 8)) :
    readRaw raw offset size = value := by
  rw [readRaw, h, readLE_writeLE _ _ _ hvalue]

theorem getD_of_drop {field : List UInt8} (h : raw.drop offset = field) (index : Nat) :
    raw.getD (offset + index) 0 = field.getD index 0 := by
  rw [getD_eq_getElem?_getD, getD_eq_getElem?_getD, ← h, List.getElem?_drop]

variable {header : PacketHeader} {payload : List UInt8}

/-- The checks accept what `Encode` writes to the buffer. -/
theorem parseRaw_rawBytes (h : encodeRejects maxPayload header payload = false)
    (hsize : payload.length < 2 ^ 16) :
    parseRaw maxPayload (rawBytes header payload) (rawBytes header payload).length =
      .ok ⟨header, payload.length⟩ := by
  simp only [encodeRejects, decide_eq_false_iff_not, not_or, Bool.not_eq_false] at h
  obtain ⟨hroute, hmax, hkind⟩ := h
  have hraw : rawBytes header payload = headerBytes header payload.length ++
    (payload ++ checksumBytes header payload) := rfl
  have hcrc : (rawBytes header payload).drop (kHeaderSize + payload.length) =
      checksumBytes header payload :=
    drop_add_of_drop (by rw [hraw, ← length_headerBytes header payload.length, drop_left]) rfl
  have hbody : (rawBytes header payload).take (kHeaderSize + payload.length) =
      headerBytes header payload.length ++ payload := by
    rw [hraw, ← append_assoc, take_left' (by simp)]
  -- The fields of the header, one after the other.
  unfold headerBytes at hraw
  simp only [append_assoc] at hraw
  have h0 : (rawBytes header payload).drop 0 = _ := hraw
  have h2 : (rawBytes header payload).drop 2 = _ := drop_add_of_drop h0 (length_writeLE 2 _)
  have h3 : (rawBytes header payload).drop 3 = _ := drop_add_of_drop h2 rfl
  have h4 : (rawBytes header payload).drop 4 = _ := drop_add_of_drop h3 rfl
  have h6 : (rawBytes header payload).drop 6 = _ := drop_add_of_drop h4 (length_writeLE 2 _)
  have h10 : (rawBytes header payload).drop 10 = _ := drop_add_of_drop h6 (length_writeLE 4 _)
  have h18 : (rawBytes header payload).drop 18 = _ := drop_add_of_drop h10 (length_writeLE 8 _)
  have h26 : (rawBytes header payload).drop 26 = _ := drop_add_of_drop h18 (length_writeLE 8 _)
  have h42 : (rawBytes header payload).drop 42 = _ :=
    drop_add_of_drop h26 header.schemaHash.length_toList
  have hpayload : (UInt16.ofNat payload.length).toNat = payload.length := by
    rw [UInt16.toNat_ofNat']
    exact Nat.mod_eq_of_lt hsize
  have hhash : (Vector.ofFn fun index : Fin 16 => (rawBytes header payload).getD (26 + index) 0) =
      header.schemaHash := by
    refine Vector.ext fun index hindex => ?_
    have hlt : index < header.schemaHash.toList.length := by
      rw [Vector.length_toList]
      exact hindex
    rw [Vector.getElem_ofFn, getD_of_drop h26, getD_append _ _ _ _ hlt,
      getD_eq_getElem _ _ hlt, Vector.getElem_toList]
  have hchecksum : UInt32.ofNat (readRaw (rawBytes header payload)
      (kHeaderSize + payload.length) 4) = crc32c (headerBytes header payload.length ++ payload) := by
    have hread := readLE_writeLE 4 (crc32c (headerBytes header payload.length ++ payload)).toNat []
      (UInt32.toNat_lt _)
    rw [append_nil] at hread
    rw [readRaw, hcrc, checksumBytes, hread, UInt32.ofNat_toNat]
  have hlength : (rawBytes header payload).length - 4 = kHeaderSize + payload.length := by
    rw [length_rawBytes]
    rfl
  unfold parseRaw
  rw [readRaw_of_drop h0 (UInt16.toNat_lt _), readRaw_of_drop h4 (UInt16.toNat_lt _),
    readRaw_of_drop h6 (UInt32.toNat_lt _), readRaw_of_drop h10 (UInt64.toNat_lt _),
    readRaw_of_drop h18 (UInt64.toNat_lt _), readRaw_of_drop h42 (UInt16.toNat_lt _),
    getD_of_drop h2 0, getD_of_drop h3 0, hhash, hlength, hchecksum, hbody, hpayload]
  simp only [UInt16.ofNat_toNat, UInt32.ofNat_toNat, UInt64.ofNat_toNat, length_rawBytes,
    singleton_append, getD_cons_zero, ne_eq, not_true_eq_false, if_false, hkind, hroute,
    Bool.true_eq_false]
  rw [if_neg (by omega), if_neg hmax]

theorem ofSegment_encode (h : encodeRejects maxPayload header payload = false)
    (hsize : payload.length < 2 ^ 16) :
    Packet.ofSegment maxPayload (Cobs.encode (rawBytes header payload)) =
      some ⟨header, payload⟩ := by
  have hpayload : ((rawBytes header payload).drop kHeaderSize).take payload.length = payload := by
    rw [rawBytes, ← length_headerBytes header payload.length, drop_left, take_left]
  rw [Packet.ofSegment, decode_encode, Option.bind_some, Packet.ofRaw, parseRaw_rawBytes h hsize]
  simp only [hpayload]

/-- `Encode` into the buffer of the transport. -/
theorem encode_eq (h : encodeRejects maxPayload header payload = false) {output : List UInt8}
    (houtput : output.length = kEncodedCapacity maxPayload) :
    codec.encode header payload output =
      (.ok (Cobs.encode (rawBytes header payload) ++ [0]),
        codec.writeRaw header payload (payload_le_of_encodeRejects h)) := by
  have hmax := payload_le_of_encodeRejects h
  have hraw : (codec.writeRaw header payload hmax).raw.take
      (kHeaderSize + payload.length + kChecksumSize) = rawBytes header payload := by
    rw [writeRaw, take_left' (length_rawBytes header payload)]
  have hfits : (Cobs.encode (rawBytes header payload)).length ≤
      (output.take (output.length - 1)).length := by
    have hle := Cobs.length_encode_le (rawBytes header payload)
    have hraw : (rawBytes header payload).length ≤ kRawCapacity maxPayload := by
      rw [length_rawBytes, kRawCapacity]
      omega
    have hdiv := Nat.div_le_div_right (c := 254) hraw
    rw [length_take, houtput, kEncodedCapacity]
    omega
  unfold encode
  rw [dif_neg (by simp [h])]
  dsimp only
  rw [if_neg (by rw [houtput, kEncodedCapacity]; omega), hraw, cobsEncode_eq, if_pos hfits]

end PacketCodec

end AsterCtrl.Usb
