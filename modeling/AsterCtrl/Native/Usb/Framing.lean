import AsterCtrl.ForStd.LittleEndian
import AsterCtrl.Native.Interface

/-!
# USB packets

`cobs.hpp`, `crc32c.hpp` and `framing.hpp`, with the packet types of `transport.hpp`: a packet is
a header of 44 bytes, the payload and a checksum, stuffed so that it has no zero and ended by one.

Buffers are lists of fixed length.  `setByte` asks for a proof that the index is inside the
buffer, and the loops carry the bounds of their indices in their state, so nothing is written
outside.  What is left of the input of a loop is a list, too, so nothing is read outside.

`PacketCodec` has one buffer for both directions.  The payload of a decoded `PacketView` is a
span of that buffer and not a copy.
-/

namespace AsterCtrl.Usb

/-- `buffer[index] = value`. -/
def setByte (buffer : List UInt8) (index : Nat) (value : UInt8) (_ : index < buffer.length) :
    List UInt8 :=
  buffer.set index value

@[simp] theorem length_setByte (buffer : List UInt8) (index : Nat) (value : UInt8)
    (h : index < buffer.length) : (setByte buffer index value h).length = buffer.length :=
  List.length_set

/-! ## Byte stuffing -/

/-- The local variables of `CobsEncode`. -/
structure CobsEncoder where
  output : List UInt8
  codeIndex : Nat
  outputIndex : Nat
  code : UInt8
  codeIndex_lt : codeIndex < outputIndex
  outputIndex_le : outputIndex ≤ output.length

namespace CobsEncoder

/-- The lines that end a block and open the next one. -/
def closeBlock (e : CobsEncoder) : Except Status CobsEncoder :=
  let output := setByte e.output e.codeIndex e.code
    (Nat.lt_of_lt_of_le e.codeIndex_lt e.outputIndex_le)
  if h : e.outputIndex + 1 > output.length then .error .capacityExceeded
  else .ok {
    output := output
    codeIndex := e.outputIndex
    outputIndex := e.outputIndex + 1
    code := 1
    codeIndex_lt := Nat.lt_succ_self _
    outputIndex_le := Nat.not_lt.mp h }

/-- The body of the loop of `CobsEncode`. -/
def put (e : CobsEncoder) (value : UInt8) : Except Status CobsEncoder :=
  if value = 0 then
    if e.codeIndex ≥ e.output.length then .error .capacityExceeded else e.closeBlock
  else if h : e.outputIndex ≥ e.output.length then .error .capacityExceeded
  else
    let e : CobsEncoder := {
      output := setByte e.output e.outputIndex value (Nat.not_le.mp h)
      codeIndex := e.codeIndex
      outputIndex := e.outputIndex + 1
      code := e.code + 1
      codeIndex_lt := Nat.lt_succ_of_lt e.codeIndex_lt
      outputIndex_le := by rw [length_setByte]; exact Nat.not_le.mp h }
    if e.code = 0xff then e.closeBlock else .ok e

/-- The loop of `CobsEncode`. -/
def putAll (e : CobsEncoder) : List UInt8 → Except Status CobsEncoder
  | [] => .ok e
  | value :: input =>
    match e.put value with
    | .error status => .error status
    | .ok e => e.putAll input

end CobsEncoder

/-- `CobsEncode`: the bytes that are written to `output`. -/
def cobsEncode (input output : List UInt8) : Except Status (List UInt8) :=
  if h : output.length = 0 then .error .capacityExceeded
  else
    let e : CobsEncoder := {
      output := output
      codeIndex := 0
      outputIndex := 1
      code := 1
      codeIndex_lt := Nat.zero_lt_one
      outputIndex_le := Nat.pos_of_ne_zero h }
    match e.putAll input with
    | .error status => .error status
    | .ok e =>
      let output := setByte e.output e.codeIndex e.code
        (Nat.lt_of_lt_of_le e.codeIndex_lt e.outputIndex_le)
      .ok (output.take e.outputIndex)

/-- The output of `CobsDecode`. -/
structure CobsDecoder where
  output : List UInt8
  written : Nat := 0
  written_le : written ≤ output.length

namespace CobsDecoder

/-- `output[written++] = value`. -/
def push (d : CobsDecoder) (value : UInt8) (h : d.written ≠ d.output.length) : CobsDecoder where
  output := setByte d.output d.written value (Nat.lt_of_le_of_ne d.written_le h)
  written := d.written + 1
  written_le := by rw [length_setByte]; exact Nat.lt_of_le_of_ne d.written_le h

@[simp] theorem length_push (d : CobsDecoder) (value : UInt8) (h : d.written ≠ d.output.length) :
    (d.push value h).output.length = d.output.length :=
  List.length_set

/-- The inner loop of `CobsDecode`; the last part of the result is what is left of the input. -/
def copyBlock (d : CobsDecoder) :
    (count : Nat) → (input : List UInt8) → count ≤ input.length →
      Status × CobsDecoder × List UInt8
  | 0, input, _ => (.ok, d, input)
  | count + 1, value :: input, hcount =>
    if h : d.written = d.output.length then (.capacityExceeded, d, value :: input)
    else if value = 0 then (.protocolError, d, value :: input)
    else (d.push value h).copyBlock count input (Nat.le_of_succ_le_succ hcount)

theorem length_copyBlock_le (d : CobsDecoder) (count : Nat) (input : List UInt8)
    (hcount : count ≤ input.length) :
    (d.copyBlock count input hcount).2.2.length ≤ input.length := by
  induction count generalizing d input with
  | zero => simp [copyBlock]
  | succ count ih =>
    cases input with
    | nil => exact absurd hcount (Nat.not_succ_le_zero count)
    | cons value input =>
      unfold copyBlock
      split
      · exact Nat.le_refl _
      · split
        · exact Nat.le_refl _
        · exact Nat.le_succ_of_le (ih _ _ _)

/-- The outer loop of `CobsDecode`; every round reads at least one byte, so `fuel` is a bound on
    the length of the input. -/
def decodeBlocks (d : CobsDecoder) :
    (fuel : Nat) → (input : List UInt8) → input.length ≤ fuel → Status × CobsDecoder
  | _, [], _ => (.ok, d)
  | fuel + 1, code :: input, hfuel =>
    if h : code = 0 ∨ code.toNat - 1 > input.length then (.protocolError, d)
    else
      have hcount : code.toNat - 1 ≤ input.length := Nat.not_lt.mp (not_or.mp h).2
      let copied := d.copyBlock (code.toNat - 1) input hcount
      have hrest : copied.2.2.length ≤ fuel :=
        Nat.le_trans (d.length_copyBlock_le _ input hcount) (Nat.le_of_succ_le_succ hfuel)
      if copied.1 ≠ .ok then (copied.1, copied.2.1)
      else if code ≠ 0xff ∧ copied.2.2 ≠ [] then
        if hfull : copied.2.1.written = copied.2.1.output.length then
          (.capacityExceeded, copied.2.1)
        else (copied.2.1.push 0 hfull).decodeBlocks fuel copied.2.2 hrest
      else copied.2.1.decodeBlocks fuel copied.2.2 hrest

end CobsDecoder

/-- `CobsDecode` into the buffer `output`. -/
def cobsDecode (input output : List UInt8) : Status × CobsDecoder :=
  let d : CobsDecoder := { output := output, written_le := Nat.zero_le _ }
  if input = [] then (.protocolError, d)
  else d.decodeBlocks input.length input (Nat.le_refl _)

/-! ## Checksum -/

/-- One bit of `Crc32c`. -/
def crcBit (crc : UInt32) : UInt32 := (crc >>> 1) ^^^ (0x82f63b78 &&& (0 - (crc &&& 1)))

/-- One byte of `Crc32c`. -/
def crcByte (crc : UInt32) (value : UInt8) : UInt32 :=
  (List.range 8).foldl (fun crc _ => crcBit crc) (crc ^^^ value.toUInt32)

/-- `Crc32c`. -/
def crc32c (input : List UInt8) : UInt32 := ~~~ input.foldl crcByte 0xffffffff

/-! ## Packets -/

/-- `PacketKind`, an enumeration over a byte; a value off the wire need not be an enumerator. -/
structure PacketKind where
  value : UInt8
deriving DecidableEq, Repr

namespace PacketKind

def kChannel : PacketKind := ⟨1⟩
def kRpcRequest : PacketKind := ⟨2⟩
def kRpcResponse : PacketKind := ⟨3⟩
def kControl : PacketKind := ⟨4⟩

/-- The range check of `Encode` and `Decode`. -/
def isValid (kind : PacketKind) : Bool :=
  kChannel.value ≤ kind.value ∧ kind.value ≤ kControl.value

end PacketKind

structure PacketHeader where
  routeId : UInt16 := 0
  kind : PacketKind := .kChannel
  sequence : UInt32 := 0
  sourceTimestampNs : UInt64 := 0
  deadlineNs : UInt64 := 0
  schemaHash : Vector UInt8 16 := .replicate 16 0
deriving DecidableEq, Repr

/-- A packet with the bytes of its payload. -/
structure Packet where
  header : PacketHeader
  payload : List UInt8
deriving DecidableEq, Repr

/-- `PacketView` of a decoded packet, whose payload is the span of `payloadSize` bytes behind the
    header in the codec's buffer. -/
structure PacketView where
  header : PacketHeader
  payloadSize : Nat
deriving DecidableEq, Repr

def kMagic : UInt16 := 0xa57e
def kProtocolVersion : UInt8 := 1
def kHeaderSize : Nat := 44
def kChecksumSize : Nat := 4

def kRawCapacity (maxPayload : Nat) : Nat := kHeaderSize + maxPayload + kChecksumSize

def kEncodedCapacity (maxPayload : Nat) : Nat :=
  kRawCapacity maxPayload + kRawCapacity maxPayload / 254 + 2

/-- The bytes that `Encode` writes in front of the payload. -/
def headerBytes (header : PacketHeader) (payloadSize : Nat) : List UInt8 :=
  writeLE 2 kMagic.toNat ++ ([kProtocolVersion] ++ ([header.kind.value] ++
    (writeLE 2 header.routeId.toNat ++ (writeLE 4 header.sequence.toNat ++
      (writeLE 8 header.sourceTimestampNs.toNat ++ (writeLE 8 header.deadlineNs.toNat ++
        (header.schemaHash.toList ++ writeLE 2 (UInt16.ofNat payloadSize).toNat)))))))

@[simp] theorem length_headerBytes (header : PacketHeader) (payloadSize : Nat) :
    (headerBytes header payloadSize).length = kHeaderSize := by
  simp [headerBytes, kHeaderSize]

/-- The checksum over the header and the payload. -/
def checksumBytes (header : PacketHeader) (payload : List UInt8) : List UInt8 :=
  writeLE 4 (crc32c (headerBytes header payload.length ++ payload)).toNat

/-- All that `Encode` writes to the buffer. -/
def rawBytes (header : PacketHeader) (payload : List UInt8) : List UInt8 :=
  headerBytes header payload.length ++ (payload ++ checksumBytes header payload)

@[simp] theorem length_checksumBytes (header : PacketHeader) (payload : List UInt8) :
    (checksumBytes header payload).length = kChecksumSize := by
  simp [checksumBytes, kChecksumSize]

@[simp] theorem length_rawBytes (header : PacketHeader) (payload : List UInt8) :
    (rawBytes header payload).length = kHeaderSize + payload.length + kChecksumSize := by
  simp [rawBytes, Nat.add_assoc]

/-- The argument check of `Encode`. -/
def encodeRejects (maxPayload : Nat) (header : PacketHeader) (payload : List UInt8) : Bool :=
  header.routeId = 0 ∨ payload.length > maxPayload ∨ header.kind.isValid = false

structure PacketCodec (maxPayload : Nat) where
  raw : List UInt8 := List.replicate (kRawCapacity maxPayload) 0
  length_raw : raw.length = kRawCapacity maxPayload := by simp

namespace PacketCodec

variable {maxPayload : Nat} (codec : PacketCodec maxPayload)

/-- The codec after `Encode` has written a packet to the front of its buffer. -/
def writeRaw (header : PacketHeader) (payload : List UInt8) (h : payload.length ≤ maxPayload) :
    PacketCodec maxPayload where
  raw := rawBytes header payload ++ codec.raw.drop (rawBytes header payload).length
  length_raw := by
    have := codec.length_raw
    rw [List.length_append, List.length_drop, length_rawBytes, this, kRawCapacity]
    omega

theorem payload_le_of_encodeRejects {header : PacketHeader} {payload : List UInt8}
    (h : encodeRejects maxPayload header payload = false) : payload.length ≤ maxPayload := by
  rw [encodeRejects, decide_eq_false_iff_not, not_or, not_or] at h
  exact Nat.not_lt.mp h.2.1

/-- `PacketCodec::Encode`; `output` is the buffer for the encoded packet. -/
def encode (header : PacketHeader) (payload output : List UInt8) :
    Except Status (List UInt8) × PacketCodec maxPayload :=
  if h : encodeRejects maxPayload header payload = true then (.error .invalidArgument, codec)
  else
    let codec := codec.writeRaw header payload
      (payload_le_of_encodeRejects (Bool.eq_false_of_not_eq_true h))
    if output.length < 2 then (.error .capacityExceeded, codec)
    else
      let rawSize := kHeaderSize + payload.length + kChecksumSize
      match cobsEncode (codec.raw.take rawSize) (output.take (output.length - 1)) with
      | .error status => (.error status, codec)
      | .ok encoded => (.ok (encoded ++ [0]), codec)

/-- `ReadLittleEndian` of `size` bytes of the buffer. -/
def readRaw (raw : List UInt8) (offset size : Nat) : Nat := readLE size (raw.drop offset)

/-- The checks of `Decode` on the unstuffed packet, and the view of it. -/
def parseRaw (maxPayload : Nat) (raw : List UInt8) (rawSize : Nat) : Except Status PacketView :=
  if rawSize < kHeaderSize + kChecksumSize then .error .protocolError
  else if UInt16.ofNat (readRaw raw 0 2) ≠ kMagic then .error .protocolError
  else if raw.getD 2 0 ≠ kProtocolVersion then .error .versionMismatch
  else
    let payloadSize := readRaw raw 42 2
    if payloadSize > maxPayload then .error .capacityExceeded
    else if rawSize ≠ kHeaderSize + payloadSize + kChecksumSize then .error .protocolError
    else if crc32c (raw.take (rawSize - 4)) ≠ UInt32.ofNat (readRaw raw (rawSize - 4) 4) then
      .error .protocolError
    else
      let kind : PacketKind := ⟨raw.getD 3 0⟩
      if kind.isValid = false then .error .protocolError
      else
        let header : PacketHeader := {
          routeId := UInt16.ofNat (readRaw raw 4 2)
          kind := kind
          sequence := UInt32.ofNat (readRaw raw 6 4)
          sourceTimestampNs := UInt64.ofNat (readRaw raw 10 8)
          deadlineNs := UInt64.ofNat (readRaw raw 18 8)
          schemaHash := Vector.ofFn fun index => raw.getD (26 + index) 0 }
        if header.routeId = 0 then .error .protocolError else .ok ⟨header, payloadSize⟩

theorem length_decodeBlocks (d : CobsDecoder) (fuel : Nat) (input : List UInt8)
    (hfuel : input.length ≤ fuel) :
    (d.decodeBlocks fuel input hfuel).2.output.length = d.output.length := by
  have hcopy : ∀ (d : CobsDecoder) count input hcount,
      (d.copyBlock count input hcount).2.1.output.length = d.output.length := by
    intro d count
    induction count generalizing d with
    | zero => intro input hcount; simp [CobsDecoder.copyBlock]
    | succ count ih =>
      intro input hcount
      cases input with
      | nil => exact absurd hcount (Nat.not_succ_le_zero count)
      | cons value input =>
        unfold CobsDecoder.copyBlock
        split
        · rfl
        · split
          · rfl
          · rw [ih, CobsDecoder.length_push]
  induction fuel generalizing d input with
  | zero =>
    obtain rfl := List.length_eq_zero_iff.mp (Nat.le_zero.mp hfuel)
    rfl
  | succ fuel ih =>
    cases input with
    | nil => rfl
    | cons code input =>
      unfold CobsDecoder.decodeBlocks
      dsimp only
      split
      · rfl
      · split
        · exact hcopy _ _ _ _
        · split
          · split
            · exact hcopy _ _ _ _
            · rw [ih, CobsDecoder.length_push]
              exact hcopy _ _ _ _
          · rw [ih]
            exact hcopy _ _ _ _

/-- The codec after `CobsDecode` into its buffer. -/
def unstuff (input : List UInt8) : PacketCodec maxPayload where
  raw := (cobsDecode input codec.raw).2.output
  length_raw := by
    unfold cobsDecode
    dsimp only
    split
    · exact codec.length_raw
    · rw [length_decodeBlocks]
      exact codec.length_raw

/-- `PacketCodec::Decode`. -/
def decode (encoded : List UInt8) : Except Status PacketView × PacketCodec maxPayload :=
  if encoded.length < 2 ∨ encoded.getLast? ≠ some 0 then (.error .protocolError, codec)
  else
    let decoded := cobsDecode encoded.dropLast codec.raw
    let codec := codec.unstuff encoded.dropLast
    if decoded.1 ≠ .ok then (.error decoded.1, codec)
    else (parseRaw maxPayload codec.raw decoded.2.written, codec)

/-- The bytes one sees through the payload span of a view. -/
def visible (view : PacketView) : List UInt8 :=
  (codec.raw.drop kHeaderSize).take view.payloadSize

end PacketCodec

end AsterCtrl.Usb
