import AsterCtrl.ForStd.LittleEndian
import AsterCtrl.Native.Interface

/-!
# CAN frames, arbitration ids and frame writers

The vocabulary shared by all CAN transports (`protocol.hpp`, `link.hpp`):
the 11-bit arbitration id that packs a priority and a route id, the classic
8-byte frame, and the writer and clock a bridge is given.

A `CanFrame` is what travels on the wire.  The completion callback that the source keeps
inside the frame is cleared by `CanFrameWriter::Send` before the frame leaves the node; the
model returns the write token beside the frame instead (see `ReliableSender.nextFrame`).
-/

namespace AsterCtrl

namespace Can

/-! ## Arbitration ids -/

def kMaximumRouteId : UInt16 := 511
def kFirstApplicationRouteId : UInt16 := 8

inductive CanPriority where
  | critical
  | control
  | state
  | background
deriving DecidableEq, Repr, Inhabited

/-- The numeric value of the enumerator. -/
def CanPriority.bits : CanPriority → UInt16
  | .critical => 0
  | .control => 1
  | .state => 2
  | .background => 3

/-- The enumerator with the two low bits of `b` as its value. -/
def CanPriority.ofBits (b : UInt16) : CanPriority :=
  if b = 0 then .critical else if b = 1 then .control else if b = 2 then .state else .background

structure DecodedArbitrationId where
  priority : CanPriority
  routeId : UInt16
deriving DecidableEq, Repr

namespace CanArbitrationId

/-- `CanArbitrationId::Encode`: the status and the value left in the output parameter. -/
def encode (priority : CanPriority) (routeId : UInt16) : Status × UInt16 :=
  if routeId = 0 ∨ routeId > kMaximumRouteId then (.invalidArgument, 0)
  else (.ok, (priority.bits <<< 9) ||| routeId)

/-- `CanArbitrationId::Decode`. -/
def decode (encoded : UInt16) : Option DecodedArbitrationId :=
  if encoded > 0x7ff ∨ encoded &&& 0x1ff = 0 then none
  else some ⟨CanPriority.ofBits ((encoded >>> 9) &&& 0x3), encoded &&& 0x1ff⟩

end CanArbitrationId

/-! ## Frames -/

/-- A classic CAN frame as it travels on the wire. `size` counts the valid bytes of `data`. -/
structure CanFrame where
  arbitrationId : UInt16 := 0
  size : Nat := 0
  data : Vector UInt8 8 := Vector.replicate 8 0
deriving DecidableEq, Repr

/-- The first data byte, with the kind of the frame. -/
abbrev CanFrame.header (frame : CanFrame) : UInt8 := frame.data[0]

/-- The second data byte, in a fragment its index and their count. -/
abbrev CanFrame.second (frame : CanFrame) : UInt8 := frame.data[1]

/-- The eight data bytes that start with `bytes` and are zero after them. -/
def frameData (bytes : List UInt8) : Vector UInt8 8 :=
  ⟨((bytes ++ List.replicate 8 0).take 8).toArray, by simp⟩

inductive FrameKind where
  | fastSingle
  | fastFragment
  | reliable
  | control
deriving DecidableEq, Repr

/-- `GetFrameKind`: the two high bits of the header byte. -/
def getFrameKind (header : UInt8) : FrameKind :=
  let bits := (header >>> 6) &&& 0x3
  if bits = 0 then .fastSingle
  else if bits = 1 then .fastFragment
  else if bits = 2 then .reliable
  else .control

structure ReassembledMessage where
  routeId : UInt16 := 0
  sequence : UInt8 := 0
  payload : List UInt8 := []
deriving DecidableEq, Repr

/-! ## Writers and clocks -/

/-- A frame writer: the status it answers to the `k`-th write from now on, and the frames
    offered to it so far with the status each one got. -/
structure CanFrameWriter where
  outcome : Nat → Status
  offered : List (CanFrame × Status) := []

namespace CanFrameWriter

/-- `CanFrameWriter::Send` without the write completion. -/
def send (w : CanFrameWriter) (frame : CanFrame) : Status × CanFrameWriter :=
  (w.outcome 0,
    { outcome := fun k => w.outcome (k + 1), offered := w.offered ++ [(frame, w.outcome 0)] })

/-- The frames that were accepted, in the order in which they were written. -/
def accepted (w : CanFrameWriter) : List CanFrame :=
  (w.offered.filter fun entry => entry.2 = .ok).map Prod.fst

@[simp] theorem send_status (w : CanFrameWriter) (frame : CanFrame) :
    (w.send frame).1 = w.outcome 0 := rfl

@[simp] theorem send_offered (w : CanFrameWriter) (frame : CanFrame) :
    (w.send frame).2.offered = w.offered ++ [(frame, w.outcome 0)] := rfl

theorem accepted_send_of_ok {w : CanFrameWriter} (frame : CanFrame) (h : w.outcome 0 = .ok) :
    (w.send frame).2.accepted = w.accepted ++ [frame] := by
  simp [accepted, h]

theorem accepted_send_of_ne {w : CanFrameWriter} (frame : CanFrame) (h : w.outcome 0 ≠ .ok) :
    (w.send frame).2.accepted = w.accepted := by
  simp [accepted, h]

end CanFrameWriter

/-- What `CanClockReader::NowNs` answers: a status and, with it, the time. -/
structure ClockReading where
  status : Status := .ok
  nowNs : UInt64 := 0
deriving DecidableEq, Repr

/-- `SaturatingAdd` of both reliable endpoints. -/
def saturatingAdd (value increment : UInt64) : UInt64 :=
  if increment.toNat > 0xffffffffffffffff - value.toNat then 0xffffffffffffffff
  else value + increment

/-! ## Facts about arbitration ids and frame data -/

namespace CanArbitrationId

variable {priority : CanPriority} {routeId : UInt16}

theorem encode_of_valid (h0 : routeId ≠ 0) (hmax : routeId ≤ kMaximumRouteId) :
    encode priority routeId = (.ok, (priority.bits <<< 9) ||| routeId) := by
  rw [encode, if_neg]
  rintro (h | h)
  · exact h0 h
  · exact absurd hmax (UInt16.not_le.mpr h)

/-- `Encode` succeeds exactly on the route ids from 1 to 511. -/
theorem encode_status_ok_iff :
    (encode priority routeId).1 = .ok ↔ routeId ≠ 0 ∧ routeId ≤ kMaximumRouteId := by
  unfold encode
  split
  · rename_i h
    simp only [reduceCtorEq, false_iff, not_and, UInt16.not_le]
    intro h0
    exact h.resolve_left h0
  · rename_i h
    simpa [not_or, UInt16.not_lt] using h

/-- Every route id that `Encode` accepts is read back by `Decode`. -/
theorem decode_encode (h0 : routeId ≠ 0) (hmax : routeId ≤ kMaximumRouteId) :
    decode (encode priority routeId).2 = some ⟨priority, routeId⟩ := by
  have key : ∀ n : Fin 512, n ≠ 0 →
      decode ((priority.bits <<< 9) ||| UInt16.ofNat n) = some ⟨priority, UInt16.ofNat n⟩ := by
    cases priority <;> decide +kernel
  have hlt : routeId.toNat < 512 := Nat.lt_succ_of_le (UInt16.le_iff_toNat_le.mp hmax)
  have hof : UInt16.ofNat routeId.toNat = routeId := UInt16.ofNat_toNat
  have hne : (⟨routeId.toNat, hlt⟩ : Fin 512) ≠ 0 := by
    intro hz
    apply h0
    rw [← hof, show routeId.toNat = 0 from congrArg Fin.val hz]
    rfl
  rw [encode_of_valid h0 hmax, ← hof]
  exact key ⟨routeId.toNat, hlt⟩ hne

/-- What `Encode` leaves behind for a bad route id is no arbitration id. -/
theorem encode_status_of_decode (h : (decode (encode priority routeId).2).isSome) :
    (encode priority routeId).1 = .ok := by
  unfold encode at h ⊢
  split
  · rename_i hbad
    rw [if_pos hbad] at h
    cases h
  · rfl

end CanArbitrationId

theorem toList_frameData (bytes : List UInt8) (h : bytes.length ≤ 8) :
    (frameData bytes).toList = bytes ++ List.replicate (8 - bytes.length) 0 := by
  rw [frameData, Vector.toList_mk, List.toList_toArray, List.take_append,
    List.take_of_length_le h, List.take_replicate]
  congr 2
  omega

@[simp] theorem CanFrame.header_frameData (arbitrationId : UInt16) (size : Nat) (b : UInt8)
    (bs : List UInt8) : (CanFrame.mk arbitrationId size (frameData (b :: bs))).header = b := rfl

@[simp] theorem CanFrame.second_frameData (arbitrationId : UInt16) (size : Nat) (a b : UInt8)
    (bs : List UInt8) : (CanFrame.mk arbitrationId size (frameData (a :: b :: bs))).second = b := rfl

/-- Two header bytes and at most six bytes after them: the bytes are read back. -/
theorem take_drop_frameData (a b : UInt8) {bs : List UInt8} (h : bs.length ≤ 6) :
    ((frameData (a :: b :: bs)).toList.drop 2).take bs.length = bs := by
  rw [toList_frameData _ (by simp only [List.length_cons]; omega)]
  simp

section FragmentHeader

variable {index count length maximumPayload : Nat}
  (h : ¬ (index ≥ count ∨ count > 16 ∨ length = 0 ∨ length > 6 ∨
    (index + 1 < count ∧ length ≠ 6) ∨ count * 6 > maximumPayload + 5))

include h

theorem fragmentIndex_lt : index < count := by omega

theorem fragmentCount_le : count ≤ 16 := by omega

end FragmentHeader

end Can
end AsterCtrl
