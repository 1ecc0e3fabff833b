import AsterCtrl.Native.Can.ReliablePath

/-!
# The best-effort CAN path

`fast_path.hpp`: `FastCodec` cuts a payload into one or more frames under a 6-bit sequence, and
`FastReassembler` puts the payload together again.  Nothing is acknowledged or retransmitted.
-/

namespace AsterCtrl.Can

/-! ## Encoding -/

/-- The only frame of a payload of at most seven bytes. -/
def fastSingleFrame (arbitrationId : UInt16) (sequence : UInt8) (payload : List UInt8) :
    CanFrame where
  arbitrationId := arbitrationId
  size := payload.length + 1
  data := frameData (sequence :: payload)

/-- The frame of fragment `index` of `count`. -/
def fastFragmentFrame (arbitrationId : UInt16) (sequence : UInt8) (count index : Nat)
    (bytes : List UInt8) : CanFrame where
  arbitrationId := arbitrationId
  size := bytes.length + 2
  data := frameData ((0x40 ||| sequence) :: UInt8.ofNat (((count - 1) <<< 4) ||| index) :: bytes)

/-- `FastCodec::Encode` into an output of `outputSize` frames. -/
def FastCodec.encode (routeId : UInt16) (priority : CanPriority) (sequence : UInt8)
    (payload : List UInt8) (outputSize : Nat) : Except Status (List CanFrame) :=
  if sequence > 0x3f ∨ payload = [] then .error .invalidArgument
  else
    let encoded := CanArbitrationId.encode priority routeId
    if encoded.1 ≠ .ok then .error encoded.1
    else if payload.length ≤ 7 then
      if outputSize = 0 then .error .capacityExceeded
      else .ok [fastSingleFrame encoded.2 sequence payload]
    else
      let count := (payload.length + kFragmentPayload - 1) / kFragmentPayload
      if count > 16 ∨ outputSize < count then .error .capacityExceeded
      else
        .ok ((List.range count).map fun index =>
          fastFragmentFrame encoded.2 sequence count index
            (fragmentAt kFragmentPayload payload index))

/-! ## Reassembly -/

structure FastReassemblyStats where
  acceptedFrames : UInt32 := 0
  completed : UInt32 := 0
  invalid : UInt32 := 0
  duplicateFragments : UInt32 := 0
  replayedFrames : UInt32 := 0
  staleFrames : UInt32 := 0
  superseded : UInt32 := 0
  sequenceGaps : UInt32 := 0
deriving DecidableEq, Repr

/-- `buffer` holds `buffer_`, `fragment_lengths_` and `received_mask_`. -/
structure FastReassembler (maximumPayload : Nat) where
  buffer : FragmentBuffer UInt8 maximumPayload 16 := .empty 0
  routeId : UInt16 := 0
  lastRouteId : UInt16 := 0
  sequence : UInt8 := 0
  fragmentCount : Nat := 0
  lastSequence : UInt8 := 0
  active : Bool := false
  hasLastSequence : Bool := false
  stats : FastReassemblyStats := {}
deriving DecidableEq

/-- What `Accept` hands back; `message` is set only with `kOk`. -/
structure FastResult (maximumPayload : Nat) where
  status : Status
  message : ReassembledMessage := {}
  reassembler : FastReassembler maximumPayload
deriving DecidableEq

/-- A fragment frame that passed the checks on the frame alone. The source keeps its length
    apart; it is the number of the bytes. -/
structure FastFragment where
  routeId : UInt16
  sequence : UInt8
  index : Nat
  count : Nat
  bytes : List UInt8
  index_lt : index < count
  count_le : count ≤ 16

/-- A frame that passed the checks on the frame alone. -/
inductive FastFrame (maximumPayload : Nat) where
  | single (routeId : UInt16) (sequence : UInt8) (bytes : List UInt8)
      (fit : bytes.length ≤ maximumPayload)
  | fragment (fragment : FastFragment)

namespace FastReassembler

variable {maximumPayload : Nat}

/-- The checks of `Accept` on the frame alone. -/
def parseFrame (maximumPayload : Nat) (frame : CanFrame) : Option (FastFrame maximumPayload) :=
  match CanArbitrationId.decode frame.arbitrationId with
  | none => none
  | some id =>
    if frame.size = 0 ∨ frame.size > 8 then none
    else
      let sequence := frame.header &&& 0x3f
      if getFrameKind frame.header = .fastSingle then
        let length := frame.size - 1
        let bytes := (frame.data.toList.drop 1).take length
        if h : length > maximumPayload then none
        else some (.single id.routeId sequence bytes
          (Nat.le_trans (List.length_take_le _ _) (Nat.not_lt.mp h)))
      else if getFrameKind frame.header ≠ .fastFragment ∨ frame.size < 3 then none
      else
        let fragment := frame.second
        let index := (fragment &&& 0x0f).toNat
        let count := (fragment >>> 4).toNat + 1
        let length := frame.size - 2
        if h : index ≥ count ∨ count > 16 ∨ length = 0 ∨ length > 6 ∨
            (index + 1 < count ∧ length ≠ 6) ∨ count * 6 > maximumPayload + 5 then none
        else
          some (.fragment {
            routeId := id.routeId
            sequence := sequence
            index := index
            count := count
            bytes := (frame.data.toList.drop 2).take length
            index_lt := fragmentIndex_lt h
            count_le := fragmentCount_le h })

variable (r : FastReassembler maximumPayload)

/-- `FastReassembler::Reset`. -/
def reset : FastReassembler maximumPayload :=
  { r with active := false, buffer := r.buffer.clearMask, fragmentCount := 0 }

/-- `FastReassembler::Invalid`. -/
def invalid : FastResult maximumPayload :=
  { status := .invalidArgument, reassembler := { r with stats.invalid := r.stats.invalid + 1 } }

/-- `FastReassembler::SupersedeActive`. -/
def supersedeActive : FastReassembler maximumPayload :=
  let r := if r.active then { r with stats.superseded := r.stats.superseded + 1 } else r
  r.reset

/-- The distance from one 6-bit sequence to another. -/
def distance (start target : UInt8) : UInt8 := (target - start) &&& 0x3f

/-- The part of `PrepareSequence` after the active message is out of the way: compare the
    sequence with the one completed last. -/
def prepareAfterLast (routeId : UInt16) (sequence : UInt8) :
    Status × FastReassembler maximumPayload :=
  if r.hasLastSequence = false ∨ r.lastRouteId ≠ routeId then (.ok, r)
  else if distance r.lastSequence sequence = 0 then
    (.unavailable, { r with stats.replayedFrames := r.stats.replayedFrames + 1 })
  else if distance r.lastSequence sequence > 31 then
    (.unavailable, { r with stats.staleFrames := r.stats.staleFrames + 1 })
  else (.ok, r)

/-- `FastReassembler::PrepareSequence`. -/
def prepareSequence (routeId : UInt16) (sequence : UInt8) (continuingFragmentAllowed : Bool) :
    Status × FastReassembler maximumPayload :=
  if r.active then
    if routeId ≠ r.routeId then prepareAfterLast r.supersedeActive routeId sequence
    else if sequence = r.sequence then
      if continuingFragmentAllowed then (.ok, r)
      else (.unavailable, { r with stats.replayedFrames := r.stats.replayedFrames + 1 })
    else if distance r.sequence sequence > 31 then
      (.unavailable, { r with stats.staleFrames := r.stats.staleFrames + 1 })
    else prepareAfterLast r.supersedeActive routeId sequence
  else prepareAfterLast r routeId sequence

/-- `FastReassembler::Complete`: the message is the first `size` bytes of the buffer. -/
def complete (routeId : UInt16) (sequence : UInt8) (size : Nat) :
    ReassembledMessage × FastReassembler maximumPayload :=
  let gap := r.hasLastSequence = true ∧ r.lastRouteId = routeId ∧
    sequence ≠ (r.lastSequence + 1) &&& 0x3f
  (⟨routeId, sequence, r.buffer.bytes.toList.take size⟩,
    { r with
      hasLastSequence := true
      lastRouteId := routeId
      lastSequence := sequence
      stats.sequenceGaps := if gap then r.stats.sequenceGaps + 1 else r.stats.sequenceGaps
      stats.completed := r.stats.completed + 1 })

/-- `Accept` of the only frame of a message. -/
def acceptSingle (routeId : UInt16) (sequence : UInt8) (bytes : List UInt8)
    (fit : bytes.length ≤ maximumPayload) : FastResult maximumPayload :=
  let prepared := r.prepareSequence routeId sequence false
  if prepared.1 ≠ .ok then { status := prepared.1, reassembler := prepared.2 }
  else
    let r := prepared.2
    let r := { r with buffer.bytes :=
      FragmentBuffer.copyAt r.buffer.bytes 0 bytes (by rw [Nat.zero_add]; exact fit) }
    let completed := r.complete routeId sequence bytes.length
    let r := completed.2
    ⟨.ok, completed.1, { r with stats.acceptedFrames := r.stats.acceptedFrames + 1 }⟩

/-- `Accept` from the duplicate check on: store the fragment in the active message. -/
def storeFragment (f : FastFragment) : FastResult maximumPayload :=
  if r.buffer.has f.index then
    { status := .unavailable
      reassembler := { r with stats.duplicateFragments := r.stats.duplicateFragments + 1 } }
  else if h : f.index * kFragmentPayload + f.bytes.length > maximumPayload then r.reset.invalid
  else
    let r := { r with
      buffer := r.buffer.store kFragmentPayload f.index f.bytes (Nat.not_lt.mp h)
      stats.acceptedFrames := r.stats.acceptedFrames + 1 }
    if r.buffer.isFull f.count = false then { status := .unavailable, reassembler := r }
    else
      let completed := r.complete r.routeId r.sequence (r.buffer.total f.count)
      ⟨.ok, completed.1, completed.2.reset⟩

/-- The update of `Accept` that makes the message of `f` the active one. -/
def activate (f : FastFragment) : FastReassembler maximumPayload :=
  { r with
    active := true
    routeId := f.routeId
    sequence := f.sequence
    fragmentCount := f.count
    buffer := r.buffer.clear }

/-- `Accept` of a fragment that passed the checks. -/
def acceptFragment (f : FastFragment) : FastResult maximumPayload :=
  if r.active = false ∨ r.routeId ≠ f.routeId ∨ r.sequence ≠ f.sequence then
    let prepared := r.prepareSequence f.routeId f.sequence true
    if prepared.1 ≠ .ok then { status := prepared.1, reassembler := prepared.2 }
    else (prepared.2.activate f).storeFragment f
  else if r.fragmentCount ≠ f.count then r.reset.invalid
  else r.storeFragment f

/-- `FastReassembler::Accept`. -/
def accept (frame : CanFrame) : FastResult maximumPayload :=
  match parseFrame maximumPayload frame with
  | none => r.invalid
  | some (.single routeId sequence bytes fit) => r.acceptSingle routeId sequence bytes fit
  | some (.fragment fragment) => r.acceptFragment fragment

/-- `FastReassembler::ResetHistory`. -/
def resetHistory : FastReassembler maximumPayload :=
  { r.reset with hasLastSequence := false, lastRouteId := 0, lastSequence := 0 }

end FastReassembler

end AsterCtrl.Can
