import AsterCtrl.Native.Can.Protocol
import AsterCtrl.ForStd.Fragment

/-!
# The reliable CAN path

`ReliableSender` and `ReliableReceiver` of `reliable_path.hpp`.  A message of at most 96
bytes is cut into at most 16 fragments of six bytes, numbered with a 4-bit sequence, and
acknowledged as a whole by a one-byte frame.  The sender retransmits all fragments when the
acknowledgement does not come in time; the receiver reassembles one message at a time and
suppresses a message that carries the sequence it completed last.

The fragment indices and counts are `uint8_t` in the source and never exceed 16 there, so
they are `Nat` here; `payload` stands for the first `payload_size_` bytes of `payload_`.
-/

namespace AsterCtrl.Can

/-! ## Headers -/

inductive ReliableSubtype where
  | data
  | ack
  | nack
  | cancel
deriving DecidableEq, Repr

def ReliableSubtype.bits : ReliableSubtype → UInt8
  | .data => 0
  | .ack => 1
  | .nack => 2
  | .cancel => 3

/-- `ReliableHeader`. -/
def reliableHeader (subtype : ReliableSubtype) (sequence : UInt8) : UInt8 :=
  (0x80 : UInt8) ||| (subtype.bits <<< 4) ||| (sequence &&& 0x0f)

/-- `GetReliableSubtype`. -/
def getReliableSubtype (header : UInt8) : ReliableSubtype :=
  let bits := (header >>> 4) &&& 0x3
  if bits = 0 then .data
  else if bits = 1 then .ack
  else if bits = 2 then .nack
  else .cancel

/-- Bytes of payload in one fragment. -/
def kFragmentPayload : Nat := 6

/-! ## The sender -/

inductive ReliableSenderState where
  | idle
  | sending
  | waitingForAck
  | complete
  | failed
deriving DecidableEq, Repr

structure ReliableSenderStats where
  messagesStarted : UInt32 := 0
  framesSent : UInt32 := 0
  retries : UInt32 := 0
  acknowledgements : UInt32 := 0
  duplicateAcknowledgements : UInt32 := 0
  failures : UInt32 := 0
  writeRejections : UInt32 := 0
deriving DecidableEq, Repr

structure ReliableSender (maximumPayload : Nat) where
  payload : List UInt8 := []
  retryTimeoutNs : UInt64 := 0
  retryDeadlineNs : UInt64 := 0
  arbitrationId : UInt16 := 0
  sequence : UInt8 := 0
  fragmentCount : Nat := 0
  nextFragment : Nat := 0
  maximumRetries : UInt8 := 0
  retryCount : UInt8 := 0
  pendingFragment : Nat := 0
  nextWriteToken : UInt32 := 0
  pendingWriteToken : UInt32 := 0
  pendingWrite : Bool := false
  state : ReliableSenderState := .idle
  stats : ReliableSenderStats := {}
deriving DecidableEq, Repr

/-- The frame that carries fragment `fragment` of `count` with the bytes `bytes`. -/
def dataFrame (arbitrationId : UInt16) (sequence : UInt8) (count fragment : Nat)
    (bytes : List UInt8) : CanFrame where
  arbitrationId := arbitrationId
  size := bytes.length + 2
  data := frameData (reliableHeader .data sequence ::
    UInt8.ofNat (((count - 1) <<< 4) ||| fragment) :: bytes)

/-- `SenderBusy`: a message is on its way. -/
def senderBusy (state : ReliableSenderState) : Bool :=
  state = .sending ∨ state = .waitingForAck

namespace ReliableSender

variable {maximumPayload : Nat} (s : ReliableSender maximumPayload)

/-- `ReliableSender::Begin`. A failing `Encode` has already overwritten `arbitration_id_`. -/
def begin (routeId : UInt16) (priority : CanPriority) (sequence : UInt8) (payload : List UInt8)
    (nowNs retryTimeoutNs : UInt64) (maximumRetries : UInt8) :
    Status × ReliableSender maximumPayload :=
  if s.state = .sending ∨ s.state = .waitingForAck then (.invalidState, s)
  else if payload = [] ∨ payload.length > maximumPayload ∨ sequence > 0x0f ∨
      retryTimeoutNs = 0 then (.invalidArgument, s)
  else
    let encoded := CanArbitrationId.encode priority routeId
    let s := { s with arbitrationId := encoded.2 }
    if encoded.1 ≠ .ok then (encoded.1, s)
    else
      let fragmentCount := (payload.length + 5) / 6
      if fragmentCount > 16 then (.capacityExceeded, s)
      else
        (.ok, { s with
          payload := payload
          sequence := sequence
          nextFragment := 0
          fragmentCount := fragmentCount
          retryTimeoutNs := retryTimeoutNs
          retryDeadlineNs := saturatingAdd nowNs retryTimeoutNs
          maximumRetries := maximumRetries
          retryCount := 0
          pendingWrite := false
          state := .sending
          stats.messagesStarted := s.stats.messagesStarted + 1 })

/-- The next write token: tokens count up and skip 0. -/
def nextToken (token : UInt32) : UInt32 := if token = 0xffffffff then 1 else token + 1

/-- The frame that carries fragment `nextFragment` of the message. -/
def currentFrame : CanFrame :=
  dataFrame s.arbitrationId s.sequence s.fragmentCount s.nextFragment
    (fragmentAt kFragmentPayload s.payload s.nextFragment)

/-- The update of `NextFrame`: one more fragment is on its way to the writer. -/
def advance : ReliableSender maximumPayload :=
  { s with
    nextFragment := s.nextFragment + 1
    nextWriteToken := nextToken s.nextWriteToken
    pendingWriteToken := nextToken s.nextWriteToken
    pendingFragment := s.nextFragment
    pendingWrite := true
    state := if s.nextFragment + 1 = s.fragmentCount then .waitingForAck else s.state
    stats.framesSent := s.stats.framesSent + 1 }

/-- `ReliableSender::NextFrame`: the frame with its write token, and the sender after it.
    `none` is the source's `kUnavailable`. -/
def nextFrame : Option (CanFrame × UInt32 × ReliableSender maximumPayload) :=
  if s.state ≠ .sending then none
  else some (s.currentFrame, s.advance.pendingWriteToken, s.advance)

/-- `ReliableSender::OnFrameWrite`, reached through the write completion of the frame. -/
def onFrameWrite (token : UInt32) (status : Status) : ReliableSender maximumPayload :=
  if s.pendingWrite = false ∨ token ≠ s.pendingWriteToken then s
  else
    let s := { s with pendingWrite := false }
    if status = .ok then s
    else
      let s := { s with stats.writeRejections := s.stats.writeRejections + 1 }
      if s.nextFragment = s.pendingFragment + 1 then
        { s with nextFragment := s.pendingFragment, state := .sending }
      else s

/-- `ReliableSender::HandleAck`. -/
def handleAck (frame : CanFrame) : Status × ReliableSender maximumPayload :=
  if CanArbitrationId.decode frame.arbitrationId = none ∨ frame.size ≠ 1 ∨
      getFrameKind frame.header ≠ .reliable ∨ getReliableSubtype frame.header ≠ .ack ∨
      frame.arbitrationId ≠ s.arbitrationId ∨ frame.header &&& 0x0f ≠ s.sequence then
    (.invalidArgument, s)
  else if s.state = .complete then
    (.unavailable, { s with
      stats.duplicateAcknowledgements := s.stats.duplicateAcknowledgements + 1 })
  else if s.state ≠ .waitingForAck then (.invalidArgument, s)
  else
    (.ok, { s with
      state := .complete
      pendingWrite := false
      stats.acknowledgements := s.stats.acknowledgements + 1 })

/-- `ReliableSender::Poll`. -/
def poll (nowNs : UInt64) : Status × ReliableSender maximumPayload :=
  if s.state ≠ .waitingForAck ∨ nowNs < s.retryDeadlineNs then (.unavailable, s)
  else if s.retryCount ≥ s.maximumRetries then
    (.timeout, { s with
      state := .failed
      pendingWrite := false
      stats.failures := s.stats.failures + 1 })
  else
    (.ok, { s with
      retryCount := s.retryCount + 1
      stats.retries := s.stats.retries + 1
      nextFragment := 0
      pendingWrite := false
      retryDeadlineNs := saturatingAdd nowNs s.retryTimeoutNs
      state := .sending })

/-- `ReliableSender::ArmAckDeadline`. -/
def armAckDeadline (nowNs : UInt64) : Status × ReliableSender maximumPayload :=
  if s.state ≠ .waitingForAck then (.invalidState, s)
  else (.ok, { s with retryDeadlineNs := saturatingAdd nowNs s.retryTimeoutNs })

/-- `writer_.Send(frame, caller)` for a frame of this sender: the writer reports the outcome
    back through the write completion before `Send` returns. -/
def sendFrame (writer : CanFrameWriter) (frame : CanFrame) (token : UInt32) :
    Status × ReliableSender maximumPayload × CanFrameWriter :=
  let sent := writer.send frame
  (sent.1, s.onFrameWrite token sent.1, sent.2)

/-- The loop `while (IsOk(sender.NextFrame(frame))) { ... writer.Send(frame) ... }` that all
    bridges share; it stops at the first rejected write. `fuel` bounds the iterations: the
    source's 8-bit fragment counter meets `fragment_count_` after at most 256 of them. -/
def pumpLoop : Nat → ReliableSender maximumPayload → CanFrameWriter →
    Status × ReliableSender maximumPayload × CanFrameWriter
  | 0, s, writer => (.ok, s, writer)
  | fuel + 1, s, writer =>
    match s.nextFrame with
    | none => (.ok, s, writer)
    | some (frame, token, s) =>
      let sent := s.sendFrame writer frame token
      if sent.1 ≠ .ok then sent else pumpLoop fuel sent.2.1 sent.2.2

/-- The pump of a bridge without its own counters. -/
def pump (writer : CanFrameWriter) : Status × ReliableSender maximumPayload × CanFrameWriter :=
  pumpLoop 256 s writer

end ReliableSender

/-! ## The receiver -/

structure ReliableReceiverStats where
  acceptedFrames : UInt32 := 0
  completed : UInt32 := 0
  invalid : UInt32 := 0
  superseded : UInt32 := 0
  duplicateFragments : UInt32 := 0
  duplicateMessages : UInt32 := 0
  staleMessages : UInt32 := 0
  sequenceGaps : UInt32 := 0
  reassemblyTimeouts : UInt32 := 0
deriving DecidableEq, Repr

/-- `buffer` holds `payload_`, `fragment_lengths_` and `received_mask_`. -/
structure ReliableReceiver (maximumPayload : Nat) where
  buffer : FragmentBuffer UInt8 maximumPayload 16 := .empty 0
  routeId : UInt16 := 0
  arbitrationId : UInt16 := 0
  lastCompletedArbitrationId : UInt16 := 0
  reassemblyTimeoutNs : UInt64 := 0
  reassemblyDeadlineNs : UInt64 := 0
  lastObservedTimeNs : UInt64 := 0
  sequence : UInt8 := 0
  fragmentCount : Nat := 0
  lastCompletedSequence : UInt8 := 0
  active : Bool := false
  hasCompleted : Bool := false
  hasObservedTime : Bool := false
  stats : ReliableReceiverStats := {}
deriving DecidableEq

/-- What one `Accept` hands back: the status and the two output parameters. A default
    `message` is empty, a default `acknowledgement` has size 0. -/
structure ReceiveResult where
  status : Status
  message : ReassembledMessage := {}
  acknowledgement : CanFrame := {}
deriving DecidableEq, Repr

/-- `if (acknowledgement.size != 0) writer.Send(acknowledgement)`, as all bridges answer a
    frame; without an acknowledgement there is nothing that can fail. -/
def acknowledge (writer : CanFrameWriter) (acknowledgement : CanFrame) :
    Status × CanFrameWriter :=
  if acknowledgement.size ≠ 0 then writer.send acknowledgement else (.ok, writer)

/-- A data frame that passed the checks at the head of `AcceptImpl`. -/
structure ReliableFragment (maximumPayload : Nat) where
  arbitrationId : UInt16
  routeId : UInt16
  sequence : UInt8
  index : Nat
  count : Nat
  bytes : List UInt8
  index_lt : index < count
  count_le : count ≤ 16
  bytes_fit : index * kFragmentPayload + bytes.length ≤ maximumPayload

/-- The acknowledgement of a message. -/
def ackFrame (arbitrationId : UInt16) (sequence : UInt8) : CanFrame where
  arbitrationId := arbitrationId
  size := 1
  data := frameData [reliableHeader .ack sequence]

/-- `SequenceDistance`. -/
def sequenceDistance (start target : UInt8) : UInt8 := (target - start) &&& 0x0f

namespace ReliableReceiver

variable {maximumPayload : Nat}

theorem fragmentBytes_fit {index length maximumPayload : Nat} (frame : CanFrame)
    (h : ¬ index * 6 + length > maximumPayload) :
    index * kFragmentPayload + ((frame.data.toList.drop 2).take length).length ≤
      maximumPayload := by
  have hlen : ((frame.data.toList.drop 2).take length).length ≤ length :=
    List.length_take_le _ _
  have hidx : index * kFragmentPayload = index * 6 := rfl
  omega

/-- The checks of `AcceptImpl` on the frame alone. -/
def parseFragment (maximumPayload : Nat) (frame : CanFrame) :
    Option (ReliableFragment maximumPayload) :=
  match CanArbitrationId.decode frame.arbitrationId with
  | none => none
  | some id =>
    if frame.size < 3 ∨ frame.size > 8 ∨ getFrameKind frame.header ≠ .reliable ∨
        getReliableSubtype frame.header ≠ .data then none
    else
      let sequence := frame.header &&& 0x0f
      let fragment := frame.second
      let index := (fragment &&& 0x0f).toNat
      let count := (fragment >>> 4).toNat + 1
      let length := frame.size - 2
      let bytes := (frame.data.toList.drop 2).take length
      if h : index ≥ count ∨ count > 16 ∨ length = 0 ∨ length > 6 ∨
          (index + 1 < count ∧ length ≠ 6) ∨ count * 6 > maximumPayload + 5 then none
      else if hfit : index * 6 + length > maximumPayload then none
      else
        some {
          arbitrationId := frame.arbitrationId
          routeId := id.routeId
          sequence := sequence
          index := index
          count := count
          bytes := bytes
          index_lt := fragmentIndex_lt h
          count_le := fragmentCount_le h
          bytes_fit := fragmentBytes_fit frame hfit }

variable (r : ReliableReceiver maximumPayload)

/-- `ReliableReceiver::Reset`. -/
def reset : ReliableReceiver maximumPayload :=
  { r with active := false, buffer := r.buffer.clear, fragmentCount := 0,
           reassemblyDeadlineNs := 0 }

/-- `ReliableReceiver::Invalid`. -/
def invalid : ReceiveResult × ReliableReceiver maximumPayload :=
  ({ status := .invalidArgument }, { r with stats.invalid := r.stats.invalid + 1 })

/-- `ReliableReceiver::ExpireIfDue`. -/
def expireIfDue (nowNs : UInt64) : Bool × ReliableReceiver maximumPayload :=
  if r.active = false ∨ r.reassemblyTimeoutNs = 0 ∨ nowNs < r.reassemblyDeadlineNs then (false, r)
  else
    let r := r.reset
    (true, { r with stats.reassemblyTimeouts := r.stats.reassemblyTimeouts + 1 })

/-- The part of `PrepareMessage` after the active message is out of the way: compare the
    sequence with the one completed last. -/
def prepareAfterCompleted (arbitrationId : UInt16) (sequence : UInt8) :
    Status × ReliableReceiver maximumPayload :=
  if r.hasCompleted = false ∨ r.lastCompletedArbitrationId ≠ arbitrationId then (.ok, r)
  else
    let distance := sequenceDistance r.lastCompletedSequence sequence
    if distance = 0 then (.ok, r)
    else if distance > 7 then
      (.unavailable, { r with stats.staleMessages := r.stats.staleMessages + 1 })
    else if distance > 1 then
      (.ok, { r with stats.sequenceGaps := r.stats.sequenceGaps + 1 })
    else (.ok, r)

/-- `ReliableReceiver::PrepareMessage`. -/
def prepareMessage (arbitrationId : UInt16) (sequence : UInt8) :
    Status × ReliableReceiver maximumPayload :=
  if r.active then
    if r.arbitrationId ≠ arbitrationId then
      let r := { r with stats.superseded := r.stats.superseded + 1 }
      prepareAfterCompleted r.reset arbitrationId sequence
    else
      let distance := sequenceDistance r.sequence sequence
      if distance = 0 then (.ok, r)
      else if distance > 7 then
        (.unavailable, { r with stats.staleMessages := r.stats.staleMessages + 1 })
      else
        let r := { r with stats.superseded := r.stats.superseded + 1 }
        prepareAfterCompleted r.reset arbitrationId sequence
  else prepareAfterCompleted r arbitrationId sequence

/-- The end of `AcceptImpl`: all fragments are there. -/
def completeMessage (arbitrationId : UInt16) (count : Nat) :
    ReceiveResult × ReliableReceiver maximumPayload :=
  let acknowledgement := ackFrame arbitrationId r.sequence
  if r.hasCompleted ∧ r.lastCompletedArbitrationId = r.arbitrationId ∧
      r.lastCompletedSequence = r.sequence then
    let r := { r with stats.duplicateMessages := r.stats.duplicateMessages + 1 }
    ({ status := .unavailable, acknowledgement := acknowledgement }, r.reset)
  else
    let message : ReassembledMessage := ⟨r.routeId, r.sequence, r.buffer.contents count⟩
    let r := { r with
      hasCompleted := true
      lastCompletedArbitrationId := r.arbitrationId
      lastCompletedSequence := r.sequence
      stats.completed := r.stats.completed + 1 }
    ({ status := .ok, message := message, acknowledgement := acknowledgement }, r.reset)

/-- `AcceptImpl` from the duplicate check on: store the fragment in the active message. -/
def storeFragment (f : ReliableFragment maximumPayload) :
    ReceiveResult × ReliableReceiver maximumPayload :=
  if r.buffer.has f.index then
    ({ status := .unavailable },
      { r with stats.duplicateFragments := r.stats.duplicateFragments + 1 })
  else
    let r := { r with
      buffer := r.buffer.store kFragmentPayload f.index f.bytes f.bytes_fit
      stats.acceptedFrames := r.stats.acceptedFrames + 1 }
    if r.buffer.isFull f.count = false then ({ status := .unavailable }, r)
    else completeMessage r f.arbitrationId f.count

/-- The update of `AcceptImpl` that makes the message of `f` the active one. -/
def activate (f : ReliableFragment maximumPayload) (receiveTimeNs : Option UInt64) :
    ReliableReceiver maximumPayload :=
  { r with
    active := true
    arbitrationId := f.arbitrationId
    routeId := f.routeId
    sequence := f.sequence
    fragmentCount := f.count
    reassemblyDeadlineNs :=
      match receiveTimeNs with
      | some receiveTimeNs =>
        if r.reassemblyTimeoutNs ≠ 0 then saturatingAdd receiveTimeNs r.reassemblyTimeoutNs
        else r.reassemblyDeadlineNs
      | none => r.reassemblyDeadlineNs }

/-- `AcceptImpl` on a frame that passed the checks. `receiveTimeNs` is `none` in the
    overload of `Accept` without a time. -/
def acceptFragment (f : ReliableFragment maximumPayload) (receiveTimeNs : Option UInt64) :
    ReceiveResult × ReliableReceiver maximumPayload :=
  if r.active = false ∨ r.arbitrationId ≠ f.arbitrationId ∨ r.sequence ≠ f.sequence then
    let prepared := r.prepareMessage f.arbitrationId f.sequence
    if prepared.1 ≠ .ok then ({ status := prepared.1 }, prepared.2)
    else (prepared.2.activate f receiveTimeNs).storeFragment f
  else if r.fragmentCount ≠ f.count then r.invalid
  else storeFragment r f

/-- `ReliableReceiver::AcceptImpl`. -/
def acceptImpl (frame : CanFrame) (receiveTimeNs : Option UInt64) :
    ReceiveResult × ReliableReceiver maximumPayload :=
  match parseFragment maximumPayload frame with
  | none => r.invalid
  | some f => r.acceptFragment f receiveTimeNs

/-- `ReliableReceiver::Accept` without a time. -/
def accept (frame : CanFrame) : ReceiveResult × ReliableReceiver maximumPayload :=
  r.acceptImpl frame none

/-- `ReliableReceiver::Accept` with the time the frame was received. -/
def acceptAt (frame : CanFrame) (receiveTimeNs : UInt64) :
    ReceiveResult × ReliableReceiver maximumPayload :=
  if r.hasObservedTime ∧ receiveTimeNs < r.lastObservedTimeNs then r.invalid
  else
    let r := { r with hasObservedTime := true, lastObservedTimeNs := receiveTimeNs }
    (r.expireIfDue receiveTimeNs).2.acceptImpl frame (some receiveTimeNs)

/-- Either overload of `Accept`, depending on whether a time is given. -/
def receive (frame : CanFrame) : Option UInt64 → ReceiveResult × ReliableReceiver maximumPayload
  | none => r.accept frame
  | some receiveTimeNs => r.acceptAt frame receiveTimeNs

/-- `ReliableReceiver::Poll`. -/
def poll (nowNs : UInt64) : Status × ReliableReceiver maximumPayload :=
  if r.hasObservedTime ∧ nowNs < r.lastObservedTimeNs then (.invalidArgument, r)
  else
    let r := { r with hasObservedTime := true, lastObservedTimeNs := nowNs }
    let expired := r.expireIfDue nowNs
    (if expired.1 then .timeout else .unavailable, expired.2)

/-- `ReliableReceiver::ResetPeerHistory`. -/
def resetPeerHistory : ReliableReceiver maximumPayload :=
  { r.reset with
    hasCompleted := false
    lastCompletedArbitrationId := 0
    lastCompletedSequence := 0
    hasObservedTime := false
    lastObservedTimeNs := 0 }

end ReliableReceiver

end AsterCtrl.Can
