import AsterCtrl.Native.Can.ControlPlane
import AsterCtrl.Native.Can.FastPath

/-!
# Best-effort channels over CAN

`FastChannelEgress` and `FastChannelIngress` of `channel_bridge.hpp`, and the two connected: the
frames that the writer of the egress accepts reach the ingress in order.

The time converter is an argument of `Send`, since it is a callback whose answer may change from
call to call.  Left out: `payload_` and `frames_`, buffers that `Send` fills before it reads
them, the parts of the channel descriptor other than the maximal size of a message, and the
channel behind the bridge, of which only the status that it answers is modelled.
-/

namespace AsterCtrl.Can

/-! ## Egress -/

structure ChannelEgressStats where
  messages : UInt32 := 0
  frames : UInt32 := 0
  rateLimited : UInt32 := 0
  sendFailures : UInt32 := 0
deriving DecidableEq, Repr

structure FastChannelEgress (maximumMessageSize : Nat) where
  routeId : UInt16
  priority : CanPriority := .background
  minimumPeriodNs : UInt64 := 0
  lastSendTimeNs : UInt64 := 0
  /-- `descriptor_.message_type.max_serialized_size`. -/
  maxSerializedSize : Nat := 0
  sequence : UInt8 := 0
  hasLastSend : Bool := false
  bound : Bool := false
  stats : ChannelEgressStats := {}
deriving DecidableEq

/-- The check of both `Bind` functions, and the status of the registration with the channel. -/
def bindStatus (bound : Bool) (maxSerializedSize maximumMessageSize : Nat) (registered : Status) :
    Status :=
  if bound = true ∨ maxSerializedSize = 0 ∨ maxSerializedSize > maximumMessageSize then
    if bound then .invalidState else .invalidArgument
  else registered

namespace FastChannelEgress

variable {maximumMessageSize : Nat}

/-- `kMaximumPayloadSize`. -/
def kMaximumPayloadSize (maximumMessageSize : Nat) : Nat := maximumMessageSize + 2

/-- `kMaximumFrames`. -/
def kMaximumFrames (maximumMessageSize : Nat) : Nat :=
  if kMaximumPayloadSize maximumMessageSize ≤ 7 then 1
  else (kMaximumPayloadSize maximumMessageSize + 5) / 6

variable (e : FastChannelEgress maximumMessageSize)

/-- `FastChannelEgress::Bind`. -/
def bind (maxSerializedSize : Nat) (registered : Status) :
    Status × FastChannelEgress maximumMessageSize :=
  let status := bindStatus e.bound maxSerializedSize maximumMessageSize registered
  (status, if status = .ok then { e with maxSerializedSize := maxSerializedSize, bound := true }
    else e)

/-- The two low bytes of the time in milliseconds, followed by the message. -/
def channelPayload (sourceTimeNs : UInt64) (message : List UInt8) : List UInt8 :=
  let tick := (sourceTimeNs / 1000000).toUInt16
  (tick &&& 0xff).toUInt8 :: (tick >>> 8).toUInt8 :: message

/-- The loop of `Send` over the frames. -/
def sendFrames (e : FastChannelEgress maximumMessageSize) (writer : CanFrameWriter) :
    List CanFrame → Status × FastChannelEgress maximumMessageSize × CanFrameWriter
  | [] => (.ok, e, writer)
  | frame :: frames =>
    let sent := writer.send frame
    if sent.1 ≠ .ok then
      (sent.1, { e with stats.sendFailures := e.stats.sendFailures + 1 }, sent.2)
    else sendFrames { e with stats.frames := e.stats.frames + 1 } sent.2 frames

/-- The condition under which `Send` skips the message. -/
def rateLimited (sourceTimeNs : UInt64) : Bool :=
  e.hasLastSend = true ∧ sourceTimeNs ≥ e.lastSendTimeNs ∧
    sourceTimeNs - e.lastSendTimeNs < e.minimumPeriodNs

/-- What `FastCodec::Encode` makes of the message in `Send`. -/
def encodeMessage (message : List UInt8) (sourceTimeNs : UInt64) : Except Status (List CanFrame) :=
  FastCodec.encode e.routeId e.priority e.sequence (channelPayload sourceTimeNs message)
    (kMaximumFrames maximumMessageSize)

/-- `FastChannelEgress::Send`. -/
def send (message : List UInt8) (sourceTimestampNs : UInt64) (toNetworkTime : UInt64 → UInt64)
    (writer : CanFrameWriter) : Status × FastChannelEgress maximumMessageSize × CanFrameWriter :=
  if message.length > e.maxSerializedSize ∨ message.length > maximumMessageSize then
    (.capacityExceeded, e, writer)
  else
    let sourceTimeNs := toNetworkTime sourceTimestampNs
    if e.rateLimited sourceTimeNs then
      (.ok, { e with stats.rateLimited := e.stats.rateLimited + 1 }, writer)
    else
      match e.encodeMessage message sourceTimeNs with
      | .error status => (status, e, writer)
      | .ok frames =>
        let sent := e.sendFrames writer frames
        let e := sent.2.1
        if sent.1 ≠ .ok then sent
        else
          (.ok,
            { e with
              sequence := (e.sequence + 1) &&& 0x3f
              lastSendTimeNs := sourceTimeNs
              hasLastSend := true
              stats.messages := e.stats.messages + 1 },
            sent.2.2)

end FastChannelEgress

/-! ## Ingress -/

structure ChannelIngressStats where
  messages : UInt32 := 0
  staleMessages : UInt32 := 0
  decodeFailures : UInt32 := 0
  publishFailures : UInt32 := 0
deriving DecidableEq, Repr

structure FastChannelIngress (maximumMessageSize : Nat) where
  routeId : UInt16
  /-- `descriptor_.message_type.max_serialized_size`. -/
  maxSerializedSize : Nat := 0
  reassembler : FastReassembler (FastChannelEgress.kMaximumPayloadSize maximumMessageSize) := {}
  freshness : FreshnessGuard
  bound : Bool := false
  stats : ChannelIngressStats := {}

/-- What `Accept` leaves behind: beside the status, the message that the reassembler completed
    and the message and time stamp passed to `channel_.Publish`. -/
structure IngressResult (maximumMessageSize : Nat) where
  status : Status
  ingress : FastChannelIngress maximumMessageSize
  completed : Option ReassembledMessage := none
  published : Option (List UInt8 × UInt64) := none

namespace FastChannelIngress

variable {maximumMessageSize : Nat} (i : FastChannelIngress maximumMessageSize)

/-- `FastChannelIngress::Bind`. -/
def bind (maxSerializedSize : Nat) (registered : Status) :
    Status × FastChannelIngress maximumMessageSize :=
  let status := bindStatus i.bound maxSerializedSize maximumMessageSize registered
  (status, if status = .ok then { i with maxSerializedSize := maxSerializedSize, bound := true }
    else i)

/-- `FastChannelIngress::ExpandTimestamp`. -/
def expandTimestamp (sourceTickMs : UInt16) (receiveNetworkTimeNs : UInt64) : UInt64 :=
  let kWrap : UInt64 := 65536
  let kHalfWrap := kWrap / 2
  let receiveMs := receiveNetworkTimeNs / 1000000
  let base := receiveMs &&& ~~~(kWrap - 1)
  let candidate := base ||| sourceTickMs.toUInt64
  let candidate :=
    if candidate + kHalfWrap < receiveMs then candidate + kWrap
    else if candidate > receiveMs + kHalfWrap ∧ candidate ≥ kWrap then candidate - kWrap
    else candidate
  candidate * 1000000

/-- `Accept` once the reassembler completed a message; `publish` is the answer of the channel. -/
def takeMessage (message : ReassembledMessage) (receiveNetworkTimeNs : UInt64) (publish : Status) :
    IngressResult maximumMessageSize :=
  let payload := message.payload
  if payload.length < 2 ∨ payload.length - 2 > i.maxSerializedSize then
    ⟨.typeMismatch, { i with stats.decodeFailures := i.stats.decodeFailures + 1 }, some message,
      none⟩
  else
    let tick := (payload.getD 0 0).toUInt16 ||| ((payload.getD 1 0).toUInt16 <<< 8)
    let sourceTimestampNs := expandTimestamp tick receiveNetworkTimeNs
    let i := { i with
      freshness := i.freshness.observe message.sequence sourceTimestampNs receiveNetworkTimeNs }
    if i.freshness.state ≠ .fresh then
      ⟨.timeout, { i with stats.staleMessages := i.stats.staleMessages + 1 }, some message, none⟩
    else
      let published := some (payload.drop 2, sourceTimestampNs)
      if publish ≠ .ok then
        ⟨publish, { i with stats.publishFailures := i.stats.publishFailures + 1 }, some message,
          published⟩
      else ⟨.ok, { i with stats.messages := i.stats.messages + 1 }, some message, published⟩

/-- `FastChannelIngress::Accept`. -/
def accept (frame : CanFrame) (receiveNetworkTimeNs : UInt64) (publish : Status) :
    IngressResult maximumMessageSize :=
  if i.bound = false then ⟨.invalidState, i, none, none⟩
  else
    match CanArbitrationId.decode frame.arbitrationId with
    | none => ⟨.invalidArgument, i, none, none⟩
    | some id =>
      if id.routeId ≠ i.routeId then ⟨.unavailable, i, none, none⟩
      else
        let accepted := i.reassembler.accept frame
        let i := { i with reassembler := accepted.reassembler }
        if accepted.status ≠ .ok then ⟨accepted.status, i, none, none⟩
        else i.takeMessage accepted.message receiveNetworkTimeNs publish

/-- `FastChannelIngress::ResetPeer`. -/
def resetPeer : FastChannelIngress maximumMessageSize :=
  { i with reassembler := i.reassembler.resetHistory, freshness := i.freshness.reset }

end FastChannelIngress

/-! ## Egress and ingress connected -/

/-- One call of `Send`, with the writer it finds and, for the `k`-th frame that arrives at the
    ingress, the time of its arrival and the answer of the channel. -/
structure ChannelSend where
  message : List UInt8
  sourceTimestampNs : UInt64 := 0
  toNetworkTime : UInt64 → UInt64 := id
  outcome : Nat → Status
  receiveTimeNs : Nat → UInt64 := fun _ => 0
  publish : Nat → Status := fun _ => .ok

/-- An egress and an ingress on one route, the payloads of the calls of `Send` that wrote
    frames, and the payloads that the reassembler completed. -/
structure FastChannel (maximumMessageSize : Nat) where
  egress : FastChannelEgress maximumMessageSize
  ingress : FastChannelIngress maximumMessageSize
  sent : List (List UInt8) := []
  completed : List (List UInt8) := []

namespace FastChannel

variable {maximumMessageSize : Nat}

/-- The frames arrive at the ingress; `k` counts them. -/
def arrive (receiveTimeNs : Nat → UInt64) (publish : Nat → Status) :
    Nat → FastChannel maximumMessageSize → List CanFrame → FastChannel maximumMessageSize
  | _, s, [] => s
  | k, s, frame :: frames =>
    let accepted := s.ingress.accept frame (receiveTimeNs k) (publish k)
    arrive receiveTimeNs publish (k + 1)
      { s with
        ingress := accepted.ingress
        completed := s.completed ++ accepted.completed.toList.map ReassembledMessage.payload }
      frames

/-- The payload that the call encodes, if it gets that far. -/
def encodedPayload (s : FastChannel maximumMessageSize) (call : ChannelSend) :
    Option (List UInt8) :=
  let sourceTimeNs := call.toNetworkTime call.sourceTimestampNs
  if call.message.length > s.egress.maxSerializedSize ∨
      call.message.length > maximumMessageSize ∨ s.egress.rateLimited sourceTimeNs then none
  else
    match s.egress.encodeMessage call.message sourceTimeNs with
    | .error _ => none
    | .ok _ => some (FastChannelEgress.channelPayload sourceTimeNs call.message)

def step (s : FastChannel maximumMessageSize) (call : ChannelSend) :
    FastChannel maximumMessageSize :=
  let sent := s.egress.send call.message call.sourceTimestampNs call.toNetworkTime
    ⟨call.outcome, []⟩
  arrive call.receiveTimeNs call.publish 0
    { s with egress := sent.2.1, sent := s.sent ++ (s.encodedPayload call).toList }
    sent.2.2.accepted

/-- What the two ends are constructed and bound with. -/
structure Config (maximumMessageSize : Nat) where
  routeId : UInt16
  priority : CanPriority := .background
  minimumPeriodNs : UInt64 := 0
  freshness : FreshnessConfig := {}
  maxSerializedSize : Nat
  size_pos : 0 < maxSerializedSize
  size_le : maxSerializedSize ≤ maximumMessageSize

/-- Two bound ends that have not been used yet. -/
def init (config : Config maximumMessageSize) : FastChannel maximumMessageSize where
  egress := {
    routeId := config.routeId
    priority := config.priority
    minimumPeriodNs := config.minimumPeriodNs
    maxSerializedSize := config.maxSerializedSize
    bound := true }
  ingress := {
    routeId := config.routeId
    maxSerializedSize := config.maxSerializedSize
    freshness := { config := config.freshness }
    bound := true }

end FastChannel

end AsterCtrl.Can
