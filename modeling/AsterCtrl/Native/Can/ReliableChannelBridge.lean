import AsterCtrl.Native.Can.ChannelBridge

/-!
# Reliable channels over CAN

`ReliableChannelEgress` and `ReliableChannelIngress` of `reliable_channel_bridge.hpp`: the same
two ends as in `ChannelBridge`, over a `ReliableSender` and a `ReliableReceiver`.

Left out, as there: `payload_`, which `Send` fills and `Begin` copies, the parts of the channel
descriptor other than the maximal size of a message, and the channel behind the bridge, of
which only the status that it answers is modelled.
-/

namespace AsterCtrl.Can

/-! ## Egress -/

structure ReliableChannelEgressStats where
  messages : UInt32 := 0
  frames : UInt32 := 0
  acknowledgements : UInt32 := 0
  retries : UInt32 := 0
  timeouts : UInt32 := 0
  rateLimited : UInt32 := 0
  sendFailures : UInt32 := 0
deriving DecidableEq, Repr

structure ReliableChannelEgress (maximumMessageSize : Nat) where
  routeId : UInt16
  priority : CanPriority := .background
  minimumPeriodNs : UInt64 := 0
  retryTimeoutNs : UInt64 := 5000000
  lastSendTimeNs : UInt64 := 0
  maximumRetries : UInt8 := 2
  sequence : UInt8 := 0
  /-- `descriptor_.message_type.max_serialized_size`. -/
  maxSerializedSize : Nat := 0
  sender : ReliableSender (FastChannelEgress.kMaximumPayloadSize maximumMessageSize) := {}
  hasLastSend : Bool := false
  bound : Bool := false
  stats : ReliableChannelEgressStats := {}
deriving DecidableEq

namespace ReliableChannelEgress

variable {maximumMessageSize : Nat} (e : ReliableChannelEgress maximumMessageSize)

/-- `ReliableChannelEgress::Bind`; it also refuses a retry timeout of 0. -/
def bind (maxSerializedSize : Nat) (registered : Status) :
    Status × ReliableChannelEgress maximumMessageSize :=
  if e.bound = true ∨ maxSerializedSize = 0 ∨ maxSerializedSize > maximumMessageSize ∨
      e.retryTimeoutNs = 0 then
    (if e.bound then .invalidState else .invalidArgument, e)
  else
    (registered,
      if registered = .ok then { e with maxSerializedSize := maxSerializedSize, bound := true }
      else e)

/-- `ReliableChannelEgress::AcceptAcknowledgement`. -/
def acceptAcknowledgement (frame : CanFrame) : Status × ReliableChannelEgress maximumMessageSize :=
  let before := e.sender.stats.acknowledgements
  let handled := e.sender.handleAck frame
  let e := { e with sender := handled.2 }
  (handled.1,
    { e with stats.acknowledgements :=
        if e.sender.stats.acknowledgements ≠ before then e.stats.acknowledgements + 1
        else e.stats.acknowledgements })

/-- `ReliableChannelEgress::Pump`. -/
def pump (writer : CanFrameWriter) :
    Status × ReliableChannelEgress maximumMessageSize × CanFrameWriter :=
  let pumped := e.sender.pump writer
  let sent := pumped.2.2.accepted.length - writer.accepted.length
  (pumped.1,
    { e with
      sender := pumped.2.1
      stats.frames := e.stats.frames + UInt32.ofNat sent
      stats.sendFailures :=
        if pumped.1 ≠ .ok then e.stats.sendFailures + 1 else e.stats.sendFailures },
    pumped.2.2)

/-- `Poll` up to the counting of the retries. -/
def pollSender (nowNs : UInt64) (writer : CanFrameWriter) :
    Status × ReliableChannelEgress maximumMessageSize × CanFrameWriter :=
  if e.sender.state = .sending then e.pump writer
  else if e.sender.state = .waitingForAck then
    let polled := e.sender.poll nowNs
    let e := { e with sender := polled.2 }
    if polled.1 = .ok then e.pump writer
    else if polled.1 = .timeout then
      (polled.1, { e with stats.timeouts := e.stats.timeouts + 1 }, writer)
    else (polled.1, e, writer)
  else (.unavailable, e, writer)

/-- `ReliableChannelEgress::Poll`. -/
def poll (nowNs : UInt64) (writer : CanFrameWriter) :
    Status × ReliableChannelEgress maximumMessageSize × CanFrameWriter :=
  let retries := e.sender.stats.retries
  let polled := e.pollSender nowNs writer
  let e := polled.2.1
  (polled.1,
    { e with stats.retries := e.stats.retries + (e.sender.stats.retries - retries) },
    polled.2.2)

/-- `ReliableChannelEgress::ResetPeer`. -/
def resetPeer : ReliableChannelEgress maximumMessageSize :=
  { e with sender := {} }

/-- The condition under which `Send` skips the message. -/
def rateLimited (sourceTimeNs : UInt64) : Bool :=
  e.hasLastSend = true ∧ sourceTimeNs ≥ e.lastSendTimeNs ∧
    sourceTimeNs - e.lastSendTimeNs < e.minimumPeriodNs

/-- `ReliableChannelEgress::Send`. -/
def send (message : List UInt8) (sourceTimestampNs : UInt64) (toNetworkTime : UInt64 → UInt64)
    (writer : CanFrameWriter) :
    Status × ReliableChannelEgress maximumMessageSize × CanFrameWriter :=
  if message.length > e.maxSerializedSize ∨ message.length > maximumMessageSize then
    (.capacityExceeded, e, writer)
  else if senderBusy e.sender.state then (.capacityExceeded, e, writer)
  else
    let sourceTimeNs := toNetworkTime sourceTimestampNs
    if e.rateLimited sourceTimeNs then
      (.ok, { e with stats.rateLimited := e.stats.rateLimited + 1 }, writer)
    else
      let begun := e.sender.begin e.routeId e.priority e.sequence
        (FastChannelEgress.channelPayload sourceTimeNs message) sourceTimeNs e.retryTimeoutNs
        e.maximumRetries
      let e := { e with sender := begun.2 }
      if begun.1 ≠ .ok then (begun.1, e, writer)
      else
        let e := { e with
          sequence := (e.sequence + 1) &&& 0x0f
          lastSendTimeNs := sourceTimeNs
          hasLastSend := true
          stats.messages := e.stats.messages + 1 }
        e.pump writer

end ReliableChannelEgress

/-! ## Ingress -/

structure ReliableChannelIngressStats where
  messages : UInt32 := 0
  acknowledgements : UInt32 := 0
  staleMessages : UInt32 := 0
  decodeFailures : UInt32 := 0
  publishFailures : UInt32 := 0
  sendFailures : UInt32 := 0
  reassemblyTimeouts : UInt32 := 0
deriving DecidableEq, Repr

structure ReliableChannelIngress (maximumMessageSize : Nat) where
  routeId : UInt16
  /-- `descriptor_.message_type.max_serialized_size`. -/
  maxSerializedSize : Nat := 0
  freshness : FreshnessGuard
  receiver : ReliableReceiver (FastChannelEgress.kMaximumPayloadSize maximumMessageSize)
  bound : Bool := false
  stats : ReliableChannelIngressStats := {}
deriving DecidableEq

/-- What `Accept` leaves behind; `published` is the message and time stamp passed to
    `channel_.Publish`. -/
structure ReliableIngressResult (maximumMessageSize : Nat) where
  status : Status
  ingress : ReliableChannelIngress maximumMessageSize
  writer : CanFrameWriter
  published : Option (List UInt8 × UInt64) := none

namespace ReliableChannelIngress

variable {maximumMessageSize : Nat} (i : ReliableChannelIngress maximumMessageSize)

/-- `ReliableChannelIngress::Bind`. -/
def bind (maxSerializedSize : Nat) (registered : Status) :
    Status × ReliableChannelIngress maximumMessageSize :=
  let status := bindStatus i.bound maxSerializedSize maximumMessageSize registered
  (status, if status = .ok then { i with maxSerializedSize := maxSerializedSize, bound := true }
    else i)

/-- `ReliableChannelIngress::ExpandTimestamp`, the same as that of the best-effort ingress. -/
def expandTimestamp (sourceTickMs : UInt16) (receiveNetworkTimeNs : UInt64) : UInt64 :=
  FastChannelIngress.expandTimestamp sourceTickMs receiveNetworkTimeNs

/-- `Accept` of a frame with which the receiver returns no message: the message may still be a
    known one that is acknowledged again. -/
def takeNothing (received : ReceiveResult) (writer : CanFrameWriter) :
    ReliableIngressResult maximumMessageSize :=
  if received.acknowledgement.size ≠ 0 then
    let sent := writer.send received.acknowledgement
    if sent.1 ≠ .ok then
      ⟨sent.1, { i with stats.sendFailures := i.stats.sendFailures + 1 }, sent.2, none⟩
    else
      ⟨received.status, { i with stats.acknowledgements := i.stats.acknowledgements + 1 }, sent.2,
        none⟩
  else ⟨received.status, i, writer, none⟩

/-- The end of `Accept`, after `channel_.Publish` has answered. -/
def acknowledgePublished (acknowledgement : CanFrame) (publish : Status)
    (published : Option (List UInt8 × UInt64)) (writer : CanFrameWriter) :
    ReliableIngressResult maximumMessageSize :=
  let i := { i with stats.publishFailures :=
    if publish ≠ Status.ok then i.stats.publishFailures + 1 else i.stats.publishFailures }
  let sent := acknowledge writer acknowledgement
  if sent.1 ≠ .ok then
    ⟨sent.1, { i with stats.sendFailures := i.stats.sendFailures + 1 }, sent.2, published⟩
  else
    let i := { i with stats.acknowledgements :=
      if acknowledgement.size ≠ 0 then i.stats.acknowledgements + 1 else i.stats.acknowledgements }
    if publish ≠ .ok then ⟨publish, i, sent.2, published⟩
    else ⟨.ok, { i with stats.messages := i.stats.messages + 1 }, sent.2, published⟩

/-- `Accept` of a frame with which the receiver returns a message; `publish` is the answer of the
    channel. -/
def takeMessage (received : ReceiveResult) (receiveNetworkTimeNs : UInt64) (publish : Status)
    (writer : CanFrameWriter) : ReliableIngressResult maximumMessageSize :=
  let payload := received.message.payload
  if payload.length < 2 ∨ payload.length - 2 > i.maxSerializedSize then
    ⟨.typeMismatch, { i with stats.decodeFailures := i.stats.decodeFailures + 1 }, writer, none⟩
  else
    let tick := (payload.getD 0 0).toUInt16 ||| ((payload.getD 1 0).toUInt16 <<< 8)
    let sourceTimestampNs := expandTimestamp tick receiveNetworkTimeNs
    let i := { i with
      freshness :=
        i.freshness.observe received.message.sequence sourceTimestampNs receiveNetworkTimeNs }
    if i.freshness.state ≠ .fresh then
      ⟨.timeout, { i with stats.staleMessages := i.stats.staleMessages + 1 },
        (acknowledge writer received.acknowledgement).2, none⟩
    else
      i.acknowledgePublished received.acknowledgement publish
        (some (payload.drop 2, sourceTimestampNs)) writer

/-- The checks at the head of `Accept`: a data frame of this route. -/
def isData (frame : CanFrame) : Bool :=
  match CanArbitrationId.decode frame.arbitrationId with
  | none => false
  | some id => id.routeId = i.routeId ∧ frame.size ≠ 0 ∧
      getFrameKind frame.header = .reliable ∧ getReliableSubtype frame.header = .data

/-- `ReliableChannelIngress::Accept`. -/
def accept (frame : CanFrame) (receiveNetworkTimeNs : UInt64) (publish : Status)
    (writer : CanFrameWriter) : ReliableIngressResult maximumMessageSize :=
  if i.bound = false then ⟨.invalidState, i, writer, none⟩
  else if i.isData frame = false then ⟨.invalidArgument, i, writer, none⟩
  else
    let received := i.receiver.acceptAt frame receiveNetworkTimeNs
    let i := { i with receiver := received.2 }
    if received.1.status ≠ .ok then i.takeNothing received.1 writer
    else i.takeMessage received.1 receiveNetworkTimeNs publish writer

/-- `ReliableChannelIngress::Poll`. -/
def poll (nowNs : UInt64) : Status × ReliableChannelIngress maximumMessageSize :=
  let polled := i.receiver.poll nowNs
  (polled.1,
    { i with
      receiver := polled.2
      freshness := i.freshness.poll nowNs
      stats.reassemblyTimeouts :=
        if polled.1 = .timeout then i.stats.reassemblyTimeouts + 1
        else i.stats.reassemblyTimeouts })

/-- `ReliableChannelIngress::ResetPeer`. -/
def resetPeer : ReliableChannelIngress maximumMessageSize :=
  { i with receiver := i.receiver.resetPeerHistory, freshness := i.freshness.reset }

end ReliableChannelIngress

end AsterCtrl.Can
