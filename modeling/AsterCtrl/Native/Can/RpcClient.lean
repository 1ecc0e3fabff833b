import AsterCtrl.Native.Can.ReliablePath

/-!
# The client side of the CAN RPC bridge

`CanRpcClient` of `rpc_bridge.hpp`, with the wire format it shares with the server.  The
client sends one request at a time over a `ReliableSender`, receives the response through a
`ReliableReceiver` and invokes the completion of the call.

The completion is the last thing `Accept`, `Poll` and `ResetPeer` do, so the model returns it
beside the new state instead of running it; a completion that calls `CallAsync` is a
`callAsync` on the returned state.  A completion function and its state pointer are one
handle of an arbitrary type `κ`.

Left out: `request_payload_`, a buffer that `CallAsync` fills and `Begin` copies before
anything else can read it, and the execution contexts, which are only passed on.
-/

namespace AsterCtrl

namespace Can

def kRequestHeaderSize : Nat := 12
def kResponseHeaderSize : Nat := 5

/-- What the bridge reads of a service type, with its static assertions. -/
structure RpcService where
  descriptor : ServiceDescriptor
  requestSize : Nat
  responseSize : Nat
  request_fits : kRequestHeaderSize + requestSize ≤ 96
  response_fits : kResponseHeaderSize + responseSize ≤ 96

theorem emptyRequest_fits : kRequestHeaderSize + 0 ≤ 96 := by decide

theorem emptyResponse_fits : kResponseHeaderSize + 0 ≤ 96 := by decide

/-- `kRequestPayloadSize`. -/
def RpcService.requestPayloadSize (service : RpcService) : Nat :=
  kRequestHeaderSize + service.requestSize

/-- `kResponsePayloadSize`. -/
def RpcService.responsePayloadSize (service : RpcService) : Nat :=
  kResponseHeaderSize + service.responseSize

/-! ## Wire format -/

/-- `EncodeStatus`; it knows every status. -/
def encodeStatus : Status → UInt8
  | .ok => 0
  | .invalidArgument => 1
  | .invalidState => 2
  | .capacityExceeded => 3
  | .unavailable => 4
  | .timeout => 5
  | .cancelled => 6
  | .typeMismatch => 7
  | .notFound => 8
  | .alreadyExists => 9
  | .versionMismatch => 10
  | .protocolError => 12
  | .internal => 11

/-- `DecodeStatus`. -/
def decodeStatus (encoded : UInt8) : Option Status :=
  if encoded = 0 then some .ok
  else if encoded = 1 then some .invalidArgument
  else if encoded = 2 then some .invalidState
  else if encoded = 3 then some .capacityExceeded
  else if encoded = 4 then some .unavailable
  else if encoded = 5 then some .timeout
  else if encoded = 6 then some .cancelled
  else if encoded = 7 then some .typeMismatch
  else if encoded = 8 then some .notFound
  else if encoded = 9 then some .alreadyExists
  else if encoded = 10 then some .versionMismatch
  else if encoded = 11 then some .internal
  else if encoded = 12 then some .protocolError
  else none

/-- The payload of a request: id, deadline and the serialized request. -/
def requestPayload (requestId : UInt32) (deadlineNs : UInt64) (request : List UInt8) :
    List UInt8 :=
  writeLE 4 requestId.toNat ++ (writeLE 8 deadlineNs.toNat ++ request)

/-- The payload of a response: status, id and the serialized response. -/
def responsePayload (status : Status) (requestId : UInt32) (response : List UInt8) :
    List UInt8 :=
  encodeStatus status :: (writeLE 4 requestId.toNat ++ response)

/-- `ReadU32` at the start of the bytes. -/
def readU32 (bytes : List UInt8) : UInt32 := UInt32.ofNat (readLE 4 bytes)

/-- `ReadU64` at the start of the bytes. -/
def readU64 (bytes : List UInt8) : UInt64 := UInt64.ofNat (readLE 8 bytes)

theorem readU32_writeLE (v : UInt32) (rest : List UInt8) :
    readU32 (writeLE 4 v.toNat ++ rest) = v := by
  rw [readU32, readLE_writeLE _ _ _ v.toNat_lt]
  exact UInt32.ofNat_toNat

theorem readU64_writeLE (v : UInt64) (rest : List UInt8) :
    readU64 (writeLE 8 v.toNat ++ rest) = v := by
  rw [readU64, readLE_writeLE _ _ _ v.toNat_lt]
  exact UInt64.ofNat_toNat

/-- `IsForRoute`. -/
def isForRoute (frame : CanFrame) (routeId : UInt16) : Bool :=
  match CanArbitrationId.decode frame.arbitrationId with
  | none => false
  | some decoded => decoded.routeId = routeId

/-! ## The client -/

structure RpcClientTransportStats where
  accepted : UInt32 := 0
  completed : UInt32 := 0
  rejected : UInt32 := 0
  timeouts : UInt32 := 0
  decodeFailures : UInt32 := 0
  sendFailures : UInt32 := 0
deriving DecidableEq, Repr

/-- `writerSet` and `clockSet` tell whether the two function pointers are not null. -/
structure CanRpcClient (service : RpcService) (κ : Type) where
  routeId : UInt16
  priority : CanPriority := .background
  writerSet : Bool := true
  clockSet : Bool := true
  retryTimeoutNs : UInt64 := 5000000
  maximumRetries : UInt8 := 2
  sequence : UInt8 := 0
  nextSequence : UInt8 := 0
  nextRequestId : UInt32 := 0
  requestSender : ReliableSender service.requestPayloadSize := {}
  responseReceiver : ReliableReceiver service.responsePayloadSize := {}
  completion : Option κ := none
  callInfo : RpcCallInfo := {}
  stats : RpcClientTransportStats := {}
  registered : Bool := false
  pending : Bool := false
  isSealed : Bool := false

/-- One invocation of a completion. -/
structure RpcCompletion (κ : Type) where
  completion : κ
  status : Status
  response : List UInt8
  info : RpcCallInfo
deriving DecidableEq, Repr

/-- What `Accept`, `Poll` and `ResetPeer` leave behind. -/
structure RpcClientResult (service : RpcService) (κ : Type) where
  status : Status
  client : CanRpcClient service κ
  writer : CanFrameWriter
  completed : Option (RpcCompletion κ) := none

namespace CanRpcClient

variable {service : RpcService} {κ : Type} (c : CanRpcClient service κ)

/-- `RegisterClient`. -/
def registerClient (descriptor : ServiceDescriptor) : Status × CanRpcClient service κ :=
  if c.isSealed then (.invalidState, c)
  else if sameService descriptor service.descriptor = false then (.typeMismatch, c)
  else (.ok, { c with registered := true })

/-- `Seal`. -/
def sealClient : Status × CanRpcClient service κ :=
  if c.isSealed then (.invalidState, c)
  else if c.registered = false ∨ c.writerSet = false ∨ c.clockSet = false ∨
      c.retryTimeoutNs = 0 then (.unavailable, c)
  else (.ok, { c with isSealed := true })

/-- `Reject`. -/
def reject (status : Status) : Status × CanRpcClient service κ :=
  (status, { c with stats.rejected := c.stats.rejected + 1 })

/-- `ClearPending`. -/
def clearPending : CanRpcClient service κ :=
  { c with completion := none, pending := false }

/-- `PumpRequest`. -/
def pumpRequest (writer : CanFrameWriter) : Status × CanRpcClient service κ × CanFrameWriter :=
  let pumped := c.requestSender.pump writer
  (pumped.1,
    { c with
      requestSender := pumped.2.1
      stats.sendFailures :=
        if pumped.1 ≠ .ok then c.stats.sendFailures + 1 else c.stats.sendFailures },
    pumped.2.2)

/-- Request ids count up and skip 0. -/
def freshRequestId (nextRequestId : UInt32) : UInt32 :=
  if nextRequestId + 1 = 0 then 1 else nextRequestId + 1

/-- `CallAsync` up to `Begin`: the call gets its id and its sequence and is pending. -/
def enterCall (deadlineNs : UInt64) (completion : Option κ) : CanRpcClient service κ :=
  { c with
    nextRequestId := freshRequestId c.nextRequestId
    sequence := c.nextSequence
    nextSequence := (c.nextSequence + 1) &&& 0x0f
    completion := completion
    callInfo := ⟨freshRequestId c.nextRequestId, deadlineNs⟩
    pending := true }

/-- The rest of `CallAsync`, from `Begin` on, for the pending call. -/
def startRequest (request : List UInt8) (nowNs : UInt64) (writer : CanFrameWriter) :
    Status × CanRpcClient service κ × CanFrameWriter :=
  let begun := c.requestSender.begin c.routeId c.priority c.sequence
    (requestPayload c.callInfo.requestId c.callInfo.deadlineNs request) nowNs c.retryTimeoutNs
    c.maximumRetries
  let c := { c with requestSender := begun.2 }
  if begun.1 ≠ .ok then
    let rejected := c.clearPending.reject begun.1
    (rejected.1, rejected.2, writer)
  else
    let pumped := c.pumpRequest writer
    let c := pumped.2.1
    if pumped.1 ≠ .ok then
      (pumped.1,
        { c.clearPending with
          requestSender := {}
          stats.sendFailures := c.stats.sendFailures + 1 },
        pumped.2.2)
    else (.ok, { c with stats.accepted := c.stats.accepted + 1 }, pumped.2.2)

/-- The checks of `CallAsync` in order: the status it rejects the call with and the client
    with the counter of that case, or `none` if the call goes on. -/
def checkCall (descriptor : ServiceDescriptor) (request : List UInt8) (deadlineNs : UInt64)
    (completion : Option κ) (clock : ClockReading) : Option (Status × CanRpcClient service κ) :=
  if c.isSealed = false then some (c.reject .invalidState)
  else if sameService descriptor service.descriptor = false ∨
      request.length > service.requestSize then some (c.reject .typeMismatch)
  else if completion.isNone ∨ c.clockSet = false then some (c.reject .invalidArgument)
  else if clock.status ≠ .ok then some (c.reject clock.status)
  else if deadlineNs ≠ 0 ∧ clock.nowNs ≥ deadlineNs then
    let c := { c with stats.timeouts := c.stats.timeouts + 1 }
    some (c.reject .timeout)
  else if c.pending ∨ senderBusy c.requestSender.state then some (c.reject .capacityExceeded)
  else none

/-- `CallAsync`. A null completion is `none`. -/
def callAsync (descriptor : ServiceDescriptor) (request : List UInt8) (deadlineNs : UInt64)
    (completion : Option κ) (clock : ClockReading) (writer : CanFrameWriter) :
    Status × CanRpcClient service κ × CanFrameWriter :=
  match c.checkCall descriptor request deadlineNs completion clock with
  | some rejected => (rejected.1, rejected.2, writer)
  | none => (c.enterCall deadlineNs completion).startRequest request clock.nowNs writer

/-- The invocation of the pending completion. -/
def complete (status : Status) (response : List UInt8) : Option (RpcCompletion κ) :=
  c.completion.map fun completion => ⟨completion, status, response, c.callInfo⟩

/-- `Accept` once the acknowledgement is out: match the message with the pending call. -/
def takeResponse (received : ReceiveResult) :
    Status × CanRpcClient service κ × Option (RpcCompletion κ) :=
  let payload := received.message.payload
  let decodeFailure := { c with stats.decodeFailures := c.stats.decodeFailures + 1 }
  if received.status ≠ .ok then (received.status, c, none)
  else if c.pending = false then (.unavailable, c, none)
  else if received.message.sequence ≠ c.sequence ∨ payload.length < kResponseHeaderSize ∨
      readU32 (payload.drop 1) ≠ c.callInfo.requestId then (.typeMismatch, decodeFailure, none)
  else
    match decodeStatus (payload.headD 0) with
    | none => (.invalidArgument, decodeFailure, none)
    | some status =>
      if (status = .ok ∧ payload.length - kResponseHeaderSize > service.responseSize) ∨
          (status ≠ .ok ∧ payload.length ≠ kResponseHeaderSize) then
        (.invalidArgument, decodeFailure, none)
      else
        (.ok, { c.clearPending with stats.completed := c.stats.completed + 1 },
          c.complete status (payload.drop kResponseHeaderSize))

/-- `Accept`. -/
def accept (frame : CanFrame) (writer : CanFrameWriter) : RpcClientResult service κ :=
  if c.isSealed = false then ⟨.invalidState, c, writer, none⟩
  else if frame.size = 0 ∨ isForRoute frame c.routeId = false ∨
      getFrameKind frame.header ≠ .reliable then ⟨.invalidArgument, c, writer, none⟩
  else if getReliableSubtype frame.header = .ack then
    let handled := c.requestSender.handleAck frame
    ⟨handled.1, { c with requestSender := handled.2 }, writer, none⟩
  else
    let received := c.responseReceiver.accept frame
    let c := { c with responseReceiver := received.2 }
    let acked := acknowledge writer received.1.acknowledgement
    if acked.1 ≠ .ok then
      ⟨acked.1, { c with stats.sendFailures := c.stats.sendFailures + 1 }, acked.2, none⟩
    else
      let taken := c.takeResponse received.1
      ⟨taken.1, taken.2.1, acked.2, taken.2.2⟩

/-- `FinishTimeout`: the client after it and the completion it invokes. -/
def finishTimeout : CanRpcClient service κ × Option (RpcCompletion κ) :=
  ({ c.clearPending with
      requestSender := {}
      stats.timeouts := c.stats.timeouts + 1
      stats.completed := c.stats.completed + 1 },
    c.complete .timeout [])

/-- `Poll`. -/
def poll (nowNs : UInt64) (writer : CanFrameWriter) : RpcClientResult service κ :=
  if c.isSealed = false then ⟨.invalidState, c, writer, none⟩
  else if c.pending = false then ⟨.unavailable, c, writer, none⟩
  else if c.callInfo.deadlineNs ≠ 0 ∧ nowNs ≥ c.callInfo.deadlineNs then
    let finished := c.finishTimeout
    ⟨.timeout, finished.1, writer, finished.2⟩
  else
    let polled := c.requestSender.poll nowNs
    let c := { c with requestSender := polled.2 }
    if polled.1 = .ok then
      let pumped := c.pumpRequest writer
      ⟨pumped.1, pumped.2.1, pumped.2.2, none⟩
    else if polled.1 = .timeout then
      let finished := c.finishTimeout
      ⟨polled.1, finished.1, writer, finished.2⟩
    else ⟨polled.1, c, writer, none⟩

/-- `ResetPeer`. -/
def resetPeer : CanRpcClient service κ × Option (RpcCompletion κ) :=
  let c := { c with
    requestSender := {}
    responseReceiver := c.responseReceiver.resetPeerHistory }
  if c.pending = false then (c, none)
  else
    ({ c.clearPending with stats.completed := c.stats.completed + 1 },
      c.complete .unavailable [])

end CanRpcClient

end Can

end AsterCtrl
