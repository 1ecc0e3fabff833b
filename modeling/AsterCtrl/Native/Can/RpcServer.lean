import AsterCtrl.Native.Can.RpcClient

/-!
# The server side of the CAN RPC bridge

`CanRpcServer` of `rpc_bridge.hpp`.  The server reassembles one request at a time, hands it to
the local RPC backend and sends the backend's answer back over a `ReliableSender`.

What the backend does is an argument: `BackendOutcome` says how `rpc_.CallAsync` answers and
whether it runs the completion before it returns; a completion that comes later is a call of
`complete`.  The results name what the rest of the system can observe: the request that was
handed to the backend and the response that was begun.

Left out: `response_payload_`, a buffer that `SendResponse` fills and `Begin` copies, and the
execution contexts.
-/

namespace AsterCtrl.Can

structure RpcServerTransportStats where
  requests : UInt32 := 0
  responses : UInt32 := 0
  rejected : UInt32 := 0
  timeouts : UInt32 := 0
  decodeFailures : UInt32 := 0
  sendFailures : UInt32 := 0
deriving DecidableEq, Repr

structure CanRpcServer (service : RpcService) where
  routeId : UInt16
  priority : CanPriority := .background
  retryTimeoutNs : UInt64 := 5000000
  maximumRetries : UInt8 := 2
  activeSequence : UInt8 := 0
  activeRequestId : UInt32 := 0
  requestReceiver : ReliableReceiver service.requestPayloadSize := {}
  responseSender : ReliableSender service.responsePayloadSize := {}
  stats : RpcServerTransportStats := {}
  active : Bool := false
  bound : Bool := false
  dropActiveResponse : Bool := false

/-- The arguments of one call of `Complete`. `malformed` is a call without a context, or with
    a null response of a size that is not 0. -/
inductive BackendCompletion where
  | malformed
  | answer (status : Status) (response : List UInt8)
deriving DecidableEq, Repr

/-- How `rpc_.CallAsync` behaves: the status it returns, and the completion it runs before it
    returns, with the clock reading that completion gets. -/
structure BackendOutcome where
  status : Status := .ok
  completion : Option (BackendCompletion × ClockReading) := none
deriving DecidableEq, Repr

/-- A request passed to `rpc_.CallAsync`. -/
structure HandedRequest where
  requestId : UInt32
  deadlineNs : UInt64
  payload : List UInt8
deriving DecidableEq, Repr

/-- A response accepted by `Begin` of the response sender. -/
structure BegunResponse where
  requestId : UInt32
  sequence : UInt8
  payload : List UInt8
deriving DecidableEq, Repr

structure RpcServerResult (service : RpcService) where
  status : Status
  server : CanRpcServer service
  writer : CanFrameWriter
  handed : Option HandedRequest := none
  begun : Option BegunResponse := none

namespace CanRpcServer

variable {service : RpcService} (s : CanRpcServer service)

/-- `Bind`, given what `rpc.RegisterClient` answers. -/
def bind (status : Status) : Status × CanRpcServer service :=
  if s.bound then (.invalidState, s)
  else (status, if status = .ok then { s with bound := true } else s)

/-- `PumpResponse`. -/
def pumpResponse (writer : CanFrameWriter) : Status × CanRpcServer service × CanFrameWriter :=
  let pumped := s.responseSender.pump writer
  (pumped.1,
    { s with
      responseSender := pumped.2.1
      stats.sendFailures :=
        if pumped.1 ≠ .ok then s.stats.sendFailures + 1 else s.stats.sendFailures },
    pumped.2.2)

/-- `SendResponse`. -/
def sendResponse (status : Status) (response : List UInt8) (clock : ClockReading)
    (writer : CanFrameWriter) : RpcServerResult service :=
  if response.length > service.responseSize ∨ (status ≠ .ok ∧ response ≠ []) then
    ⟨.invalidArgument, s, writer, none, none⟩
  else if clock.status ≠ .ok then ⟨clock.status, s, writer, none, none⟩
  else
    let payload := responsePayload status s.activeRequestId response
    let begun := s.responseSender.begin s.routeId s.priority s.activeSequence payload clock.nowNs
      s.retryTimeoutNs s.maximumRetries
    let s := { s with responseSender := begun.2 }
    if begun.1 ≠ .ok then ⟨begun.1, s, writer, none, none⟩
    else
      let pumped := s.pumpResponse writer
      let s := pumped.2.1
      ⟨pumped.1,
        { s with
          stats.responses := if pumped.1 = .ok then s.stats.responses + 1 else s.stats.responses },
        pumped.2.2, none, some ⟨s.activeRequestId, s.activeSequence, payload⟩⟩

/-- `Complete`. Its result has no status; the model reports that of `SendResponse`. -/
def complete (completion : BackendCompletion) (clock : ClockReading) (writer : CanFrameWriter) :
    RpcServerResult service :=
  match completion with
  | .malformed => ⟨.ok, s, writer, none, none⟩
  | .answer status response =>
    let s := { s with active := false }
    if s.dropActiveResponse then ⟨.ok, { s with dropActiveResponse := false }, writer, none, none⟩
    else
      let sent := s.sendResponse status response clock writer
      let s := sent.server
      { sent with server := if sent.status ≠ .ok then
          { s with stats.sendFailures := s.stats.sendFailures + 1 } else s }

/-- The completion that the backend runs before `rpc_.CallAsync` returns, if any. -/
def completeNow (completion : Option (BackendCompletion × ClockReading)) (writer : CanFrameWriter) :
    RpcServerResult service :=
  match completion with
  | none => ⟨.ok, s, writer, none, none⟩
  | some (completion, clock) => s.complete completion clock writer

/-- The end of `Accept`: pass the active request to the backend. -/
def callBackend (request : HandedRequest) (backend : BackendOutcome) (clock : ClockReading)
    (writer : CanFrameWriter) : RpcServerResult service :=
  let completed := s.completeNow backend.completion writer
  let s := completed.server
  if backend.status ≠ .ok then
    let s := { s with active := false, stats.rejected := s.stats.rejected + 1 }
    let sent := s.sendResponse backend.status [] clock completed.writer
    { sent with handed := some request, begun := completed.begun <|> sent.begun }
  else
    ⟨.ok, { s with stats.requests := s.stats.requests + 1 }, completed.writer, some request,
      completed.begun⟩

/-- `Accept` once the acknowledgement is out: take the request. -/
def takeRequest (received : ReceiveResult) (receiveTimeNs : UInt64) (backend : BackendOutcome)
    (clock : ClockReading) (writer : CanFrameWriter) : RpcServerResult service :=
  let payload := received.message.payload
  if received.status ≠ .ok then ⟨received.status, s, writer, none, none⟩
  else if s.active ∨ senderBusy s.responseSender.state then
    ⟨.capacityExceeded, { s with stats.rejected := s.stats.rejected + 1 }, writer, none, none⟩
  else if payload.length < kRequestHeaderSize ∨
      payload.length - kRequestHeaderSize > service.requestSize then
    ⟨.typeMismatch, { s with stats.decodeFailures := s.stats.decodeFailures + 1 }, writer, none,
      none⟩
  else
    let deadlineNs := readU64 (payload.drop 4)
    let s := { s with activeRequestId := readU32 payload }
    if s.activeRequestId = 0 then
      ⟨.invalidArgument, { s with stats.decodeFailures := s.stats.decodeFailures + 1 }, writer,
        none, none⟩
    else
      let s := { s with activeSequence := received.message.sequence, active := true }
      if deadlineNs ≠ 0 ∧ receiveTimeNs ≥ deadlineNs then
        let s := { s with active := false, stats.timeouts := s.stats.timeouts + 1 }
        s.sendResponse .timeout [] clock writer
      else
        s.callBackend ⟨s.activeRequestId, deadlineNs, payload.drop kRequestHeaderSize⟩ backend clock
          writer

/-- `Accept`. -/
def accept (frame : CanFrame) (receiveTimeNs : UInt64) (backend : BackendOutcome)
    (clock : ClockReading) (writer : CanFrameWriter) : RpcServerResult service :=
  if s.bound = false then ⟨.invalidState, s, writer, none, none⟩
  else if frame.size = 0 ∨ isForRoute frame s.routeId = false ∨
      getFrameKind frame.header ≠ .reliable then ⟨.invalidArgument, s, writer, none, none⟩
  else if getReliableSubtype frame.header = .ack then
    let handled := s.responseSender.handleAck frame
    ⟨handled.1, { s with responseSender := handled.2 }, writer, none, none⟩
  else
    let received := s.requestReceiver.accept frame
    let s := { s with requestReceiver := received.2 }
    let acked := acknowledge writer received.1.acknowledgement
    if acked.1 ≠ .ok then
      ⟨acked.1, { s with stats.sendFailures := s.stats.sendFailures + 1 }, acked.2, none, none⟩
    else s.takeRequest received.1 receiveTimeNs backend clock acked.2

/-- `Poll`. -/
def poll (nowNs : UInt64) (writer : CanFrameWriter) : RpcServerResult service :=
  let polled := s.responseSender.poll nowNs
  let s := { s with responseSender := polled.2 }
  if polled.1 = .ok then
    let pumped := s.pumpResponse writer
    ⟨pumped.1, pumped.2.1, pumped.2.2, none, none⟩
  else ⟨polled.1, s, writer, none, none⟩

/-- `ResetPeer`. -/
def resetPeer : CanRpcServer service :=
  { s with
    requestReceiver := s.requestReceiver.resetPeerHistory
    responseSender := {}
    dropActiveResponse := s.active }

end CanRpcServer

end AsterCtrl.Can
