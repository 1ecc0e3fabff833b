import AsterCtrl.Native.Can.RpcServer
import AsterCtrl.Native.Can.ReliableLink

/-!
# One RPC client, one RPC server and the bus between them

The system the RPC bridge is used in: a sealed `CanRpcClient` and a bound `CanRpcServer` on
one route, with one channel in each direction that keeps the order of the frames but may lose
any of them.  Writers, clocks, times, the backend behind the server and the losses are
decided by the action.

A call counts as a call once it has passed the checks of `CallAsync`, since that is when it
uses up a request id and a sequence.  Beside every request frame in flight stands the index
of its call (acknowledgements of responses have none); neither endpoint sees it.
-/

namespace AsterCtrl.Can

/-- A call that passed the checks of `CallAsync`. -/
structure RpcCall where
  requestId : UInt32
  deadlineNs : UInt64
  request : List UInt8
deriving DecidableEq, Repr

/-- What the client sends for the call. -/
def RpcCall.payload (call : RpcCall) : List UInt8 :=
  requestPayload call.requestId call.deadlineNs call.request

structure RpcLink (service : RpcService) where
  client : CanRpcClient service Nat
  server : CanRpcServer service
  /-- Frames on their way to the server, the oldest first. -/
  toServer : List (Option Nat × CanFrame) := []
  /-- Frames on their way to the client, the oldest first. -/
  toClient : List CanFrame := []
  calls : List RpcCall := []
  /-- The index of the call whose frame reached the server last. -/
  lastSeen : Nat := 0
  /-- The requests the server's receiver completed, with the call whose frame did it. -/
  delivered : List (Nat × List UInt8) := []
  /-- The requests passed to `rpc_.CallAsync`, with the call whose frame did it. -/
  handed : List (Nat × HandedRequest) := []
  /-- The completions the client invoked; the handle of a call is its index. -/
  completions : List (RpcCompletion Nat) := []

inductive RpcLinkAction where
  | callAsync (descriptor : ServiceDescriptor) (request : List UInt8) (deadlineNs : UInt64)
      (clock : ClockReading) (outcome : Nat → Status)
  | pollClient (nowNs : UInt64) (outcome : Nat → Status)
  | deliverToServer (receiveTimeNs : UInt64) (backend : BackendOutcome) (clock : ClockReading)
      (outcome : Nat → Status)
  | completeRequest (completion : BackendCompletion) (clock : ClockReading)
      (outcome : Nat → Status)
  | pollServer (nowNs : UInt64) (outcome : Nat → Status)
  | deliverToClient (outcome : Nat → Status)
  | loseToServer (position : Nat)
  | loseToClient (position : Nat)

namespace RpcLink

variable {service : RpcService} (s : RpcLink service)

/-- `CallAsync` with the index of the call as its completion. -/
def callAsync (descriptor : ServiceDescriptor) (request : List UInt8) (deadlineNs : UInt64)
    (clock : ClockReading) (outcome : Nat → Status) : RpcLink service :=
  let i := s.calls.length
  let called := s.client.callAsync descriptor request deadlineNs (some i) clock ⟨outcome, []⟩
  match s.client.checkCall descriptor request deadlineNs (some i) clock with
  | some _ => { s with client := called.2.1 }
  | none =>
    { s with
      client := called.2.1
      calls := s.calls ++
        [⟨CanRpcClient.freshRequestId s.client.nextRequestId, deadlineNs, request⟩]
      toServer := s.toServer ++ called.2.2.accepted.map fun frame => (some i, frame) }

/-- `Poll` of the client; the frames it writes belong to the last call. -/
def pollClient (nowNs : UInt64) (outcome : Nat → Status) : RpcLink service :=
  let polled := s.client.poll nowNs ⟨outcome, []⟩
  { s with
    client := polled.client
    toServer := s.toServer ++
      polled.writer.accepted.map fun frame => (some (s.calls.length - 1), frame)
    completions := s.completions ++ polled.completed.toList }

/-- The oldest frame on its way to the server arrives. -/
def deliverToServer (receiveTimeNs : UInt64) (backend : BackendOutcome) (clock : ClockReading)
    (outcome : Nat → Status) : RpcLink service :=
  match s.toServer with
  | [] => s
  | (tag, frame) :: toServer =>
    let received := s.server.requestReceiver.accept frame
    let accepted := s.server.accept frame receiveTimeNs backend clock ⟨outcome, []⟩
    let s := { s with
      toServer := toServer
      toClient := s.toClient ++ accepted.writer.accepted
      server := accepted.server }
    match tag with
    | none => s
    | some i =>
      { s with
        lastSeen := i
        delivered := if received.1.status = .ok then
            s.delivered ++ [(i, received.1.message.payload)] else s.delivered
        handed := s.handed ++ (accepted.handed.toList.map fun request => (i, request)) }

/-- The backend completes a request after `rpc_.CallAsync` returned. -/
def completeRequest (completion : BackendCompletion) (clock : ClockReading) (outcome : Nat → Status) :
    RpcLink service :=
  let completed := s.server.complete completion clock ⟨outcome, []⟩
  { s with
    server := completed.server
    toClient := s.toClient ++ completed.writer.accepted }

def pollServer (nowNs : UInt64) (outcome : Nat → Status) : RpcLink service :=
  let polled := s.server.poll nowNs ⟨outcome, []⟩
  { s with
    server := polled.server
    toClient := s.toClient ++ polled.writer.accepted }

/-- The oldest frame on its way to the client arrives; the client may acknowledge it. -/
def deliverToClient (outcome : Nat → Status) : RpcLink service :=
  match s.toClient with
  | [] => s
  | frame :: toClient =>
    let accepted := s.client.accept frame ⟨outcome, []⟩
    { s with
      client := accepted.client
      toClient := toClient
      toServer := s.toServer ++ accepted.writer.accepted.map fun frame => (none, frame)
      completions := s.completions ++ accepted.completed.toList }

def step : RpcLinkAction → RpcLink service
  | .callAsync descriptor request deadlineNs clock outcome =>
    s.callAsync descriptor request deadlineNs clock outcome
  | .pollClient nowNs outcome => s.pollClient nowNs outcome
  | .deliverToServer receiveTimeNs backend clock outcome =>
    s.deliverToServer receiveTimeNs backend clock outcome
  | .completeRequest completion clock outcome => s.completeRequest completion clock outcome
  | .pollServer nowNs outcome => s.pollServer nowNs outcome
  | .deliverToClient outcome => s.deliverToClient outcome
  | .loseToServer position => { s with toServer := s.toServer.eraseIdx position }
  | .loseToClient position => { s with toClient := s.toClient.eraseIdx position }

/-- What the two endpoints are constructed with. -/
structure Config where
  routeId : UInt16
  clientPriority : CanPriority
  serverPriority : CanPriority
  clientRetryTimeoutNs : UInt64 := 5000000
  clientMaximumRetries : UInt8 := 2
  serverRetryTimeoutNs : UInt64 := 5000000
  serverMaximumRetries : UInt8 := 2
  retryTimeoutNs_ne : clientRetryTimeoutNs ≠ 0 := by decide

/-- Both ends send with the priority of control, on route 100. -/
def controlConfig : Config where
  routeId := 100
  clientPriority := .control
  serverPriority := .control

/-- A sealed client and a bound server that have not been used yet. -/
def init (config : Config) : RpcLink service where
  client := {
    routeId := config.routeId
    priority := config.clientPriority
    retryTimeoutNs := config.clientRetryTimeoutNs
    maximumRetries := config.clientMaximumRetries
    registered := true
    isSealed := true }
  server := {
    routeId := config.routeId
    priority := config.serverPriority
    retryTimeoutNs := config.serverRetryTimeoutNs
    maximumRetries := config.serverMaximumRetries
    bound := true }

/-- The arbitration id of the request frames. -/
def Config.requestArbitrationId (config : Config) : UInt16 :=
  (CanArbitrationId.encode config.clientPriority config.routeId).2

end RpcLink

end AsterCtrl.Can
