import AsterCtrl.Native.LocalRpc
import Mathlib.Logic.Function.Basic

/-!
# Calls of services inside a node

`LocalRpc::CallAsync` and `LocalRpc::Complete` of `local_rpc.hpp`.  A call takes a slot of
`pending_`, which is filled and given to the executor; the executor dispatches the slot, the handler
of the service writes its answer to the buffer of the slot, and the completion is called after the
slot has been released.

`LocalCalls` is the state of a sealed `LocalRpc`.  Handlers and completions are values of arbitrary
types `η` and `κ`, and `completion_state` points to a value of type `σ`.  What handlers and
completions do is not part of the model: they may call `CallAsync` again at any time, and so may
anybody else.  `LocalSystem` puts the pieces together.  Its steps are `CallAsync` up to `TryPost`,
`TryPost` and the rest of `CallAsync`, `Dispatch` up to the call of the handler, a byte that a
handler writes to its buffer, and the return of a handler with the rest of `Complete`.

Every call of `CallAsync` has a number, which goes with the control flow: from `CallAsync` to the
work item that it posts, and from there to the handler and the completion that are called when the
item runs.  The code knows nothing of these numbers; `history` tells what happened to each call.

Left out: the conversions from and to the binary interface, and the execution contexts that are
handed on to handlers and completions.
-/

namespace AsterCtrl

/-- `LocalRpc::Seal`; `executor` tells whether there is one. -/
def LocalRpc.seal {η : Type} {maxServices maximumRequestSize maximumResponseSize : Nat}
    (rpc : LocalRpc η maxServices maximumRequestSize maximumResponseSize) (executor : Bool) :
    Status × LocalRpc η maxServices maximumRequestSize maximumResponseSize :=
  if rpc.isSealed then (.invalidState, rpc)
  else if executor = false then (.unavailable, rpc)
  else if rpc.services.any fun service => service.clientCount ≠ 0 ∧ service.handler.isNone then
    (.unavailable, rpc)
  else (.ok, { rpc with isSealed := true })

structure LocalRpcStats where
  calls : UInt32 := 0
  completed : UInt32 := 0
  failures : UInt32 := 0
  rejected : UInt32 := 0
  scheduleFailures : UInt32 := 0
  timeouts : UInt32 := 0
  pendingHighWatermark : Nat := 0
deriving DecidableEq, Repr

/-- The arguments of `CallAsync`; `none` is a null pointer. -/
structure CallArguments (κ σ : Type) where
  descriptor : ServiceDescriptor
  request : List UInt8
  deadlineNs : UInt64
  completion : Option κ
  completionState : Option σ
deriving DecidableEq, Repr

/-- `LocalRpc::PendingCall`; the service is an index in `services_`. -/
structure PendingCall (κ σ : Type) (maximumRequestSize maximumResponseSize : Nat) where
  service : Option Nat := none
  request : Vector UInt8 maximumRequestSize := .replicate _ 0
  response : Vector UInt8 maximumResponseSize := .replicate _ 0
  requestSize : Nat := 0
  info : RpcCallInfo := {}
  completion : Option κ := none
  completionState : Option σ := none
  inUse : Bool := false

structure LocalCalls (η κ σ : Type)
    (maxServices maximumRequestSize maximumResponseSize maxPending : Nat)
    extends LocalRpc η maxServices maximumRequestSize maximumResponseSize where
  pending : Fin maxPending → PendingCall κ σ maximumRequestSize maximumResponseSize := fun _ => {}
  pendingCount : Nat := 0
  lastRequestId : UInt32 := 0
  stats : LocalRpcStats := {}

/-- What is passed to a completion. -/
structure Completion (κ σ : Type) where
  completion : κ
  completionState : Option σ
  status : Status
  response : List UInt8
  info : RpcCallInfo
deriving DecidableEq, Repr

namespace LocalCalls

variable {η κ σ : Type} {maxServices maximumRequestSize maximumResponseSize maxPending : Nat}
    (rpc : LocalCalls η κ σ maxServices maximumRequestSize maximumResponseSize maxPending)

/-- The slots after a change of one of them. -/
def setPending (slot : Fin maxPending)
    (call : PendingCall κ σ maximumRequestSize maximumResponseSize) :
    LocalCalls η κ σ maxServices maximumRequestSize maximumResponseSize maxPending :=
  { rpc with pending := Function.update rpc.pending slot call }

/-- `LocalRpc::Reject`. -/
def reject : LocalCalls η κ σ maxServices maximumRequestSize maximumResponseSize maxPending :=
  { rpc with stats := { rpc.stats with rejected := rpc.stats.rejected + 1 } }

/-- The slot that `LocalRpc::Reserve` finds. -/
def freeSlot : Option (Fin maxPending) :=
  (List.finRange maxPending).find? fun slot => (rpc.pending slot).inUse = false

/-- The rest of `LocalRpc::Reserve`. -/
def reserve (slot : Fin maxPending) :
    LocalCalls η κ σ maxServices maximumRequestSize maximumResponseSize maxPending :=
  let count := rpc.pendingCount + 1
  { rpc.setPending slot { rpc.pending slot with inUse := true } with
    pendingCount := count
    stats := { rpc.stats with
      pendingHighWatermark :=
        if rpc.stats.pendingHighWatermark < count then count
        else rpc.stats.pendingHighWatermark } }

/-- `LocalRpc::Release`. -/
def release (slot : Fin maxPending) :
    LocalCalls η κ σ maxServices maximumRequestSize maximumResponseSize maxPending :=
  { rpc.setPending slot { rpc.pending slot with
      service := none
      requestSize := 0
      info := {}
      completion := none
      completionState := none
      inUse := false } with
    pendingCount := rpc.pendingCount - 1 }

/-- `LocalRpc::NextRequestId`. -/
def nextRequestId : UInt32 :=
  if rpc.lastRequestId = 0xffffffff then 1 else rpc.lastRequestId + 1

/-- `std::copy` to the front of an array. -/
def copyFront {n : Nat} (bytes : List UInt8) (array : Vector UInt8 n) : Vector UInt8 n :=
  Vector.ofFn fun index => bytes.getD index (array.get index)

/-- `LocalRpc::CallAsync` up to `TryPost`: the slot that is to be posted or the status of a rejected
    call, for a caller whose context has the time `now`. -/
def prepare (arguments : CallArguments κ σ) (now : UInt64) : Except Status (Fin maxPending) ×
      LocalCalls η κ σ maxServices maximumRequestSize maximumResponseSize maxPending :=
  if rpc.isSealed = false then (.error .invalidState, rpc.reject)
  else if arguments.completion.isNone then (.error .invalidArgument, rpc.reject)
  else
    match rpc.find arguments.descriptor with
    | none => (.error .notFound, rpc.reject)
    | some index =>
      let service := rpc.services.get index
      if sameService service.descriptor arguments.descriptor = false ∨
          arguments.request.length > arguments.descriptor.requestType.maxSerializedSize then
        (.error .typeMismatch, rpc.reject)
      else if arguments.deadlineNs ≠ 0 ∧ now ≥ arguments.deadlineNs then
        (.error .timeout, rpc.reject)
      else if service.handler.isNone then (.error .unavailable, rpc.reject)
      else
        match rpc.freeSlot with
        | none => (.error .capacityExceeded, rpc.reject)
        | some slot =>
          let rpc := rpc.reserve slot
          let id := rpc.nextRequestId
          let call := rpc.pending slot
          let rpc := rpc.setPending slot { call with
            request := copyFront arguments.request call.request
            requestSize := arguments.request.length
            service := some index
            completion := arguments.completion
            completionState := arguments.completionState
            info := ⟨id, arguments.deadlineNs⟩ }
          (.ok slot, { rpc with lastRequestId := id })

/-- The rest of `LocalRpc::CallAsync`; `status` is the result of `TryPost`. -/
def afterPost (slot : Fin maxPending) (status : Status) :
    LocalCalls η κ σ maxServices maximumRequestSize maximumResponseSize maxPending :=
  if status ≠ .ok then
    let rpc := rpc.release slot
    let rpc := { rpc with
      stats := { rpc.stats with scheduleFailures := rpc.stats.scheduleFailures + 1 } }
    rpc.reject
  else { rpc with stats := { rpc.stats with calls := rpc.stats.calls + 1 } }

/-- The check of the deadline in `LocalRpc::Complete`. -/
def isExpired (slot : Fin maxPending) (now : UInt64) : Bool :=
  (rpc.pending slot).info.deadlineNs ≠ 0 ∧ now ≥ (rpc.pending slot).info.deadlineNs

def addTimeout : LocalCalls η κ σ maxServices maximumRequestSize maximumResponseSize maxPending :=
  { rpc with stats := { rpc.stats with timeouts := rpc.stats.timeouts + 1 } }

/-- The service of a slot; there is none behind a null pointer. -/
def serviceOf (slot : Fin maxPending) : Option (LocalService η) :=
  (rpc.pending slot).service.bind fun index => rpc.services[index]?

/-- The handler that `LocalRpc::Complete` calls; there is none behind a null pointer. -/
def handlerOf (slot : Fin maxPending) : Option η :=
  (rpc.serviceOf slot).bind LocalService.handler

/-- The request that `LocalRpc::Complete` passes to the handler. -/
def requestOf (slot : Fin maxPending) : List UInt8 :=
  (rpc.pending slot).request.toList.take (rpc.pending slot).requestSize

/-- `response[offset] = value` in a handler. -/
def writeResponse (slot : Fin maxPending) (offset : Fin maximumResponseSize) (value : UInt8) :
    LocalCalls η κ σ maxServices maximumRequestSize maximumResponseSize maxPending :=
  let call := rpc.pending slot
  rpc.setPending slot { call with response := call.response.set offset value }

/-- What `LocalRpc::Complete` makes of the result of a handler of a service whose responses have
    `limit` bytes at most. -/
def checkResponse (maximumResponseSize limit : Nat) (status : Status) (responseSize : Nat) :
    Status × Nat :=
  if responseSize > maximumResponseSize ∨ responseSize > limit then (.internal, 0)
  else if status ≠ .ok then (status, 0)
  else (status, responseSize)

/-- The rest of `LocalRpc::Complete`, up to the call of the completion; there is none to call behind
    a null pointer. -/
def finish (slot : Fin maxPending) (status : Status) (responseSize : Nat) :
    Option (Completion κ σ) ×
      LocalCalls η κ σ maxServices maximumRequestSize maximumResponseSize maxPending :=
  let stats := rpc.stats
  let stats := if status ≠ .ok then { stats with failures := stats.failures + 1 } else stats
  let stats := { stats with completed := stats.completed + 1 }
  let call := rpc.pending slot
  let response := call.response.toList.take responseSize
  (call.completion.map fun completion =>
    ⟨completion, call.completionState, status, response, call.info⟩,
    { rpc with stats := stats }.release slot)

end LocalCalls

/-! ## The system -/

/-- How far a call that holds a slot has got. -/
inductive CallPhase (maximumResponseSize : Nat) where
  /-- `CallAsync` is in `TryPost`. -/
  | posting
  /-- The executor has accepted the work item and has not run it. -/
  | posted
  /-- The handler is running, and `produced` is what it has made of its buffer. -/
  | running (produced : Vector UInt8 maximumResponseSize)
deriving DecidableEq, Repr

/-- A call of `CallAsync`, a work item or a call of a handler that has a pointer to a slot. -/
structure CallFrame (maximumResponseSize maxPending : Nat) where
  call : Nat
  slot : Fin maxPending
  phase : CallPhase maximumResponseSize
deriving DecidableEq, Repr

inductive CallEvent (η κ σ : Type) (maximumResponseSize : Nat) where
  /-- The call has been given a slot and a request id. -/
  | admitted (call : Nat) (arguments : CallArguments κ σ) (info : RpcCallInfo)
  /-- `CallAsync` returns `kOk`. -/
  | accepted (call : Nat)
  /-- `CallAsync` returns another status. -/
  | rejected (call : Nat) (status : Status)
  /-- The deadline has passed when the work item runs. -/
  | expired (call : Nat)
  | invoked (call : Nat) (handler : η) (request : List UInt8) (info : RpcCallInfo)
  /-- The handler returns and leaves `produced` in its buffer. -/
  | returned (call : Nat) (status : Status) (responseSize : Nat)
      (produced : Vector UInt8 maximumResponseSize)
  | completed (call : Nat) (completion : Completion κ σ)
  /-- A null pointer has been followed. -/
  | fault (call : Nat)
deriving DecidableEq

structure LocalSystem (η κ σ : Type)
    (maxServices maximumRequestSize maximumResponseSize maxPending : Nat) where
  rpc : LocalCalls η κ σ maxServices maximumRequestSize maximumResponseSize maxPending
  frames : List (CallFrame maximumResponseSize maxPending) := []
  /-- The number of calls of `CallAsync` so far. -/
  calls : Nat := 0
  history : List (CallEvent η κ σ maximumResponseSize) := []

inductive CallAction (κ σ : Type) (maximumResponseSize : Nat) where
  /-- Somebody calls `CallAsync`. -/
  | call (arguments : CallArguments κ σ) (now : UInt64)
  /-- `TryPost` returns `status` to the `CallAsync` at `index`. -/
  | post (index : Nat) (status : Status)
  /-- The executor runs the work item at `index`. -/
  | dispatch (index : Nat) (now : UInt64)
  /-- The handler at `index` writes a byte of its response. -/
  | write (index : Nat) (offset : Fin maximumResponseSize) (value : UInt8)
  /-- The handler at `index` returns. -/
  | leave (index : Nat) (status : Status) (responseSize : Nat)

namespace LocalSystem

variable {η κ σ : Type} {maxServices maximumRequestSize maximumResponseSize maxPending : Nat}

/-- The system when the services have been sealed. -/
def start (rpc : LocalRpc η maxServices maximumRequestSize maximumResponseSize) :
    LocalSystem η κ σ maxServices maximumRequestSize maximumResponseSize maxPending where
  rpc := { toLocalRpc := rpc }

variable (s : LocalSystem η κ σ maxServices maximumRequestSize maximumResponseSize maxPending)

/-- `CallAsync` up to `TryPost`. -/
def call (arguments : CallArguments κ σ) (now : UInt64) :
    LocalSystem η κ σ maxServices maximumRequestSize maximumResponseSize maxPending :=
  let (result, rpc) := s.rpc.prepare arguments now
  match result with
  | .error status =>
    { s with rpc := rpc, calls := s.calls + 1, history := s.history ++ [.rejected s.calls status] }
  | .ok slot =>
    { rpc := rpc
      calls := s.calls + 1
      frames := s.frames ++ [⟨s.calls, slot, .posting⟩]
      history := s.history ++ [.admitted s.calls arguments (rpc.pending slot).info] }

/-- `TryPost` and the rest of `CallAsync`. -/
def post (index : Nat) (frame : CallFrame maximumResponseSize maxPending) (status : Status) :
    LocalSystem η κ σ maxServices maximumRequestSize maximumResponseSize maxPending :=
  let s := { s with rpc := s.rpc.afterPost frame.slot status }
  if status ≠ .ok then
    { s with
      frames := s.frames.eraseIdx index
      history := s.history ++ [.rejected frame.call status] }
  else
    { s with
      frames := s.frames.set index { frame with phase := .posted }
      history := s.history ++ [.accepted frame.call] }

/-- The end of `Complete`. -/
def complete (index : Nat) (frame : CallFrame maximumResponseSize maxPending) (status : Status)
    (responseSize : Nat) (event : CallEvent η κ σ maximumResponseSize) :
    LocalSystem η κ σ maxServices maximumRequestSize maximumResponseSize maxPending :=
  let (completion, rpc) := s.rpc.finish frame.slot status responseSize
  { s with
    rpc := rpc
    frames := s.frames.eraseIdx index
    history := s.history ++ [event, match completion with
      | some completion => .completed frame.call completion
      | none => .fault frame.call] }

/-- `Dispatch` up to the call of the handler, or to the end if the deadline has passed. -/
def dispatch (index : Nat) (frame : CallFrame maximumResponseSize maxPending) (now : UInt64) :
    LocalSystem η κ σ maxServices maximumRequestSize maximumResponseSize maxPending :=
  if s.rpc.isExpired frame.slot now then
    { s with rpc := s.rpc.addTimeout }.complete index frame .timeout 0 (.expired frame.call)
  else
    let slot := s.rpc.pending frame.slot
    { s with
      frames := s.frames.set index { frame with phase := .running slot.response }
      history := s.history ++ [match s.rpc.handlerOf frame.slot with
        | some handler => .invoked frame.call handler (s.rpc.requestOf frame.slot) slot.info
        | none => .fault frame.call] }

/-- A handler writes a byte of its response. -/
def write (index : Nat) (frame : CallFrame maximumResponseSize maxPending)
    (produced : Vector UInt8 maximumResponseSize) (offset : Fin maximumResponseSize) (value : UInt8) :
    LocalSystem η κ σ maxServices maximumRequestSize maximumResponseSize maxPending :=
  { s with
    rpc := s.rpc.writeResponse frame.slot offset value
    frames := s.frames.set index { frame with phase := .running (produced.set offset value) } }

/-- The rest of `Complete` when the handler returns. -/
def leave (index : Nat) (frame : CallFrame maximumResponseSize maxPending)
    (produced : Vector UInt8 maximumResponseSize) (status : Status) (responseSize : Nat) :
    LocalSystem η κ σ maxServices maximumRequestSize maximumResponseSize maxPending :=
  match s.rpc.serviceOf frame.slot with
  | none => { s with history := s.history ++ [.fault frame.call] }
  | some service =>
    let checked := LocalCalls.checkResponse maximumResponseSize
      service.descriptor.responseType.maxSerializedSize status responseSize
    s.complete index frame checked.1 checked.2 (.returned frame.call status responseSize produced)

/-- One step of the system; an action for which there is nothing at its index does nothing. -/
def step : CallAction κ σ maximumResponseSize →
      LocalSystem η κ σ maxServices maximumRequestSize maximumResponseSize maxPending
  | .call arguments now => s.call arguments now
  | .post index status =>
    match s.frames[index]? with
    | some ⟨call, slot, .posting⟩ => s.post index ⟨call, slot, .posting⟩ status
    | _ => s
  | .dispatch index now =>
    match s.frames[index]? with
    | some ⟨call, slot, .posted⟩ => s.dispatch index ⟨call, slot, .posted⟩ now
    | _ => s
  | .write index offset value =>
    match s.frames[index]? with
    | some ⟨call, slot, .running produced⟩ =>
      s.write index ⟨call, slot, .running produced⟩ produced offset value
    | _ => s
  | .leave index status responseSize =>
    match s.frames[index]? with
    | some ⟨call, slot, .running produced⟩ =>
      s.leave index ⟨call, slot, .running produced⟩ produced status responseSize
    | _ => s

end LocalSystem

end AsterCtrl
