import AsterCtrl.Native.Can.Protocol

/-!
# The CAN device of the Zephyr runtime

`CanDeviceAdapter` of `can_device.cpp`.  Threads call `Start`, `Send`, `Poll` and `Stop`; the
driver calls `Receive` and `TransmitComplete`, in an interrupt or in a thread of its own.  The
methods hold `control_mutex_` while they work, but the driver calls back at any time, so a method
that calls the driver is cut there, and a callback is cut at each of its atomic operations.  `Poll`
and `Stop` are also cut where they release the mutex.

The message queues are bounded lists.  Counters have the 32 bits that `stats` shows.  Threads are
named by a type `τ`.

Left out: the receiver, whose answers are inputs, the number of the receive filter, `k_is_in_isr`
together with the kind of the caller's context (one flag says that either of them forbids the
call), and the semaphore of the fence, which wakes a thread that waits for `active_` to become
zero.
-/

namespace AsterCtrl.Zephyr

open Can (CanFrame frameData)

/-- What a driver function returns: zero or a negative error number. -/
inductive DriverResult where
  | success
  | einval
  | enospc
  | eagain
  | ebusy
  | ealready
  | enetdown
  | etimedout
  | enodev
  | enetunreach
  | enotsup
  | ecanceled
  | other
deriving DecidableEq, Repr

def fromZephyrError : DriverResult → Status
  | .success => .ok
  | .einval => .invalidArgument
  | .enospc | .eagain | .ebusy => .capacityExceeded
  | .ealready | .enetdown => .invalidState
  | .etimedout => .timeout
  | .enodev | .enetunreach | .enotsup => .unavailable
  | .ecanceled | .other => .internal

def isTransmitAbort (error : DriverResult) : Bool :=
  error = .enetdown ∨ error = .ecanceled

/-! ## Frames -/

/-- `transport::can::kClassicCanPayloadSize`. -/
def classicCanPayloadSize : Nat := 8

/-- `CAN_STD_ID_MASK`. -/
def canStdIdMask : Nat := 0x7ff

/-- `CAN_FRAME_IDE | CAN_FRAME_RTR | CAN_FRAME_FDF | CAN_FRAME_BRS | CAN_FRAME_ESI`. -/
def canFrameFlags : UInt8 := 0x1f

/-- `can_frame`, the frame of the driver. -/
structure NativeFrame where
  id : UInt32
  dlc : UInt8
  flags : UInt8
  data : Vector UInt8 8
deriving DecidableEq, Repr

/-- The frame that `Send` gives to the driver. -/
def NativeFrame.ofCanFrame (frame : CanFrame) : NativeFrame where
  id := frame.arbitrationId.toUInt32
  dlc := UInt8.ofNat frame.size
  flags := 0
  data := frameData (frame.data.toList.take frame.size)

/-- The frame that `Poll` gives to the receiver. -/
def NativeFrame.toCanFrame (frame : NativeFrame) : CanFrame where
  arbitrationId := frame.id.toUInt16
  size := frame.dlc.toNat
  data := frameData (frame.data.toList.take frame.dlc.toNat)

/-- `Poll` gives only classic data frames to the receiver. -/
def NativeFrame.isClassic (frame : NativeFrame) : Bool :=
  frame.id.toNat ≤ canStdIdMask ∧ frame.dlc.toNat ≤ classicCanPayloadSize ∧
    frame.flags &&& canFrameFlags = 0

/-- `CanDeviceAdapter::QueuedFrame`. -/
structure QueuedFrame where
  frame : NativeFrame
  receiveTimeNs : UInt64
deriving DecidableEq, Repr

/-! ## The adapter -/

inductive CanDeviceState where
  | stopped
  | starting
  | running
  | stopping
  | stopFailed
deriving DecidableEq, Repr

structure CanDeviceStats where
  txFrames : UInt32 := 0
  txCompletions : UInt32 := 0
  txFailures : UInt32 := 0
  txAborted : UInt32 := 0
  txRejected : UInt32 := 0
  rxFrames : UInt32 := 0
  rxDropped : UInt32 := 0
  invalidFrames : UInt32 := 0
  receiverFailures : UInt32 := 0
deriving DecidableEq, Repr

/-- The adapter and its callback fence. -/
structure CanDeviceAdapter (τ : Type) where
  /-- `kReceiveQueueDepth` and `kTransmitQueueDepth`. -/
  receiveQueueDepth : Nat := 16
  transmitQueueDepth : Nat := 16
  receiveQueue : List QueuedFrame := []
  transmitQueue : List NativeFrame := []
  dispatchThread : Option τ := none
  callbackFenceBound : Bool := true
  retired : Bool := false
  state : CanDeviceState := .stopped
  txInFlight : Bool := false
  stats : CanDeviceStats := {}
  /-- `owner_` of the fence is this adapter. -/
  isOwner : Bool := false
  /-- `active_` of the fence. -/
  active : Nat := 0
deriving DecidableEq, Repr

/-- The local variables of `Poll`. -/
structure PollCall (τ : Type) where
  thread : τ
  index : Nat := 0
  received : Bool := false
  result : Status := .ok
deriving DecidableEq, Repr

/-- What `Poll` returns. -/
def PollCall.status {τ : Type} (call : PollCall τ) : Status :=
  if call.received then call.result else .unavailable

/-- What one round of the loop of `Poll` comes to. -/
inductive PollRound (τ : Type) where
  /-- The loop is over. -/
  | finished (call : PollCall τ)
  /-- The frame was not valid. -/
  | again (call : PollCall τ)
  /-- The receiver is called. -/
  | dispatch (frame : CanFrame) (receiveTimeNs : UInt64) (call : PollCall τ)
deriving DecidableEq, Repr

namespace CanDeviceAdapter

variable {τ : Type}

/-! ## Transmission -/

/-- The counter that goes up when the driver has refused a frame for good. -/
def countRefused (s : CanDeviceStats) (error : DriverResult) : CanDeviceStats :=
  if isTransmitAbort error then { s with txAborted := s.txAborted + 1 }
  else { s with txFailures := s.txFailures + 1 }

/-- The counter that goes up when the driver has completed a frame. -/
def countCompleted (s : CanDeviceStats) (error : DriverResult) : CanDeviceStats :=
  if error = .success then { s with txCompletions := s.txCompletions + 1 }
  else countRefused s error

variable (a : CanDeviceAdapter τ)

/-- `PumpTransmitLocked` from the condition of its loop up to `can_send`, which gets the frame. -/
def pumpTransmit : Option NativeFrame × CanDeviceAdapter τ :=
  if a.state = .running ∧ a.txInFlight = false then
    match a.transmitQueue with
    | [] => (none, a)
    | frame :: _ => (some frame, { a with txInFlight := true })
  else (none, a)

/-- `PumpTransmitLocked` after `can_send` has accepted the frame. -/
def sendAccepted : CanDeviceAdapter τ :=
  { a with transmitQueue := a.transmitQueue.tail }

/-- `PumpTransmitLocked` after `can_send` has returned an error. -/
def sendRefused (error : DriverResult) : CanDeviceAdapter τ :=
  let a := { a with txInFlight := false }
  if error = .eagain ∨ error = .enospc then a
  else
    { a with transmitQueue := a.transmitQueue.tail, stats := countRefused a.stats error }

/-- `AbortQueuedTransmitsLocked`. -/
def abortQueuedTransmits : CanDeviceAdapter τ :=
  { a with
    transmitQueue := []
    stats :=
      { a.stats with txAborted := a.stats.txAborted + UInt32.ofNat a.transmitQueue.length } }

/-- `Send` up to the call of `PumpTransmitLocked`. -/
def send (frame : CanFrame) (interrupt : Bool) : Except Status Unit × CanDeviceAdapter τ :=
  if interrupt ∨ frame.arbitrationId.toNat > canStdIdMask ∨
      frame.size > classicCanPayloadSize then
    (.error .invalidArgument, a)
  else if a.state ≠ .running then (.error .invalidState, a)
  else if a.transmitQueue.length < a.transmitQueueDepth then
    (.ok (), { a with
      transmitQueue := a.transmitQueue ++ [.ofCanFrame frame]
      stats := { a.stats with txFrames := a.stats.txFrames + 1 } })
  else
    (.error .capacityExceeded,
      { a with stats := { a.stats with txRejected := a.stats.txRejected + 1 } })

/-! ## Reception -/

/-- `Poll` up to the first call of `PumpTransmitLocked`. -/
def poll (thread : τ) (interrupt : Bool) : Except Status (PollCall τ) :=
  if interrupt then .error .invalidArgument
  else if a.state ≠ .running then .error .invalidState
  else .ok { thread := thread }

/-- One round of the loop of `Poll` up to the call of the receiver. -/
def pollRound (call : PollCall τ) : PollRound τ × CanDeviceAdapter τ :=
  if call.index < a.receiveQueueDepth then
    match a.receiveQueue with
    | [] => (.finished call, a)
    | queued :: rest =>
      let a := { a with receiveQueue := rest }
      let call := { call with received := true }
      if queued.frame.isClassic = false then
        (.again { call with index := call.index + 1, result := .protocolError },
          { a with stats := { a.stats with invalidFrames := a.stats.invalidFrames + 1 } })
      else
        (.dispatch queued.frame.toCanFrame queued.receiveTimeNs call,
          { a with dispatchThread := some call.thread })
  else (.finished call, a)

/-- The rest of the round, after the receiver has returned. -/
def pollAccepted (call : PollCall τ) (status : Status) : PollRound τ × CanDeviceAdapter τ :=
  let failed := status ≠ .ok ∧ status ≠ .unavailable
  let call := { call with result := if failed then status else call.result }
  let a :=
    { a with
      dispatchThread := none
      stats :=
        if failed then { a.stats with receiverFailures := a.stats.receiverFailures + 1 }
        else a.stats }
  if a.state ≠ .running then (.finished call, a)
  else (.again { call with index := call.index + 1 }, a)

/-! ## Start and stop -/

/-- `Ready`. -/
def ready (deviceReady : Bool) : Status :=
  if a.callbackFenceBound = false ∨ a.retired then .invalidState
  else if deviceReady then .ok else .unavailable

/-- `DetachCallbacksLocked`. -/
def detachCallbacks : CanDeviceAdapter τ := { a with isOwner := false }

/-- `Start`; `valid` says that there is a receiver and that the identifiers of the filter are in
    range, the last two arguments are the answers of `can_add_rx_filter` and `can_start`.  If the
    driver does not start, `Start` still has to wait for the callbacks; the status that it returns
    then is the result. -/
def start (valid interrupt deviceReady : Bool) (filterResult startResult : DriverResult) :
    Except Status Status × CanDeviceAdapter τ :=
  if valid = false ∨ interrupt then (.error .invalidArgument, a)
  else if a.state ≠ .stopped then (.error .invalidState, a)
  else if a.callbackFenceBound = false ∨ a.retired then (.error .invalidState, a)
  else if deviceReady = false then (.error .unavailable, a)
  else
    let a :=
      { a with
        state := .starting, receiveQueue := [], transmitQueue := [], txInFlight := false
        isOwner := true }
    if filterResult ≠ .success then
      (.error (fromZephyrError filterResult), { a.detachCallbacks with state := .stopped })
    else if fromZephyrError startResult ≠ .ok then
      (.ok (fromZephyrError startResult), a.detachCallbacks)
    else (.error .ok, { a with state := .running })

/-- `Start` after it has waited for the callbacks. -/
def startFailed : CanDeviceAdapter τ := { a with state := .stopped }

/-- `Stop` up to the point at which it waits; `stopResult` is the answer of `can_stop`.  If `Stop`
    has to wait, the result says whether it was called from the receiver of a frame. -/
def stop [DecidableEq τ] (a : CanDeviceAdapter τ) (thread : τ) (interrupt : Bool)
    (stopResult : DriverResult) : Except Status Bool × CanDeviceAdapter τ :=
  if interrupt then (.error .invalidArgument, a)
  else if a.state = .stopped then (.error .ok, a)
  else if a.state ≠ .running ∧ a.state ≠ .stopFailed then (.error .invalidState, a)
  else
    let calledFromDispatch := a.dispatchThread = some thread
    let a := { a.abortQueuedTransmits with state := .stopping }
    if stopResult ≠ .success ∧ stopResult ≠ .ealready then
      (.error (fromZephyrError stopResult), { a with state := .stopFailed })
    else (.ok calledFromDispatch, a.detachCallbacks)

/-- `Stop` after it has waited for the callbacks. -/
def stopFinished : CanDeviceAdapter τ :=
  { a with
    stats :=
      if a.txInFlight then { a.stats with txAborted := a.stats.txAborted + 1 } else a.stats
    txInFlight := false
    receiveQueue := []
    retired := true
    state := .stopped }

end CanDeviceAdapter

/-! ## Callbacks of the driver -/

/-- A callback between two of its atomic operations.  It has raised `active_`. -/
inductive Callback where
  /-- `TransmitComplete` reads the owner of the fence. -/
  | completeEntered (error : DriverResult)
  /-- It clears `tx_in_flight_`. -/
  | completeAttached (error : DriverResult)
  /-- It has cleared `tx_in_flight_` and counts the frame. -/
  | completeCleared (error : DriverResult)
  /-- `Receive` reads the owner of the fence. -/
  | receiveEntered (frame : NativeFrame)
  /-- It reads the state. -/
  | receiveAttached (frame : NativeFrame)
  /-- It reads the clock and puts the frame into the queue. -/
  | receiveRunning (frame : NativeFrame)
  /-- It counts the frame. -/
  | receiveOffered (queued : Bool)
  /-- It lowers `active_` and returns. -/
  | leaving
deriving DecidableEq, Repr

namespace CanDeviceAdapter

variable {τ : Type}

/-- A callback is called and raises `active_`. -/
def enter (a : CanDeviceAdapter τ) : CanDeviceAdapter τ := { a with active := a.active + 1 }

/-- The next atomic operation of a callback, which may return after it. -/
def callback (a : CanDeviceAdapter τ) (nowNs : UInt64) :
    Callback → Option Callback × CanDeviceAdapter τ
  | .completeEntered error => (some (if a.isOwner then .completeAttached error else .leaving), a)
  | .completeAttached error =>
    if a.txInFlight then (some (.completeCleared error), { a with txInFlight := false })
    else (some .leaving, a)
  | .completeCleared error => (some .leaving, { a with stats := countCompleted a.stats error })
  | .receiveEntered frame => (some (if a.isOwner then .receiveAttached frame else .leaving), a)
  | .receiveAttached frame =>
    (some (if a.state = .running then .receiveRunning frame else .receiveOffered false), a)
  | .receiveRunning frame =>
    if a.receiveQueue.length < a.receiveQueueDepth then
      (some (.receiveOffered true), { a with receiveQueue := a.receiveQueue ++ [⟨frame, nowNs⟩] })
    else (some (.receiveOffered false), a)
  | .receiveOffered queued =>
    (some .leaving, { a with
      stats :=
        if queued then { a.stats with rxFrames := a.stats.rxFrames + 1 }
        else { a.stats with rxDropped := a.stats.rxDropped + 1 } })
  | .leaving => (none, { a with active := a.active - 1 })

end CanDeviceAdapter

end AsterCtrl.Zephyr
