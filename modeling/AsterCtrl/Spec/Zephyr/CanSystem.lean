import AsterCtrl.ForStd.Run
import AsterCtrl.Native.Zephyr.CanDevice

/-!
# Threads, a CAN device and its driver

A `CanDeviceAdapter` with the threads that call it and the callbacks of its driver.  An action is
what the thread that holds the control mutex does up to its next call of the driver, an answer of
the driver, or one atomic operation of a callback; actions of threads and callbacks come in any
order.  The receiver of a frame may call `Send`, `Poll` and `Stop`; mutexes can be locked again by
the thread that holds them.

The driver may complete each frame that it has accepted once, at any later time, also before
`can_send` returns or after `can_stop` has.  A frame is in the controller until its completion has
been called.

Beside the state of the program, a system remembers the frames that `Send` has admitted and those
that `can_send` has accepted.
-/

namespace AsterCtrl.Zephyr

open Can (CanFrame)

/-- What is done after `PumpTransmitLocked`. -/
inductive AfterPump (τ : Type) where
  | send
  | pollBegin (call : PollCall τ)
  | pollEnd (call : PollCall τ)
deriving DecidableEq, Repr

/-- What the thread that holds the control mutex is doing. -/
inductive Control (τ : Type) where
  | free
  /-- At the condition of the loop in `PumpTransmitLocked`. -/
  | pumping (after : AfterPump τ)
  /-- In `can_send`, and the driver has not accepted the frame. -/
  | sending (frame : NativeFrame) (after : AfterPump τ)
  /-- In `can_send` or after it, and the driver has accepted the frame. -/
  | sent (frame : NativeFrame) (after : AfterPump τ)
  /-- At the condition of the loop in `Poll`. -/
  | polling (call : PollCall τ)
  /-- `Start` has failed, or `Stop` has not, and waits for the callbacks. -/
  | startWaiting (status : Status)
  | stopWaiting
deriving DecidableEq, Repr

/-- Where the control goes after `PumpTransmitLocked`. -/
def AfterPump.control {τ : Type} : AfterPump τ → Control τ
  | .send | .pollEnd _ => .free
  | .pollBegin call => .polling call

/-- Where the control goes after a round of the loop in `Poll`, if the receiver is not called. -/
def PollRound.control {τ : Type} : PollRound τ → Control τ
  | .finished call => .pumping (.pollEnd call)
  | .again call => .polling call
  | .dispatch _ _ _ => .free

structure CanSystem (τ : Type) where
  adapter : CanDeviceAdapter τ
  control : Control τ := .free
  /-- The calls of `Poll` that have called the receiver, the last one first. -/
  polls : List (PollCall τ) := []
  /-- The threads that have released the control mutex in `Stop`. -/
  stops : List τ := []
  callbacks : List Callback := []
  controller : List NativeFrame := []
  admitted : List NativeFrame := []
  accepted : List NativeFrame := []

inductive CanAction (τ : Type) where
  | start (thread : τ) (valid interrupt deviceReady : Bool)
      (filterResult startResult : DriverResult)
  | send (thread : τ) (frame : CanFrame) (interrupt : Bool)
  | poll (thread : τ) (interrupt : Bool)
  | stop (thread : τ) (interrupt : Bool) (stopResult : DriverResult)
  /-- The thread that holds the control mutex goes on in `PumpTransmitLocked`. -/
  | pump
  /-- The driver accepts the frame, or `can_send` returns an error. -/
  | accept
  | refuse (error : DriverResult)
  /-- `can_send` returns zero. -/
  | sent
  /-- A round of the loop in `Poll`. -/
  | pollRound
  /-- The receiver that a thread has called returns. -/
  | returned (thread : τ) (status : Status)
  /-- `Stop` takes the mutexes again. -/
  | relock (thread : τ)
  /-- There are no callbacks any more. -/
  | waited
  /-- The driver calls `TransmitComplete` or `Receive`. -/
  | complete (index : Nat) (error : DriverResult)
  | receive (frame : NativeFrame)
  /-- A callback performs its next operation. -/
  | callback (index : Nat) (nowNs : UInt64)

namespace CanSystem

variable {τ : Type} [DecidableEq τ]

/-- The thread can call a method: the control mutex is free and the thread is not in `Stop`. -/
def mayCall (s : CanSystem τ) (thread : τ) : Bool :=
  s.control = .free ∧ thread ∉ s.stops

/-- The thread can lock the poll mutex. -/
def mayPoll (s : CanSystem τ) (thread : τ) : Bool :=
  s.polls.all fun call => call.thread = thread

/-- The system after an action of one thread, of the driver or of a callback. -/
def step (s : CanSystem τ) : CanAction τ → CanSystem τ
  | .start thread valid interrupt deviceReady filterResult startResult =>
    if s.mayCall thread then
      let result := s.adapter.start valid interrupt deviceReady filterResult startResult
      { s with
        adapter := result.2
        control :=
          match result.1 with
          | .ok status => .startWaiting status
          | .error _ => .free }
    else s
  | .send thread frame interrupt =>
    if s.mayCall thread then
      let result := s.adapter.send frame interrupt
      match result.1 with
      | .ok _ =>
        { s with
          adapter := result.2
          control := .pumping .send
          admitted := s.admitted ++ [.ofCanFrame frame] }
      | .error _ => { s with adapter := result.2 }
    else s
  | .poll thread interrupt =>
    if s.mayCall thread ∧ s.mayPoll thread then
      match s.adapter.poll thread interrupt with
      | .ok call => { s with control := .pumping (.pollBegin call) }
      | .error _ => s
    else s
  | .stop thread interrupt stopResult =>
    if s.mayCall thread then
      let result := s.adapter.stop thread interrupt stopResult
      match result.1 with
      | .ok true => { s with adapter := result.2, control := .stopWaiting }
      | .ok false => { s with adapter := result.2, stops := thread :: s.stops }
      | .error _ => { s with adapter := result.2 }
    else s
  | .pump =>
    match s.control with
    | .pumping after =>
      match s.adapter.pumpTransmit with
      | (some frame, adapter) => { s with adapter := adapter, control := .sending frame after }
      | (none, adapter) => { s with adapter := adapter, control := after.control }
    | _ => s
  | .accept =>
    match s.control with
    | .sending frame after =>
      { s with
        control := .sent frame after
        controller := s.controller ++ [frame]
        accepted := s.accepted ++ [frame] }
    | _ => s
  | .refuse error =>
    match s.control with
    | .sending _ after =>
      if error = .success then s
      else { s with adapter := s.adapter.sendRefused error, control := after.control }
    | _ => s
  | .sent =>
    match s.control with
    | .sent _ after => { s with adapter := s.adapter.sendAccepted, control := .pumping after }
    | _ => s
  | .pollRound =>
    match s.control with
    | .polling call =>
      let result := s.adapter.pollRound call
      { s with
        adapter := result.2
        control := result.1.control
        polls :=
          match result.1 with
          | .dispatch _ _ call => call :: s.polls
          | _ => s.polls }
    | _ => s
  | .returned thread status =>
    match s.polls with
    | call :: polls =>
      if s.mayCall thread ∧ call.thread = thread then
        let result := s.adapter.pollAccepted call status
        { s with adapter := result.2, control := result.1.control, polls := polls }
      else s
    | [] => s
  | .relock thread =>
    if s.control = .free ∧ thread ∈ s.stops ∧ s.mayPoll thread then
      { s with control := .stopWaiting, stops := s.stops.erase thread }
    else s
  | .waited =>
    if s.adapter.active = 0 then
      match s.control with
      | .startWaiting _ => { s with adapter := s.adapter.startFailed, control := .free }
      | .stopWaiting => { s with adapter := s.adapter.stopFinished, control := .free }
      | _ => s
    else s
  | .complete index error =>
    if index < s.controller.length then
      { s with
        adapter := s.adapter.enter
        callbacks := s.callbacks ++ [.completeEntered error]
        controller := s.controller.eraseIdx index }
    else s
  | .receive frame =>
    { s with adapter := s.adapter.enter, callbacks := s.callbacks ++ [.receiveEntered frame] }
  | .callback index nowNs =>
    match s.callbacks[index]? with
    | none => s
    | some callback =>
      let result := s.adapter.callback nowNs callback
      { s with
        adapter := result.2
        callbacks :=
          match result.1 with
          | some callback => s.callbacks.set index callback
          | none => s.callbacks.eraseIdx index }

/-- A new adapter with queues of any depth. -/
def construct (receiveQueueDepth transmitQueueDepth : Nat) (callbackFenceBound : Bool) :
    CanSystem τ where
  adapter :=
    { receiveQueueDepth := receiveQueueDepth
      transmitQueueDepth := transmitQueueDepth
      callbackFenceBound := callbackFenceBound }

end CanSystem

end AsterCtrl.Zephyr
