import AsterCtrl.Native.Can.ReliablePath
import AsterCtrl.ForStd.Run

/-!
# One reliable sender, one reliable receiver and the bus between them

The system in which the reliable path is used: a `ReliableSender` that sends message after
message on one arbitration id, message `i` with sequence `i mod 16`, a `ReliableReceiver`,
and two channels that keep the order of the frames but may lose any of them.

Everything the endpoints do not decide is in the action: times, payloads, which frame is
lost, when a frame arrives and what the writer reports.  A write that the driver rejects is
a `nextFrame`, a `loseData` of that frame and a `frameWritten` with the reported status.

The index of its message stands beside every frame in flight; neither endpoint sees it.
-/

namespace AsterCtrl.Can

/-- A route id that `CanArbitrationId::Encode` accepts, with the priority it is sent at. -/
structure Route where
  routeId : UInt16
  priority : CanPriority
  routeId_ne : routeId ≠ 0
  routeId_le : routeId ≤ kMaximumRouteId

/-- The arbitration id of all frames on the route. -/
def Route.arbitrationId (route : Route) : UInt16 :=
  (CanArbitrationId.encode route.priority route.routeId).2

/-- The sequence of message `i`. -/
def messageSequence (i : Nat) : UInt8 := UInt8.ofNat (i % 16)

structure ReliableLink (maximumPayload : Nat) where
  sender : ReliableSender maximumPayload := {}
  receiver : ReliableReceiver maximumPayload := {}
  /-- Data frames in flight, the oldest first. -/
  data : List (Nat × CanFrame) := []
  /-- Acknowledgements in flight, the oldest first. -/
  acks : List (Nat × CanFrame) := []
  /-- The payloads of the messages begun so far. -/
  sent : List (List UInt8) := []
  /-- The messages the receiver returned with `kOk`, with the index of the message whose
      frame completed them. -/
  delivered : List (Nat × List UInt8) := []
  /-- The index of the message whose frame arrived last. -/
  lastSeen : Nat := 0

inductive ReliableLinkAction where
  | begin (payload : List UInt8) (nowNs retryTimeoutNs : UInt64) (maximumRetries : UInt8)
  | nextFrame
  | frameWritten (token : UInt32) (status : Status)
  | armAckDeadline (nowNs : UInt64)
  | pollSender (nowNs : UInt64)
  | loseData (position : Nat)
  | deliverData (receiveTimeNs : Option UInt64)
  | pollReceiver (nowNs : UInt64)
  | loseAck (position : Nat)
  | deliverAck
  | skip

namespace ReliableLink

variable {maximumPayload : Nat}

/-- `Begin` of the next message; a refused one is not a message. -/
def begin (route : Route) (s : ReliableLink maximumPayload) (payload : List UInt8)
    (nowNs retryTimeoutNs : UInt64) (maximumRetries : UInt8) : ReliableLink maximumPayload :=
  let begun := s.sender.begin route.routeId route.priority (messageSequence s.sent.length) payload
    nowNs retryTimeoutNs maximumRetries
  { s with
    sender := begun.2
    sent := if begun.1 = .ok then s.sent ++ [payload] else s.sent }

variable (s : ReliableLink maximumPayload)

/-- `NextFrame`, with the frame put on the bus. -/
def nextFrame : ReliableLink maximumPayload :=
  match s.sender.nextFrame with
  | none => s
  | some (frame, _, sender) =>
    { s with sender := sender, data := s.data ++ [(s.sent.length - 1, frame)] }

/-- The oldest data frame in flight reaches the receiver, which may return a message and may
    answer with an acknowledgement. -/
def deliverData (receiveTimeNs : Option UInt64) : ReliableLink maximumPayload :=
  match s.data with
  | [] => s
  | (i, frame) :: data =>
    let received := s.receiver.receive frame receiveTimeNs
    { s with
      data := data
      receiver := received.2
      lastSeen := i
      acks := if received.1.acknowledgement.size ≠ 0 then
          s.acks ++ [(i, received.1.acknowledgement)] else s.acks
      delivered := if received.1.status = .ok then
          s.delivered ++ [(i, received.1.message.payload)] else s.delivered }

/-- The oldest acknowledgement in flight reaches the sender. -/
def deliverAck : ReliableLink maximumPayload :=
  match s.acks with
  | [] => s
  | (_, frame) :: acks => { s with acks := acks, sender := (s.sender.handleAck frame).2 }

def step (route : Route) (s : ReliableLink maximumPayload) :
    ReliableLinkAction → ReliableLink maximumPayload
  | .begin payload nowNs retryTimeoutNs maximumRetries =>
    s.begin route payload nowNs retryTimeoutNs maximumRetries
  | .nextFrame => s.nextFrame
  | .frameWritten token status => { s with sender := s.sender.onFrameWrite token status }
  | .armAckDeadline nowNs => { s with sender := (s.sender.armAckDeadline nowNs).2 }
  | .pollSender nowNs => { s with sender := (s.sender.poll nowNs).2 }
  | .loseData position => { s with data := s.data.eraseIdx position }
  | .deliverData receiveTimeNs => s.deliverData receiveTimeNs
  | .pollReceiver nowNs => { s with receiver := (s.receiver.poll nowNs).2 }
  | .loseAck position => { s with acks := s.acks.eraseIdx position }
  | .deliverAck => s.deliverAck
  | .skip => s

/-- Both endpoints as constructed; the receiver may have a reassembly timeout. -/
def init (reassemblyTimeoutNs : UInt64) : ReliableLink maximumPayload :=
  { receiver := { reassemblyTimeoutNs := reassemblyTimeoutNs } }

end ReliableLink

end AsterCtrl.Can
