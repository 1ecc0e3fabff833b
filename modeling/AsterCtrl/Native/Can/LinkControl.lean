import AsterCtrl.Native.Can.ControlPlane
import AsterCtrl.Native.Can.ReliablePath

/-!
# The CAN link control plane

`CanLinkControlPlane` of `link_control.hpp`: it exchanges handshakes over the reliable path,
heartbeats and time stamps with the peer, and opens the gate for application frames when the
peer is compatible, alive and synchronised.

The results of `Accept` name what the rest of the system cannot see in the state: the handshake
of the peer that was decoded, the heartbeat that was observed, and whether a restart of the
peer was detected.

Left out: the physical writer and the clock as pointers (`ConfigValid` asks whether they are
null), and of the execution context everything but whether it is an interrupt.
-/

namespace AsterCtrl.Can

structure CanLinkControlConfig where
  localHandshake : Handshake
  peerNodeId : UInt8
  timeAuthority : Bool := false
  handshakePeriodNs : UInt64 := 1000000000
  heartbeatPeriodNs : UInt64 := 100000000
  heartbeatTimeoutNs : UInt64 := 300000000
  timeSyncPeriodNs : UInt64 := 10000000
  recoverySamples : UInt8 := 3
  retryTimeoutNs : UInt64 := 20000000
  maximumRetries : UInt8 := 2
  reassemblyTimeoutNs : UInt64 := 100000000
deriving DecidableEq

structure CanLinkControlStats where
  handshakeMessages : UInt32 := 0
  handshakeRetries : UInt32 := 0
  heartbeatMessages : UInt32 := 0
  timeSyncMessages : UInt32 := 0
  receivedControlFrames : UInt32 := 0
  invalidControlFrames : UInt32 := 0
  blockedApplicationFrames : UInt32 := 0
  forwardedApplicationFrames : UInt32 := 0
  handshakeFailures : UInt32 := 0
  handshakeBackpressure : UInt32 := 0
  handshakeReassemblyTimeouts : UInt32 := 0
  duplicateHeartbeats : UInt32 := 0
  staleHeartbeats : UInt32 := 0
  peerRestarts : UInt32 := 0
deriving DecidableEq, Repr

structure CanLinkControlPlane where
  config : CanLinkControlConfig
  heartbeat : HeartbeatMonitor
  timeSync : TimeSyncFollower := {}
  handshakeSender : ReliableSender HandshakeCodec.kEncodedSize := {}
  handshakeReceiver : ReliableReceiver HandshakeCodec.kEncodedSize
  handshakePayload : List UInt8 := List.replicate HandshakeCodec.kEncodedSize 0
  nextHandshakeNs : UInt64 := 0
  nextHeartbeatNs : UInt64 := 0
  nextTimeSyncNs : UInt64 := 0
  lastPollNs : UInt64 := 0
  compatibility : Compatibility := .protocolMismatch
  handshakeSequence : UInt8 := 0
  heartbeatSequence : UInt8 := 0
  timeSyncSequence : UInt8 := 0
  peerHeartbeatSequence : UInt8 := 0
  peerUptimeMs : UInt32 := 0
  valid : Bool := false
  handshakeReceived : Bool := false
  applicationEnabled : Bool := false
  handshakeScheduled : Bool := false
  heartbeatScheduled : Bool := false
  timeSyncScheduled : Bool := false
  hasLastPoll : Bool := false
  hasPeerHeartbeat : Bool := false
  stats : CanLinkControlStats := {}

/-- What `Accept` leaves behind. -/
structure LinkControlResult where
  status : Status
  plane : CanLinkControlPlane
  writer : CanFrameWriter
  /-- The handshake that `AcceptHandshake` decoded, if it is from the configured peer. -/
  decoded : Option Handshake := none
  /-- The sequence of the heartbeat passed to `heartbeat_.Observe`. -/
  observed : Option UInt8 := none
  /-- Whether `HandlePeerRestart` ran. -/
  restarted : Bool := false

/-- `ConfigValid`, given whether the writer and the clock are set. -/
def CanLinkControlConfig.isValid (config : CanLinkControlConfig) (writerSet clockSet : Bool) :
    Bool :=
  config.localHandshake.protocolVersion ≠ 0 ∧ config.localHandshake.nodeId ≠ 0 ∧
    config.peerNodeId ≠ 0 ∧ config.peerNodeId ≠ config.localHandshake.nodeId ∧
    config.handshakePeriodNs ≠ 0 ∧ config.heartbeatPeriodNs ≠ 0 ∧
    config.heartbeatTimeoutNs > config.heartbeatPeriodNs ∧ config.timeSyncPeriodNs ≠ 0 ∧
    config.recoverySamples ≠ 0 ∧ config.retryTimeoutNs ≠ 0 ∧ config.reassemblyTimeoutNs ≠ 0 ∧
    writerSet ∧ clockSet

namespace CanLinkControlPlane

/-- The constructor. -/
def construct (config : CanLinkControlConfig) (writerSet clockSet : Bool) :
    CanLinkControlPlane :=
  let plane : CanLinkControlPlane := {
    config := config
    heartbeat := { timeoutNs := config.heartbeatTimeoutNs
                   recoverySamples := config.recoverySamples }
    handshakeReceiver := { reassemblyTimeoutNs := config.reassemblyTimeoutNs } }
  if config.isValid writerSet clockSet = false then plane
  else
    match HandshakeCodec.encode config.localHandshake HandshakeCodec.kEncodedSize with
    | .error _ => plane
    | .ok payload =>
      { plane with
        handshakePayload := payload
        valid := payload.length = HandshakeCodec.kEncodedSize }

variable (s : CanLinkControlPlane)

/-- `compatible`. -/
def compatible : Bool :=
  s.handshakeReceived ∧ s.compatibility = .compatible

/-- `time_synchronized`. -/
def timeSynchronized : Bool :=
  s.config.timeAuthority ∨ s.timeSync.synchronized

/-- `RefreshApplicationGate`. -/
def refreshApplicationGate : CanLinkControlPlane :=
  { s with applicationEnabled :=
      s.compatible ∧ s.heartbeat.state = .online ∧ s.timeSynchronized }

/-- `StateFlags`. -/
def stateFlags : UInt8 :=
  (if s.compatible then 0x01 else 0) ||| (if s.applicationEnabled then 0x02 else 0) |||
    (if s.timeSynchronized then 0x04 else 0)

/-- `ToNetworkTime`. -/
def toNetworkTime (localTimeNs : UInt64) : UInt64 :=
  if s.config.timeAuthority then localTimeNs else s.timeSync.toNetworkTime localTimeNs

/-! ## Poll -/

/-- `PumpHandshake`. -/
def pumpHandshake (nowNs : UInt64) (writer : CanFrameWriter) :
    Status × CanLinkControlPlane × CanFrameWriter :=
  let pumped := s.handshakeSender.pump writer
  let sentFrame := pumped.2.2.offered.length > writer.offered.length
  let s := { s with handshakeSender := pumped.2.1 }
  if pumped.1 ≠ .ok then
    let backpressure := pumped.1 = .unavailable ∨ pumped.1 = .capacityExceeded
    (pumped.1,
      { s with stats.handshakeBackpressure :=
          if backpressure then s.stats.handshakeBackpressure + 1
          else s.stats.handshakeBackpressure },
      pumped.2.2)
  else if sentFrame ∧ s.handshakeSender.state = .waitingForAck then
    let armed := s.handshakeSender.armAckDeadline nowNs
    (armed.1, { s with handshakeSender := armed.2 }, pumped.2.2)
  else (.ok, s, pumped.2.2)

/-- The part of `Poll` that lets a half-received handshake time out. The receiver's `Poll` never
    returns `kOk`, so every status returned here ends `Poll`. -/
def pollReceiver (nowNs : UInt64) (writer : CanFrameWriter) :
    Status × CanLinkControlPlane × CanFrameWriter :=
  let polled := s.handshakeReceiver.poll nowNs
  let s := { s with handshakeReceiver := polled.2 }
  if polled.1 = .timeout then
    (.ok, { s with stats.handshakeReassemblyTimeouts := s.stats.handshakeReassemblyTimeouts + 1 },
      writer)
  else if polled.1 ≠ .unavailable then (polled.1, s, writer)
  else (.ok, s, writer)

/-- The part of `Poll` that goes on with a handshake stopped by a rejected write. -/
def resumeHandshake (nowNs : UInt64) (writer : CanFrameWriter) :
    Status × CanLinkControlPlane × CanFrameWriter :=
  if s.handshakeSender.state = .sending then s.pumpHandshake nowNs writer else (.ok, s, writer)

/-- The part of `Poll` that sends an unacknowledged handshake again. -/
def retryHandshake (nowNs : UInt64) (writer : CanFrameWriter) :
    Status × CanLinkControlPlane × CanFrameWriter :=
  if s.handshakeSender.state = .waitingForAck then
    let polled := s.handshakeSender.poll nowNs
    let s := { s with handshakeSender := polled.2 }
    if polled.1 = .ok then
      let s := { s with stats.handshakeRetries := s.stats.handshakeRetries + 1 }
      s.pumpHandshake nowNs writer
    else if polled.1 = .timeout then
      (.ok, { s with stats.handshakeFailures := s.stats.handshakeFailures + 1 }, writer)
    else if polled.1 ≠ .unavailable then (polled.1, s, writer)
    else (.ok, s, writer)
  else (.ok, s, writer)

/-- The part of `Poll` that starts a handshake when one is due. -/
def scheduleHandshake (nowNs : UInt64) (writer : CanFrameWriter) :
    Status × CanLinkControlPlane × CanFrameWriter :=
  if s.handshakeScheduled = false ∨ nowNs ≥ s.nextHandshakeNs then
    let started : Status × CanLinkControlPlane × CanFrameWriter :=
      if senderBusy s.handshakeSender.state then (.ok, s, writer)
      else
        let begun := s.handshakeSender.begin kHandshakeRouteId .critical s.handshakeSequence
          s.handshakePayload nowNs s.config.retryTimeoutNs s.config.maximumRetries
        let s := { s with handshakeSender := begun.2 }
        if begun.1 ≠ .ok then (begun.1, s, writer)
        else
          let s := { s with handshakeSequence := (s.handshakeSequence + 1) &&& 0x0f }
          let pumped := s.pumpHandshake nowNs writer
          let s := pumped.2.1
          if pumped.1 ≠ .ok then pumped
          else
            (.ok, { s with stats.handshakeMessages := s.stats.handshakeMessages + 1 }, pumped.2.2)
    let s := started.2.1
    if started.1 ≠ .ok then started
    else
      (.ok,
        { s with
          handshakeScheduled := true
          nextHandshakeNs := nowNs + s.config.handshakePeriodNs },
        started.2.2)
  else (.ok, s, writer)

/-- The part of `Poll` that sends a heartbeat when one is due. -/
def sendHeartbeat (nowNs : UInt64) (writer : CanFrameWriter) :
    Status × CanLinkControlPlane × CanFrameWriter :=
  if s.heartbeatScheduled = false ∨ nowNs ≥ s.nextHeartbeatNs then
    let heartbeat : Heartbeat := ⟨s.config.localHandshake.nodeId, s.heartbeatSequence, s.stateFlags,
      (nowNs / 1000000).toUInt32⟩
    let s := { s with heartbeatSequence := s.heartbeatSequence + 1 }
    match ControlFrameCodec.encodeHeartbeat heartbeat with
    | .error status => (status, s, writer)
    | .ok frame =>
      let sent := writer.send frame
      if sent.1 ≠ .ok then (sent.1, s, sent.2)
      else
        (.ok,
          { s with
            stats.heartbeatMessages := s.stats.heartbeatMessages + 1
            heartbeatScheduled := true
            nextHeartbeatNs := nowNs + s.config.heartbeatPeriodNs },
          sent.2)
  else (.ok, s, writer)

/-- The part of `Poll` that sends the time when it is due. -/
def sendTimeSync (nowNs : UInt64) (writer : CanFrameWriter) :
    Status × CanLinkControlPlane × CanFrameWriter :=
  if s.config.timeAuthority ∧ (s.timeSyncScheduled = false ∨ nowNs ≥ s.nextTimeSyncNs) then
    let sync : TimeSync := ⟨s.timeSyncSequence, (nowNs / 1000) &&& 0xffffffffffff⟩
    let s := { s with timeSyncSequence := s.timeSyncSequence + 1 }
    match ControlFrameCodec.encodeTimeSync sync with
    | .error status => (status, s, writer)
    | .ok frame =>
      let sent := writer.send frame
      if sent.1 ≠ .ok then (sent.1, s, sent.2)
      else
        (.ok,
          { s with
            stats.timeSyncMessages := s.stats.timeSyncMessages + 1
            timeSyncScheduled := true
            nextTimeSyncNs := nowNs + s.config.timeSyncPeriodNs },
          sent.2)
  else (.ok, s, writer)

/-- A part of `Poll` runs unless an earlier one returned a status other than `kOk`. -/
def andThen (result : Status × CanLinkControlPlane × CanFrameWriter)
    (next : CanLinkControlPlane → CanFrameWriter →
      Status × CanLinkControlPlane × CanFrameWriter) :
    Status × CanLinkControlPlane × CanFrameWriter :=
  if result.1 ≠ .ok then result else next result.2.1 result.2.2

/-- The condition under which `Poll` returns at once. -/
def pollRejected (nowNs : UInt64) (interrupt : Bool) : Bool :=
  s.valid = false ∨ interrupt = true ∨ (s.hasLastPoll = true ∧ nowNs < s.lastPollNs)

/-- `Poll`; `interrupt` tells whether the caller is an interrupt. -/
def poll (nowNs : UInt64) (interrupt : Bool) (writer : CanFrameWriter) :
    Status × CanLinkControlPlane × CanFrameWriter :=
  if s.pollRejected nowNs interrupt then (.invalidArgument, s, writer)
  else
    let s := { s with
      hasLastPoll := true, lastPollNs := nowNs, heartbeat := s.heartbeat.poll nowNs }
    let s := s.refreshApplicationGate
    let result := s.pollReceiver nowNs writer
    let result := andThen result fun s writer => s.resumeHandshake nowNs writer
    let result := andThen result fun s writer => s.retryHandshake nowNs writer
    let result := andThen result fun s writer => s.scheduleHandshake nowNs writer
    let result := andThen result fun s writer => s.sendHeartbeat nowNs writer
    andThen result fun s writer => s.sendTimeSync nowNs writer

/-! ## Accept -/

/-- `AcceptHandshake` once the acknowledgement is out. -/
def takeHandshake (received : ReceiveResult) (writer : CanFrameWriter) : LinkControlResult :=
  if received.status ≠ .ok then { status := received.status, plane := s, writer := writer }
  else
    match HandshakeCodec.decode received.message.payload with
    | .error _ => { status := .typeMismatch, plane := s, writer := writer }
    | .ok remote =>
      if remote.nodeId ≠ s.config.peerNodeId then
        { status := .typeMismatch, plane := s, writer := writer }
      else
        let compatibility := CompatibilityGuard.check s.config.localHandshake remote
        { status := if compatibility = .compatible then .ok else .typeMismatch
          plane := { s with handshakeReceived := true, compatibility := compatibility }
          writer := writer
          decoded := some remote }

/-- `AcceptHandshake`. -/
def acceptHandshake (frame : CanFrame) (receiveLocalTimeNs : UInt64) (writer : CanFrameWriter) :
    LinkControlResult :=
  if frame.size = 0 ∨ getFrameKind frame.header ≠ .reliable then
    { status := .invalidArgument, plane := s, writer := writer }
  else if getReliableSubtype frame.header = .ack then
    let handled := s.handshakeSender.handleAck frame
    { status := handled.1, plane := { s with handshakeSender := handled.2 }, writer := writer }
  else
    let received := s.handshakeReceiver.acceptAt frame receiveLocalTimeNs
    let s := { s with handshakeReceiver := received.2 }
    let acked := acknowledge writer received.1.acknowledgement
    if acked.1 ≠ .ok then { status := acked.1, plane := s, writer := acked.2 }
    else s.takeHandshake received.1 acked.2

/-- `HandlePeerRestart`. -/
def handlePeerRestart : CanLinkControlPlane :=
  { s with
    stats.peerRestarts := s.stats.peerRestarts + 1
    handshakeReceived := false
    compatibility := .protocolMismatch
    applicationEnabled := false
    handshakeScheduled := false
    handshakeSender := {}
    handshakeReceiver := s.handshakeReceiver.resetPeerHistory
    heartbeat := { timeoutNs := s.config.heartbeatTimeoutNs
                   recoverySamples := s.config.recoverySamples }
    timeSync := {} }

/-- What `AcceptHeartbeat` makes of a heartbeat of the peer: it goes back in time (a restart or
    a late one), it was seen before, or it is a new one. -/
inductive HeartbeatVerdict where
  | restart
  | stale
  | duplicate
  | fresh
deriving DecidableEq, Repr

/-- The comparison of `AcceptHeartbeat` with the last heartbeat of the peer. -/
def judgeHeartbeat (heartbeat : Heartbeat) : HeartbeatVerdict :=
  if s.hasPeerHeartbeat = false then .fresh
  else
    let sequenceDistance := heartbeat.sequence - s.peerHeartbeatSequence
    let uptimeDistance := heartbeat.uptimeMs - s.peerUptimeMs
    let uptimeMovedBackward := uptimeDistance > 0x7fffffff
    let restartSequence := heartbeat.sequence ≤ 1
    if uptimeMovedBackward ∧ (sequenceDistance ≤ 127 ∨ restartSequence) then .restart
    else if uptimeMovedBackward then .stale
    else if uptimeDistance = 0 ∧ sequenceDistance = 0 then .duplicate
    else if uptimeDistance = 0 ∧ sequenceDistance > 127 then .stale
    else .fresh

/-- The end of `AcceptHeartbeat`: the heartbeat is remembered and observed. -/
def observeHeartbeat (heartbeat : Heartbeat) (receiveLocalTimeNs : UInt64) : CanLinkControlPlane :=
  { s with
    hasPeerHeartbeat := true
    peerHeartbeatSequence := heartbeat.sequence
    peerUptimeMs := heartbeat.uptimeMs
    heartbeat := s.heartbeat.observe heartbeat.sequence receiveLocalTimeNs }

/-- `AcceptHeartbeat`. -/
def acceptHeartbeat (frame : CanFrame) (receiveLocalTimeNs : UInt64) (writer : CanFrameWriter) :
    LinkControlResult :=
  match ControlFrameCodec.decodeHeartbeat frame with
  | .error _ => { status := .typeMismatch, plane := s, writer := writer }
  | .ok heartbeat =>
    if heartbeat.nodeId ≠ s.config.peerNodeId then
      { status := .typeMismatch, plane := s, writer := writer }
    else
      match s.judgeHeartbeat heartbeat with
      | .restart =>
        { status := .ok
          plane := s.handlePeerRestart.observeHeartbeat heartbeat receiveLocalTimeNs
          writer := writer
          observed := some heartbeat.sequence
          restarted := true }
      | .stale =>
        { status := .unavailable
          plane := { s with stats.staleHeartbeats := s.stats.staleHeartbeats + 1 }
          writer := writer }
      | .duplicate =>
        { status := .unavailable
          plane := { s with stats.duplicateHeartbeats := s.stats.duplicateHeartbeats + 1 }
          writer := writer }
      | .fresh =>
        { status := .ok
          plane := s.observeHeartbeat heartbeat receiveLocalTimeNs
          writer := writer
          observed := some heartbeat.sequence }

/-- `AcceptTimeSync`. -/
def acceptTimeSync (frame : CanFrame) (receiveLocalTimeNs : UInt64) (writer : CanFrameWriter) :
    LinkControlResult :=
  if s.config.timeAuthority then { status := .unavailable, plane := s, writer := writer }
  else
    match ControlFrameCodec.decodeTimeSync frame with
    | .error _ => { status := .invalidArgument, plane := s, writer := writer }
    | .ok sync =>
      { status := .ok
        plane := { s with
          timeSync := s.timeSync.observe (sync.masterTimeUs * 1000) receiveLocalTimeNs }
        writer := writer }

/-- The end of `Accept`: count the frame and refresh the gate. -/
def finishAccept (result : LinkControlResult) : LinkControlResult :=
  let s := result.plane
  let invalid := result.status ≠ .ok ∧ result.status ≠ .unavailable
  let s := { s with
    stats.receivedControlFrames := s.stats.receivedControlFrames + 1
    stats.invalidControlFrames := if invalid then s.stats.invalidControlFrames + 1
      else s.stats.invalidControlFrames }
  { result with plane := s.refreshApplicationGate }

/-- `Accept`. -/
def accept (frame : CanFrame) (receiveLocalTimeNs : UInt64) (writer : CanFrameWriter) :
    LinkControlResult :=
  if s.valid = false then { status := .invalidArgument, plane := s, writer := writer }
  else
    let invalidControlFrame : LinkControlResult :=
      { status := .invalidArgument
        plane := { s with stats.invalidControlFrames := s.stats.invalidControlFrames + 1 }
        writer := writer }
    match CanArbitrationId.decode frame.arbitrationId with
    | none => invalidControlFrame
    | some id =>
      if id.priority ≠ .critical then invalidControlFrame
      else if id.routeId = kHandshakeRouteId then
        finishAccept (s.acceptHandshake frame receiveLocalTimeNs writer)
      else if id.routeId = kHeartbeatRouteId then
        finishAccept (s.acceptHeartbeat frame receiveLocalTimeNs writer)
      else if id.routeId = kTimeSyncRouteId then
        finishAccept (s.acceptTimeSync frame receiveLocalTimeNs writer)
      else { status := .unavailable, plane := s, writer := writer }

/-! ## The application writer -/

/-- `WriteApplication`. -/
def writeApplication (frame : CanFrame) (writer : CanFrameWriter) :
    Status × CanLinkControlPlane × CanFrameWriter :=
  match CanArbitrationId.decode frame.arbitrationId with
  | none => (.invalidArgument, s, writer)
  | some id =>
    if id.routeId < kFirstApplicationRouteId then (.invalidArgument, s, writer)
    else if s.applicationEnabled = false then
      (.unavailable,
        { s with stats.blockedApplicationFrames := s.stats.blockedApplicationFrames + 1 }, writer)
    else
      let sent := writer.send frame
      (sent.1,
        { s with stats.forwardedApplicationFrames :=
            if sent.1 = .ok then s.stats.forwardedApplicationFrames + 1
            else s.stats.forwardedApplicationFrames },
        sent.2)

end CanLinkControlPlane

end AsterCtrl.Can
