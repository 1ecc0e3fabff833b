import AsterCtrl.Native.Can.Protocol

/-!
# Building blocks of the CAN control plane

`control_plane.hpp`: the three control messages with their codecs, the compatibility check, the
heartbeat monitor, the time follower and the freshness guard.

The codecs return `Except Status`: an output parameter is read by the callers only after
`kOk`.  Signed 64-bit arithmetic is that of `Int64`, whose division truncates like the
source's.
-/

namespace AsterCtrl.Can

def kHandshakeRouteId : UInt16 := 1
def kHeartbeatRouteId : UInt16 := 2
def kTimeSyncRouteId : UInt16 := 3

/-! ## Handshakes -/

inductive Compatibility where
  | compatible
  | protocolMismatch
  | deploymentMismatch
  | schemaMismatch
deriving DecidableEq, Repr

structure Handshake where
  protocolVersion : UInt8 := 0
  nodeId : UInt8 := 0
  deploymentHash : Vector UInt8 16 := Vector.replicate 16 0
  schemaHash : Vector UInt8 16 := Vector.replicate 16 0
deriving DecidableEq, Repr

namespace HandshakeCodec

/-- `HandshakeCodec::kEncodedSize`. -/
def kEncodedSize : Nat := 34

/-- `HandshakeCodec::Encode` into an output of `outputSize` bytes. -/
def encode (handshake : Handshake) (outputSize : Nat) : Except Status (List UInt8) :=
  if outputSize < kEncodedSize ∨ handshake.protocolVersion = 0 ∨ handshake.nodeId = 0 then
    .error (if outputSize < kEncodedSize then .capacityExceeded else .invalidArgument)
  else
    .ok (handshake.protocolVersion :: handshake.nodeId ::
      (handshake.deploymentHash.toList ++ handshake.schemaHash.toList))

/-- The 16 bytes from position `offset` on. -/
def readHash (input : List UInt8) (offset : Nat) : Vector UInt8 16 :=
  Vector.ofFn fun i => input.getD (offset + i) 0

/-- `HandshakeCodec::Decode`. -/
def decode (input : List UInt8) : Except Status Handshake :=
  if input.length ≠ kEncodedSize then .error .invalidArgument
  else
    let protocolVersion := input.getD 0 0
    let nodeId := input.getD 1 0
    if protocolVersion = 0 ∨ nodeId = 0 then .error .invalidArgument
    else .ok ⟨protocolVersion, nodeId, readHash input 2, readHash input 18⟩

end HandshakeCodec

/-- `CompatibilityGuard::Check`. -/
def CompatibilityGuard.check (localHandshake remote : Handshake) : Compatibility :=
  if localHandshake.protocolVersion ≠ remote.protocolVersion then .protocolMismatch
  else if localHandshake.deploymentHash ≠ remote.deploymentHash then .deploymentMismatch
  else if localHandshake.schemaHash ≠ remote.schemaHash then .schemaMismatch
  else .compatible

/-! ## Heartbeats and time synchronisation on the wire -/

structure Heartbeat where
  nodeId : UInt8
  sequence : UInt8
  stateFlags : UInt8
  uptimeMs : UInt32
deriving DecidableEq, Repr

structure TimeSync where
  sequence : UInt8
  masterTimeUs : UInt64
deriving DecidableEq, Repr

namespace ControlFrameCodec

/-- `ControlFrameCodec::EncodeHeartbeat`. -/
def encodeHeartbeat (heartbeat : Heartbeat) : Except Status CanFrame :=
  if heartbeat.nodeId = 0 then .error .invalidArgument
  else
    let encoded := CanArbitrationId.encode .critical kHeartbeatRouteId
    if encoded.1 ≠ .ok then .error encoded.1
    else .ok ⟨encoded.2, 8, frameData (0xc0 :: heartbeat.nodeId :: heartbeat.sequence ::
      heartbeat.stateFlags :: writeLE 4 heartbeat.uptimeMs.toNat)⟩

/-- A critical control frame of the route with all eight bytes and this header. -/
def isControlFrame (frame : CanFrame) (routeId : UInt16) (header : UInt8) : Bool :=
  match CanArbitrationId.decode frame.arbitrationId with
  | none => false
  | some id => id.priority = .critical ∧ id.routeId = routeId ∧ frame.size = 8 ∧
      frame.header = header

/-- `ControlFrameCodec::DecodeHeartbeat`. -/
def decodeHeartbeat (frame : CanFrame) : Except Status Heartbeat :=
  if isControlFrame frame kHeartbeatRouteId 0xc0 = false then .error .invalidArgument
  else if frame.second = 0 then .error .invalidArgument
  else .ok ⟨frame.second, frame.data[2], frame.data[3],
    UInt32.ofNat (readLE 4 (frame.data.toList.drop 4))⟩

/-- `ControlFrameCodec::EncodeTimeSync`. -/
def encodeTimeSync (sync : TimeSync) : Except Status CanFrame :=
  if sync.masterTimeUs > 0xffffffffffff then .error .invalidArgument
  else
    let encoded := CanArbitrationId.encode .critical kTimeSyncRouteId
    if encoded.1 ≠ .ok then .error encoded.1
    else .ok ⟨encoded.2, 8, frameData (0xc1 :: sync.sequence ::
      writeLE 6 sync.masterTimeUs.toNat)⟩

/-- `ControlFrameCodec::DecodeTimeSync`. -/
def decodeTimeSync (frame : CanFrame) : Except Status TimeSync :=
  if isControlFrame frame kTimeSyncRouteId 0xc1 = false then .error .invalidArgument
  else .ok ⟨frame.second, UInt64.ofNat (readLE 6 (frame.data.toList.drop 2))⟩

end ControlFrameCodec

/-! ## Heartbeat monitor -/

inductive LinkState where
  | lost
  | recovering
  | online
deriving DecidableEq, Repr

structure HeartbeatMonitor where
  timeoutNs : UInt64
  lastObservationNs : UInt64 := 0
  recoverySamples : UInt8
  consecutiveSamples : UInt8 := 0
  lastSequence : UInt8 := 0
  hasObservation : Bool := false
  state : LinkState := .lost
deriving DecidableEq, Repr

namespace HeartbeatMonitor

/-- `HeartbeatMonitor::Observe`. -/
def observe (m : HeartbeatMonitor) (sequence : UInt8) (nowNs : UInt64) : HeartbeatMonitor :=
  let consecutiveSamples :=
    if m.hasObservation = false ∨ m.state = .lost ∨ sequence ≠ m.lastSequence + 1 then 1
    else if m.consecutiveSamples < m.recoverySamples then m.consecutiveSamples + 1
    else m.consecutiveSamples
  { m with
    consecutiveSamples := consecutiveSamples
    hasObservation := true
    lastSequence := sequence
    lastObservationNs := nowNs
    state := if consecutiveSamples ≥ m.recoverySamples then .online else .recovering }

/-- The condition under which `Poll` declares the link lost. -/
def timedOut (m : HeartbeatMonitor) (nowNs : UInt64) : Bool :=
  m.hasObservation = false ∨ nowNs - m.lastObservationNs ≥ m.timeoutNs

/-- `HeartbeatMonitor::Poll`. -/
def poll (m : HeartbeatMonitor) (nowNs : UInt64) : HeartbeatMonitor :=
  if m.timedOut nowNs then { m with state := .lost, consecutiveSamples := 0 } else m

end HeartbeatMonitor

/-! ## Time follower -/

structure TimeSyncFollower where
  offsetNs : Int64 := 0
  synchronized : Bool := false
deriving DecidableEq

namespace TimeSyncFollower

/-- `TimeSyncFollower::Observe`. -/
def observe (f : TimeSyncFollower) (masterTimeNs localReceiveTimeNs : UInt64) :
    TimeSyncFollower :=
  let sample := masterTimeNs.toInt64 - localReceiveTimeNs.toInt64
  if f.synchronized = false then ⟨sample, true⟩
  else { f with offsetNs := f.offsetNs + (sample - f.offsetNs) / 8 }

/-- `TimeSyncFollower::ToNetworkTime`. -/
def toNetworkTime (f : TimeSyncFollower) (localTimeNs : UInt64) : UInt64 :=
  if f.synchronized = false then localTimeNs
  else
    let converted := localTimeNs.toInt64 + f.offsetNs
    if converted ≤ 0 then 0 else converted.toUInt64

end TimeSyncFollower

/-! ## Freshness guard -/

inductive RearmPolicy where
  | automatic
  | freshSample
  | explicit
deriving DecidableEq, Repr

inductive FreshnessState where
  | unarmed
  | fresh
  | stale
deriving DecidableEq, Repr

structure FreshnessConfig where
  deadlineNs : UInt64 := 0
  maxAgeNs : UInt64 := 0
  rearm : RearmPolicy := .freshSample
deriving DecidableEq, Repr

structure FreshnessGuard where
  config : FreshnessConfig
  lastReceiveNs : UInt64 := 0
  lastSequence : UInt8 := 0
  hasSample : Bool := false
  explicitlyRearmed : Bool := false
  state : FreshnessState := .unarmed
deriving DecidableEq, Repr

namespace FreshnessGuard

variable (g : FreshnessGuard)

/-- `FreshnessGuard::Observe`; the state it returns is that of the new guard. -/
def observe (sequence : UInt8) (sourceTimestampNs receiveTimestampNs : UInt64) : FreshnessGuard :=
  let age := if sourceTimestampNs > receiveTimestampNs then 0
    else receiveTimestampNs - sourceTimestampNs
  let g := { g with
    lastSequence := sequence, lastReceiveNs := receiveTimestampNs, hasSample := true }
  if g.config.maxAgeNs ≠ 0 ∧ age > g.config.maxAgeNs then { g with state := .stale }
  else if g.state = .stale ∧ g.config.rearm = .explicit ∧ g.explicitlyRearmed = false then g
  else { g with explicitlyRearmed := false, state := .fresh }

/-- `FreshnessGuard::Poll`. -/
def poll (nowNs : UInt64) : FreshnessGuard :=
  if g.hasSample = false then g
  else if g.config.deadlineNs ≠ 0 ∧ nowNs - g.lastReceiveNs ≥ g.config.deadlineNs then
    { g with state := .stale }
  else g

/-- `FreshnessGuard::Rearm`. -/
def rearm : FreshnessGuard := { g with explicitlyRearmed := true }

/-- `FreshnessGuard::Reset`. -/
def reset : FreshnessGuard := { config := g.config }

end FreshnessGuard

end AsterCtrl.Can
