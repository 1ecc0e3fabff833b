import AsterCtrl.Native.Can.LinkControl
import AsterCtrl.Native.Can.ReliableChannelBridge
import AsterCtrl.Native.Can.RpcServer

/-!
# The CAN transport module

`CanChannelTransportModule` of `channel_transport_module.hpp`: it owns the control plane and the
routes, hands every received frame to the plane or to the route it is for, and polls all of
them from one work item that posts itself again.

A call of `PollOnce` is cut in two.  `arrive` is one frame that the adapter hands over inside
its `Poll`, and `finishPoll` is everything after that `Poll` has returned, so a call of `PollOnce`
is any number of `arrive`s followed by one `finishPoll`.  What the other side of an interface
answers (adapter, clock, executor, channel, backend, physical writer) is an argument.

The routes write through `application_writer()`, that is through `WriteApplication` of the plane.
Its answers depend on the gate, which no route changes, so a route gets a plain writer whose
answers are those of the gate (`applicationWriter`), and the plane's counters and the physical
writer are brought up to date afterwards (`afterApplication`).

Left out: `Info`, the contexts of the work items except for whether the caller is an interrupt,
and the completions and messages that the routes pass on, which belong to the models of the
routes.  The services of the RPC routes are existential, as in the source, whose table holds
type-erased functions.
-/

namespace AsterCtrl

namespace Can

/-! ## Writing through the gate -/

namespace CanLinkControlPlane

/-- `application_writer()` over a physical writer, as long as the gate stays as it is. -/
def applicationWriter (s : CanLinkControlPlane) (writer : CanFrameWriter) : CanFrameWriter where
  outcome k := if s.applicationEnabled then writer.outcome k else .unavailable

/-- The plane and the physical writer after `used`, which started as `applicationWriter`. -/
def afterApplication (s : CanLinkControlPlane) (writer used : CanFrameWriter) :
    CanLinkControlPlane × CanFrameWriter :=
  if s.applicationEnabled then
    ({ s with stats.forwardedApplicationFrames :=
        s.stats.forwardedApplicationFrames + UInt32.ofNat used.accepted.length },
      ⟨used.outcome, writer.offered ++ used.offered⟩)
  else
    ({ s with stats.blockedApplicationFrames :=
        s.stats.blockedApplicationFrames + UInt32.ofNat used.offered.length },
      writer)

end CanLinkControlPlane

/-! ## Routes -/

inductive ChannelReliability where
  | bestEffort
  | reliable
deriving DecidableEq, Repr

structure EgressConfig where
  routeId : UInt16
  descriptor : ChannelDescriptor
  reliability : ChannelReliability := .bestEffort
  priority : CanPriority := .state
  minimumPeriodNs : UInt64 := 0
deriving DecidableEq

structure IngressConfig where
  routeId : UInt16
  descriptor : ChannelDescriptor
  reliability : ChannelReliability := .bestEffort
  freshness : FreshnessConfig := {}
deriving DecidableEq

/-- `EgressRoute`: two optionals, both empty until `Initialize` fills one of them. -/
inductive EgressChannel (maximumMessageSize : Nat) where
  | empty
  | fast (egress : FastChannelEgress maximumMessageSize)
  | reliable (egress : ReliableChannelEgress maximumMessageSize)

/-- `IngressRoute`: two optionals, both empty until `Initialize` fills one of them. -/
inductive IngressChannel (maximumMessageSize : Nat) where
  | empty
  | fast (ingress : FastChannelIngress maximumMessageSize)
  | reliable (ingress : ReliableChannelIngress maximumMessageSize)

structure EgressRoute (maximumMessageSize : Nat) where
  config : EgressConfig
  channel : EgressChannel maximumMessageSize := .empty

structure IngressRoute (maximumMessageSize : Nat) where
  config : IngressConfig
  channel : IngressChannel maximumMessageSize := .empty

structure RpcClientRoute where
  routeId : UInt16
  service : RpcService
  client : CanRpcClient service Nat

structure RpcServerRoute where
  routeId : UInt16
  service : RpcService
  server : CanRpcServer service

/-- What a route needs from the other side when a frame arrives: the answer of the channel to
    `Publish`, the backend of the RPC servers and the network clock they read. -/
structure ArrivalEnv where
  publish : Status := .ok
  backend : BackendOutcome := {}
  clock : ClockReading := {}

def EgressRoute.isReliable {maximumMessageSize : Nat} (r : EgressRoute maximumMessageSize) :
    Bool :=
  match r.channel with
  | .reliable _ => true
  | _ => false

/-- The egress routes take only acknowledgements. -/
def EgressRoute.accept {maximumMessageSize : Nat} (r : EgressRoute maximumMessageSize)
    (frame : CanFrame) (writer : CanFrameWriter) :
    Status × EgressRoute maximumMessageSize × CanFrameWriter :=
  match r.channel with
  | .reliable egress =>
    let accepted := egress.acceptAcknowledgement frame
    (accepted.1, { r with channel := .reliable accepted.2 }, writer)
  | _ => (.unavailable, r, writer)

/-- The route of an ingress without a channel is never asked: frames are passed on only by a
    running module. -/
def IngressRoute.accept {maximumMessageSize : Nat} (r : IngressRoute maximumMessageSize)
    (frame : CanFrame) (receiveNetworkTimeNs : UInt64) (publish : Status)
    (writer : CanFrameWriter) : Status × IngressRoute maximumMessageSize × CanFrameWriter :=
  match r.channel with
  | .empty => (.unavailable, r, writer)
  | .fast ingress =>
    let accepted := ingress.accept frame receiveNetworkTimeNs publish
    (accepted.status, { r with channel := .fast accepted.ingress }, writer)
  | .reliable ingress =>
    let accepted := ingress.accept frame receiveNetworkTimeNs publish writer
    (accepted.status, { r with channel := .reliable accepted.ingress }, accepted.writer)

/-- `AcceptRpcClient`; `Accept` of the client does not use the time. -/
def RpcClientRoute.accept (r : RpcClientRoute) (frame : CanFrame) (writer : CanFrameWriter) :
    Status × RpcClientRoute × CanFrameWriter :=
  let accepted := r.client.accept frame writer
  (accepted.status, { r with client := accepted.client }, accepted.writer)

variable (r : RpcServerRoute)

/-- `AcceptRpcServer`. -/
def RpcServerRoute.accept (frame : CanFrame) (receiveNetworkTimeNs : UInt64) (env : ArrivalEnv)
    (writer : CanFrameWriter) : Status × RpcServerRoute × CanFrameWriter :=
  let accepted := r.server.accept frame receiveNetworkTimeNs env.backend env.clock writer
  (accepted.status, { r with server := accepted.server }, accepted.writer)

/-- The part of `PollOnce` for one egress route; a best-effort egress is not polled. -/
def EgressRoute.poll {maximumMessageSize : Nat} (r : EgressRoute maximumMessageSize)
    (networkNowNs : UInt64) (writer : CanFrameWriter) :
    Status × EgressRoute maximumMessageSize × CanFrameWriter :=
  match r.channel with
  | .reliable egress =>
    let polled := egress.poll networkNowNs writer
    (polled.1, { r with channel := .reliable polled.2.1 }, polled.2.2)
  | _ => (.ok, r, writer)

/-- The part of `PollOnce` for one ingress route; of a best-effort ingress only the freshness is
    polled, which has no status. -/
def IngressRoute.poll {maximumMessageSize : Nat} (r : IngressRoute maximumMessageSize)
    (networkNowNs : UInt64) (writer : CanFrameWriter) :
    Status × IngressRoute maximumMessageSize × CanFrameWriter :=
  match r.channel with
  | .empty => (.ok, r, writer)
  | .fast ingress =>
    (.ok, { r with channel := .fast { ingress with
      freshness := ingress.freshness.poll networkNowNs } }, writer)
  | .reliable ingress =>
    let polled := ingress.poll networkNowNs
    (polled.1, { r with channel := .reliable polled.2 }, writer)

/-- `PollRpcClient`. -/
def RpcClientRoute.poll (r : RpcClientRoute) (networkNowNs : UInt64) (writer : CanFrameWriter) :
    Status × RpcClientRoute × CanFrameWriter :=
  let polled := r.client.poll networkNowNs writer
  (polled.status, { r with client := polled.client }, polled.writer)

/-- `PollRpcServer`. -/
def RpcServerRoute.poll (networkNowNs : UInt64) (writer : CanFrameWriter) :
    Status × RpcServerRoute × CanFrameWriter :=
  let polled := r.server.poll networkNowNs writer
  (polled.status, { r with server := polled.server }, polled.writer)

def EgressRoute.resetPeer {maximumMessageSize : Nat} (r : EgressRoute maximumMessageSize) :
    EgressRoute maximumMessageSize :=
  match r.channel with
  | .reliable egress => { r with channel := .reliable egress.resetPeer }
  | _ => r

def IngressRoute.resetPeer {maximumMessageSize : Nat} (r : IngressRoute maximumMessageSize) :
    IngressRoute maximumMessageSize :=
  match r.channel with
  | .empty => r
  | .fast ingress => { r with channel := .fast ingress.resetPeer }
  | .reliable ingress => { r with channel := .reliable ingress.resetPeer }

/-- `ResetRpcClient`. -/
def RpcClientRoute.resetPeer (r : RpcClientRoute) : RpcClientRoute :=
  { r with client := r.client.resetPeer.1 }

/-- `ResetRpcServer`. -/
def RpcServerRoute.resetPeer : RpcServerRoute :=
  { r with server := r.server.resetPeer }

/-! ## The module -/

structure CanChannelTransportModuleStats where
  polls : UInt32 := 0
  pollFailures : UInt32 := 0
  scheduleFailures : UInt32 := 0
  peerResets : UInt32 := 0
  lastFailure : Status := .ok
deriving DecidableEq, Repr

/-- `RecordPoll`. -/
def CanChannelTransportModuleStats.recordPoll (stats : CanChannelTransportModuleStats)
    (status : Status) : CanChannelTransportModuleStats :=
  if status ≠ .ok ∧ status ≠ .unavailable ∧ status ≠ .timeout ∧ status ≠ .capacityExceeded then
    { stats with pollFailures := stats.pollFailures + 1, lastFailure := status }
  else stats

/-- The capacities of the four route tables. -/
structure RouteCapacities where
  egress : Nat
  ingress : Nat
  rpcClients : Nat
  rpcServers : Nat
deriving DecidableEq, Repr

structure CanChannelTransportModule (maximumMessageSize : Nat) where
  name : String
  capacities : RouteCapacities
  control : CanLinkControlPlane
  pollIntervalNs : UInt64
  retryTimeoutNs : UInt64 := 5000000
  reassemblyTimeoutNs : UInt64 := 100000000
  maximumRetries : UInt8 := 2
  egress : List (EgressRoute maximumMessageSize) := []
  ingress : List (IngressRoute maximumMessageSize) := []
  rpcClients : List RpcClientRoute := []
  rpcServers : List RpcServerRoute := []
  observedPeerRestarts : UInt32 := 0
  configurationSealed : Bool := false
  initialized : Bool := false
  adapterStarted : Bool := false
  running : Bool := false
  stats : CanChannelTransportModuleStats := {}

/-- The table a frame was passed to. -/
inductive RouteTable where
  | egress
  | ingress
  | rpcClient
  | rpcServer
deriving DecidableEq, Repr

/-- What `Accept` leaves behind: beside the status, the table whose route got the frame and
    whether the control plane counted a restart of the peer. -/
structure TransportAcceptResult (maximumMessageSize : Nat) where
  status : Status
  transport : CanChannelTransportModule maximumMessageSize
  passed : Option RouteTable := none
  restarted : Bool := false

/-- What the other sides of `PollOnce` answer: `adapter_.Poll`, the clock, `executor_.TryPostAt`
    and the physical writer; `interrupt` tells whether the caller is an interrupt. -/
structure PollEnv where
  adapterStatus : Status := .unavailable
  clock : ClockReading
  post : Status := .ok
  outcome : Nat → Status := fun _ => .ok
  interrupt : Bool := false

/-- What the other sides of `Initialize` answer: whether the core has the four services, and the
    status of the `k`-th registration with the registries. -/
structure InitializeEnv where
  executorSet : Bool := true
  clockSet : Bool := true
  channelSet : Bool := true
  rpcSet : Bool := true
  registered : Nat → Status := fun _ => .ok

/-- What the other sides of `Start` answer. -/
structure StartEnv where
  ready : Status := .ok
  start : Status := .ok
  clock : ClockReading
  post : Status := .ok
  stop : Status := .ok

/-- `ValidRouteId`. -/
def validRouteId (routeId : UInt16) : Bool :=
  routeId ≥ kFirstApplicationRouteId ∧ routeId ≤ kMaximumRouteId

/-- Apply an operation to the first element that meets the condition, as the search loops of
    `Accept` do. -/
def updateFirst {ρ β : Type*} (p : ρ → Bool) (f : ρ → β × ρ) : List ρ → Option (β × List ρ)
  | [] => none
  | r :: rs =>
    if p r then some ((f r).1, (f r).2 :: rs)
    else (updateFirst p f rs).map fun result => (result.1, r :: result.2)

namespace CanChannelTransportModule

variable {maximumMessageSize : Nat}

/-- The constructor. -/
def construct (name : String) (capacities : RouteCapacities) (control : CanLinkControlConfig)
    (writerSet : Bool) (pollIntervalNs retryTimeoutNs reassemblyTimeoutNs : UInt64)
    (maximumRetries : UInt8) : CanChannelTransportModule maximumMessageSize where
  name := name
  capacities := capacities
  control := .construct control writerSet true
  pollIntervalNs := pollIntervalNs
  retryTimeoutNs := retryTimeoutNs
  reassemblyTimeoutNs := reassemblyTimeoutNs
  maximumRetries := maximumRetries

/-! ### Configuration -/

/-- `Valid`. -/
def validChannel (maximumMessageSize : Nat) (routeId : UInt16) (descriptor : ChannelDescriptor) :
    Bool :=
  validRouteId routeId ∧ descriptor.name ≠ "" ∧ descriptor.messageType.name ≠ "" ∧
    descriptor.messageType.maxSerializedSize ≠ 0 ∧
    descriptor.messageType.maxSerializedSize ≤ maximumMessageSize

variable (m : CanChannelTransportModule maximumMessageSize)

/-- `HasRoute`. -/
def hasRoute (routeId : UInt16) : Bool :=
  m.egress.any (fun r => r.config.routeId = routeId) ||
    m.ingress.any (fun r => r.config.routeId = routeId) ||
    m.rpcClients.any (fun r => r.routeId = routeId) ||
    m.rpcServers.any (fun r => r.routeId = routeId)

/-- The checks of the four `Add` functions, which differ in whether the route is valid and in
    how many of the slots of their table are in use. -/
def checkAdd (valid : Bool) (routeId : UInt16) (used capacity : Nat) : Status :=
  if m.configurationSealed = true ∨ valid = false then
    if m.configurationSealed then .invalidState else .invalidArgument
  else if m.hasRoute routeId then .alreadyExists
  else if used = capacity then .capacityExceeded
  else .ok

/-- `AddEgress`. -/
def addEgress (config : EgressConfig) : Status × CanChannelTransportModule maximumMessageSize :=
  let status := m.checkAdd (validChannel maximumMessageSize config.routeId config.descriptor)
    config.routeId m.egress.length m.capacities.egress
  (status, if status = .ok then { m with egress := m.egress ++ [{ config := config }] } else m)

/-- `AddIngress`. -/
def addIngress (config : IngressConfig) : Status × CanChannelTransportModule maximumMessageSize :=
  let status := m.checkAdd (validChannel maximumMessageSize config.routeId config.descriptor)
    config.routeId m.ingress.length m.capacities.ingress
  (status, if status = .ok then { m with ingress := m.ingress ++ [{ config := config }] } else m)

/-- `AddRpcClient`. -/
def addRpcClient (route : RpcClientRoute) : Status × CanChannelTransportModule maximumMessageSize :=
  let status := m.checkAdd (validRouteId route.routeId) route.routeId m.rpcClients.length
    m.capacities.rpcClients
  (status, if status = .ok then { m with rpcClients := m.rpcClients ++ [route] } else m)

/-- `AddRpcServer`. -/
def addRpcServer (route : RpcServerRoute) : Status × CanChannelTransportModule maximumMessageSize :=
  let status := m.checkAdd (validRouteId route.routeId) route.routeId m.rpcServers.length
    m.capacities.rpcServers
  (status, if status = .ok then { m with rpcServers := m.rpcServers ++ [route] } else m)

/-! ### Initialize -/

/-- The loops of `Initialize`: bind one route after the other until a binding fails. -/
def bindRoutes {ρ : Type*} (bind : ρ → Status → Status × ρ) (registered : Nat → Status) :
    Nat → List ρ → Status × List ρ
  | _, [] => (.ok, [])
  | k, r :: rs =>
    let bound := bind r (registered k)
    if bound.1 ≠ .ok then (bound.1, bound.2 :: rs)
    else
      let rest := bindRoutes bind registered (k + 1) rs
      (rest.1, bound.2 :: rest.2)

/-- The body of the first loop of `Initialize`. -/
def bindEgress (r : EgressRoute maximumMessageSize) (registered : Status) :
    Status × EgressRoute maximumMessageSize :=
  let maxSerializedSize := r.config.descriptor.messageType.maxSerializedSize
  match r.config.reliability with
  | .reliable =>
    let egress : ReliableChannelEgress maximumMessageSize := {
      routeId := r.config.routeId
      priority := r.config.priority
      minimumPeriodNs := r.config.minimumPeriodNs
      retryTimeoutNs := m.retryTimeoutNs
      maximumRetries := m.maximumRetries }
    let bound := egress.bind maxSerializedSize registered
    (bound.1, { r with channel := .reliable bound.2 })
  | .bestEffort =>
    let egress : FastChannelEgress maximumMessageSize := {
      routeId := r.config.routeId
      priority := r.config.priority
      minimumPeriodNs := r.config.minimumPeriodNs }
    let bound := egress.bind maxSerializedSize registered
    (bound.1, { r with channel := .fast bound.2 })

/-- The body of the second loop of `Initialize`. -/
def bindIngress (r : IngressRoute maximumMessageSize) (registered : Status) :
    Status × IngressRoute maximumMessageSize :=
  let maxSerializedSize := r.config.descriptor.messageType.maxSerializedSize
  match r.config.reliability with
  | .reliable =>
    let ingress : ReliableChannelIngress maximumMessageSize := {
      routeId := r.config.routeId
      freshness := { config := r.config.freshness }
      receiver := { reassemblyTimeoutNs := m.reassemblyTimeoutNs } }
    let bound := ingress.bind maxSerializedSize registered
    (bound.1, { r with channel := .reliable bound.2 })
  | .bestEffort =>
    let ingress : FastChannelIngress maximumMessageSize := {
      routeId := r.config.routeId
      freshness := { config := r.config.freshness } }
    let bound := ingress.bind maxSerializedSize registered
    (bound.1, { r with channel := .fast bound.2 })

/-- `BindRpcServer`. -/
def bindRpcServer (registered : Status) : Status × RpcServerRoute :=
  let bound := r.server.bind registered
  (bound.1, { r with server := bound.2 })

/-- The argument checks of `Initialize`. -/
def initializeRejected (env : InitializeEnv) : Bool :=
  m.name = "" ∨ m.pollIntervalNs = 0 ∨ m.retryTimeoutNs = 0 ∨ m.reassemblyTimeoutNs = 0 ∨
    m.egress.length + m.ingress.length + m.rpcClients.length + m.rpcServers.length = 0 ∨
    env.executorSet = false ∨ env.clockSet = false ∨
    (m.egress.length + m.ingress.length ≠ 0 ∧ env.channelSet = false) ∨
    (m.rpcClients.length + m.rpcServers.length ≠ 0 ∧ env.rpcSet = false)

/-- `Initialize`. -/
def initializeModule (env : InitializeEnv) :
    Status × CanChannelTransportModule maximumMessageSize :=
  if m.configurationSealed then (.invalidState, m)
  else
    let m := { m with configurationSealed := true }
    if m.initializeRejected env then (.invalidArgument, m)
    else
      let egress := bindRoutes m.bindEgress env.registered 0 m.egress
      let m := { m with egress := egress.2 }
      if egress.1 ≠ .ok then (egress.1, m)
      else
        let k := m.egress.length
        let ingress := bindRoutes m.bindIngress env.registered k m.ingress
        let m := { m with ingress := ingress.2 }
        if ingress.1 ≠ .ok then (ingress.1, m)
        else
          let k := k + m.ingress.length
          let servers := bindRoutes bindRpcServer env.registered k m.rpcServers
          let m := { m with rpcServers := servers.2 }
          if servers.1 ≠ .ok then (servers.1, m) else (.ok, { m with initialized := true })

/-! ### Start and Shutdown -/

/-- `Start`. -/
def start (env : StartEnv) : Status × CanChannelTransportModule maximumMessageSize :=
  if m.initialized = false ∨ m.running = true then (.invalidState, m)
  else if env.ready ≠ .ok then (env.ready, m)
  else if env.start ≠ .ok then (env.start, m)
  else
    let m := { m with adapterStarted := true, running := true }
    let status := if env.clock.status ≠ .ok then env.clock.status else env.post
    if status ≠ .ok then
      (status,
        if env.stop = .ok then { m with running := false, adapterStarted := false }
        else { m with running := false, stats.lastFailure := env.stop })
    else (status, m)

/-- `Shutdown`; `stop` is the answer of the adapter. -/
def shutdown (stop : Status) : CanChannelTransportModule maximumMessageSize :=
  let m := { m with running := false }
  if m.adapterStarted = false then m
  else if stop ≠ .ok then { m with stats.lastFailure := stop }
  else { m with adapterStarted := false }

/-! ### Accept -/

/-- The end of a route's `Accept`: the plane has written for the route. -/
def finishRoute (table : RouteTable) (status : Status) (writer used : CanFrameWriter) :
    TransportAcceptResult maximumMessageSize :=
  { status := status
    transport := { m with control := (m.control.afterApplication writer used).1 }
    passed := some table }

/-- `Accept` of an application frame through an open gate: the search loops in their order. -/
def acceptApplication (routeId : UInt16) (frame : CanFrame) (receiveTimeNs : UInt64)
    (env : ArrivalEnv) (writer : CanFrameWriter) : TransportAcceptResult maximumMessageSize :=
  let receiveNetworkTimeNs := m.control.toNetworkTime receiveTimeNs
  let application := m.control.applicationWriter writer
  let onEgress := updateFirst
    (fun r : EgressRoute maximumMessageSize => r.config.routeId = routeId ∧ r.isReliable)
    (fun r =>
      let accepted := r.accept frame application
      ((accepted.1, accepted.2.2), accepted.2.1)) m.egress
  let onIngress := updateFirst
    (fun r : IngressRoute maximumMessageSize => r.config.routeId = routeId)
    (fun r =>
      let accepted := r.accept frame receiveNetworkTimeNs env.publish application
      ((accepted.1, accepted.2.2), accepted.2.1)) m.ingress
  let onRpcClient := updateFirst (fun r : RpcClientRoute => r.routeId = routeId)
    (fun r =>
      let accepted := r.accept frame application
      ((accepted.1, accepted.2.2), accepted.2.1)) m.rpcClients
  let onRpcServer := updateFirst (fun r : RpcServerRoute => r.routeId = routeId)
    (fun r =>
      let accepted := r.accept frame receiveNetworkTimeNs env application
      ((accepted.1, accepted.2.2), accepted.2.1)) m.rpcServers
  match onEgress with
  | some (result, egress) =>
    { m with egress := egress }.finishRoute .egress result.1 writer result.2
  | none =>
    match onIngress with
    | some (result, ingress) =>
      { m with ingress := ingress }.finishRoute .ingress result.1 writer result.2
    | none =>
      match onRpcClient with
      | some (result, rpcClients) =>
        { m with rpcClients := rpcClients }.finishRoute .rpcClient result.1 writer result.2
      | none =>
        match onRpcServer with
        | some (result, rpcServers) =>
          { m with rpcServers := rpcServers }.finishRoute .rpcServer result.1 writer result.2
        | none => { status := .unavailable, transport := m }

/-- `Accept`. -/
def accept (frame : CanFrame) (receiveTimeNs : UInt64) (env : ArrivalEnv) (writer : CanFrameWriter) :
    TransportAcceptResult maximumMessageSize :=
  match CanArbitrationId.decode frame.arbitrationId with
  | none => { status := .invalidArgument, transport := m }
  | some id =>
    if frame.size = 0 then { status := .invalidArgument, transport := m }
    else if id.routeId < kFirstApplicationRouteId then
      let accepted := m.control.accept frame receiveTimeNs writer
      { status := accepted.status
        transport := { m with control := accepted.plane }
        restarted := accepted.restarted }
    else if m.control.applicationEnabled = false then { status := .unavailable, transport := m }
    else m.acceptApplication id.routeId frame receiveTimeNs env writer

/-- A frame that the adapter hands over inside `adapter_.Poll`, which only a running module
    calls. -/
def arrive (frame : CanFrame) (receiveTimeNs : UInt64) (env : ArrivalEnv) (outcome : Nat → Status) :
    TransportAcceptResult maximumMessageSize :=
  if m.running then m.accept frame receiveTimeNs env { outcome := outcome }
  else { status := .unavailable, transport := m }

/-! ### PollOnce after the adapter -/

/-- `ResetPeerRoutes`. -/
def resetPeerRoutes : CanChannelTransportModule maximumMessageSize :=
  { m with
    egress := m.egress.map EgressRoute.resetPeer
    ingress := m.ingress.map IngressRoute.resetPeer
    rpcClients := m.rpcClients.map RpcClientRoute.resetPeer
    rpcServers := m.rpcServers.map RpcServerRoute.resetPeer }

/-- The part of `PollOnce` that resets the routes when a restart was counted since the last
    time. -/
def observeRestarts : CanChannelTransportModule maximumMessageSize :=
  if m.control.stats.peerRestarts ≠ m.observedPeerRestarts then
    let m := { m with observedPeerRestarts := m.control.stats.peerRestarts }
    let m := m.resetPeerRoutes
    { m with stats.peerResets := m.stats.peerResets + 1 }
  else m

/-- What the polling loops of `PollOnce` pass from route to route. -/
structure Polling where
  control : CanLinkControlPlane
  writer : CanFrameWriter
  stats : CanChannelTransportModuleStats

/-- One iteration of a polling loop. -/
def Polling.visit {ρ : Type*} (p : Polling)
    (poll : ρ → CanFrameWriter → Status × ρ × CanFrameWriter) (r : ρ) : Polling × ρ :=
  let polled := poll r (p.control.applicationWriter p.writer)
  let after := p.control.afterApplication p.writer polled.2.2
  (⟨after.1, after.2, p.stats.recordPoll polled.1⟩, polled.2.1)

/-- A polling loop of `PollOnce`. -/
def Polling.visitAll {ρ : Type*} (poll : ρ → CanFrameWriter → Status × ρ × CanFrameWriter) :
    Polling → List ρ → Polling × List ρ
  | p, [] => (p, [])
  | p, r :: rs =>
    let visited := p.visit poll r
    let rest := visitAll poll visited.1 rs
    (rest.1, visited.2 :: rest.2)

/-- The four polling loops of `PollOnce`. -/
def pollRoutes (nowNs : UInt64) (writer : CanFrameWriter) :
    CanChannelTransportModule maximumMessageSize :=
  let networkNowNs := m.control.toNetworkTime nowNs
  let egress := Polling.visitAll (fun r => r.poll networkNowNs) ⟨m.control, writer, m.stats⟩ m.egress
  let ingress := egress.1.visitAll (fun r => r.poll networkNowNs) m.ingress
  let clients := ingress.1.visitAll (fun r => r.poll networkNowNs) m.rpcClients
  let servers := clients.1.visitAll (fun r => r.poll networkNowNs) m.rpcServers
  { m with
    control := servers.1.control
    stats := servers.1.stats
    egress := egress.2
    ingress := ingress.2
    rpcClients := clients.2
    rpcServers := servers.2 }

/-- The end of `PollOnce`: count the poll and post the next one. -/
def postPoll (post : Status) : CanChannelTransportModule maximumMessageSize :=
  let m := { m with stats.polls := m.stats.polls + 1 }
  if post ≠ .ok then
    { m with
      running := false
      adapterStarted := false
      stats.scheduleFailures := m.stats.scheduleFailures + 1
      stats.lastFailure := post }
  else m

/-- The part of `PollOnce` that polls the control plane. -/
def pollControl (nowNs : UInt64) (interrupt : Bool) (writer : CanFrameWriter) :
    CanChannelTransportModule maximumMessageSize × CanFrameWriter :=
  let polled := m.control.poll nowNs interrupt writer
  ({ m with control := polled.2.1, stats := m.stats.recordPoll polled.1 }, polled.2.2)

/-- `PollOnce` after `adapter_.Poll` has returned. -/
def finishPoll (env : PollEnv) : CanChannelTransportModule maximumMessageSize :=
  if m.running = false then m
  else
    let m := { m with stats := m.stats.recordPoll env.adapterStatus }
    if env.clock.status ≠ .ok then
      { m with running := false, stats := m.stats.recordPoll env.clock.status }
    else
      let polled := m.pollControl env.clock.nowNs env.interrupt { outcome := env.outcome }
      let m := polled.1.observeRestarts
      (m.pollRoutes env.clock.nowNs polled.2).postPoll env.post

end CanChannelTransportModule

end Can

end AsterCtrl
