import AsterCtrl.Native.Can.ChannelTransport
import AsterCtrl.Native.Cli.Deployment

/-!
# Generated wiring

The parts of `emitters.py` that decide how the routes of a node are wired: the transports, the
bridges for channels with their descriptors, the CAN links with their handshakes, and the capacities
of a runtime on Linux.

Left out: everything that only prints what these functions return.  `wiredTo` leaves out the check
for a host without hardware as well, because the hosts of a CAN or USB CDC transport have hardware.
-/

namespace AsterCtrl.Cli

open Deployment
open Except (require)

/-! ## Channels -/

/-- `_endpoint_port`: what is after the first dot.  The source refuses an endpoint without a port,
    which no route has. -/
def endpointPort (endpoint : String) : String :=
  String.ofList ((endpoint.toList.dropWhile (· ≠ '.')).drop 1)

/-- `_channel_descriptor`.  The first 16 bytes of the schema hash are an argument. -/
def channelDescriptor (schemaHash : Route → Vector UInt8 16) (route : Route) (endpoint : String) :
    ChannelDescriptor :=
  ⟨endpointPort endpoint, ⟨route.type, schemaHash route, route.maxEncodedSize⟩⟩

variable (routes : List Route)

/-- The routes of a node that are wired to one of its transports. -/
def wiredTo (transport : Transport) : List Route :=
  let selected := carriedBy routes transport.name
  match transport.type with
  | .can => selected
  | .usbCdc => if selected.any fun route => route.kind ≠ .channel then [] else selected
  | _ => []

/-- The channel routes of a node that are wired; `routes` are those of the node. -/
def wiredChannels : List Route :=
  (externalTransports routes).flatMap fun transport =>
    (wiredTo routes transport).filter fun route => route.kind = .channel

/-- `channel_egress` of all transports of a node. -/
def channelEgress (node : String) (routes : List Route) : List Route :=
  (wiredChannels routes).filter fun route => route.sourceNode = node

/-- `channel_ingress` of all transports of a node. -/
def channelIngress (node : String) (routes : List Route) : List Route :=
  (wiredChannels routes).filter fun route => route.destinationNode = node

/-! ## CAN transports -/

/-- `maximum_message_size` of a CAN transport of a node. -/
def canMaximumMessageSize (transport : Transport) : Nat :=
  maxDefault ((carriedBy routes transport.name).map Route.maxEncodedSize) 0

/-- `reliability` of a channel route. -/
def reliability : Qos → Can.ChannelReliability
  | .reliable => .reliable
  | .bestEffort => .bestEffort

/-- `minimum_period_ns` of a channel route. -/
def minimumPeriodNs (route : Route) : UInt64 :=
  UInt64.ofNat (max 1 (1000000000 / route.maxRateHz).floor.toNat)

/-- The arguments of `AddEgress`. -/
def canEgress (schemaHash : Route → Vector UInt8 16) (route : Route) : Can.EgressConfig where
  routeId := UInt16.ofNat route.id
  descriptor := channelDescriptor schemaHash route route.source
  reliability := reliability route.qos
  priority := .state
  minimumPeriodNs := minimumPeriodNs route

/-- The arguments of `AddIngress`. -/
def canIngress (schemaHash : Route → Vector UInt8 16) (route : Route) : Can.IngressConfig where
  routeId := UInt16.ofNat route.id
  descriptor := channelDescriptor schemaHash route route.destination
  reliability := reliability route.qos

/-- `re.fullmatch(r"[A-Za-z_]\w*", item)`; the characters of types are ASCII. -/
def isIdentifier : List Char → Bool
  | [] => false
  | first :: rest =>
    (first.isAlpha || first = '_') && rest.all fun char => char.isAlphanum || char = '_'

/-- `_service_type`. -/
def serviceType (route : Route) : Except Failure String := do
  let segments := route.type.toList.splitOn '.'
  require (segments.all isIdentifier)
    (.valueError s!"invalid RPC service type {quoted route.type}")
  pure ("::" ++ "::".intercalate (segments.map String.ofList))

/-- A generated `CanRpcClient` or `CanRpcServer`. -/
structure RpcBridge where
  routeId : UInt16
  service : String
deriving DecidableEq, Repr

/-- The bridge of an RPC route. -/
def rpcBridge (route : Route) : Except Failure RpcBridge := do
  let service ← serviceType route
  pure ⟨UInt16.ofNat route.id, service⟩

/-- What is hashed of a route for the handshake. -/
structure SchemaInput where
  id : Nat
  kind : RouteKind
  schemaHash : String
  type : String
deriving DecidableEq, Repr

/-- `schema_input` of the routes of a link. -/
def schemaInput (selected : List Route) : List SchemaInput :=
  (selected.insertionSort fun a b => a.id ≤ b.id).map fun route =>
    ⟨route.id, route.kind, route.schemaHash, route.type⟩

/-- The hashes in generated text, cut to 16 bytes. -/
structure Hashes where
  /-- `_cpp_schema_hash`. -/
  schemaHash : String → Vector UInt8 16
  /-- The hash of `schema_input`. -/
  linkHash : List SchemaInput → Vector UInt8 16
  deploymentHash : Vector UInt8 16

/-- What is generated for a CAN transport of a node.  The module and the bridges for RPC have their
    retries and timeouts from `control`. -/
structure CanWiring where
  control : Can.CanLinkControlConfig
  device : String
  pollIntervalNs : UInt64
  maximumMessageSize : Nat
  egress : List Can.EgressConfig
  ingress : List Can.IngressConfig
  rpcClients : List RpcBridge
  rpcServers : List RpcBridge
deriving DecidableEq

/-- `channel_egress` or `rpc_clients` of a transport. -/
def outgoing (kind : RouteKind) (node : String) (selected : List Route) : List Route :=
  selected.filter fun route => route.kind = kind ∧ route.sourceNode = node

/-- `channel_ingress` or `rpc_servers` of a transport. -/
def incoming (kind : RouteKind) (node : String) (selected : List Route) : List Route :=
  selected.filter fun route => route.kind = kind ∧ route.destinationNode = node

/-- `peer_name`. -/
def canPeer (node : String) (selected : List Route) (transport : Transport)
    (timeAuthorities : List String) : Except Failure String :=
  match (selected.map fun route =>
      if route.sourceNode = node then route.destinationNode else route.sourceNode).dedup with
  | [peer] => do
    require (timeAuthorities.length = 1) (.valueError
      (s!"CAN transport {quoted transport.name} requires exactly one synchronized time " ++
        "authority"))
    pure peer
  | _ => .error (.valueError
      s!"CAN transport {quoted transport.name} on {quoted node} requires exactly one peer")

/-- `int(options.get(option, default))`; the resolver has refused options that are no integers. -/
def optionNat (transport : Transport) (option : String) (default : Nat) : Nat :=
  match transport.options.lookup option with
  | some (.int value) => value.toNat
  | some (.bool _) | some .other | none => default

/-- The backend that the wiring of a platform needs, and how it is called. -/
def requiredBackend : Os → String × String
  | .zephyr => ("devicetree", "Devicetree")
  | .linux => ("socketcan", "SocketCAN")

/-- The name of a platform in messages. -/
def Os.title : Os → String
  | .zephyr => "Zephyr"
  | .linux => "Linux"

/-- The declarations and registrations of `_can_transport_wiring`. -/
def canWiring (hashes : Hashes) (node : String) (localNodeId peerNodeId : Nat)
    (selected : List Route) (transport : Transport) (device : String)
    (timeAuthorities : List String) (rpcClients rpcServers : List RpcBridge) : CanWiring :=
  let schemaHash (route : Route) := hashes.schemaHash route.schemaHash
  { control := {
      localHandshake := ⟨1, UInt8.ofNat localNodeId, hashes.deploymentHash,
        hashes.linkHash (schemaInput selected)⟩
      peerNodeId := UInt8.ofNat peerNodeId
      timeAuthority := node ∈ timeAuthorities
      handshakePeriodNs := 1000000000
      heartbeatPeriodNs := 100000000
      heartbeatTimeoutNs := 300000000
      timeSyncPeriodNs := 10000000
      recoverySamples := 3
      retryTimeoutNs := UInt64.ofNat (optionNat transport "retry_timeout_us" 5000 * 1000)
      maximumRetries := UInt8.ofNat (optionNat transport "maximum_retries" 2)
      reassemblyTimeoutNs :=
        UInt64.ofNat (optionNat transport "reassembly_timeout_us" 100000 * 1000) }
    device := device
    pollIntervalNs := UInt64.ofNat (optionNat transport "poll_interval_us" 1000 * 1000)
    maximumMessageSize := maxDefault (selected.map Route.maxEncodedSize) 0
    egress := (outgoing .channel node selected).map (canEgress schemaHash)
    ingress := (incoming .channel node selected).map (canIngress schemaHash)
    rpcClients := rpcClients
    rpcServers := rpcServers }

/-- `_can_transport_wiring`. -/
def canTransportWiring (hashes : Hashes) (platform : Os) (node : String)
    (nodeIds : List (String × Nat)) (selected : List Route) (transport : Transport)
    (resource : Resource) (timeAuthorities : List String) : Except Failure (Option CanWiring) :=
  let title := s!"CAN transport {quoted transport.name}"
  let clients := outgoing .rpc node selected
  let servers := incoming .rpc node selected
  if outgoing .channel node selected = [] ∧ incoming .channel node selected = [] ∧ clients = [] ∧
      servers = [] then
    .ok none
  else do
    let peer ← canPeer node selected transport timeAuthorities
    let localNodeId ← getKey (nodeIds.lookup node) node
    let peerNodeId ← getKey (nodeIds.lookup peer) peer
    require (localNodeId ≤ 255 ∧ peerNodeId ≤ 255)
      (.valueError s!"{title} requires Node IDs in 1..255")
    require (resource.backend = (requiredBackend platform).1)
      (.valueError s!"{platform.title} {title} needs {(requiredBackend platform).2}")
    let rpcClients ← clients.mapM rpcBridge
    let rpcServers ← servers.mapM rpcBridge
    pure (some (canWiring hashes node localNodeId peerNodeId selected transport resource.device
      timeAuthorities rpcClients rpcServers))

/-- The routes of a node that a transport carries. -/
def selectedRoutes (lock : DeploymentLock) (node : String) (transport : Transport) : List Route :=
  carriedBy (nodeRoutes lock.routes node) transport.name

/-- A round of the loop of `_zephyr_transport_wiring` or `_linux_transport_wiring`, for a CAN
    transport. -/
def nodeCanWiring (hashes : Hashes) (deployment : Deployment) (lock : DeploymentLock)
    (node : NodeLock) (transport : Transport) : Except Failure (Option CanWiring) := do
  let host ← getKey (deployment.host? node.host) node.host
  match host.hardware with
  | none => pure none
  | some hardware =>
    match transport.resource.bind fun name =>
        hardware.resources.find? fun resource => resource.name = name with
    | none => .error (.valueError
        s!"{host.os.title} CAN transport {quoted transport.name} has no resource")
    | some resource =>
      canTransportWiring hashes host.os node.name
        (lock.nodes.map fun node => (node.name, node.id))
        (selectedRoutes lock node.name transport) transport resource deployment.timeAuthorities

/-! ## USB CDC transports -/

/-- `maximum_payload` of a USB CDC transport of a node. -/
def usbMaximumPayload (transport : Transport) : Nat :=
  maxDefault ((carriedBy routes transport.name).map Route.maxSize) 0

/-- The identifier in `AddEgress` and `AddIngress`, which have a parameter of 16 bits. -/
def usbRouteId (route : Route) : UInt16 := UInt16.ofNat route.id

end AsterCtrl.Cli
