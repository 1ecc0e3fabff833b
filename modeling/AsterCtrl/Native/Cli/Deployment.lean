import AsterCtrl.Native.Cli.Graph
import Mathlib.Algebra.GroupWithZero.Nat
import Mathlib.Algebra.Ring.Rat

/-!
# The resolution of a deployment

`resolve_deployment` of `graph.py`: an application is placed on the nodes of a deployment, each of
its connections gets a transport, and the limits of hosts, links and runtimes are checked.

Left out: the parts of the lock that no other function reads, which are digests, budgets as they
are reported, and copies of hardware and transports.  Utilization and budgets are exact.
-/

namespace AsterCtrl.Cli

open Except (require)

def Os.text : Os → String
  | .linux => "linux"
  | .zephyr => "zephyr"

def TransportType.text : TransportType → String
  | .can => "can"
  | .canfd => "canfd"
  | .usbCdc => "usb_cdc"
  | .shm => "shm"
  | .other name => name

/-- Whether a transport is one of those that the runtime implements. -/
def TransportType.isOfficial : TransportType → Bool
  | .can | .canfd | .usbCdc => true
  | .shm | .other _ => false

/-- The kinds of resources that a transport can use. -/
def TransportType.accepts : TransportType → (kind : String) → Bool
  | .can, kind => kind = "can"
  | .canfd, kind => kind = "canfd" ∨ kind = "can"
  | .usbCdc, kind => kind = "usb_cdc"
  | .shm, _ | .other _, _ => true

def RouteKind.text : RouteKind → String
  | .channel => "channel"
  | .rpc => "rpc"

namespace Deployment

variable (deployment : Deployment)

def host? (name : String) : Option Host := deployment.hosts.find? fun host => host.name = name

def node? (name : String) : Option Node := deployment.nodes.find? fun node => node.name = name

def transport? (name : String) : Option Transport :=
  deployment.transports.find? fun transport => transport.name = name

/-- `time_domains.get`. -/
def timeDomain? (name : String) : Option TimeDomain :=
  deployment.timeDomains.find? fun domain => domain.name = name

/-- The host of a node. -/
def hostOf (node : Node) : Except Failure Host := getKey (deployment.host? node.host) node.host

/-! ## Placement -/

/-- The loop that fills `placements` with pairs of an instance and a node. -/
def placeLoop (known : List String) : List (String × String) → (placed : List (String × String)) →
    Except Failure (List (String × String))
  | [], placed => .ok placed
  | (item, node) :: rest, placed => do
    require (item ∈ known)
      (.graphError s!"node {quoted node} places unknown instance {quoted item}")
    require ((placed.lookup item).isNone)
      (.graphError s!"instance {quoted item} is placed more than once")
    placeLoop known rest (placed ++ [(item, node)])

variable (application : Application)

/-- `placements`. -/
def place : Except Failure (List (String × String)) := do
  deployment.nodes.forM fun node =>
    require ((deployment.host? node.host).isSome)
      (.graphError s!"node {quoted node.name} references unknown host {quoted node.host}")
  let known := application.instances.map Instance.name
  let placements ← placeLoop known
    (deployment.nodes.flatMap fun node => node.instances.map fun item => (item, node.name)) []
  refuseAny (known.filter fun name => (placements.lookup name).isNone)
    "instances are not placed: "
  pure placements

/-! ## Hardware -/

/-- `_DT_NODE_LABEL`. -/
def isNodeLabel (device : String) : Bool :=
  match device.toList with
  | [] => false
  | first :: rest =>
    (first.isAlpha || first = '_') && rest.all fun char => char.isAlphanum || char = '_'

/-- `_LINUX_INTERFACE`. -/
def isLinuxInterface (device : String) : Bool :=
  1 ≤ device.toList.length && device.toList.length ≤ 15 &&
    device.toList.all fun char => char.isAlphanum || "_.:-".toList.contains char

/-- A path below `/dev` without `..`. -/
def isDevicePath (device : String) : Bool :=
  "/dev/".toList.isPrefixOf device.toList && !(device.toList.splitOn '/').contains "..".toList

/-- `_validate_hardware`. -/
def validateHardware (host : Host) (profile : Hardware) : Except Failure Unit := do
  require (profile.platform = host.os) (.graphError
    s!"host {quoted host.name} uses {profile.platform.text} Hardware on {host.os.text}")
  require (host.os = .zephyr → profile.board = host.board)
    (.graphError s!"Zephyr host {quoted host.name} board does not match Hardware")
  profile.resources.forM fun resource =>
    let name := quoted resource.name
    if host.os = .zephyr then do
      require (resource.backend = "devicetree")
        (.graphError s!"Zephyr resource {name} must use devicetree backend")
      require (isNodeLabel resource.device)
        (.graphError s!"Zephyr resource {name} device must be a Devicetree node label")
    else if resource.backend = "socketcan" then do
      require (resource.kind = "can" ∨ resource.kind = "canfd")
        (.graphError s!"SocketCAN resource {name} must have can or canfd kind")
      require (isLinuxInterface resource.device)
        (.graphError s!"SocketCAN resource {name} has invalid interface name")
    else if resource.backend = "tty" then do
      require (resource.kind = "uart" ∨ resource.kind = "usb_cdc")
        (.graphError s!"TTY resource {name} must have uart or usb_cdc kind")
      require (isDevicePath resource.device)
        (.graphError s!"TTY resource {name} must map to an absolute /dev path")
    else
      .error (.graphError s!"Linux resource {name} cannot use {quoted resource.backend} backend")

/-- The loop over the hosts. -/
def checkHosts : Except Failure Unit :=
  deployment.hosts.forM fun host => do
    require (host.os = .zephyr → host.hardware.isSome ∧ host.board.isSome)
      (.graphError s!"Zephyr host {quoted host.name} requires board and hardware")
    match host.hardware with
    | none => pure ()
    | some profile => validateHardware host profile

/-! ## Transports -/

/-- The value of an option is an integer in a range. -/
def intOption (transport : Transport) (option : String) (default : OptionValue)
    (minimum maximum : Int) : Bool :=
  match (transport.options.lookup option).getD default with
  | .int value => minimum ≤ value ∧ value ≤ maximum
  | .bool _ | .other => false

/-- The checks of the options of a CAN transport. -/
def checkCanOptions (transport : Transport) : Except Failure Unit :=
  [("poll_interval_us", 100, 1000000, 1000), ("retry_timeout_us", 100, 1000000, 5000),
      ("maximum_retries", 1, 15, 2), ("reassembly_timeout_us", 100, 10000000, 100000)].forM
    fun (option, minimum, maximum, default) =>
      require (transport.type = .can →
          intOption transport option (.int default) minimum maximum)
        (.graphError (s!"transport {quoted transport.name} requires options.{option} in " ++
          s!"{minimum}..{maximum}"))

/-- The checks of the options of a USB CDC transport. -/
def checkUsbOptions (transport : Transport) : Except Failure Unit := do
  let title := s!"transport {quoted transport.name} requires"
  ["vid", "pid"].forM fun option =>
    require (transport.type = .usbCdc → intOption transport option .other 1 65535)
      (.graphError s!"{title} options.{option} in 1..65535")
  require (transport.type = .usbCdc →
      intOption transport "poll_interval_us" (.int 1000) 100 1000000)
    (.graphError s!"{title} options.poll_interval_us in 100..1000000")
  require (transport.type = .usbCdc →
      [9600, 57600, 115200, 230400, 460800, 921600].any fun rate =>
        (transport.options.lookup "baud_rate").getD (.int 115200) = .int rate)
    (.graphError s!"{title} a supported options.baud_rate")

/-- A transport that the runtime does not implement comes from a package. -/
def checkTransportPackage (packages : List Package) (transport : Transport) :
    Except Failure Unit :=
  let title := s!"transport {quoted transport.name}"
  if transport.type.isOfficial then .ok ()
  else
    match transport.backend, transport.package with
    | some backend, some package =>
      match packages.find? fun entry => entry.name = package with
      | none => .error (.graphError s!"{title} references unknown package {quoted package}")
      | some entry =>
        require (backend ∈ entry.transports) (.graphError
          s!"transport backend {quoted backend} is not exported by package {quoted package}")
    | _, _ => .error (.graphError
        (s!"{title} type {quoted transport.type.text} requires a declarative backend " ++
          "and package"))

/-- The backend that a resource of an official transport has. -/
def expectedBackend (host : Host) (type : TransportType) : String :=
  if host.os = .zephyr then "devicetree"
  else if type = .can ∨ type = .canfd then "socketcan"
  else "tty"

/-- The checks of one host of a transport. -/
def checkTransportHost (transport : Transport) (hostName : String) : Except Failure Unit := do
  let title := s!"transport {quoted transport.name}"
  let host ←
    match deployment.host? hostName with
    | none => .error (.graphError s!"{title} references unknown host {quoted hostName}")
    | some host => .ok host
  match transport.resource with
  | none => pure ()
  | some resourceName =>
    let profile ←
      match host.hardware with
      | none => .error (.graphError s!"{title} requires a Hardware profile on {hostName}")
      | some profile => .ok profile
    let resource ←
      match profile.resources.find? fun resource => resource.name = resourceName with
      | none => .error (.graphError
          s!"{title} uses missing resource {quoted resourceName} on {hostName}")
      | some resource => .ok resource
    require (transport.type.accepts resource.kind)
      (.graphError s!"{title} resource kind {quoted resource.kind} is incompatible")
    let backend := expectedBackend host transport.type
    require (transport.type.isOfficial → resource.backend = backend)
      (.graphError s!"{title} resource on {hostName} must use {backend} backend")

/-- The checks of one transport. -/
def checkTransport (packages : List Package) (transport : Transport) : Except Failure Unit := do
  let title := s!"transport {quoted transport.name}"
  require (transport.type ≠ .canfd) (.graphError
    s!"{title} requests canfd, but v0.2 implements only the classic CAN wire protocol")
  checkTransportPackage packages transport
  require (transport.type = .can → transport.bitrateBps.isSome)
    (.graphError s!"{title} requires bitrate_bps")
  checkCanOptions transport
  checkUsbOptions transport
  require (transport.type = .can → transport.mtu ≤ 8)
    (.graphError s!"{title} MTU {transport.mtu} exceeds can limit 8")
  require (transport.type = .can → transport.mtu = 8)
    (.graphError s!"{title} classic CAN MTU must be 8, got {transport.mtu}")
  require (transport.type = .shm → transport.hosts.dedup.length ≤ 1)
    (.graphError s!"shared-memory transport {quoted transport.name} cannot cross hosts")
  require (transport.type.isOfficial → transport.resource.isSome)
    (.graphError s!"{title} requires a hardware resource")
  transport.hosts.forM (deployment.checkTransportHost transport)

/-- The checks of all transports, and of the budgets and rules that name them. -/
def checkTransports (packages : List Package) : Except Failure Unit := do
  deployment.transports.forM (deployment.checkTransport packages)
  let names := deployment.transports.map Transport.name
  refuseAny ((deployment.transportBudgets.map Prod.fst).filter (· ∉ names))
    "budgets reference unknown transports: "
  deployment.routeRules.forM fun rule =>
    require (rule.transport ∈ names)
      (.graphError s!"route rule references unknown transport {quoted rule.transport}")

/-! ## Time -/

/-- `set(node.domains) or set(app_domains)`. -/
def enabledDomains (node : Node) : List String :=
  if node.domains = [] then application.domains.map Domain.name else node.domains

/-- The checks of the time domains. -/
def checkTime : Except Failure Unit := do
  require (∀ authority ∈ deployment.timeAuthority, (deployment.node? authority).isSome)
    (.graphError s!"time authority {quoted (deployment.timeAuthority.getD default)} is not a node")
  let domains := application.domains.map Domain.name
  refuseAny ((deployment.timeDomains.map TimeDomain.name).filter (· ∉ domains))
    "deployment time mapping references unknown domains: "
  application.domains.forM fun domain => do
    let configured ←
      match deployment.timeDomain? domain.name with
      | none => .error (.graphError
          s!"application domain {quoted domain.name} has no deployment time mapping")
      | some configured => .ok configured
    require (domain.time = .simulated → configured.source = .simulated)
      (.graphError s!"simulated domain {quoted domain.name} must use simulated time")
    require (configured.source = .synced →
        configured.authority.isSome ∨ deployment.timeAuthority.isSome)
      (.graphError s!"synced domain {quoted domain.name} requires an authority")
    require (∀ authority ∈ configured.authority, (deployment.node? authority).isSome)
      (.graphError (s!"time domain {quoted domain.name} authority " ++
        s!"{quoted (configured.authority.getD default)} is not a node"))
  deployment.nodes.forM fun node => do
    let sources ← (enabledDomains application node).mapM fun name => do
      let configured ← getKey (deployment.timeDomain? name) name
      pure (decide (configured.source = .simulated))
    require (sources.dedup.length ≤ 1)
      (.graphError s!"node {quoted node.name} mixes simulated and production time domains")

/-- `time_authorities`. -/
def timeAuthorities : List String :=
  (deployment.timeDomains.filterMap fun domain =>
    if domain.source = .synced then domain.authority.or deployment.timeAuthority else none).dedup

/-! ## Instances on nodes -/

/-- The checks that instances can run on the nodes on which they are. -/
def checkInstances (placements : List (String × String)) (instances : List ModuleInstance) :
    Except Failure Unit :=
  instances.forM fun (item, module) => do
    let nodeName ← getKey (placements.lookup item.name) item.name
    let node ← getKey (deployment.node? nodeName) nodeName
    let host ← deployment.hostOf node
    require (module.platforms = [] ∨ host.os ∈ module.platforms) (.graphError
      (s!"module {quoted module.name} does not support {host.os.text} for instance " ++
        quoted item.name))
    if node.domains ≠ [] then
      refuseAny ((module.tasks.map Task.domain).filter (· ∉ node.domains))
        s!"node {quoted node.name} does not enable task domains for {item.name}: "

/-- A capability of an instance and the resource that provides it. -/
structure CapabilityBinding where
  name : String
  kind : String
  resource : String
  backend : String
  device : String
deriving DecidableEq, Repr

/-- The bindings of the capabilities of one instance. -/
def bindCapabilities (placements : List (String × String)) (item : Instance) (module : Module) :
    Except Failure (List CapabilityBinding) := do
  let nodeName ← getKey (placements.lookup item.name) item.name
  let node ← getKey (deployment.node? nodeName) nodeName
  let host ← deployment.hostOf node
  let bindings ← module.capabilities.mapM fun capability => do
    let title := s!"{quoted capability.name} ({capability.kind})"
    let resources := (host.hardware.map Hardware.resources).getD []
    let candidates := (resources.filter fun resource =>
      resource.kind = capability.kind).insertionSort fun a b => a.name ≤ b.name
    match candidates with
    | [] => do
      require capability.optional (.graphError
        (s!"instance {quoted item.name} requires missing hardware capability {title} on host " ++
          quoted host.name))
      pure none
    | [resource] =>
      pure (some ⟨capability.name, capability.kind, resource.name, resource.backend,
        resource.device⟩)
    | _ => .error (.graphError
        (s!"instance {quoted item.name} hardware capability {title} has multiple providers on " ++
          s!"host {quoted host.name}: {joined (candidates.map Resource.name)}"))
  pure bindings.reduceOption

/-- The loop that fills `aliases`. -/
def aliasLoop (node : String) :
    List CapabilityBinding → (aliases : List (String × String × String)) → Except Failure Unit
  | [], _ => .ok ()
  | binding :: bindings, aliases => do
    require (∀ previous ∈ aliases.lookup binding.name, previous = (binding.kind, binding.device))
      (.graphError (s!"Zephyr node {quoted node} hardware capability name {quoted binding.name} " ++
        "maps to different devices; HardwareManager names are node-global"))
    aliasLoop node bindings ((binding.name, binding.kind, binding.device) :: aliases)

/-- The checks that follow on the bindings of capabilities. -/
def checkAliases (capabilities : List (String × List CapabilityBinding)) : Except Failure Unit :=
  deployment.nodes.forM fun node => do
    let host ← deployment.hostOf node
    if host.os = .zephyr then
      let bindings ← node.instances.mapM fun item => getKey (capabilities.lookup item) item
      aliasLoop node.name bindings.flatten []

/-- Bindings and dependencies do not go from one node to another. -/
def checkLocality (placements : List (String × String)) (application : Application) :
    Except Failure Unit := do
  application.bindings.forM fun binding => do
    let (requirement, _) ← splitEndpoint binding.requirement
    let (provider, _) ← splitEndpoint binding.provider
    let requirementNode ← getKey (placements.lookup requirement) requirement
    let providerNode ← getKey (placements.lookup provider) provider
    require (requirementNode = providerNode) (.graphError
      s!"provider binding {binding.requirement} -> {binding.provider} crosses nodes")
  application.instances.forM fun item =>
    item.startupAfter.forM fun dependency => do
      let itemNode ← getKey (placements.lookup item.name) item.name
      let dependencyNode ← getKey (placements.lookup dependency) dependency
      require (itemNode = dependencyNode)
        (.graphError s!"startup dependency {item.name} -> {dependency} crosses nodes")

/-! ## Executors -/

structure ExecutorLock where
  domain : String
  policy : Policy
  workers : Nat
  priority : Int
  stackBytes : Nat
  queueDepth : Nat
deriving DecidableEq, Repr

/-- `max(values, default=default)`. -/
def maxDefault (values : List Nat) (default : Nat) : Nat :=
  match values with
  | [] => default
  | first :: rest => rest.foldl max first

/-- The executor of one domain of a node. -/
def resolveExecutor (host : Host) (node : Node) (domain : String) (tasks : List Task) :
    Except Failure ExecutorLock := do
  let title := s!"node {quoted node.name}"
  let policy := node.executors.find? fun policy => policy.domain = domain
  let policyName := (policy.map ExecutorPolicy.policy).getD .serial
  let configured := policy.bind ExecutorPolicy.workers
  require (policyName = .workerPool → host.os = .linux)
    (.graphError s!"{title} cannot use worker_pool on {host.os.text}")
  let workers := configured.getD (if policyName = .workerPool then 2 else 1)
  require (policyName = .serial → workers = 1)
    (.graphError s!"{title} serial executor {quoted domain} must use one worker")
  let requiredStack := maxDefault (tasks.map Task.stackBytes) 1024
  let requiredQueue := max 1 (tasks.map Task.queueDepth).sum
  let stackBytes := (policy.bind ExecutorPolicy.stackBytes).getD requiredStack
  let queueDepth := (policy.bind ExecutorPolicy.queueDepth).getD requiredQueue
  require (requiredStack ≤ stackBytes) (.graphError
    (s!"{title} executor {quoted domain} stack {stackBytes} is below task requirement " ++
      toString requiredStack))
  require (requiredQueue ≤ queueDepth) (.graphError
    (s!"{title} executor {quoted domain} queue {queueDepth} is below task requirement " ++
      toString requiredQueue))
  let priorities := tasks.map Task.priority
  let priority := (policy.bind ExecutorPolicy.priority).getD
    (priorities.foldl max (priorities.headD 0))
  require (host.os = .zephyr → -128 ≤ priority ∧ priority ≤ 126) (.graphError
    (s!"Zephyr node {quoted node.name} executor {quoted domain} priority {priority} " ++
      "is outside -128..126"))
  pure ⟨domain, policyName, workers, priority, stackBytes, queueDepth⟩

/-- The executors of one node. -/
def resolveExecutors (instances : List ModuleInstance) (node : Node) :
    Except Failure (List ExecutorLock) := do
  let host ← deployment.hostOf node
  let enabled := enabledDomains application node
  refuseAny ((node.executors.map ExecutorPolicy.domain).filter (· ∉ enabled))
    s!"node {quoted node.name} configures executors for disabled domains: "
  let modules ← node.instances.mapM fun item => do
    let (_, module) ← getKey (instances.find? fun entry => entry.1.name = item) item
    pure module
  let domains := sortedNames enabled
  require (host.os = .zephyr → domains.length ≤ 1) (.graphError
    (s!"Zephyr node {quoted node.name} enables multiple executor domains; " ++
      "v0.2 supports exactly one executor domain per Zephyr node"))
  domains.mapM fun domain =>
    resolveExecutor host node domain
      ((modules.flatMap Module.tasks).filter fun task => task.domain = domain)

/-! ## Routes -/

/-- `transport_name` of a route: `"local"`, or the name of a transport. -/
inductive RouteTransport where
  | «local»
  | named (transport : Transport)
deriving DecidableEq, Repr

structure Route where
  id : Nat
  source : String
  destination : String
  kind : RouteKind
  type : String
  schemaHash : String
  sourceNode : String
  destinationNode : String
  transport : RouteTransport
  qos : Qos
  maxSize : Nat
  maxEncodedSize : Nat
  maxRateHz : ℚ
deriving DecidableEq, Repr

/-- `_choose_transport`. -/
def chooseTransport (routeName sourceHost destinationHost : String) :
    Except Failure (Transport × Option Qos) :=
  match deployment.routeRules.find? fun rule => rule.pattern routeName with
  | some rule =>
    match deployment.transport? rule.transport with
    | none =>
      .error (.graphError s!"route rule references unknown transport {quoted rule.transport}")
    | some transport => do
      require (sourceHost ∈ transport.hosts ∧ destinationHost ∈ transport.hosts)
        (.graphError s!"transport {quoted transport.name} does not connect route {routeName}")
      pure (transport, rule.qos)
  | none =>
    -- The transports are sorted by their names, so the first one that fits is `candidates[0]`.
    match deployment.transports.find? fun transport =>
        sourceHost ∈ transport.hosts ∧ destinationHost ∈ transport.hosts with
    | none => .error (.graphError s!"no transport connects route {routeName}")
    | some transport => .ok (transport, none)

/-- `_CAN_MAXIMUM_ROUTE_ID`. -/
def canMaximumRouteId : Nat := 511

/-- `_CAN_MAXIMUM_FRAGMENTS`. -/
def canMaximumFragments : Nat := 16

/-- `_CAN_FRAGMENT_PAYLOAD`. -/
def canFragmentPayload : Nat := 6

/-- `protocol_overhead` of a CAN route. -/
def protocolOverhead : RouteKind → Nat
  | .rpc => 12
  | .channel => 2

/-- `frame_count` of a CAN route. -/
def frameCount (kind : RouteKind) (maxSize : Nat) : Nat :=
  let payloadSize := maxSize + protocolOverhead kind
  if kind = .channel ∧ payloadSize ≤ 7 then 1
  else (payloadSize + canFragmentPayload - 1) / canFragmentPayload

/-- The checks of a connection that a transport carries. -/
def checkCarried (transport : Transport) (routeName : String) (connection : ConnectionRow) :
    Except Failure Unit := do
  require (0 < transport.mtu)
    (.graphError s!"transport {quoted transport.name} has invalid MTU")
  if transport.type = .can then
    require (canFirstApplicationRouteId ≤ connection.id ∧ connection.id ≤ canMaximumRouteId)
      (.graphError (s!"CAN route {quoted routeName} ID {connection.id} is outside " ++
        s!"{canFirstApplicationRouteId}..{canMaximumRouteId}"))
    let maximumSize := canMaximumFragments * canFragmentPayload - protocolOverhead connection.kind
    require (frameCount connection.kind connection.maxSize ≤ canMaximumFragments)
      (.graphError (s!"CAN route {quoted routeName} {connection.kind.text} capacity " ++
        s!"{connection.maxSize} exceeds maximum {maximumSize} bytes " ++
        s!"({canMaximumFragments} fragments)"))

/-- The share of a link that a connection uses. -/
def utilization (transport : Transport) (connection : ConnectionRow) : ℚ :=
  match transport.bitrateBps with
  | none | some 0 => 0
  | some bitrate =>
    let bits := if transport.type = .can then frameCount connection.kind connection.maxSize * 160
      else (connection.maxSize + (connection.maxSize + transport.mtu - 1) / transport.mtu * 8) * 8
    bits * connection.maxRateHz / bitrate

/-- The node of the instance in an endpoint. -/
def endpointNode (placements : List (String × String)) (value : String) : Except Failure Node := do
  let (instanceName, _) ← splitEndpoint value
  let name ← getKey (placements.lookup instanceName) instanceName
  getKey (deployment.node? name) name

/-- The transport and the quality of service of a connection.  Local is strictly in-process: two
    nodes on one host need a transport. -/
def carry (sourceNode destinationNode : Node) (connection : ConnectionRow) :
    Except Failure (RouteTransport × Qos) :=
  if sourceNode.name ≠ destinationNode.name then do
    let routeName := connection.source ++ "->" ++ connection.destination
    let (transport, qosOverride) ←
      deployment.chooseTransport routeName sourceNode.host destinationNode.host
    checkCarried transport routeName connection
    pure (.named transport, qosOverride.getD connection.qos)
  else .ok (.local, connection.qos)

/-- One round of the loop over the connections. -/
def resolveRoute (placements : List (String × String)) (connection : ConnectionRow) :
    Except Failure Route := do
  let sourceNode ← deployment.endpointNode placements connection.source
  let destinationNode ← deployment.endpointNode placements connection.destination
  let (transport, qos) ← deployment.carry sourceNode destinationNode connection
  pure {
    id := connection.id
    source := connection.source
    destination := connection.destination
    kind := connection.kind
    type := connection.type
    schemaHash := connection.schemaHash
    sourceNode := sourceNode.name
    destinationNode := destinationNode.name
    transport := transport
    qos := qos
    maxSize := connection.maxSize
    maxEncodedSize := connection.maxEncodedSize
    maxRateHz := connection.maxRateHz }

/-- The transport that `_choose_transport` chose for a route between two nodes. -/
def Route.chosen (route : Route) : Option Transport :=
  match route.transport with
  | .local => none
  | .named transport => some transport

/-- The transport that carries a route.  All later steps tell the routes inside a node by the name
    `"local"`, so a transport with that name carries none of the routes it was chosen for. -/
def Route.carrier (route : Route) : Option Transport :=
  route.chosen.filter fun transport => transport.name ≠ "local"

/-- The route is carried by a transport of this type. -/
def Route.isCarriedBy (route : Route) (type : TransportType) : Bool :=
  route.carrier.any fun transport => transport.type = type

variable (routes : List Route)

/-- The routes that a transport carries. -/
def carriedBy (transport : String) : List Route :=
  routes.filter fun route => route.carrier.any fun carrier => carrier.name = transport

/-- The checks of the RPC routes. -/
def checkRpcRoutes : Except Failure Unit := do
  let rpcRoutes := routes.filter fun route => route.kind = .rpc
  rpcRoutes.forM fun route =>
    require (route.carrier.isSome → route.isCarriedBy .can) (.graphError
      (s!"v0.2 built-in external RPC route {route.source} -> {route.destination} requires CAN"))
  -- One round for each route instead of one for each service; only the order of errors differs.
  rpcRoutes.forM fun route =>
    let services := rpcRoutes.filter fun other =>
      other.sourceNode = route.sourceNode ∧ other.type = route.type
    require (route.carrier.isSome → services.length ≤ 1) (.graphError
      (s!"remote RPC service {quoted route.type} is ambiguous on node " ++
        s!"{quoted route.sourceNode}; v0.2 requires one destination per remote service"))

/-- The check of the budgets of transports. -/
def checkUtilization (connections : List ConnectionRow) (routes : List Route) :
    Except Failure Unit :=
  deployment.transports.forM fun transport =>
    let used := ((connections.zip routes).map fun (connection, route) =>
      if route.chosen.any fun chosen => chosen.name = transport.name then
        utilization transport connection
      else 0).sum
    let limit := (deployment.transportBudgets.lookup transport.name).getD (4 / 5)
    require (used ≤ limit) (.graphError
      s!"transport {quoted transport.name} utilization {used} exceeds budget {limit}")

/-! ## CAN links -/

/-- The keys of `peers_by_node`. -/
def linkNodes : List String :=
  (routes.flatMap fun route => [route.sourceNode, route.destinationNode]).dedup

/-- The values of `peers_by_node`. -/
def peers (node : String) : List String :=
  (routes.flatMap fun route =>
    (if route.sourceNode = node then [route.destinationNode] else []) ++
      if route.destinationNode = node then [route.sourceNode] else []).dedup

/-- The checks of one CAN transport. -/
def checkCanLink (timeAuthority : String) (routes : List Route) (transport : String) :
    Except Failure Unit := do
  let routes := carriedBy routes transport
  refuseAny ((linkNodes routes).filter fun node => (peers routes node).length ≠ 1)
    s!"v0.2 CAN transport {quoted transport} supports one peer per node: "
  require (timeAuthority ∈ linkNodes routes) (.graphError
    (s!"CAN transport {quoted transport} does not connect synchronized time authority " ++
      quoted timeAuthority))

/-- The checks of the CAN routes. -/
def checkCanRoutes (nodeIds : List (String × Nat)) (routes : List Route) :
    Except Failure Unit := do
  let canRoutes := routes.filter fun route => route.isCarriedBy .can
  if canRoutes ≠ [] then
    match deployment.timeAuthorities with
    | [timeAuthority] => do
      let names := sortedNames (canRoutes.filterMap fun route =>
        route.carrier.map Transport.name)
      names.forM (checkCanLink timeAuthority canRoutes)
      refuseAny ((linkNodes canRoutes).filter fun node => 255 < (lookupLast nodeIds node).getD 0)
        "CAN links require node IDs in 1..255: "
    | _ => .error (.graphError
        "CAN application routes require exactly one synchronized time authority")

/-! ## Zephyr runtimes -/

/-- The capacities of the runtime of a Zephyr node. -/
structure ZephyrRuntime where
  moduleCapacity : Nat
  channelCapacity : Nat
  subscriberCapacity : Nat
  rpcCapacity : Nat
  routeCapacity : Nat
  maximumMessageSize : Nat
  executorQueueDepth : Nat
  canTxQueueDepth : Nat
  transportStorageBytes : Nat
  hardwareCapacity : Nat
  executorStackBytes : Nat
  arenaBytes : Nat
deriving DecidableEq, Repr

/-- `_ZEPHYR_LIMITS` and the capacities that it limits, with their labels. -/
def ZephyrRuntime.limits (runtime : ZephyrRuntime) : List (String × Nat × Nat) :=
  [("module capacity", runtime.moduleCapacity, 128),
    ("channel capacity", runtime.channelCapacity, 512),
    ("subscriber capacity", runtime.subscriberCapacity, 512),
    ("rpc capacity", runtime.rpcCapacity, 128),
    ("route capacity", runtime.routeCapacity, 65535),
    ("maximum message size", runtime.maximumMessageSize, 65535),
    ("executor queue depth", runtime.executorQueueDepth, 256),
    ("can tx queue depth", runtime.canTxQueueDepth, 256),
    ("hardware capacity", runtime.hardwareCapacity, 256),
    ("executor stack bytes", runtime.executorStackBytes, 1048576)]

/-- `_validate_zephyr_capacities`. -/
def validateZephyrCapacities (node : String) (runtime : ZephyrRuntime) : Except Failure Unit :=
  runtime.limits.forM fun (label, value, maximum) =>
    require (value ≤ maximum) (.graphError
      s!"Zephyr node {quoted node} {label} {value} exceeds Kconfig maximum {maximum}")

/-- `_zephyr_fixed_ram`. -/
def ZephyrRuntime.fixedRamBytes (runtime : ZephyrRuntime) : Nat :=
  runtime.arenaBytes + 512 + 512 + runtime.executorQueueDepth * 32 +
    runtime.canTxQueueDepth * 32 + runtime.transportStorageBytes + runtime.moduleCapacity * 192 +
    (runtime.moduleCapacity + 3) * 8 +
    runtime.channelCapacity * (96 + runtime.subscriberCapacity * 16) +
    runtime.rpcCapacity * 160 + runtime.rpcCapacity * (2 * runtime.maximumMessageSize + 96) +
    runtime.hardwareCapacity * 48

/-- The routes that begin or end on a node. -/
def nodeRoutes (node : String) : List Route :=
  routes.filter fun route => route.sourceNode = node ∨ route.destinationNode = node

/-- The transports of routes, without repetition and sorted by their names. -/
def externalTransports : List Transport :=
  (routes.filterMap Route.carrier).dedup.insertionSort fun a b => a.name ≤ b.name

/-- The storage of one transport of a node. -/
def transportStorage (transport : Transport) : Nat :=
  let routes := carriedBy routes transport.name
  match transport.type with
  | .usbCdc => 768 + 4 * maxDefault (routes.map Route.maxSize) 0 + 256 * routes.length
  | .can => 1536 + 8 * maxDefault (routes.map Route.maxEncodedSize) 0 + 512 * routes.length
  | _ => 0

/-- The capacities of the runtime of one Zephyr node. -/
def zephyrRuntime (ports : List PortRow) (routes : List Route) (instanceCount : Nat)
    (capabilityNames : List String) (executors : List ExecutorLock) : ZephyrRuntime where
  moduleCapacity := max 1 (instanceCount + (externalTransports routes).length)
  channelCapacity := max (max 1 (ports.countP fun port => !port.kind.isRpc)) routes.length
  subscriberCapacity := max (max 1 (ports.countP fun port => port.kind = .subscriber)) routes.length
  rpcCapacity := max (max 1 (ports.countP fun port => port.kind.isRpc)) routes.length
  routeCapacity := max 1 routes.length
  maximumMessageSize := maxDefault (ports.map PortRow.maxEncodedSize ++ routes.map Route.maxSize) 256
  executorQueueDepth :=
    maxDefault (executors.map ExecutorLock.queueDepth) 16 + (externalTransports routes).length
  canTxQueueDepth := maxDefault ((routes.filter fun route => route.isCarriedBy .can).map
    fun route => frameCount route.kind route.maxSize) 1
  transportStorageBytes := ((externalTransports routes).map (transportStorage routes)).sum
  hardwareCapacity := max 1 capabilityNames.dedup.length
  executorStackBytes := (executors.map ExecutorLock.stackBytes).foldl max 1024
  arenaBytes := 4096

/-! ## Locks -/

structure NodeLock where
  name : String
  id : Nat
  host : String
  instances : List String
  executors : List ExecutorLock
  runtime : Option ZephyrRuntime
deriving DecidableEq, Repr

/-- The runtime of one node, if it is on Zephyr. -/
def lockRuntime (graph : ApplicationGraph) (capabilities : List (String × List CapabilityBinding))
    (routes : List Route) (executors : List ExecutorLock) (node : Node) (os : Os) :
    Except Failure (Option ZephyrRuntime) :=
  match os with
  | .linux => .ok none
  | .zephyr => do
    let rows ← node.instances.mapM fun item =>
      getKey (graph.instances.find? fun row => row.name = item) item
    let bindings ← node.instances.mapM fun item => getKey (capabilities.lookup item) item
    let runtime := zephyrRuntime (rows.flatMap InstanceRow.ports) (nodeRoutes routes node.name)
      node.instances.length (bindings.flatten.map CapabilityBinding.name) executors
    validateZephyrCapacities node.name runtime
    pure (some runtime)

/-- The lock of one node. -/
def lockNode (graph : ApplicationGraph) (nodeIds : List (String × Nat))
    (capabilities : List (String × List CapabilityBinding)) (routes : List Route)
    (executors : List ExecutorLock) (node : Node) : Except Failure NodeLock := do
  let host ← deployment.hostOf node
  let id ← getKey (lookupLast nodeIds node.name) node.name
  let runtime ← lockRuntime graph capabilities routes executors node host.os
  let position (name : String) := graph.startupOrder.idxOf name
  pure ⟨node.name, id, node.host,
    node.instances.insertionSort fun a b => position a ≤ position b, executors, runtime⟩

/-- The smallest of the limits that are set. -/
def smallestLimit (first second : Option Nat) : Option Nat :=
  match first, second with
  | some first, some second => some (min first second)
  | some limit, none | none, some limit => some limit
  | none, none => none

/-- The check of the budgets of one host. -/
def checkHostBudget (placements : List (String × String)) (instances : List ModuleInstance)
    (nodes : List NodeLock) (host : Host) : Except Failure Unit := do
  let title := s!"host {quoted host.name}"
  let budget := (deployment.hostBudgets.lookup host.name).getD {}
  let nodes := nodes.filter fun node => node.host = host.name
  let modules := instances.filterMap fun (item, module) =>
    if nodes.any fun node => placements.lookup item.name = some node.name then some module
    else none
  let stack := (nodes.flatMap NodeLock.executors |>.map fun executor =>
    executor.stackBytes * executor.workers).sum
  let runtime := (nodes.filterMap NodeLock.runtime |>.map ZephyrRuntime.fixedRamBytes).sum
  let ram := stack + (modules.map Module.staticRamBytes).sum + runtime
  let flash := (modules.map Module.flashBytes).sum
  let ramLimit := smallestLimit budget.ramBytes (host.hardware.bind Hardware.ramBytes)
  let flashLimit := smallestLimit budget.flashBytes (host.hardware.bind Hardware.flashBytes)
  require (∀ limit ∈ budget.stackBytes, stack ≤ limit)
    (.graphError s!"{title} stack {stack} exceeds budget {budget.stackBytes.getD 0}")
  require (∀ limit ∈ ramLimit, ram ≤ limit)
    (.graphError s!"{title} RAM {ram} exceeds budget {ramLimit.getD 0}")
  require (∀ limit ∈ flashLimit, flash ≤ limit)
    (.graphError s!"{title} flash {flash} exceeds budget {flashLimit.getD 0}")

end Deployment

/-- What other functions read in the result of `resolve_deployment`. -/
structure DeploymentLock where
  nodes : List Deployment.NodeLock
  routes : List Deployment.Route
deriving DecidableEq, Repr

/-- `resolve_deployment`. -/
def resolveDeployment (digest : String → String) (packages : List Package)
    (application : Application) (deployment : Deployment) (release : Bool) :
    Except Failure DeploymentLock := do
  let graph ← compileApplication digest packages application release
  let modules ← loadModules packages
  let nodeIds ← assignIds (deployment.nodes.map fun node => (node.name, node.nodeId))
    "deployment node" 1
  let placements ← deployment.place application
  let domains := application.domains.map Domain.name
  deployment.nodes.forM fun node =>
    refuseAny (node.domains.filter (· ∉ domains))
      s!"node {quoted node.name} references unknown domains: "
  refuseAny ((deployment.hostBudgets.map Prod.fst).filter fun name =>
      (deployment.host? name).isNone)
    "budgets reference unknown hosts: "
  deployment.checkHosts
  deployment.checkTransports packages
  deployment.checkTime application
  let instances ← application.instances.mapM (resolveModule modules)
  deployment.checkInstances placements instances
  let capabilities ← instances.mapM fun (item, module) => do
    let bindings ← deployment.bindCapabilities placements item module
    pure (item.name, bindings)
  deployment.checkAliases capabilities
  Deployment.checkLocality placements application
  let executors ← deployment.nodes.mapM (deployment.resolveExecutors application instances)
  let routes ← graph.connections.mapM (deployment.resolveRoute placements)
  Deployment.checkRpcRoutes routes
  deployment.checkUtilization graph.connections routes
  deployment.checkCanRoutes nodeIds routes
  let nodes ← (deployment.nodes.zip executors).mapM fun (node, executors) =>
    deployment.lockNode graph nodeIds capabilities routes executors node
  deployment.hosts.forM (deployment.checkHostBudget placements instances nodes)
  pure ⟨nodes, routes⟩

end AsterCtrl.Cli
