import Mathlib.Data.Rat.Defs
import Mathlib.Data.List.Sort
import Mathlib.Data.String.Basic

/-!
# The documents of a deployment

The typed model of `models.py`: what the loaders make of the YAML documents after these have been
checked against their schemas.  A mapping becomes a list that is sorted by its keys, so the names
of instances, hosts, nodes, transports and time domains are different from each other; the
documents carry this as a field.

A file that a document names is replaced by what it holds: a host has its hardware, and a package
its modules and its bounded protobuf schema.  The schema of a module's parameters is what it says
about a configuration, and a route rule is the set of names that its pattern matches.  Rates and
budgets are rational numbers.

Left out: everything that only goes into digests, into the lock file or into generated text.
-/

namespace AsterCtrl.Cli

/-- The operating systems of hosts. -/
inductive Os where
  | linux
  | zephyr
deriving DecidableEq, Repr

/-! ## Packages -/

inductive PortKind where
  | publisher
  | subscriber
  | rpcClient
  | rpcServer
deriving DecidableEq, Repr

/-- `port.kind.startswith("rpc_")`. -/
def PortKind.isRpc : PortKind → Bool
  | .rpcClient | .rpcServer => true
  | .publisher | .subscriber => false

structure Port where
  name : String
  kind : PortKind
  typeName : String
  schemaHash : Option String := none
  required : Bool := true
  maxRateHz : Option ℚ := none
deriving DecidableEq, Repr

structure Provider where
  name : String
  interface : String
  domain : Option String := none
deriving DecidableEq, Repr

structure Requirement where
  name : String
  interface : String
  domain : Option String := none
  optional : Bool := false
deriving DecidableEq, Repr

structure CapabilityRequirement where
  name : String
  kind : String
  optional : Bool := false
deriving DecidableEq, Repr

structure Task where
  name : String
  domain : String
  stackBytes : Nat
  queueDepth : Nat
  periodUs : Option Nat := none
  deadlineUs : Option Nat := none
  priority : Int := 0
deriving DecidableEq, Repr

structure Module where
  name : String
  platforms : List Os := []
  /-- The message of the first error in a configuration, if there is one. -/
  parameters : Option (String → Option String) := none
  staticRamBytes : Nat := 0
  flashBytes : Nat := 0
  ports : List Port := []
  providers : List Provider := []
  requirements : List Requirement := []
  capabilities : List CapabilityRequirement := []
  tasks : List Task := []

/-- `BoundedRpcMethod`. -/
structure BoundedRpcMethod where
  typeName : String
  requestMaxWireSize : Nat
  responseMaxWireSize : Nat
  request_pos : 0 < requestMaxWireSize
  response_pos : 0 < responseMaxWireSize
deriving DecidableEq, Repr

/-- `BoundedMessage`; `_message_max_wire_size` returns 1 at least. -/
structure BoundedMessage where
  typeName : String
  maxWireSize : Nat
  size_pos : 0 < maxWireSize
deriving DecidableEq, Repr

structure BoundedSchema where
  schemaHash : String
  messages : List BoundedMessage := []
  rpcMethods : List BoundedRpcMethod := []
deriving DecidableEq, Repr

/-- `BoundedSchema.max_wire_size`. -/
def BoundedSchema.maxWireSize (schema : BoundedSchema) (typeName : String) (rpc : Bool) :
    Option Nat :=
  if rpc then
    (schema.rpcMethods.find? fun method => method.typeName = typeName).map fun method =>
      max method.requestMaxWireSize method.responseMaxWireSize
  else
    (schema.messages.find? fun message => message.typeName = typeName).map
      BoundedMessage.maxWireSize

/-- A package of the workspace with what it exports. -/
structure Package where
  /-- The name in the workspace and the one in the manifest. -/
  name : String
  metadataName : String
  modules : List Module := []
  transports : List String := []
  /-- The manifest has a section about protobuf. -/
  configuresProtobuf : Bool := false
  /-- The schema of the exported protobuf files, if there are any, or the message of an error in
      them. -/
  schema : Except String (Option BoundedSchema) := .ok none

/-! ## Applications -/

structure Instance where
  name : String
  module : String
  /-- The configuration, if it is not empty. -/
  config : Option String := none
  startupAfter : List String := []
deriving DecidableEq, Repr

inductive Qos where
  | bestEffort
  | reliable
deriving DecidableEq, Repr

theorem noId_pos : ∀ id ∈ (none : Option Nat), 0 < id := nofun

structure Connection where
  source : String
  destination : String
  routeId : Option Nat := none
  qos : Qos := .bestEffort
  maxRateHz : ℚ := 1
  maxSize : Option Nat := none
  routeId_pos : ∀ id ∈ routeId, 0 < id := by first | exact noId_pos | decide
deriving DecidableEq, Repr

structure Binding where
  requirement : String
  provider : String
deriving DecidableEq, Repr

inductive TimeKind where
  | monotonic
  | wall
  | simulated
deriving DecidableEq, Repr

structure Domain where
  name : String
  time : TimeKind
deriving DecidableEq, Repr

structure Application where
  instances : List Instance
  connections : List Connection := []
  bindings : List Binding := []
  domains : List Domain := []
  instances_sorted : (instances.map Instance.name).Pairwise (· < ·)

/-! ## Deployments -/

structure Resource where
  name : String
  kind : String
  backend : String
  device : String
deriving DecidableEq, Repr

structure Hardware where
  platform : Os
  board : Option String := none
  resources : List Resource := []
  flashBytes : Option Nat := none
  ramBytes : Option Nat := none
deriving DecidableEq, Repr

structure Host where
  name : String
  os : Os
  board : Option String := none
  hardware : Option Hardware := none
deriving DecidableEq, Repr

inductive Policy where
  | serial
  | workerPool
deriving DecidableEq, Repr

structure ExecutorPolicy where
  domain : String
  policy : Policy := .serial
  workers : Option Nat := none
  priority : Option Int := none
  stackBytes : Option Nat := none
  queueDepth : Option Nat := none
deriving DecidableEq, Repr

structure Node where
  name : String
  nodeId : Option Nat := none
  host : String
  instances : List String
  domains : List String := []
  executors : List ExecutorPolicy := []
  nodeId_pos : ∀ id ∈ nodeId, 0 < id := by first | exact noId_pos | decide
deriving DecidableEq, Repr

inductive TransportType where
  | can
  | canfd
  | usbCdc
  | shm
  | other (name : String)
deriving DecidableEq, Repr

/-- The value of an option of a transport. -/
inductive OptionValue where
  | int (value : Int)
  | bool (value : Bool)
  | other
deriving DecidableEq, Repr

structure Transport where
  name : String
  type : TransportType
  backend : Option String := none
  package : Option String := none
  hosts : List String
  bitrateBps : Option Nat := none
  mtu : Nat
  resource : Option String := none
  options : List (String × OptionValue) := []
deriving DecidableEq, Repr

structure RouteRule where
  /-- `fnmatch.fnmatchcase` with the pattern of the rule. -/
  pattern : String → Bool
  transport : String
  qos : Option Qos := none

inductive TimeSource where
  | monotonic
  | wall
  | simulated
  | synced
deriving DecidableEq, Repr

structure TimeDomain where
  name : String
  source : TimeSource
  authority : Option String := none
deriving DecidableEq, Repr

structure HostBudget where
  ramBytes : Option Nat := none
  flashBytes : Option Nat := none
  stackBytes : Option Nat := none
deriving DecidableEq, Repr

structure Deployment where
  hosts : List Host
  nodes : List Node
  transports : List Transport := []
  routeRules : List RouteRule := []
  timeAuthority : Option String := none
  timeDomains : List TimeDomain := []
  hostBudgets : List (String × HostBudget) := []
  transportBudgets : List (String × ℚ) := []
  hosts_sorted : (hosts.map Host.name).Pairwise (· < ·)
  nodes_sorted : (nodes.map Node.name).Pairwise (· < ·)
  transports_sorted : (transports.map Transport.name).Pairwise (· < ·)
  timeDomains_sorted : (timeDomains.map TimeDomain.name).Pairwise (· < ·)

end AsterCtrl.Cli
