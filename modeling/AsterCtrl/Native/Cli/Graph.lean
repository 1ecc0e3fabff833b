import AsterCtrl.ForStd.Except
import AsterCtrl.Native.Cli.Models

/-!
# The graph of an application

`compile_application` of `graph.py`: an application whose instances, connections and bindings fit
together becomes a list of connections with their identifiers, sizes and schemas.

A dictionary that is filled in a loop is a list of pairs in the order of insertion; looking up a
key finds the last of them.  A key that is not there is an error of its own, as it is in Python.

Left out: bindings in the result, the digests and the position of an error in a configuration.
-/

namespace AsterCtrl.Cli

open Except (require)

/-- The exceptions that can end a resolution. -/
inductive Failure where
  /-- `GraphError`. -/
  | graphError (message : String)
  /-- A key is not in a dictionary. -/
  | keyError (key : String)
  /-- The result of `_split_endpoint` does not have two elements, or an emitter raises. -/
  | valueError (value : String)
deriving DecidableEq, Repr

/-! ## Texts and dictionaries -/

/-- `repr` of a name. -/
def quoted (name : String) : String := "'" ++ name ++ "'"

def joined (names : List String) : String := ", ".intercalate names

/-- `sorted` of a set of names. -/
def sortedNames (names : List String) : List String := names.dedup.insertionSort (· ≤ ·)

/-- `dict.get` for a dictionary that was filled in this order. -/
def lookupLast {α : Type} (entries : List (String × α)) (key : String) : Option α :=
  entries.reverse.lookup key

/-- `dict[key]`. -/
def getKey {α : Type} (value : Option α) (key : String) : Except Failure α :=
  match value with
  | some value => .ok value
  | none => .error (.keyError key)

theorem getKey_eq_ok {α : Type} {value : Option α} {key : String} {a : α} :
    getKey value key = .ok a ↔ value = some a := by
  cases value with
  | none => exact ⟨nofun, nofun⟩
  | some b => rw [getKey, Except.ok.injEq, Option.some_inj]

/-- Refuses a graph if some names are wrong. -/
def refuseAny (names : List String) (message : String) : Except Failure Unit :=
  let names := sortedNames names
  require (names = []) (.graphError (message ++ joined names))

/-- `_unique`. -/
def unique (items : List String) (location : String) : Except Failure Unit :=
  refuseAny (items.filter fun item => 1 < items.count item)
    s!"{location} contains duplicate names: "

/-- `_split_endpoint`: what is before and after the first dot. -/
def splitEndpoint (value : String) : Except Failure (String × String) :=
  match value.toList.span (· ≠ '.') with
  | (instanceName, _ :: port) => .ok (String.ofList instanceName, String.ofList port)
  | (_, []) => .error (.valueError value)

/-- `value.split("/", 1)[0]`. -/
def packageOf (module : String) : String := String.ofList (module.toList.takeWhile (· ≠ '/'))

/-- The name of an endpoint. -/
def endpoint (instanceName port : String) : String := instanceName ++ "." ++ port

/-! ## Identifiers -/

/-- The loop of `_assign_ids` that looks for an identifier; one of `fuel` candidates is free. -/
def nextFree (used : List Nat) : (fuel candidate : Nat) → Nat
  | 0, candidate => candidate
  | fuel + 1, candidate =>
    if candidate ∈ used then nextFree used fuel (candidate + 1) else candidate

/-- The loop of `_assign_ids`. -/
def assignLoop : List (String × Option Nat) → (used : List Nat) → (candidate : Nat) →
    List (String × Nat)
  | [], _, _ => []
  | (name, some id) :: values, used, candidate => (name, id) :: assignLoop values used candidate
  | (name, none) :: values, used, candidate =>
    let id := nextFree used (used.length + 1) candidate
    (name, id) :: assignLoop values (id :: used) (id + 1)

/-- `_assign_ids`. -/
def assignIds (values : List (String × Option Nat)) (location : String) (firstAutomaticId : Nat) :
    Except Failure (List (String × Nat)) := do
  let explicit := values.filterMap Prod.snd
  unique (explicit.map toString) s!"{location} IDs"
  pure (assignLoop (values.insertionSort fun a b => a.1 ≤ b.1) explicit firstAutomaticId)

/-! ## The order of start-up -/

/-- The loop of `_startup_order`; every round but the last removes a name. -/
def startupRounds : (fuel : Nat) → List (String × List String) → Except Failure (List String)
  | fuel, dependencies =>
    if dependencies = [] then .ok []
    else
      let ready := sortedNames ((dependencies.filter fun entry => entry.2 = []).map Prod.fst)
      let cycle := sortedNames (dependencies.map Prod.fst)
      match fuel with
      | 0 => .error (.graphError s!"startup dependency cycle contains: {joined cycle}")
      | fuel + 1 => do
        require (ready ≠ [])
          (.graphError s!"startup dependency cycle contains: {joined cycle}")
        let rest := dependencies.filter fun entry => entry.1 ∉ ready
        let rest := rest.map fun entry => (entry.1, entry.2.filter (· ∉ ready))
        let order ← startupRounds fuel rest
        pure (ready ++ order)

/-- `_startup_order`. -/
def startupOrder (application : Application) : Except Failure (List String) := do
  let names := application.instances.map Instance.name
  application.instances.forM fun item => do
    refuseAny (item.startupAfter.filter (· ∉ names))
      s!"instance {quoted item.name} starts after unknown instances: "
    require (item.name ∉ item.startupAfter)
      (.graphError s!"instance {quoted item.name} cannot start after itself")
  startupRounds application.instances.length
    (application.instances.map fun item => (item.name, item.startupAfter))

/-! ## Modules and schemas -/

/-- The loop of `load_modules` over the modules of a package. -/
def loadPackageModules (package : String) :
    List Module → List (String × Module) → Except Failure (List (String × Module))
  | [], modules => .ok modules
  | module :: rest, modules => do
    let key := package ++ "/" ++ module.name
    require ((modules.lookup key).isNone)
      (.graphError s!"module {quoted key} is exported more than once")
    loadPackageModules package rest (modules ++ [(key, module)])

/-- The loop of `load_modules` over the packages. -/
def loadPackages : List Package → List (String × Module) →
    Except Failure (List (String × Module))
  | [], modules => .ok modules
  | package :: rest, modules => do
    require (package.metadataName = package.name) (.graphError
      (s!"workspace package {quoted package.name} resolves to Package " ++
        quoted package.metadataName))
    let modules ← loadPackageModules package.name package.modules modules
    loadPackages rest modules

/-- `load_modules`. -/
def loadModules (packages : List Package) : Except Failure (List (String × Module)) :=
  loadPackages packages []

/-- `_load_package_schemas`. -/
def loadPackageSchemas (packages : List Package) :
    Except Failure (List (String × Option BoundedSchema)) :=
  packages.mapM fun package =>
    match package.schema with
    | .error message =>
      .error (.graphError
        s!"package {quoted package.name} has invalid bounded protobuf inputs: {message}")
    | .ok none => do
      require (package.configuresProtobuf = false)
        (.graphError s!"package {quoted package.name} configures protobuf without exporting protos")
      pure (package.name, none)
    | .ok (some schema) => .ok (package.name, some schema)

/-- `package_schemas.get`. -/
def schemaOf (schemas : List (String × Option BoundedSchema)) (package : String) :
    Option BoundedSchema :=
  (schemas.lookup package).join

/-- `_validate_instance_config`. -/
def validateInstanceConfig (item : Instance) (module : Module) : Except Failure Unit :=
  match module.parameters with
  | none =>
    require (item.config = none) (.graphError
      (s!"instance {quoted item.name} supplies config but module {quoted module.name} " ++
        "declares no parameters"))
  | some parameters =>
    match parameters (item.config.getD "\x7b\x7d") with
    | some message => .error (.graphError s!"instance {quoted item.name}{message}")
    | none => .ok ()

/-- An instance together with its module. -/
abbrev ModuleInstance := Instance × Module

def resolveModule (modules : List (String × Module)) (item : Instance) :
    Except Failure ModuleInstance :=
  match modules.lookup item.module with
  | none =>
    .error (.graphError
      s!"instance {quoted item.name} references unknown module {quoted item.module}")
  | some module => do
    validateInstanceConfig item module
    pure (item, module)

/-- The checks of one module in `compile_application`. -/
def checkModule (domains : List String) (item : Instance) (module : Module) :
    Except Failure Unit := do
  unique (module.ports.map Port.name) s!"module {module.name} ports"
  unique (module.providers.map Provider.name) s!"module {module.name} providers"
  unique (module.requirements.map Requirement.name) s!"module {module.name} requirements"
  unique (module.capabilities.map CapabilityRequirement.name) s!"module {module.name} capabilities"
  unique (module.tasks.map Task.name) s!"module {module.name} tasks"
  module.providers.forM fun provider =>
    let domain := quoted (provider.domain.getD "")
    require (∀ domain ∈ provider.domain, domain ∈ domains) (.graphError
      s!"provider {endpoint item.name provider.name} uses undeclared domain {domain}")
  module.requirements.forM fun requirement =>
    let domain := quoted (requirement.domain.getD "")
    require (∀ domain ∈ requirement.domain, domain ∈ domains) (.graphError
      s!"requirement {endpoint item.name requirement.name} uses undeclared domain {domain}")
  module.tasks.forM fun task => do
    require (task.domain ∈ domains) (.graphError
      s!"task {endpoint item.name task.name} uses undeclared domain {quoted task.domain}")
    require (∀ deadline ∈ task.deadlineUs, ∀ period ∈ task.periodUs, deadline ≤ period)
      (.graphError s!"task {endpoint item.name task.name} deadline exceeds period")

/-! ## Connections -/

inductive RouteKind where
  | channel
  | rpc
deriving DecidableEq, Repr

inductive SchemaHashSource where
  | developmentFallback
  | descriptorBounds
deriving DecidableEq, Repr

/-- A connection in the graph of an application. -/
structure ConnectionRow where
  id : Nat
  source : String
  destination : String
  kind : RouteKind
  type : String
  schemaHash : String
  schemaHashSource : SchemaHashSource
  qos : Qos
  maxRateHz : ℚ
  maxSize : Nat
  maxEncodedSize : Nat
deriving DecidableEq, Repr

/-- A port in the graph of an application. -/
structure PortRow where
  name : String
  kind : PortKind
  type : String
  maxEncodedSize : Nat
deriving DecidableEq, Repr

/-- `value or default` for a number. -/
def orDefault (value : Option Nat) (default : Nat) : Nat :=
  match value with
  | none | some 0 => default
  | some value => value

/-- The name of a connection. -/
def Connection.name (connection : Connection) : String :=
  connection.source ++ "->" ++ connection.destination

/-- Connections are sorted by their sources and then by their destinations. -/
def Connection.before (a b : Connection) : Prop :=
  a.source < b.source ∨ a.source = b.source ∧ a.destination ≤ b.destination

instance : DecidableRel Connection.before :=
  fun _ _ => inferInstanceAs (Decidable (_ ∨ _))

/-- The directions of a connection fit. -/
def compatible : PortKind → PortKind → Bool
  | .publisher, .subscriber | .rpcClient, .rpcServer => true
  | _, _ => false

def PortKind.text : PortKind → String
  | .publisher => "publisher"
  | .subscriber => "subscriber"
  | .rpcClient => "rpc_client"
  | .rpcServer => "rpc_server"

/-- The schema hash of a connection, where it comes from and the maximum encoded size. -/
structure Contract where
  schemaHash : String
  schemaHashSource : SchemaHashSource
  maxEncodedSize : Nat
deriving DecidableEq, Repr

/-- The contract of a connection between packages of which one at least has no schema; `digest` is
    the hash of a type without a schema. -/
def developmentContract (digest : String → String) (release : Bool) (connection : Connection)
    (source destination : Port) (missingPackages : List String) : Except Failure Contract := do
  require (release = false) (.graphError
    ("release graph requires exported bounded protobuf for packages: " ++
      joined (missingPackages.insertionSort (· ≤ ·))))
  require (source.schemaHash = none ∧ destination.schemaHash = none) (.graphError
    (s!"connection {connection.source} -> {connection.destination} cannot verify schema_hash " ++
      "without exported bounded protobuf at both endpoints"))
  pure ⟨digest source.typeName, .developmentFallback, orDefault connection.maxSize 1⟩

/-- The maximum encoded size of a port in the schema of its package. -/
def portMaxWireSize (schema : BoundedSchema) (package endpoint typeName : String) (rpc : Bool) :
    Except Failure Nat :=
  let kind := if rpc then "RPC method" else "message"
  match schema.maxWireSize typeName rpc with
  | none => .error (.graphError
      (s!"port {quoted endpoint} {kind} {quoted typeName} is not exported by package " ++
        s!"{quoted package} protobuf descriptors"))
  | some size => .ok size

/-- The contract of a connection between packages with schemas. -/
def boundedContract (connection : Connection) (source destination : Port)
    (sourcePackage destinationPackage : String) (sourceSchema destinationSchema : BoundedSchema) :
    Except Failure Contract := do
  let rpc : Bool := source.kind = .rpcClient
  let sourceMaxWireSize ←
    portMaxWireSize sourceSchema sourcePackage connection.source source.typeName rpc
  let destinationMaxWireSize ← portMaxWireSize destinationSchema destinationPackage
    connection.destination destination.typeName rpc
  require (sourceSchema.schemaHash = destinationSchema.schemaHash) (.graphError
    (s!"connection {connection.source} -> {connection.destination} has " ++
      "mismatched descriptor-and-bounds schema hashes"))
  require (sourceMaxWireSize = destinationMaxWireSize) (.graphError
    (s!"connection {connection.source} -> {connection.destination} has " ++
      "mismatched maximum encoded sizes"))
  let schemaHash := sourceSchema.schemaHash
  [(connection.source, source), (connection.destination, destination)].forM fun (endpoint, port) =>
    require (∀ asserted ∈ port.schemaHash, asserted = schemaHash) (.graphError
      (s!"port {quoted endpoint} schema_hash assertion does not match the " ++
        "descriptor-and-bounds hash"))
  pure ⟨schemaHash, .descriptorBounds, sourceMaxWireSize⟩

/-- What `compile_application` knows when it looks at connections. -/
structure Endpoints where
  release : Bool
  digest : String → String
  instances : List ModuleInstance
  schemas : List (String × Option BoundedSchema)

namespace Endpoints

variable (e : Endpoints)

/-- `endpoint_ports`. -/
def ports : List (String × Port) :=
  e.instances.flatMap fun (item, module) =>
    module.ports.map fun port => (endpoint item.name port.name, port)

/-- `endpoint_providers`. -/
def providers : List (String × Provider) :=
  e.instances.flatMap fun (item, module) =>
    module.providers.map fun provider => (endpoint item.name provider.name, provider)

/-- `endpoint_requirements`. -/
def requirements : List (String × Requirement) :=
  e.instances.flatMap fun (item, module) =>
    module.requirements.map fun requirement => (endpoint item.name requirement.name, requirement)

/-- The package of the instance that `_split_endpoint` finds in a name. -/
def package (value : String) : Except Failure String := do
  let (instanceName, _) ← splitEndpoint value
  let found := e.instances.find? fun (item, _) => item.name = instanceName
  let (item, _) ← getKey found instanceName
  pure (packageOf item.module)

/-- The port at an end of a connection. -/
def port (role value : String) : Except Failure Port :=
  match lookupLast e.ports value with
  | none => .error (.graphError s!"connection {role} {quoted value} does not exist")
  | some port => .ok port

/-- The contract of a connection. -/
def contract (connection : Connection) (source destination : Port)
    (sourcePackage destinationPackage : String) : Except Failure Contract :=
  match schemaOf e.schemas sourcePackage, schemaOf e.schemas destinationPackage with
  | some sourceSchema, some destinationSchema =>
    boundedContract connection source destination sourcePackage destinationPackage sourceSchema
      destinationSchema
  | sourceSchema, destinationSchema =>
    developmentContract e.digest e.release connection source destination
      ((if sourceSchema.isNone then [sourcePackage] else []) ++
        if destinationSchema.isNone then [destinationPackage] else [])

/-- One round of the loop over the connections. -/
def connect (ids : List (String × Nat)) (connection : Connection) :
    Except Failure ConnectionRow := do
  let title := s!"connection {connection.source} -> {connection.destination}"
  let source ← e.port "source" connection.source
  let destination ← e.port "destination" connection.destination
  require (compatible source.kind destination.kind) (.graphError
    s!"{title} has incompatible directions {source.kind.text} -> {destination.kind.text}")
  require (source.typeName = destination.typeName) (.graphError
    s!"{title} type mismatch: {source.typeName} != {destination.typeName}")
  let sourcePackage ← e.package connection.source
  let destinationPackage ← e.package connection.destination
  let contract ← e.contract connection source destination sourcePackage destinationPackage
  require (∀ maxSize ∈ connection.maxSize, contract.maxEncodedSize ≤ maxSize) (.graphError
    (s!"{title} max_size {connection.maxSize.getD 0} is below encoded maximum " ++
      toString contract.maxEncodedSize))
  [(connection.source, source), (connection.destination, destination)].forM fun (endpoint, port) =>
    require (∀ limit ∈ port.maxRateHz, connection.maxRateHz ≤ limit) (.graphError
      (s!"connection rate {connection.maxRateHz} Hz exceeds {endpoint} limit " ++
        s!"{port.maxRateHz.getD 0} Hz"))
  let id ← getKey (lookupLast ids connection.name) connection.name
  pure {
    id := id
    source := connection.source
    destination := connection.destination
    kind := if source.kind.isRpc then .rpc else .channel
    type := source.typeName
    schemaHash := contract.schemaHash
    schemaHashSource := contract.schemaHashSource
    qos := connection.qos
    maxRateHz := connection.maxRateHz
    maxSize := orDefault connection.maxSize contract.maxEncodedSize
    maxEncodedSize := contract.maxEncodedSize }

/-! ## Bindings and ports -/

/-- The checks of the bindings in `compile_application`; `bound` are the requirements that have
    been bound before. -/
def checkBindings (e : Endpoints) : List Binding → (bound : List String) →
    Except Failure (List String)
  | [], bound => .ok bound
  | binding :: bindings, bound => do
    let title := s!"binding {binding.requirement} -> {binding.provider}"
    let requirement ←
      match lookupLast e.requirements binding.requirement with
      | none => .error (.graphError
          s!"binding requirement {quoted binding.requirement} does not exist")
      | some requirement => .ok requirement
    let provider ←
      match lookupLast e.providers binding.provider with
      | none => .error (.graphError s!"binding provider {quoted binding.provider} does not exist")
      | some provider => .ok provider
    require (requirement.interface = provider.interface)
      (.graphError s!"{title} interface mismatch")
    require (∀ required ∈ requirement.domain, ∀ provided ∈ provider.domain, required = provided)
      (.graphError s!"{title} domain mismatch")
    require (binding.requirement ∉ bound)
      (.graphError s!"requirement {quoted binding.requirement} is bound more than once")
    e.checkBindings bindings (binding.requirement :: bound)

/-- The maximum encoded size in the row of a port. -/
def portMaximum (item : Instance) (port : Port) : Except Failure Nat :=
  let package := packageOf item.module
  let schema := schemaOf e.schemas package
  let title := s!"port {item.name}.{port.name}"
  let kind := if port.kind.isRpc then "RPC method" else "message"
  match schema.bind fun schema => schema.maxWireSize port.typeName port.kind.isRpc with
  | some maximum => .ok maximum
  | none => do
    require (¬ (port.schemaHash.isSome ∧ schema.isNone)) (.graphError
      s!"{title} cannot verify schema_hash without exported bounded protobuf")
    require (schema.isNone ∧ e.release = false) (.graphError
      (s!"{title} {kind} {quoted port.typeName} is not exported by package {quoted package} " ++
        "protobuf descriptors"))
    pure 256

/-- The row of a port. -/
def portRow (item : Instance) (port : Port) : Except Failure PortRow := do
  let schema := schemaOf e.schemas (packageOf item.module)
  let title := s!"port {item.name}.{port.name}"
  let maximum ← e.portMaximum item port
  require (∀ asserted ∈ port.schemaHash, ∀ hash ∈ schema.map BoundedSchema.schemaHash,
      asserted = hash)
    (.graphError
      s!"{title} schema_hash assertion does not match the descriptor-and-bounds hash")
  pure ⟨port.name, port.kind, port.typeName, maximum⟩

end Endpoints

/-- An instance in the graph of an application. -/
structure InstanceRow where
  name : String
  ports : List PortRow
deriving DecidableEq, Repr

structure ApplicationGraph where
  /-- The instances by their names. -/
  instances : List InstanceRow
  connections : List ConnectionRow
  startupOrder : List String
deriving DecidableEq, Repr

/-- `_CAN_FIRST_APPLICATION_ROUTE_ID`. -/
def canFirstApplicationRouteId : Nat := 8

/-- The names of endpoints in a connection. -/
def Connection.endpoints (connection : Connection) : List String :=
  [connection.source, connection.destination]

/-- `compile_application`. -/
def compileApplication (digest : String → String) (packages : List Package)
    (application : Application) (release : Bool) : Except Failure ApplicationGraph := do
  let startupOrder ← startupOrder application
  let modules ← loadModules packages
  let schemas ← loadPackageSchemas packages
  let instances ← application.instances.mapM (resolveModule modules)
  let domains := application.domains.map Domain.name
  unique domains "application domains"
  instances.forM fun (item, module) => checkModule domains item module
  let e : Endpoints := ⟨release, digest, instances, schemas⟩
  let connections := application.connections.insertionSort Connection.before
  unique (connections.map Connection.name) "application connections"
  let ids ← assignIds (connections.map fun connection => (connection.name, connection.routeId))
    "application route" canFirstApplicationRouteId
  let rows ← connections.mapM (e.connect ids)
  let connected := connections.flatMap Connection.endpoints
  refuseAny ((e.ports.map Prod.fst).filter fun name =>
      (lookupLast e.ports name).any Port.required ∧ name ∉ connected)
    "required ports are not connected: "
  let bound ← e.checkBindings
    (application.bindings.insertionSort fun a b => a.requirement ≤ b.requirement) []
  refuseAny ((e.requirements.map Prod.fst).filter fun name =>
      (lookupLast e.requirements name).any (!·.optional) ∧ name ∉ bound)
    "requirements are not bound: "
  let instanceRows ← instances.mapM fun (item, module) => do
    let ports ← module.ports.mapM (e.portRow item)
    pure (⟨item.name, ports⟩ : InstanceRow)
  pure ⟨instanceRows, rows, startupOrder⟩

end AsterCtrl.Cli
