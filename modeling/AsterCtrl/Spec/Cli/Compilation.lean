import AsterCtrl.Spec.Cli.Resolution

/-!
# Accepted applications

What is known about an application that `compile_application` accepts: all its steps have
succeeded.  `Compilation` takes the program apart once, as `Resolution` does for a deployment.

## Key results

- `exists_compilation`: the steps of an accepted application
- `Compilation.connectedFrom`: how a row of the graph comes from a connection
- `Compilation.port_pos`: no port has an encoded size of 0
- `Resolution.route_size`: nor has a route
-/

namespace AsterCtrl.Cli

open Except

/-- The steps of a compilation with their results. -/
structure Compilation (digest : String → String) (packages : List Package)
    (application : Application) (release : Bool) (graph : ApplicationGraph) where
  modules : List (String × Module)
  schemas : List (String × Option BoundedSchema)
  instances : List ModuleInstance
  ids : List (String × Nat)
  ordered : startupOrder application = .ok graph.startupOrder
  loaded : loadModules packages = .ok modules
  resolved : application.instances.mapM (resolveModule modules) = .ok instances
  checked : (instances.forM fun (item, module) =>
    checkModule (application.domains.map Domain.name) item module) = .ok ()
  distinct : unique ((application.connections.insertionSort Connection.before).map Connection.name)
    "application connections" = .ok ()
  identified : assignIds ((application.connections.insertionSort Connection.before).map
    fun connection => (connection.name, connection.routeId)) "application route"
    canFirstApplicationRouteId = .ok ids
  connected : (application.connections.insertionSort Connection.before).mapM
    ((⟨release, digest, instances, schemas⟩ : Endpoints).connect ids) = .ok graph.connections
  rows : (instances.mapM fun (item, module) => do
    let ports ← module.ports.mapM
      ((⟨release, digest, instances, schemas⟩ : Endpoints).portRow item)
    pure (⟨item.name, ports⟩ : InstanceRow)) = .ok graph.instances

/-- The steps of an accepted application. -/
theorem exists_compilation {digest : String → String} {packages : List Package}
    {application : Application} {release : Bool} {graph : ApplicationGraph}
    (h : compileApplication digest packages application release = .ok graph) :
    Nonempty (Compilation digest packages application release graph) := by
  unfold compileApplication at h
  obtain ⟨order, ordered, h⟩ := bind_eq_ok.mp h
  obtain ⟨modules, loaded, h⟩ := bind_eq_ok.mp h
  obtain ⟨schemas, -, h⟩ := bind_eq_ok.mp h
  obtain ⟨instances, resolved, h⟩ := bind_eq_ok.mp h
  obtain ⟨-, h⟩ := seq_eq_ok.mp h
  obtain ⟨checked, h⟩ := seq_eq_ok.mp h
  obtain ⟨distinct, h⟩ := seq_eq_ok.mp h
  obtain ⟨ids, identified, h⟩ := bind_eq_ok.mp h
  obtain ⟨connections, connected, h⟩ := bind_eq_ok.mp h
  obtain ⟨-, h⟩ := seq_eq_ok.mp h
  obtain ⟨bound, -, h⟩ := bind_eq_ok.mp h
  obtain ⟨-, h⟩ := seq_eq_ok.mp h
  obtain ⟨rows, hrows, h⟩ := bind_eq_ok.mp h
  obtain rfl := pure_eq_ok.mp h
  exact ⟨⟨modules, schemas, instances, ids, ordered, loaded, resolved, checked, distinct,
    identified, connected, hrows⟩⟩

/-! ## Sizes -/

theorem BoundedSchema.maxWireSize_pos {schema : BoundedSchema} {typeName : String} {rpc : Bool}
    {size : Nat} (h : schema.maxWireSize typeName rpc = some size) : 0 < size := by
  unfold BoundedSchema.maxWireSize at h
  split_ifs at h
  · obtain ⟨method, -, rfl⟩ := Option.map_eq_some_iff.mp h
    exact Nat.lt_of_lt_of_le method.request_pos (Nat.le_max_left _ _)
  · obtain ⟨message, -, rfl⟩ := Option.map_eq_some_iff.mp h
    exact message.size_pos

theorem orDefault_pos {value : Option Nat} {default : Nat} (h : 0 < default) :
    0 < orDefault value default := by
  unfold orDefault
  split
  · exact h
  · exact h
  · rename_i hne
    exact Nat.pos_of_ne_zero hne

/-- A size that is not below what it replaces is not below either. -/
theorem le_orDefault {value : Option Nat} {default : Nat} (h : ∀ size ∈ value, default ≤ size) :
    default ≤ orDefault value default := by
  unfold orDefault
  split
  · exact Nat.le_refl _
  · exact Nat.le_refl _
  · exact h _ rfl

theorem portMaxWireSize_pos {schema : BoundedSchema} {package endpoint typeName : String}
    {rpc : Bool} {size : Nat}
    (h : portMaxWireSize schema package endpoint typeName rpc = .ok size) : 0 < size := by
  unfold portMaxWireSize at h
  dsimp only at h
  split at h
  · cases h
  · rename_i hsize
    cases h
    exact BoundedSchema.maxWireSize_pos hsize

theorem Endpoints.contract_pos {e : Endpoints} {connection : Connection} {source destination : Port}
    {sourcePackage destinationPackage : String} {contract : Contract}
    (h : e.contract connection source destination sourcePackage destinationPackage =
      .ok contract) : 0 < contract.maxEncodedSize := by
  unfold Endpoints.contract at h
  split at h
  · unfold boundedContract at h
    obtain ⟨size, hsize, h⟩ := bind_eq_ok.mp h
    obtain ⟨_, -, h⟩ := bind_eq_ok.mp h
    obtain ⟨-, h⟩ := seq_eq_ok.mp h
    obtain ⟨-, h⟩ := seq_eq_ok.mp h
    obtain ⟨-, h⟩ := seq_eq_ok.mp h
    obtain rfl := pure_eq_ok.mp h
    exact portMaxWireSize_pos hsize
  · unfold developmentContract at h
    obtain ⟨-, h⟩ := seq_eq_ok.mp h
    obtain ⟨-, h⟩ := seq_eq_ok.mp h
    obtain rfl := pure_eq_ok.mp h
    exact orDefault_pos Nat.one_pos

/-! ## Connections -/

/-- How a row of the graph comes from a connection. -/
structure ConnectedFrom (e : Endpoints) (connection : Connection) (row : ConnectionRow) : Prop where
  source : row.source = connection.source
  destination : row.destination = connection.destination
  ports : ∃ source destination, lookupLast e.ports connection.source = some source ∧
    lookupLast e.ports connection.destination = some destination ∧
    compatible source.kind destination.kind ∧ source.typeName = destination.typeName ∧
    row.kind = (if source.kind.isRpc then .rpc else .channel) ∧ row.type = source.typeName
  size_pos : 0 < row.maxEncodedSize
  size_le : row.maxEncodedSize ≤ row.maxSize

theorem Endpoints.lookup_of_port {e : Endpoints} {role value : String} {port : Port}
    (h : e.port role value = .ok port) : lookupLast e.ports value = some port := by
  unfold Endpoints.port at h
  split at h
  · cases h
  · rename_i hport
    cases h
    exact hport

theorem connectedFrom_of_connect {e : Endpoints} {ids : List (String × Nat)}
    {connection : Connection} {row : ConnectionRow} (h : e.connect ids connection = .ok row) :
    ConnectedFrom e connection row := by
  unfold Endpoints.connect at h
  obtain ⟨source, hsource, h⟩ := bind_eq_ok.mp h
  obtain ⟨destination, hdestination, h⟩ := bind_eq_ok.mp h
  obtain ⟨hcompatible, h⟩ := seq_eq_ok.mp h
  obtain ⟨htype, h⟩ := seq_eq_ok.mp h
  obtain ⟨sourcePackage, -, h⟩ := bind_eq_ok.mp h
  obtain ⟨destinationPackage, -, h⟩ := bind_eq_ok.mp h
  obtain ⟨contract, hcontract, h⟩ := bind_eq_ok.mp h
  obtain ⟨hsize, h⟩ := seq_eq_ok.mp h
  obtain ⟨-, h⟩ := seq_eq_ok.mp h
  obtain ⟨id, -, h⟩ := bind_eq_ok.mp h
  obtain rfl := pure_eq_ok.mp h
  exact ⟨rfl, rfl, ⟨source, destination, Endpoints.lookup_of_port hsource,
    Endpoints.lookup_of_port hdestination, require_eq_ok.mp hcompatible, require_eq_ok.mp htype,
    rfl, rfl⟩, Endpoints.contract_pos hcontract, le_orDefault (require_eq_ok.mp hsize)⟩

namespace Compilation

variable {digest : String → String} {packages : List Package} {application : Application}
  {release : Bool} {graph : ApplicationGraph}

/-- The endpoints of the connections of the application. -/
def endpoints (c : Compilation digest packages application release graph) : Endpoints :=
  ⟨release, digest, c.instances, c.schemas⟩

/-- Every row of the graph comes from a connection of the application. -/
theorem connectedFrom (c : Compilation digest packages application release graph)
    {row : ConnectionRow} (hrow : row ∈ graph.connections) :
    ∃ connection ∈ application.connections, ConnectedFrom c.endpoints connection row := by
  obtain ⟨connection, hconnection, hconnect⟩ := exists_of_mem_mapM c.connected hrow
  exact ⟨connection, (List.mem_insertionSort _).mp hconnection, connectedFrom_of_connect hconnect⟩

end Compilation

/-- The encoded size of a route is not 0 and not above the size that was asked for. -/
theorem Resolution.route_size {digest : String → String} {packages : List Package}
    {application : Application} {deployment : Deployment} {release : Bool} {lock : DeploymentLock}
    (r : Resolution digest packages application deployment release lock) {route : Deployment.Route}
    (hroute : route ∈ lock.routes) :
    0 < route.maxEncodedSize ∧ route.maxEncodedSize ≤ route.maxSize := by
  obtain ⟨c⟩ := exists_compilation r.compiled
  obtain ⟨row, hrow, hrouted⟩ := r.routedFrom hroute
  obtain ⟨connection, -, hconnected⟩ := c.connectedFrom hrow
  rw [hrouted.maxEncodedSize, hrouted.maxSize]
  exact ⟨hconnected.size_pos, hconnected.size_le⟩

end AsterCtrl.Cli
