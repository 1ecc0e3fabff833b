import AsterCtrl.Native.Cli.Deployment
import Mathlib.Data.List.Dedup

/-!
# Accepted deployments

What is known about a deployment that `resolve_deployment` accepts: all its steps have succeeded.
`Resolution` takes the program apart once, and what other proofs need about the routes of a lock is
derived here from the steps that make them.

## Key results

- `exists_resolution`: the steps of an accepted deployment
- `Resolution.route_nodes`: a route that a transport carries joins two different nodes
- `Resolution.carrier_mem`: the transports of routes are those of the deployment
- `Resolution.lockedFrom`: how the lock of a node comes from the node
-/

namespace AsterCtrl.Cli

open List Deployment Except

/-- The steps of a resolution with their results. -/
structure Resolution (digest : String → String) (packages : List Package)
    (application : Application) (deployment : Deployment) (release : Bool)
    (lock : DeploymentLock) where
  graph : ApplicationGraph
  modules : List (String × Module)
  nodeIds : List (String × Nat)
  placements : List (String × String)
  instances : List ModuleInstance
  capabilities : List (String × List CapabilityBinding)
  executors : List (List ExecutorLock)
  compiled : compileApplication digest packages application release = .ok graph
  loaded : loadModules packages = .ok modules
  identified : assignIds (deployment.nodes.map fun node => (node.name, node.nodeId))
    "deployment node" 1 = .ok nodeIds
  placed : deployment.place application = .ok placements
  hosts : deployment.checkHosts = .ok ()
  transports : deployment.checkTransports packages = .ok ()
  time : deployment.checkTime application = .ok ()
  resolved : application.instances.mapM (resolveModule modules) = .ok instances
  instancesFit : deployment.checkInstances placements instances = .ok ()
  bound : (instances.mapM fun (item, module) => do
    let bindings ← deployment.bindCapabilities placements item module
    pure (item.name, bindings)) = .ok capabilities
  scheduled : deployment.nodes.mapM (deployment.resolveExecutors application instances) =
    .ok executors
  routed : graph.connections.mapM (deployment.resolveRoute placements) = .ok lock.routes
  rpc : checkRpcRoutes lock.routes = .ok ()
  utilized : deployment.checkUtilization graph.connections lock.routes = .ok ()
  can : deployment.checkCanRoutes nodeIds lock.routes = .ok ()
  locked : (deployment.nodes.zip executors).mapM (fun (node, executors) =>
    deployment.lockNode graph nodeIds capabilities lock.routes executors node) = .ok lock.nodes

section Steps

variable {deployment : Deployment}

/-- The steps of an accepted deployment. -/
theorem exists_resolution {digest : String → String} {packages : List Package}
    {application : Application} {release : Bool} {lock : DeploymentLock}
    (h : resolveDeployment digest packages application deployment release = .ok lock) :
    Nonempty (Resolution digest packages application deployment release lock) := by
  unfold resolveDeployment at h
  obtain ⟨graph, compiled, h⟩ := bind_eq_ok.mp h
  obtain ⟨modules, loaded, h⟩ := bind_eq_ok.mp h
  obtain ⟨nodeIds, identified, h⟩ := bind_eq_ok.mp h
  obtain ⟨placements, placed, h⟩ := bind_eq_ok.mp h
  obtain ⟨-, h⟩ := seq_eq_ok.mp h
  obtain ⟨-, h⟩ := seq_eq_ok.mp h
  obtain ⟨hosts, h⟩ := seq_eq_ok.mp h
  obtain ⟨transports, h⟩ := seq_eq_ok.mp h
  obtain ⟨time, h⟩ := seq_eq_ok.mp h
  obtain ⟨instances, resolved, h⟩ := bind_eq_ok.mp h
  obtain ⟨instancesFit, h⟩ := seq_eq_ok.mp h
  obtain ⟨capabilities, bound, h⟩ := bind_eq_ok.mp h
  obtain ⟨-, h⟩ := seq_eq_ok.mp h
  obtain ⟨-, h⟩ := seq_eq_ok.mp h
  obtain ⟨executors, scheduled, h⟩ := bind_eq_ok.mp h
  obtain ⟨routes, routed, h⟩ := bind_eq_ok.mp h
  obtain ⟨rpc, h⟩ := seq_eq_ok.mp h
  obtain ⟨utilized, h⟩ := seq_eq_ok.mp h
  obtain ⟨can, h⟩ := seq_eq_ok.mp h
  obtain ⟨nodes, locked, h⟩ := bind_eq_ok.mp h
  obtain ⟨-, h⟩ := seq_eq_ok.mp h
  obtain rfl := pure_eq_ok.mp h
  exact ⟨⟨graph, modules, nodeIds, placements, instances, capabilities, executors, compiled, loaded,
    identified, placed, hosts, transports, time, resolved, instancesFit, bound, scheduled, routed,
    rpc, utilized, can, locked⟩⟩

variable {names : List String}

@[simp] theorem mem_sortedNames {name : String} : name ∈ sortedNames names ↔ name ∈ names := by
  rw [sortedNames, mem_insertionSort, mem_dedup]

/-- The sorted list depends on the set of the names. -/
theorem sortedNames_congr {names' : List String} (h : ∀ name, name ∈ names ↔ name ∈ names') :
    sortedNames names = sortedNames names' := by
  refine List.Perm.eq_of_pairwise (fun _ _ _ _ => le_antisymm)
    (pairwise_insertionSort (· ≤ ·) _) (pairwise_insertionSort (· ≤ ·) _) ?_
  refine (perm_insertionSort ..).trans (.trans ?_ (perm_insertionSort ..).symm)
  rw [perm_ext_iff_of_nodup (nodup_dedup _) (nodup_dedup _)]
  simpa only [mem_dedup] using h

theorem refuseAny_congr {names' : List String} (h : ∀ name, name ∈ names ↔ name ∈ names')
    (message : String) : refuseAny names message = refuseAny names' message := by
  rw [refuseAny, refuseAny, sortedNames_congr h]

theorem refuseAny_eq_ok {message : String} {u : Unit} :
    refuseAny names message = .ok u ↔ names = [] := by
  rw [refuseAny, require_eq_ok, eq_nil_iff_forall_not_mem, eq_nil_iff_forall_not_mem]
  simp only [mem_sortedNames]

theorem Deployment.maxDefault_spec {values : List Nat} (h : values ≠ []) (default : Nat) :
    maxDefault values default ∈ values ∧ ∀ value ∈ values, value ≤ maxDefault values default := by
  cases values with
  | nil => exact absurd rfl h
  | cons first rest => exact List.max?_eq_some_iff.mp List.max?_cons'

theorem Deployment.le_maxDefault {values : List Nat} {value : Nat} (h : value ∈ values)
    (default : Nat) : value ≤ maxDefault values default :=
  (maxDefault_spec (ne_nil_of_mem h) default).2 value h

/-! ## Transports -/

/-- Transports of a deployment are told apart by their names. -/
theorem Deployment.transport_eq {transport other : Transport}
    (ht : transport ∈ deployment.transports) (ho : other ∈ deployment.transports)
    (h : transport.name = other.name) : transport = other :=
  inj_on_of_nodup_map (deployment.transports_sorted.imp ne_of_lt) ht ho h

theorem Deployment.mem_of_chooseTransport {routeName sourceHost destinationHost : String}
    {transport : Transport} {qos : Option Qos}
    (h : deployment.chooseTransport routeName sourceHost destinationHost = .ok (transport, qos)) :
    transport ∈ deployment.transports := by
  unfold chooseTransport at h
  split at h
  · split at h
    · cases h
    · rename_i hfound
      obtain ⟨-, h⟩ := seq_eq_ok.mp h
      cases pure_eq_ok.mp h
      exact mem_of_find?_eq_some hfound
  · split at h
    · cases h
    · rename_i hfound
      cases h
      exact mem_of_find?_eq_some hfound

/-! ## Routes -/

/-- How a route comes from a connection. -/
structure RoutedFrom (deployment : Deployment) (placements : List (String × String))
    (connection : ConnectionRow) (route : Route) : Prop where
  id : route.id = connection.id
  source : route.source = connection.source
  destination : route.destination = connection.destination
  kind : route.kind = connection.kind
  type : route.type = connection.type
  schemaHash : route.schemaHash = connection.schemaHash
  maxSize : route.maxSize = connection.maxSize
  maxEncodedSize : route.maxEncodedSize = connection.maxEncodedSize
  sourceNode : ∃ node, deployment.endpointNode placements connection.source = .ok node ∧
    route.sourceNode = node.name
  destinationNode : ∃ node, deployment.endpointNode placements connection.destination = .ok node ∧
    route.destinationNode = node.name
  chosen : route.chosen = none ∧ route.sourceNode = route.destinationNode ∨
    ∃ transport qos sourceHost destinationHost,
      route.chosen = some transport ∧ route.sourceNode ≠ route.destinationNode ∧
      deployment.chooseTransport (connection.source ++ "->" ++ connection.destination) sourceHost
        destinationHost = .ok (transport, qos) ∧
      checkCarried transport (connection.source ++ "->" ++ connection.destination) connection =
        .ok ()

variable {route : Route}

theorem routedFrom_of_resolveRoute {placements : List (String × String)}
    {connection : ConnectionRow} (h : deployment.resolveRoute placements connection = .ok route) :
    RoutedFrom deployment placements connection route := by
  unfold resolveRoute at h
  obtain ⟨sourceNode, hsource, h⟩ := bind_eq_ok.mp h
  obtain ⟨destinationNode, hdestination, h⟩ := bind_eq_ok.mp h
  obtain ⟨⟨transport, qos⟩, hcarrier, h⟩ := bind_eq_ok.mp h
  obtain rfl := pure_eq_ok.mp h
  refine ⟨rfl, rfl, rfl, rfl, rfl, rfl, rfl, rfl, ⟨sourceNode, hsource, rfl⟩,
    ⟨destinationNode, hdestination, rfl⟩, ?_⟩
  unfold carry at hcarrier
  split_ifs at hcarrier with hsame
  · obtain ⟨⟨carrier, override⟩, hchosen, hcarrier⟩ := bind_eq_ok.mp hcarrier
    obtain ⟨hchecked, hcarrier⟩ := seq_eq_ok.mp hcarrier
    cases pure_eq_ok.mp hcarrier
    exact .inr ⟨carrier, override, _, _, rfl, hsame, hchosen, hchecked⟩
  · cases hcarrier
    exact .inl ⟨rfl, not_not.mp hsame⟩

theorem Deployment.mem_carriedBy {routes : List Route} {name : String} :
    route ∈ carriedBy routes name ↔
      route ∈ routes ∧ ∃ transport, route.carrier = some transport ∧ transport.name = name := by
  simp [carriedBy, Option.any_eq_true]

theorem isCarriedBy_iff {type : TransportType} :
    route.isCarriedBy type = true ↔
      ∃ transport, route.carrier = some transport ∧ transport.type = type := by
  simp [Route.isCarriedBy, Option.any_eq_true]

/-! ## Nodes -/

/-- How the lock of a node comes from the node: its instances in their order and, on Zephyr, the
    capacities of its runtime. -/
structure LockedFrom (deployment : Deployment) (graph : ApplicationGraph) (routes : List Route)
    (node : Node) (nodeLock : NodeLock) : Prop where
  name : nodeLock.name = node.name
  instances : nodeLock.instances.Perm node.instances
  host : ∃ host, deployment.hostOf node = .ok host ∧ (nodeLock.runtime = none ↔ host.os = .linux)
  runtime : ∀ runtime ∈ nodeLock.runtime, ∃ rows capabilityNames executors,
    node.instances.mapM (fun item =>
      getKey (graph.instances.find? fun row => row.name = item) item) = .ok rows ∧
    runtime = zephyrRuntime (rows.flatMap InstanceRow.ports) (nodeRoutes routes node.name)
      node.instances.length capabilityNames executors ∧
    validateZephyrCapacities node.name runtime = .ok ()

theorem lockedFrom_of_lockNode {graph : ApplicationGraph} {nodeIds : List (String × Nat)}
    {capabilities : List (String × List CapabilityBinding)} {routes : List Route}
    {executors : List ExecutorLock} {node : Node} {nodeLock : NodeLock}
    (h : deployment.lockNode graph nodeIds capabilities routes executors node = .ok nodeLock) :
    LockedFrom deployment graph routes node nodeLock := by
  unfold lockNode at h
  obtain ⟨host, hhost, h⟩ := bind_eq_ok.mp h
  obtain ⟨id, -, h⟩ := bind_eq_ok.mp h
  obtain ⟨runtime, hruntime, h⟩ := bind_eq_ok.mp h
  obtain rfl := pure_eq_ok.mp h
  unfold lockRuntime at hruntime
  split at hruntime
  · rename_i hos
    cases hruntime
    exact ⟨rfl, perm_insertionSort _ _, ⟨host, hhost, by simp [hos]⟩, nofun⟩
  · rename_i hos
    obtain ⟨rows, hrows, hruntime⟩ := bind_eq_ok.mp hruntime
    obtain ⟨bindings, -, hruntime⟩ := bind_eq_ok.mp hruntime
    obtain ⟨hchecked, hruntime⟩ := seq_eq_ok.mp hruntime
    obtain rfl := pure_eq_ok.mp hruntime
    refine ⟨rfl, perm_insertionSort _ _, ⟨host, hhost, by simp [hos]⟩, fun runtime hmem => ?_⟩
    obtain rfl := Option.mem_some_iff.mp hmem
    exact ⟨rows, _, _, hrows, rfl, hchecked⟩

end Steps

namespace Resolution

variable {digest : String → String} {packages : List Package} {application : Application}
  {deployment : Deployment} {release : Bool} {lock : DeploymentLock}
  (r : Resolution digest packages application deployment release lock)

include r

variable {route : Route}

/-- Every route comes from a connection of the application. -/
theorem routedFrom (hroute : route ∈ lock.routes) :
    ∃ connection ∈ r.graph.connections,
      RoutedFrom deployment r.placements connection route := by
  obtain ⟨connection, hconnection, h⟩ := exists_of_mem_mapM r.routed hroute
  exact ⟨connection, hconnection, routedFrom_of_resolveRoute h⟩

variable {transport : Transport}

/-- What was chosen for a route that a transport carries. -/
theorem carried (hroute : route ∈ lock.routes) (hcarrier : route.carrier = some transport) :
    transport ∈ deployment.transports ∧ route.sourceNode ≠ route.destinationNode := by
  obtain ⟨connection, -, hfrom⟩ := r.routedFrom hroute
  obtain ⟨hchosen, -⟩ := Option.filter_eq_some_iff.mp hcarrier
  rcases hfrom.chosen with ⟨hnone, -⟩ | ⟨_, _, _, _, hsome, hne, hmem, -⟩
  · cases hnone.symm.trans hchosen
  · cases hsome.symm.trans hchosen
    exact ⟨mem_of_chooseTransport hmem, hne⟩

/-- The transports of routes are those of the deployment. -/
theorem carrier_mem (hroute : route ∈ lock.routes) (hcarrier : route.carrier = some transport) :
    transport ∈ deployment.transports :=
  (r.carried hroute hcarrier).1

/-- A route that a transport carries joins two different nodes. -/
theorem route_nodes (hroute : route ∈ lock.routes) (hcarrier : route.carrier = some transport) :
    route.sourceNode ≠ route.destinationNode :=
  (r.carried hroute hcarrier).2

/-- A CAN route has passed the checks of its identifier and of its size. -/
theorem can_checked (hroute : route ∈ lock.routes) (hcarrier : route.carrier = some transport)
    (htype : transport.type = .can) :
    (8 ≤ route.id ∧ route.id ≤ 511) ∧ frameCount route.kind route.maxSize ≤ 16 := by
  obtain ⟨connection, -, hfrom⟩ := r.routedFrom hroute
  obtain ⟨hchosen, -⟩ := Option.filter_eq_some_iff.mp hcarrier
  rcases hfrom.chosen with ⟨hnone, -⟩ | ⟨_, _, _, _, hsome, -, -, hchecked⟩
  · cases hnone.symm.trans hchosen
  · cases hsome.symm.trans hchosen
    unfold checkCarried at hchecked
    obtain ⟨-, hchecked⟩ := seq_eq_ok.mp hchecked
    rw [if_pos htype] at hchecked
    obtain ⟨hid, hcount⟩ := seq_eq_ok.mp hchecked
    rw [hfrom.id, hfrom.kind, hfrom.maxSize]
    exact ⟨require_eq_ok.mp hid, require_eq_ok.mp hcount⟩

/-- The ids of CAN routes are ids of application routes. -/
theorem can_id (hroute : route ∈ lock.routes) (hcarrier : route.carrier = some transport)
    (htype : transport.type = .can) :
    8 ≤ route.id ∧ route.id ≤ 511 :=
  (r.can_checked hroute hcarrier htype).1

/-- Routes with a transport of one name have the same transport. -/
theorem carrier_eq {other : Route} (hroute : route ∈ lock.routes) (hother : other ∈ lock.routes)
    {carrier : Transport} (htransport : route.carrier = some transport)
    (hcarrier : other.carrier = some carrier) (hname : transport.name = carrier.name) :
    transport = carrier :=
  deployment.transport_eq (r.carrier_mem hroute htransport) (r.carrier_mem hother hcarrier) hname

/-- The routes that carry the name of a transport are on that transport. -/
theorem carrier_of_mem_carriedBy (ht : transport ∈ deployment.transports)
    (hroute : route ∈ carriedBy lock.routes transport.name) :
    route ∈ lock.routes ∧ route.carrier = some transport := by
  obtain ⟨hmem, carrier, hcarrier, hname⟩ := mem_carriedBy.mp hroute
  rw [← transport_eq (r.carrier_mem hmem hcarrier) ht hname]
  exact ⟨hmem, hcarrier⟩

/-- Every lock of a node comes from a node of the deployment. -/
theorem lockedFrom {nodeLock : NodeLock} (hnode : nodeLock ∈ lock.nodes) :
    ∃ node ∈ deployment.nodes, LockedFrom deployment r.graph lock.routes node nodeLock := by
  obtain ⟨⟨node, executors⟩, hzip, h⟩ := exists_of_mem_mapM r.locked hnode
  exact ⟨node, (of_mem_zip hzip).1, lockedFrom_of_lockNode h⟩

/-- The locks of nodes have the names of the nodes. -/
theorem map_name_nodes : lock.nodes.map NodeLock.name = deployment.nodes.map Node.name := by
  have hlength := (mapM_eq_ok.mp r.scheduled).length_eq
  have hnames : (deployment.nodes.zip r.executors).map (Node.name ∘ Prod.fst) =
      lock.nodes.map NodeLock.name :=
    map_eq_of_mapM r.locked fun _ _ h => (lockedFrom_of_lockNode h).name.symm
  rw [← hnames, ← map_map, map_fst_zip hlength.le]

/-- The locks of nodes are told apart by their names. -/
theorem node_eq {node other : NodeLock} (hnode : node ∈ lock.nodes) (hother : other ∈ lock.nodes)
    (hname : node.name = other.name) : node = other := by
  have hnodup : (lock.nodes.map NodeLock.name).Nodup := by
    rw [r.map_name_nodes]
    exact deployment.nodes_sorted.imp ne_of_lt
  exact inj_on_of_nodup_map hnodup hnode hother hname

/-- Every route ends on a node. -/
theorem exists_destination (hroute : route ∈ lock.routes) :
    ∃ node ∈ lock.nodes, node.name = route.destinationNode := by
  obtain ⟨connection, -, hrouted⟩ := r.routedFrom hroute
  obtain ⟨node, hnode, hname⟩ := hrouted.destinationNode
  obtain ⟨⟨instanceName, port⟩, -, hnode⟩ := bind_eq_ok.mp hnode
  obtain ⟨name, -, hnode⟩ := bind_eq_ok.mp hnode
  have hmem := mem_of_find?_eq_some (getKey_eq_ok.mp hnode)
  rw [hname, ← mem_map (f := NodeLock.name), r.map_name_nodes]
  exact mem_map_of_mem hmem

end Resolution

/-! ## A small system -/

namespace Talks

/-- A package with a module that publishes and one that subscribes. -/
def packages : List Package :=
  [{ name := "talks"
     metadataName := "talks"
     modules := [
       { name := "talker", ports := [⟨"out", .publisher, "talks.Word", none, true, none⟩] },
       { name := "listener", ports := [⟨"in", .subscriber, "talks.Word", none, true, none⟩] }] }]

/-- Two talkers, each of which is connected to a listener of its own. -/
def application (qos : Qos) (maxSize : Option Nat) : Application where
  instances := [⟨"a", "talks/talker", none, []⟩, ⟨"b", "talks/listener", none, []⟩,
    ⟨"c", "talks/talker", none, []⟩, ⟨"d", "talks/listener", none, []⟩]
  connections := [{ source := "a.out", destination := "b.in", qos := qos, maxSize := maxSize },
    { source := "c.out", destination := "d.in", qos := qos, maxSize := maxSize }]
  domains := [⟨"main", .monotonic⟩]
  instances_sorted := by decide

/-- A deployment to nodes of one host, with one CAN link; the node `na` has the time. -/
def deployment (nodes : List Node) (h : (nodes.map Node.name).Pairwise (· < ·)) : Deployment where
  hosts := [⟨"h", .linux, none,
    some { platform := .linux, resources := [⟨"can0", "can", "socketcan", "can0"⟩] }⟩]
  nodes := nodes
  transports := [{ name := "bus", type := .can, hosts := ["h"], bitrateBps := some 500000,
                   mtu := 8, resource := some "can0" }]
  timeAuthority := some "na"
  timeDomains := [⟨"main", .synced, none⟩]
  hosts_sorted := by decide
  nodes_sorted := h
  transports_sorted := by decide
  timeDomains_sorted := by decide

/-- The talkers are on one node and the listeners on another. -/
def twoNodes : Deployment :=
  deployment [{ name := "na", host := "h", instances := ["a", "c"] },
    { name := "nb", host := "h", instances := ["b", "d"] }] (by decide)

end Talks

end AsterCtrl.Cli
