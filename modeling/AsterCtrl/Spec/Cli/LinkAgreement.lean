import AsterCtrl.Spec.Cli.Identifiers
import AsterCtrl.Spec.Cli.LinkPairs
import AsterCtrl.Native.Cli.Emitters

/-!
# The two ends of a CAN link

The emitter wires each node from the routes of that node alone.  On a CAN link of an accepted
deployment, the routes at a node are also those at its peer, in the same order: both ends select
them by the same pair of nodes.  So the ends agree on everything that is computed from the routes,
and what leaves one end arrives at the other.

## Key results

- `Resolution.exists_canPair`: the peer of a node on a CAN link, and the routes between the two
- `Resolution.nodeCanWiring_eq`: the wiring of such a node fails only for the name of a service
- `can_ends_agree`: the wirings of a node and of its peer fit together
-/

namespace AsterCtrl.Cli

open List Deployment Except

/-! ## Pairs -/

variable {node : String} {selected : List Route} {route : Route}

theorem mem_outgoing {kind : RouteKind} :
    route ∈ outgoing kind node selected ↔
      route ∈ selected ∧ route.kind = kind ∧ route.sourceNode = node := by
  rw [outgoing, mem_filter, decide_eq_true_eq]

theorem mem_incoming {kind : RouteKind} :
    route ∈ incoming kind node selected ↔
      route ∈ selected ∧ route.kind = kind ∧ route.destinationNode = node := by
  rw [incoming, mem_filter, decide_eq_true_eq]

/-- A transport joins a node and its peer by these routes. -/
structure CanPair (lock : DeploymentLock) (transport : Transport) (node peer : String)
    (selected : List Route) : Prop where
  ne : node ≠ peer
  nonempty : selected ≠ []
  node_selected : selectedRoutes lock node transport = selected
  peer_selected : selectedRoutes lock peer transport = selected
  ends : ∀ route ∈ selected, route.ends = s(node, peer)

namespace CanPair

variable {lock : DeploymentLock} {transport : Transport} {node peer : String}
  {selected : List Route}

theorem symm (h : CanPair lock transport node peer selected) :
    CanPair lock transport peer node selected :=
  ⟨h.ne.symm, h.nonempty, h.peer_selected, h.node_selected, fun route hroute =>
    (h.ends route hroute).trans Sym2.eq_swap⟩

/-- The directions of a route. -/
theorem directions (h : CanPair lock transport node peer selected) {route : Route}
    (hroute : route ∈ selected) :
    route.sourceNode = node ∧ route.destinationNode = peer ∨
      route.sourceNode = peer ∧ route.destinationNode = node :=
  Sym2.eq_iff.mp (h.ends route hroute)

/-- What leaves the node arrives at the peer. -/
theorem outgoing_eq (h : CanPair lock transport node peer selected) (kind : RouteKind) :
    outgoing kind node selected = incoming kind peer selected := by
  refine filter_congr fun route hroute => ?_
  have hne := h.ne
  rcases h.directions hroute with ⟨hsource, hdestination⟩ | ⟨hsource, hdestination⟩
  · simp [hsource, hdestination]
  · simp [hsource, hdestination, hne, hne.symm]

/-- Every route leaves the node or arrives there. -/
theorem mem_outgoing_or_incoming (h : CanPair lock transport node peer selected) {route : Route}
    (hroute : route ∈ selected) :
    route ∈ outgoing route.kind node selected ∨ route ∈ incoming route.kind node selected := by
  rcases h.directions hroute with ⟨hsource, -⟩ | ⟨-, hdestination⟩
  · exact .inl (mem_outgoing.mpr ⟨hroute, rfl, hsource⟩)
  · exact .inr (mem_incoming.mpr ⟨hroute, rfl, hdestination⟩)

/-- The emitter chooses the peer. -/
theorem canPeer_eq (h : CanPair lock transport node peer selected) {timeAuthorities : List String}
    (hauthority : timeAuthorities.length = 1) :
    canPeer node selected transport timeAuthorities = .ok peer := by
  have hpeers : (selected.map fun route =>
      if route.sourceNode = node then route.destinationNode else route.sourceNode).dedup =
        [peer] := by
    have hall : (selected.map fun route =>
        if route.sourceNode = node then route.destinationNode else route.sourceNode) =
          List.replicate selected.length peer := by
      refine eq_replicate_iff.mpr ⟨length_map _, fun name hname => ?_⟩
      obtain ⟨route, hroute, rfl⟩ := mem_map.mp hname
      rcases h.directions hroute with ⟨hsource, hdestination⟩ | ⟨hsource, -⟩
      · rw [if_pos hsource, hdestination]
      · rw [if_neg (hsource ▸ h.ne.symm), hsource]
    rw [hall]
    exact replicate_dedup (length_pos_of_ne_nil h.nonempty).ne'
  unfold canPeer
  rw [hpeers]
  exact seq_eq_ok.mpr ⟨require_eq_ok.mpr hauthority, rfl⟩

end CanPair

/-- The routes at a node are those of the link that end there, in the order of the lock. -/
theorem selectedRoutes_eq (lock : DeploymentLock) (node : String) (transport : Transport) :
    selectedRoutes lock node transport =
      (carriedBy lock.routes transport.name).filter fun route => node ∈ route.ends := by
  rw [selectedRoutes, carriedBy, carriedBy, nodeRoutes, filter_filter, filter_filter]
  refine filter_congr fun route _ => ?_
  rw [Bool.and_comm]
  congr 1
  simp only [Route.ends, Sym2.mem_iff, eq_comm (a := node)]

variable {transport : Transport}

theorem mem_selectedRoutes {lock : DeploymentLock} :
    route ∈ selectedRoutes lock node transport ↔
      route ∈ carriedBy lock.routes transport.name ∧ node ∈ route.ends := by
  rw [selectedRoutes_eq, mem_filter, decide_eq_true_eq]

/-! ## Hosts -/

variable {deployment : Deployment}

theorem Deployment.hosts_of_chooseTransport {routeName sourceHost destinationHost : String}
    {qos : Option Qos}
    (h : deployment.chooseTransport routeName sourceHost destinationHost = .ok (transport, qos)) :
    sourceHost ∈ transport.hosts ∧ destinationHost ∈ transport.hosts := by
  unfold chooseTransport at h
  split at h
  · split at h
    · cases h
    · obtain ⟨hhosts, h⟩ := seq_eq_ok.mp h
      cases pure_eq_ok.mp h
      exact require_eq_ok.mp hhosts
  · split at h
    · cases h
    · rename_i hfound
      cases h
      exact of_decide_eq_true (List.find?_eq_some_iff_append.mp hfound).1

theorem Deployment.mem_of_endpointNode {placements : List (String × String)} {value : String}
    {node : Node} (h : deployment.endpointNode placements value = .ok node) :
    node ∈ deployment.nodes := by
  obtain ⟨⟨instanceName, port⟩, -, h⟩ := bind_eq_ok.mp h
  obtain ⟨name, -, h⟩ := bind_eq_ok.mp h
  exact mem_of_find?_eq_some (getKey_eq_ok.mp h)

/-- Both ends of a route are on hosts of its transport. -/
theorem hosts_of_resolveRoute {placements : List (String × String)} {connection : ConnectionRow}
    (h : deployment.resolveRoute placements connection = .ok route)
    (hchosen : route.chosen = some transport) {name : String} (hname : name ∈ route.ends) :
    ∃ node ∈ deployment.nodes, node.name = name ∧ node.host ∈ transport.hosts := by
  unfold resolveRoute at h
  obtain ⟨source, hsource, h⟩ := bind_eq_ok.mp h
  obtain ⟨destination, hdestination, h⟩ := bind_eq_ok.mp h
  obtain ⟨⟨carrier, qos⟩, hcarrier, h⟩ := bind_eq_ok.mp h
  obtain rfl := pure_eq_ok.mp h
  unfold carry at hcarrier
  split_ifs at hcarrier with hsame
  · obtain ⟨⟨chosen, override⟩, hchoose, hcarrier⟩ := bind_eq_ok.mp hcarrier
    obtain ⟨-, hcarrier⟩ := seq_eq_ok.mp hcarrier
    cases pure_eq_ok.mp hcarrier
    obtain rfl := Option.some_inj.mp hchosen
    obtain ⟨hsourceHost, hdestinationHost⟩ := hosts_of_chooseTransport hchoose
    rcases Sym2.mem_iff.mp hname with rfl | rfl
    · exact ⟨source, mem_of_endpointNode hsource, rfl, hsourceHost⟩
    · exact ⟨destination, mem_of_endpointNode hdestination, rfl, hdestinationHost⟩
  · cases hcarrier
    cases hchosen

/-- A host of a CAN transport has the resource that the wiring needs. -/
theorem resource_of_checkTransportHost {hostName : String} (htype : transport.type = .can)
    (hresource : transport.resource.isSome)
    (h : deployment.checkTransportHost transport hostName = .ok ()) :
    ∃ host hardware resource, deployment.host? hostName = some host ∧
      host.hardware = some hardware ∧
      (transport.resource.bind fun name =>
        hardware.resources.find? fun resource => resource.name = name) = some resource ∧
      resource.backend = (requiredBackend host.os).1 := by
  obtain ⟨resourceName, hname⟩ := Option.isSome_iff_exists.mp hresource
  unfold checkTransportHost at h
  dsimp only at h
  split at h
  · cases h
  rename_i host hfound
  obtain ⟨_, hhost, h⟩ := bind_eq_ok.mp h
  cases hhost
  rw [hname] at h
  dsimp only at h
  split at h
  · cases h
  rename_i hardware hprofile
  obtain ⟨_, hhardware, h⟩ := bind_eq_ok.mp h
  cases hhardware
  split at h
  · cases h
  rename_i resource hlisted
  obtain ⟨_, hresource, h⟩ := bind_eq_ok.mp h
  cases hresource
  obtain ⟨-, h⟩ := seq_eq_ok.mp h
  have hbackend := require_eq_ok.mp h (by rw [htype]; rfl)
  refine ⟨host, hardware, resource, hfound, hprofile, ?_, ?_⟩
  · rw [hname]
    exact hlisted
  · rw [hbackend, htype]
    cases hos : host.os <;> simp [expectedBackend, requiredBackend, hos]

/-- What was checked of a CAN transport and its hosts. -/
theorem checked_of_checkTransport {packages : List Package} (htype : transport.type = .can)
    (h : deployment.checkTransport packages transport = .ok ()) :
    checkCanOptions transport = .ok () ∧ transport.resource.isSome ∧
      ∀ host ∈ transport.hosts, deployment.checkTransportHost transport host = .ok () := by
  unfold checkTransport at h
  obtain ⟨-, h⟩ := seq_eq_ok.mp h
  obtain ⟨-, h⟩ := seq_eq_ok.mp h
  obtain ⟨-, h⟩ := seq_eq_ok.mp h
  obtain ⟨hoptions, h⟩ := seq_eq_ok.mp h
  obtain ⟨-, h⟩ := seq_eq_ok.mp h
  obtain ⟨-, h⟩ := seq_eq_ok.mp h
  obtain ⟨-, h⟩ := seq_eq_ok.mp h
  obtain ⟨-, h⟩ := seq_eq_ok.mp h
  obtain ⟨hresource, hhosts⟩ := seq_eq_ok.mp h
  exact ⟨hoptions, require_eq_ok.mp hresource (by rw [htype]; rfl), forM_eq_ok.mp hhosts⟩

/-! ## Options -/

/-- An option that was checked is in its range. -/
theorem optionNat_of_intOption {option : String} {default minimum maximum : Nat}
    (h : intOption transport option (.int default) minimum maximum = true) :
    minimum ≤ optionNat transport option default ∧
      optionNat transport option default ≤ maximum := by
  unfold intOption at h
  unfold optionNat
  cases hoption : transport.options.lookup option with
  | none => simpa [hoption] using h
  | some value =>
    cases value with
    | int value =>
      simp only [hoption, Option.getD_some, decide_eq_true_eq] at h
      dsimp only
      omega
    | bool value => simp [hoption] at h
    | other => simp [hoption] at h

/-- The timeouts of a CAN transport in nanoseconds. -/
theorem timeouts_of_checkCanOptions (htype : transport.type = .can)
    (h : checkCanOptions transport = .ok ()) :
    UInt64.ofNat (optionNat transport "retry_timeout_us" 5000 * 1000) ≠ 0 ∧
      UInt64.ofNat (optionNat transport "reassembly_timeout_us" 100000 * 1000) ≠ 0 := by
  have hne : ∀ {microseconds : Nat}, 100 ≤ microseconds → microseconds ≤ 10000000 →
      UInt64.ofNat (microseconds * 1000) ≠ 0 := by
    intro microseconds hlow hhigh hzero
    have hnat := congrArg UInt64.toNat hzero
    rw [UInt64.toNat_ofNat', UInt64.toNat_zero] at hnat
    omega
  have hchecked := forM_eq_ok.mp h
  constructor
  · have hrange : 100 ≤ optionNat transport "retry_timeout_us" 5000 ∧
        optionNat transport "retry_timeout_us" 5000 ≤ 1000000 :=
      optionNat_of_intOption (require_eq_ok.mp
        (hchecked ("retry_timeout_us", 100, 1000000, 5000) (by simp)) htype)
    exact hne hrange.1 (by omega)
  · have hrange : 100 ≤ optionNat transport "reassembly_timeout_us" 100000 ∧
        optionNat transport "reassembly_timeout_us" 100000 ≤ 10000000 :=
      optionNat_of_intOption (require_eq_ok.mp
        (hchecked ("reassembly_timeout_us", 100, 10000000, 100000) (by simp)) htype)
    exact hne hrange.1 hrange.2

/-! ## Links of a deployment -/

namespace Resolution

variable {digest : String → String} {packages : List Package} {application : Application}
  {deployment : Deployment} {release : Bool} {lock : DeploymentLock} {transport : Transport}
  (r : Resolution digest packages application deployment release lock)

include r

/-- The nodes of a route that a transport carries are on hosts of the transport. -/
theorem exists_node_of_mem_ends
    {route : Route}
    (hroute : route ∈ lock.routes) (hcarrier : route.carrier = some transport) {name : String}
    (hname : name ∈ route.ends) :
    ∃ node ∈ lock.nodes, node.name = name ∧ node.host ∈ transport.hosts := by
  obtain ⟨connection, -, hrouted⟩ := exists_of_mem_mapM r.routed hroute
  obtain ⟨hchosen, -⟩ := Option.filter_eq_some_iff.mp hcarrier
  obtain ⟨source, hsource, rfl, hhost⟩ := hosts_of_resolveRoute hrouted hchosen hname
  obtain ⟨node, hnode, hname⟩ : ∃ node ∈ lock.nodes, node.name = source.name := by
    rw [← mem_map (f := NodeLock.name), r.map_name_nodes]
    exact mem_map_of_mem hsource
  obtain ⟨other, hother, hsame, hcopied, -⟩ := r.copied hnode
  obtain rfl : other = source := inj_on_of_nodup_map (deployment.nodes_sorted.imp ne_of_lt)
    hother hsource (hsame.symm.trans hname)
  exact ⟨node, hnode, hname, hcopied ▸ hhost⟩

variable {node : NodeLock}

/-- The emitter finds the identifiers of the lock. -/
theorem lookup_id (hnode : node ∈ lock.nodes) :
    (lock.nodes.map fun node => (node.name, node.id)).lookup node.name = some node.id := by
  have hnodup : (lock.nodes.map NodeLock.name).Nodup := by
    rw [r.map_name_nodes]
    exact deployment.nodes_sorted.imp ne_of_lt
  obtain ⟨before, after, hnodes⟩ := append_of_mem hnode
  rw [hnodes, map_append, map_cons] at hnodup ⊢
  refine lookup_eq_some_iff.mpr ⟨_, _, rfl, fun entry hentry => ?_⟩
  obtain ⟨other, hother, rfl⟩ := mem_map.mp hentry
  rw [bne_iff_ne]
  rintro heq
  exact (nodup_append.mp hnodup).2.2 _ (mem_map_of_mem hother) _ mem_cons_self
    heq.symm

/-- The identifiers of the nodes of a CAN link fit in a byte. -/
theorem id_le (ht : transport ∈ deployment.transports) (htype : transport.type = .can)
    (hnode : node ∈ lock.nodes) (hne : selectedRoutes lock node.name transport ≠ []) :
    node.id ≤ 255 := by
  obtain ⟨route, hroute⟩ := exists_mem_of_ne_nil _ hne
  obtain ⟨hcarried, hend⟩ := mem_selectedRoutes.mp hroute
  obtain ⟨hmem, hcarrier⟩ := r.carrier_of_mem_carriedBy ht hcarried
  have hcan : route ∈ lock.routes.filter fun route => route.isCarriedBy .can :=
    mem_filter.mpr ⟨hmem, isCarriedBy_iff.mpr ⟨transport, hcarrier, htype⟩⟩
  have hcheck := r.can
  unfold checkCanRoutes at hcheck
  dsimp only at hcheck
  rw [if_pos (ne_nil_of_mem hcan)] at hcheck
  split at hcheck
  · obtain ⟨-, hids⟩ := seq_eq_ok.mp hcheck
    have hid := filter_eq_nil_iff.mp (refuseAny_eq_ok.mp hids) node.name
      (mem_linkNodes.mpr ⟨route, hcan, hend⟩)
    obtain ⟨_, -, -, -, hlookup⟩ := r.copied hnode
    simpa [hlookup] using hid
  · cases hcheck

/-- The peer of a node on a CAN link, and the routes between the two. -/
theorem exists_canPair (ht : transport ∈ deployment.transports) (htype : transport.type = .can)
    (hne : selectedRoutes lock node.name transport ≠ []) :
    ∃ peer ∈ lock.nodes, CanPair lock transport node.name peer.name
      (selectedRoutes lock node.name transport) := by
  obtain ⟨first, hfirst⟩ := exists_mem_of_ne_nil _ hne
  obtain ⟨hcarried, hend⟩ := mem_selectedRoutes.mp hfirst
  obtain ⟨hmem, hcarrier⟩ := r.carrier_of_mem_carriedBy ht hcarried
  obtain ⟨name, hname⟩ := hend
  have hpeer : name ∈ first.ends := hname ▸ Sym2.mem_mk_right _ _
  have hnode : node.name ∈ first.ends := hname ▸ Sym2.mem_mk_left _ _
  obtain ⟨peer, hpeerNode, rfl, -⟩ := r.exists_node_of_mem_ends hmem hcarrier hpeer
  obtain ⟨timeAuthority, -, hlink⟩ := r.canLink ht htype (ne_nil_of_mem hcarried)
  refine ⟨peer, hpeerNode, ?_, hne, rfl, ?_, ?_⟩
  · have hdistinct := r.route_nodes hmem hcarrier
    intro heq
    rw [heq, Route.ends, Sym2.eq_iff] at hname
    grind
  · -- A route of the link that ends at one of the two has the ends of the first one.
    rw [selectedRoutes_eq, selectedRoutes_eq]
    refine filter_congr fun route hroute => decide_eq_decide.mpr ⟨fun hend => ?_, fun hend => ?_⟩
    · rw [hlink.ends_eq hroute hcarried hend hpeer]
      exact hnode
    · rw [hlink.ends_eq hroute hcarried hend hnode]
      exact hpeer
  · intro route hroute
    obtain ⟨hother, hend⟩ := mem_selectedRoutes.mp hroute
    rw [← hname]
    exact hlink.ends_eq hother hcarried hend hnode

/-- The sizes of a CAN route are within the limits of the bridges. -/
theorem can_size {route : Route} (hroute : route ∈ lock.routes)
    (hcarrier : route.carrier = some transport) (htype : transport.type = .can) :
    protocolOverhead route.kind + route.maxEncodedSize ≤ 96 := by
  have hcount := (r.can_checked hroute hcarrier htype).2
  have hsize := (r.route_size hroute).2
  unfold frameCount at hcount
  dsimp only [canFragmentPayload] at hcount
  split_ifs at hcount with hshort
  · omega
  · omega

/-- The wiring of a node on a CAN link fails only for the name of a service. -/
theorem nodeCanWiring_eq (ht : transport ∈ deployment.transports) (htype : transport.type = .can)
    {peer : NodeLock} (hnode : node ∈ lock.nodes) (hpeer : peer ∈ lock.nodes)
    {selected : List Route} (pair : CanPair lock transport node.name peer.name selected)
    (hashes : Hashes) :
    ∃ device, nodeCanWiring hashes deployment lock node transport = (do
      let rpcClients ← (outgoing .rpc node.name selected).mapM rpcBridge
      let rpcServers ← (incoming .rpc node.name selected).mapM rpcBridge
      pure (some (canWiring hashes node.name node.id peer.id selected transport device
        deployment.timeAuthorities rpcClients rpcServers))) := by
  obtain ⟨route, hroute⟩ := exists_mem_of_ne_nil _ pair.nonempty
  obtain ⟨hcarried, hend⟩ := mem_selectedRoutes.mp (pair.node_selected ▸ hroute)
  obtain ⟨hmem, hcarrier⟩ := r.carrier_of_mem_carriedBy ht hcarried
  obtain ⟨timeAuthority, hauthority, -⟩ := r.canLink ht htype (ne_nil_of_mem hcarried)
  -- The host of the node has the resource with the right backend.
  obtain ⟨other, hother, hname, hhost⟩ := r.exists_node_of_mem_ends hmem hcarrier hend
  obtain rfl := r.node_eq hother hnode hname
  obtain ⟨-, hresource, hhosts⟩ := checked_of_checkTransport htype
    (forM_eq_ok.mp (seq_eq_ok.mp r.transports).1 transport ht)
  obtain ⟨host, hardware, resource, hfound, hhardware, hresource, hbackend⟩ :=
    resource_of_checkTransportHost htype hresource (hhosts _ hhost)
  refine ⟨resource.device, ?_⟩
  have hnonempty : ¬(outgoing .channel other.name selected = [] ∧
      incoming .channel other.name selected = [] ∧ outgoing .rpc other.name selected = [] ∧
      incoming .rpc other.name selected = []) := by
    rintro ⟨h₁, h₂, h₃, h₄⟩
    have hwired := pair.mem_outgoing_or_incoming hroute
    cases hkind : route.kind <;> simp [hkind, h₁, h₂, h₃, h₄] at hwired
  have hids : other.id ≤ 255 ∧ peer.id ≤ 255 :=
    ⟨r.id_le ht htype hother (pair.node_selected ▸ pair.nonempty),
      r.id_le ht htype hpeer (pair.peer_selected ▸ pair.nonempty)⟩
  unfold nodeCanWiring
  rw [getKey_eq_ok.mpr hfound, ok_bind, hhardware]
  dsimp only
  rw [hresource]
  dsimp only
  unfold canTransportWiring
  dsimp only
  rw [pair.node_selected, if_neg hnonempty, pair.canPeer_eq (by rw [hauthority]; rfl), ok_bind,
    getKey_eq_ok.mpr (r.lookup_id hother), ok_bind, getKey_eq_ok.mpr (r.lookup_id hpeer), ok_bind,
    (require_eq_ok (u := ())).mpr hids, ok_bind, (require_eq_ok (u := ())).mpr hbackend, ok_bind]

end Resolution

/-! ## Agreement -/

namespace CanWiring

/-- The identifiers of the routes that are wired. -/
def routeIds (wiring : CanWiring) : List UInt16 :=
  wiring.egress.map Can.EgressConfig.routeId ++ wiring.ingress.map Can.IngressConfig.routeId ++
    wiring.rpcClients.map RpcBridge.routeId ++ wiring.rpcServers.map RpcBridge.routeId

/-- One end of a link fits the other: their handshakes are compatible, each has the other as its
    peer, and what the first one sends is what the second one receives. -/
structure Mirrors (wiring other : CanWiring) : Prop where
  protocolVersion : wiring.control.localHandshake.protocolVersion =
    other.control.localHandshake.protocolVersion
  deploymentHash : wiring.control.localHandshake.deploymentHash =
    other.control.localHandshake.deploymentHash
  schemaHash : wiring.control.localHandshake.schemaHash = other.control.localHandshake.schemaHash
  compatible : Can.CompatibilityGuard.check wiring.control.localHandshake
    other.control.localHandshake = .compatible
  nodeId : wiring.control.localHandshake.nodeId ≠ other.control.localHandshake.nodeId
  peerNodeId : wiring.control.peerNodeId = other.control.localHandshake.nodeId
  timeAuthority : wiring.control.timeAuthority = true → other.control.timeAuthority = false
  routeIds : ∀ id, id ∈ wiring.routeIds ↔ id ∈ other.routeIds
  channels : (wiring.egress.map fun egress =>
      (egress.routeId, egress.reliability, egress.descriptor.messageType)) =
    other.ingress.map fun ingress =>
      (ingress.routeId, ingress.reliability, ingress.descriptor.messageType)
  rpc : wiring.rpcClients = other.rpcServers
  maximumMessageSize : wiring.maximumMessageSize = other.maximumMessageSize

/-- One end of a link is within the limits of the runtime, for a node and its routes. -/
structure WithinLimits (node : NodeLock) (selected : List Route) (wiring : CanWiring) : Prop where
  nodeId : wiring.control.localHandshake.nodeId.toNat = node.id
  nodeId_range : 1 ≤ node.id ∧ node.id ≤ 255
  valid : wiring.control.isValid true true
  routeIds : ∀ id, id ∈ wiring.routeIds ↔ ∃ route ∈ selected, route.id = id.toNat
  routeIds_range : ∀ id ∈ wiring.routeIds, 8 ≤ id.toNat ∧ id.toNat ≤ 511
  /-- The limits of `CanChannelTransportModule` and of the bridges for channels. -/
  messageSize : 0 < wiring.maximumMessageSize ∧ wiring.maximumMessageSize + 2 ≤ 96
  channelSizes : ∀ route ∈ selected, route.maxEncodedSize ≤ wiring.maximumMessageSize
  /-- The limit of `CanRpcClient` and `CanRpcServer`. -/
  rpcSizes : ∀ route ∈ selected, route.kind = .rpc → 12 + route.maxEncodedSize ≤ 96

end CanWiring

theorem routeId_of_rpcBridge {bridge : RpcBridge} (h : rpcBridge route = .ok bridge) :
    UInt16.ofNat route.id = bridge.routeId := by
  obtain ⟨service, -, h⟩ := bind_eq_ok.mp h
  obtain rfl := pure_eq_ok.mp h
  rfl

/-- Bridges exist for services that have names. -/
theorem exists_rpcBridges
    (hservices : ∀ route ∈ selected, route.kind = .rpc → ∃ service, serviceType route = .ok service)
    (routes : List Route) (hrpc : ∀ route ∈ routes, route ∈ selected ∧ route.kind = .rpc) :
    ∃ bridges, routes.mapM rpcBridge = .ok bridges := by
  refine exists_mapM_eq_ok fun route hroute => ?_
  obtain ⟨hselected, hkind⟩ := hrpc route hroute
  obtain ⟨service, hservice⟩ := hservices route hselected hkind
  exact ⟨_, by rw [rpcBridge, hservice, ok_bind]; rfl⟩

section Pair

variable {lock : DeploymentLock} {transport : Transport} {node peer : String}
  {selected : List Route} {clients servers : List RpcBridge}

/-- All routes of a pair are wired. -/
theorem CanPair.mem_routeIds (pair : CanPair lock transport node peer selected) (hashes : Hashes)
    (localNodeId peerNodeId : Nat) (device : String) (timeAuthorities : List String)
    (hclients : (outgoing .rpc node selected).mapM rpcBridge = .ok clients)
    (hservers : (incoming .rpc node selected).mapM rpcBridge = .ok servers) (id : UInt16) :
    id ∈ (canWiring hashes node localNodeId peerNodeId selected transport device timeAuthorities
        clients servers).routeIds ↔ ∃ route ∈ selected, UInt16.ofNat route.id = id := by
  have hids : (canWiring hashes node localNodeId peerNodeId selected transport device
      timeAuthorities clients servers).routeIds =
        (outgoing .channel node selected ++ incoming .channel node selected ++
          outgoing .rpc node selected ++ incoming .rpc node selected).map
            fun route => UInt16.ofNat route.id := by
    simp only [CanWiring.routeIds, canWiring, map_append, map_map, map_eq_of_mapM hclients fun _ _
      => routeId_of_rpcBridge, map_eq_of_mapM hservers fun _ _ => routeId_of_rpcBridge]
    rfl
  rw [hids, mem_map]
  refine exists_congr fun route => and_congr_left fun _ => ?_
  simp only [mem_append]
  constructor
  · rintro (((h | h) | h) | h) <;> exact (mem_filter.mp h).1
  · intro hroute
    have hwired := pair.mem_outgoing_or_incoming hroute
    cases hkind : route.kind <;> rw [hkind] at hwired <;> tauto

/-- The two ends of a pair fit together. -/
theorem CanPair.mirrors (pair : CanPair lock transport node peer selected) (hashes : Hashes)
    {nodeId peerId : Nat} (hnode : nodeId ≤ 255) (hpeer : peerId ≤ 255) (hne : nodeId ≠ peerId)
    {timeAuthorities : List String} (hauthority : timeAuthorities.length = 1)
    (hclients : (outgoing .rpc node selected).mapM rpcBridge = .ok clients)
    (hservers : (incoming .rpc node selected).mapM rpcBridge = .ok servers)
    (device peerDevice : String) :
    (canWiring hashes node nodeId peerId selected transport device timeAuthorities clients
      servers).Mirrors (canWiring hashes peer peerId nodeId selected transport peerDevice
        timeAuthorities servers clients) := by
  have hincoming := pair.symm.outgoing_eq
  refine ⟨rfl, rfl, rfl, ?_, fun heq => ?_, rfl, fun hnode => ?_, fun id => ?_, ?_, rfl, rfl⟩
  · simp [Can.CompatibilityGuard.check, canWiring]
  · have hnat := congrArg UInt8.toNat heq
    simp only [canWiring, UInt8.toNat_ofNat'] at hnat
    omega
  · -- There is one authority only, and the nodes are different.
    obtain ⟨timeAuthority, rfl⟩ := length_eq_one_iff.mp hauthority
    simp only [canWiring, mem_singleton, decide_eq_true_eq, decide_eq_false_iff_not]
      at hnode ⊢
    rw [← hnode]
    exact pair.ne.symm
  · rw [pair.mem_routeIds hashes _ _ _ _ hclients hservers, pair.symm.mem_routeIds hashes _ _ _ _
      (hincoming .rpc ▸ hservers) (pair.outgoing_eq .rpc ▸ hclients)]
  · simp only [canWiring, map_map, pair.outgoing_eq]
    rfl

end Pair

namespace Resolution

variable {digest : String → String} {packages : List Package} {application : Application}
  {deployment : Deployment} {release : Bool} {lock : DeploymentLock} {transport : Transport}

/-- An end of a CAN link is within the limits of the runtime. -/
theorem withinLimits (r : Resolution digest packages application deployment release lock)
    (ht : transport ∈ deployment.transports) (htype : transport.type = .can) {node peer : NodeLock}
    (hnode : node ∈ lock.nodes) (hpeer : peer ∈ lock.nodes) {selected : List Route}
    (pair : CanPair lock transport node.name peer.name selected) (hashes : Hashes)
    {clients servers : List RpcBridge}
    (hclients : (outgoing .rpc node.name selected).mapM rpcBridge = .ok clients)
    (hservers : (incoming .rpc node.name selected).mapM rpcBridge = .ok servers)
    (device : String) :
    (canWiring hashes node.name node.id peer.id selected transport device
      deployment.timeAuthorities clients servers).WithinLimits node selected := by
  have hroutes : ∀ route ∈ selected, route ∈ lock.routes ∧ route.carrier = some transport := by
    intro route hroute
    exact r.carrier_of_mem_carriedBy ht (mem_selectedRoutes.mp (pair.node_selected ▸ hroute)).1
  have hsize : ∀ route ∈ selected, protocolOverhead route.kind + route.maxEncodedSize ≤ 96 :=
    fun route hroute => r.can_size (hroutes route hroute).1 (hroutes route hroute).2 htype
  have hid : ∀ route ∈ selected, (UInt16.ofNat route.id).toNat = route.id ∧ 8 ≤ route.id ∧
      route.id ≤ 511 := by
    intro route hroute
    have hrange := r.can_id (hroutes route hroute).1 (hroutes route hroute).2 htype
    exact ⟨by rw [UInt16.toNat_ofNat']; omega, hrange⟩
  have hnodeId := r.id_le ht htype hnode (pair.node_selected ▸ pair.nonempty)
  have hpeerId := r.id_le ht htype hpeer (pair.peer_selected ▸ pair.nonempty)
  have hlocal : (UInt8.ofNat node.id).toNat = node.id :=
    UInt8.toNat_ofNat_of_lt' (Nat.lt_succ_of_le hnodeId)
  have hremote : (UInt8.ofNat peer.id).toNat = peer.id :=
    UInt8.toNat_ofNat_of_lt' (Nat.lt_succ_of_le hpeerId)
  have hmem := pair.mem_routeIds hashes node.id peer.id device deployment.timeAuthorities hclients
    hservers
  have hsizes : selected.map Route.maxEncodedSize ≠ [] := map_eq_nil_iff.not.mpr pair.nonempty
  obtain ⟨hlargest, hle⟩ := maxDefault_spec hsizes 0
  obtain ⟨largest, hlargest, heq⟩ := mem_map.mp hlargest
  have hids : ∀ id, id ∈ (canWiring hashes node.name node.id peer.id selected transport device
      deployment.timeAuthorities clients servers).routeIds ↔
        ∃ route ∈ selected, route.id = id.toNat := by
    intro id
    rw [hmem]
    refine exists_congr fun route => and_congr_right fun hroute => ?_
    rw [← UInt16.toNat_inj, (hid route hroute).1]
  refine ⟨hlocal, ⟨r.id_pos hnode, hnodeId⟩, ?_, hids, fun id hwired => ?_, ?_,
    fun route hroute => hle _ (mem_map_of_mem hroute), fun route hroute hkind => ?_⟩
  · obtain ⟨hoptions, -, -⟩ := checked_of_checkTransport htype
      (forM_eq_ok.mp (seq_eq_ok.mp r.transports).1 transport ht)
    obtain ⟨hretry, hreassembly⟩ := timeouts_of_checkCanOptions htype hoptions
    have hne : node.id ≠ peer.id := fun heq => pair.ne (r.id_injective hnode hpeer heq)
    have hnodePos := r.id_pos hnode
    have hpeerPos := r.id_pos hpeer
    have hlocal_ne : UInt8.ofNat node.id ≠ 0 := by
      rw [Ne, ← UInt8.toNat_inj, hlocal]
      exact hnodePos.ne'
    have hpeer_ne : UInt8.ofNat peer.id ≠ 0 := by
      rw [Ne, ← UInt8.toNat_inj, hremote]
      exact hpeerPos.ne'
    have hdistinct : UInt8.ofNat peer.id ≠ UInt8.ofNat node.id := by
      rw [Ne, ← UInt8.toNat_inj, hlocal, hremote]
      exact hne.symm
    exact decide_eq_true ⟨(by decide : (1 : UInt8) ≠ 0), hlocal_ne, hpeer_ne, hdistinct,
      (by decide : (1000000000 : UInt64) ≠ 0), (by decide : (100000000 : UInt64) ≠ 0),
      (by decide : (100000000 : UInt64) < 300000000), (by decide : (10000000 : UInt64) ≠ 0),
      (by decide : (3 : UInt8) ≠ 0), hretry, hreassembly, rfl, rfl⟩
  · obtain ⟨route, hroute, heq⟩ := (hids id).mp hwired
    rw [← heq]
    exact (hid route hroute).2
  · change 0 < Deployment.maxDefault _ 0 ∧ Deployment.maxDefault _ 0 + 2 ≤ 96
    have hlimit := hsize largest hlargest
    have hoverhead : 2 ≤ protocolOverhead largest.kind := by
      cases largest.kind <;> decide
    rw [← heq]
    exact ⟨(r.route_size (hroutes largest hlargest).1).1, by omega⟩
  · have hlimit := hsize route hroute
    rwa [hkind] at hlimit

end Resolution

/-- On a CAN link of an accepted deployment, the emitter chooses for each node a peer that has the
    node as its own peer.  If the services of the link have names in C++ then the wirings of both
    exist; their handshakes are compatible, they wire the same routes in opposite directions, and
    they are within the limits of the runtime. -/
theorem can_ends_agree (hashes : Hashes) (digest : String → String) (packages : List Package)
    (application : Application) (deployment : Deployment) (release : Bool) (lock : DeploymentLock)
    (h : resolveDeployment digest packages application deployment release = .ok lock)
    (transport : Transport) (ht : transport ∈ deployment.transports)
    (htype : transport.type = .can) (node : NodeLock) (hnode : node ∈ lock.nodes)
    (hroutes : selectedRoutes lock node.name transport ≠ []) :
    ∃ peer ∈ lock.nodes,
      canPeer node.name (selectedRoutes lock node.name transport) transport
        deployment.timeAuthorities = .ok peer.name ∧
      canPeer peer.name (selectedRoutes lock peer.name transport) transport
        deployment.timeAuthorities = .ok node.name ∧
      ((∀ route ∈ selectedRoutes lock node.name transport, route.kind = .rpc →
          ∃ service, serviceType route = .ok service) →
        ∃ wiring, nodeCanWiring hashes deployment lock node transport = .ok (some wiring)) ∧
      ∀ wiring, nodeCanWiring hashes deployment lock node transport = .ok (some wiring) →
        ∃ other, nodeCanWiring hashes deployment lock peer transport = .ok (some other) ∧
          wiring.Mirrors other ∧ other.Mirrors wiring ∧
          wiring.WithinLimits node (selectedRoutes lock node.name transport) ∧
          other.WithinLimits peer (selectedRoutes lock peer.name transport) := by
  obtain ⟨r⟩ := exists_resolution h
  obtain ⟨peer, hpeer, pair⟩ := r.exists_canPair ht htype hroutes
  generalize hselected : selectedRoutes lock node.name transport = selected at pair hroutes ⊢
  obtain ⟨route, hroute⟩ := List.exists_mem_of_ne_nil _ hroutes
  obtain ⟨timeAuthority, hauthority, -⟩ := r.canLink ht htype
    (List.ne_nil_of_mem (mem_selectedRoutes.mp (hselected ▸ hroute)).1)
  have hone : deployment.timeAuthorities.length = 1 := by rw [hauthority]; rfl
  have hincoming := pair.symm.outgoing_eq .rpc
  obtain ⟨device, hwiring⟩ := r.nodeCanWiring_eq ht htype hnode hpeer pair hashes
  obtain ⟨peerDevice, hother⟩ := r.nodeCanWiring_eq ht htype hpeer hnode pair.symm hashes
  refine ⟨peer, hpeer, ?_⟩
  rw [pair.peer_selected]
  refine ⟨pair.canPeer_eq hone, pair.symm.canPeer_eq hone, fun hservices => ?_,
    fun wiring hnodeWiring => ?_⟩
  · obtain ⟨clients, hclients⟩ := exists_rpcBridges hservices (outgoing .rpc node.name selected)
      fun route hroute => ⟨(mem_outgoing.mp hroute).1, (mem_outgoing.mp hroute).2.1⟩
    obtain ⟨servers, hservers⟩ := exists_rpcBridges hservices (incoming .rpc node.name selected)
      fun route hroute => ⟨(mem_incoming.mp hroute).1, (mem_incoming.mp hroute).2.1⟩
    rw [hwiring, hclients, ok_bind, hservers, ok_bind]
    exact ⟨_, rfl⟩
  · rw [hwiring] at hnodeWiring
    obtain ⟨clients, hclients, hnodeWiring⟩ := bind_eq_ok.mp hnodeWiring
    obtain ⟨servers, hservers, hnodeWiring⟩ := bind_eq_ok.mp hnodeWiring
    obtain rfl := Option.some_inj.mp (pure_eq_ok.mp hnodeWiring)
    have hpeerClients := hincoming ▸ hservers
    have hpeerServers := pair.outgoing_eq .rpc ▸ hclients
    have hnodeId := r.id_le ht htype hnode (pair.node_selected ▸ pair.nonempty)
    have hpeerId := r.id_le ht htype hpeer (pair.peer_selected ▸ pair.nonempty)
    have hne : node.id ≠ peer.id := fun heq => pair.ne (r.id_injective hnode hpeer heq)
    refine ⟨_, ?_, pair.mirrors hashes hnodeId hpeerId hne hone hclients hservers _ peerDevice,
      pair.symm.mirrors hashes hpeerId hnodeId hne.symm hone hpeerClients hpeerServers _ _,
      r.withinLimits ht htype hnode hpeer pair hashes hclients hservers _,
      r.withinLimits ht htype hpeer hnode pair.symm hashes hpeerClients hpeerServers _⟩
    rw [hother, hpeerClients, ok_bind, hpeerServers, ok_bind]
    rfl

/-- The hashes of a sample, all of them 0. -/
def Talks.hashes : Hashes := ⟨fun _ => .replicate 16 0, fun _ => .replicate 16 0, .replicate 16 0⟩

/-- The two nodes of a sample are wired to each other. -/
theorem two_ends_agree :
    ∃ lock, resolveDeployment id Talks.packages (Talks.application .reliable (some 8)) Talks.twoNodes
        false = .ok lock ∧
      ∃ transport ∈ Talks.twoNodes.transports, ∃ node ∈ lock.nodes, ∃ peer ∈ lock.nodes,
      ∃ wiring other,
        nodeCanWiring Talks.hashes Talks.twoNodes lock node transport = .ok (some wiring) ∧
        nodeCanWiring Talks.hashes Talks.twoNodes lock peer transport = .ok (some other) ∧
        wiring.Mirrors other ∧ other.Mirrors wiring := by
  obtain ⟨lock, hlock, node, hnode, transport, ht, htype, hroutes, hchannels⟩ :
      ∃ lock ∈ (resolveDeployment id Talks.packages (Talks.application .reliable (some 8))
          Talks.twoNodes false).toOption,
        ∃ node ∈ lock.nodes, ∃ transport ∈ Talks.twoNodes.transports, transport.type = .can ∧
          selectedRoutes lock node.name transport ≠ [] ∧
          ∀ route ∈ selectedRoutes lock node.name transport, route.kind = .channel := by
    decide +kernel
  obtain ⟨peer, hpeer, -, -, hwired, hagree⟩ := can_ends_agree Talks.hashes _ _ _ _ _ lock
    (mem_toOption.mp hlock) transport ht htype node hnode hroutes
  obtain ⟨wiring, hwiring⟩ := hwired fun route hroute hrpc =>
    nomatch (hchannels route hroute).symm.trans hrpc
  obtain ⟨other, hother, hmirrors, hmirrored, -, -⟩ := hagree wiring hwiring
  exact ⟨lock, mem_toOption.mp hlock, transport, ht, node, hnode, peer, hpeer, wiring, other, hwiring,
    hother, hmirrors, hmirrored⟩

end AsterCtrl.Cli
