import Mathlib.Logic.Relation
import AsterCtrl.Native.Cli.Emitters
import AsterCtrl.Spec.Cli.Compilation
import AsterCtrl.Spec.LocalTopics

/-!
# Where messages go

A port is registered on its node under its name alone, and so are the bridges of a route: the egress
under the port name at the source, the ingress under the one at the destination.  A message thus
goes to all subscribers of a name on the node, over every bridge that is wired there, and on from
the name at the other end.

This is the declared connections only if no two ports of a node share a name by chance, and if every
connection inside a node is between ports of one name.

## Key results

- `Resolution.mem_wiredChannels`: the routes that are wired
- `Network.reaches_iff`: a message goes where names and wired routes lead
- `follows_connections_iff`: when these are the declared connections
-/

namespace AsterCtrl.Cli

open Deployment Except

/-! ## Registrations of a node -/

/-- The rows of the instances of a node. -/
def instanceRows (graph : ApplicationGraph) (names : List String) : List InstanceRow :=
  names.filterMap fun name => graph.instances.find? fun row => row.name = name

/-- The ports of the instances of a node, each with the name of its instance. -/
def instancePorts (graph : ApplicationGraph) (names : List String) : List (String × PortRow) :=
  (instanceRows graph names).flatMap fun row => row.ports.map fun port => (row.name, port)

/-- What registrations hold besides the names and sizes of ports. -/
structure PortTypes where
  message : String → PortRow → TypeDescriptor
  service : String → PortRow → ServiceDescriptor
  /-- The schema hashes of the bridges. -/
  routeHash : Route → Vector UInt8 16

open List

/-- The channel of a port. -/
def PortTypes.channel (types : PortTypes) (item : String) (port : PortRow) : ChannelDescriptor :=
  ⟨port.name, { types.message item port with maxSerializedSize := port.maxEncodedSize }⟩

/-- The capacities of the registries of a node. -/
structure Capacities where
  channel : Nat
  subscriber : Nat
  rpc : Nat
  message : Nat

/-! ## Networks -/

/-- Who subscribes on a node: a port of an instance, or the egress of a route. -/
inductive Subscriber where
  | port (entry : String × PortRow)
  | egress (route : Route)
deriving DecidableEq

/-- The registration of a channel port. -/
def portRegistration (types : PortTypes) (entry : String × PortRow) :
    Option (LocalChannel.Registration Subscriber) :=
  match entry.2.kind with
  | .publisher => some (.publisher (types.channel entry.1 entry.2))
  | .subscriber => some (.subscriber (types.channel entry.1 entry.2) (.port entry))
  | .rpcClient | .rpcServer => none

/-- The registrations on the channel of a node: its ports and the bridges that are wired. -/
def registrations (graph : ApplicationGraph) (lock : DeploymentLock) (types : PortTypes)
    (node : NodeLock) : List (LocalChannel.Registration Subscriber) :=
  (instancePorts graph node.instances).filterMap (portRegistration types) ++
    ((channelEgress node.name (nodeRoutes lock.routes node.name)).map fun route =>
      .subscriber (channelDescriptor types.routeHash route route.source) (.egress route)) ++
    (channelIngress node.name (nodeRoutes lock.routes node.name)).map fun route =>
      .publisher (channelDescriptor types.routeHash route route.destination)

/-- The channels of all nodes after a successful start, for any capacities and any order of the
    registrations of a node. -/
structure Network (graph : ApplicationGraph) (lock : DeploymentLock) (types : PortTypes) where
  capacity : String → Capacities
  channel (node : String) : LocalChannel Subscriber (capacity node).channel
    (capacity node).subscriber (capacity node).message
  started : ∀ node ∈ lock.nodes, ∃ order, order.Perm (registrations graph lock types node) ∧
    (∀ entry ∈ ({} : LocalChannel Subscriber (capacity node.name).channel
      (capacity node.name).subscriber (capacity node.name).message).statuses order,
      entry.2 = .ok) ∧
    (({} : LocalChannel Subscriber (capacity node.name).channel (capacity node.name).subscriber
      (capacity node.name).message).registerAll order).sealTopics = (.ok, channel node.name)

namespace Network

variable {graph : ApplicationGraph} {lock : DeploymentLock} {types : PortTypes}

/-- A publication on one node calls an egress, and the ingress at the other end of its route
    publishes the message there. -/
def Forwards (network : Network graph lock types) (message : List UInt8)
    (here there : String × ChannelDescriptor) : Prop :=
  ∃ route, .egress route ∈ (network.channel here.1).callees here.2 message ∧
    route ∈ channelIngress route.destinationNode (nodeRoutes lock.routes route.destinationNode) ∧
    there = (route.destinationNode, channelDescriptor types.routeHash route route.destination)

/-- A message that is published on the port `p` of the node `source` comes to the callback of the
    port `q` of the node `destination`. -/
def Reaches (network : Network graph lock types) (message : List UInt8) (source : NodeLock)
    (p : String × PortRow) (destination : NodeLock) (q : String × PortRow) : Prop :=
  ∃ descriptor, Relation.ReflTransGen (network.Forwards message)
      (source.name, types.channel p.1 p.2) (destination.name, descriptor) ∧
    .port q ∈ (network.channel destination.name).callees descriptor message

end Network

/-- The application declares a connection from the port `p` to the port `q`. -/
def Declared (application : Application) (p q : String × PortRow) : Prop :=
  ∃ connection ∈ application.connections, connection.source = endpoint p.1 p.2.name ∧
    connection.destination = endpoint q.1 q.2.name

instance (application : Application) (p q : String × PortRow) :
    Decidable (Declared application p q) :=
  inferInstanceAs (Decidable (∃ connection ∈ application.connections, _))

/-- Every message reaches exactly the ports to which its port is connected. -/
def FollowsConnections (application : Application) {graph : ApplicationGraph}
    {lock : DeploymentLock} {types : PortTypes} (network : Network graph lock types) : Prop :=
  ∀ source ∈ lock.nodes, ∀ p ∈ instancePorts graph source.instances, p.2.kind = .publisher →
    ∀ destination ∈ lock.nodes, ∀ q ∈ instancePorts graph destination.instances,
      q.2.kind = .subscriber → ∀ message : List UInt8, message.length ≤ p.2.maxEncodedSize →
        (network.Reaches message source p destination q ↔ Declared application p q)

/-! ## Names and wired routes -/

/-- The route is a channel of a transport for which bridges are generated. -/
def Deployment.Route.Wired (route : Route) : Prop :=
  route.kind = .channel ∧ (route.isCarriedBy .can ∨ route.isCarriedBy .usbCdc)

/-- A wired route leads from a name on one node to a name on another one. -/
def Links (lock : DeploymentLock) (here there : String × String) : Prop :=
  ∃ route ∈ lock.routes, route.Wired ∧ here = (route.sourceNode, endpointPort route.source) ∧
    there = (route.destinationNode, endpointPort route.destination)

instance (route : Route) : Decidable route.Wired := inferInstanceAs (Decidable (_ ∧ _))

instance (lock : DeploymentLock) (here there : String × String) :
    Decidable (Links lock here there) :=
  inferInstanceAs (Decidable (∃ route ∈ lock.routes, _))

/-- Wired routes lead from the name of one port to the name of another one. -/
def Linked (lock : DeploymentLock) (source : NodeLock) (p : String × PortRow)
    (destination : NodeLock) (q : String × PortRow) : Prop :=
  Relation.ReflTransGen (Links lock) (source.name, p.2.name) (destination.name, q.2.name)

/-! ## Wired routes -/

theorem mem_externalTransports {routes : List Route} {transport : Transport} :
    transport ∈ externalTransports routes ↔ ∃ route ∈ routes, route.carrier = some transport := by
  rw [externalTransports, mem_insertionSort, mem_dedup, mem_filterMap]

namespace Resolution

variable {digest : String → String} {packages : List Package} {application : Application}
  {deployment : Deployment} {release : Bool} {lock : DeploymentLock}
  (r : Resolution digest packages application deployment release lock)

include r

variable {route : Route}

/-- No route of a USB CDC transport is for RPC. -/
theorem kind_of_usbCdc (hroute : route ∈ lock.routes) {transport : Transport}
    (hcarrier : route.carrier = some transport) (husb : transport.type = .usbCdc) :
    route.kind = .channel := by
  by_contra hkind
  have hrpc : route.kind = .rpc := by
    cases h : route.kind with
    | rpc => rfl
    | channel => exact absurd h hkind
  obtain ⟨hchecked, -⟩ := seq_eq_ok.mp r.rpc
  have hcan := require_eq_ok.mp (forM_eq_ok.mp hchecked route
    (mem_filter.mpr ⟨hroute, by simp [hrpc]⟩)) (by rw [hcarrier]; rfl)
  obtain ⟨other, hother, hcan⟩ := isCarriedBy_iff.mp hcan
  rw [hcarrier, Option.some_inj] at hother
  rw [← hother, husb] at hcan
  cases hcan

variable {node : String}

/-- The routes of a node that are wired. -/
theorem mem_wiredChannels :
    route ∈ wiredChannels (nodeRoutes lock.routes node) ↔
      route ∈ nodeRoutes lock.routes node ∧ route.Wired := by
  have hsub : ∀ {route}, route ∈ nodeRoutes lock.routes node → route ∈ lock.routes := fun h =>
    (mem_filter.mp h).1
  rw [wiredChannels, mem_flatMap]
  constructor
  · rintro ⟨transport, htransport, hwired⟩
    obtain ⟨hwired, hkind⟩ := mem_filter.mp hwired
    obtain ⟨other, hother, hcarrier⟩ := mem_externalTransports.mp htransport
    unfold wiredTo at hwired
    dsimp only at hwired
    have hcarried : ∀ {type}, transport.type = type →
        route ∈ carriedBy (nodeRoutes lock.routes node) transport.name →
        route ∈ nodeRoutes lock.routes node ∧ route.isCarriedBy type = true := by
      intro type htype hselected
      obtain ⟨hmem, carrier, hroute, hname⟩ := mem_carriedBy.mp hselected
      obtain rfl := r.carrier_eq (hsub hmem) (hsub hother) hroute hcarrier hname
      exact ⟨hmem, isCarriedBy_iff.mpr ⟨carrier, hroute, htype⟩⟩
    split at hwired
    · rename_i htype
      obtain ⟨hmem, hcan⟩ := hcarried htype hwired
      exact ⟨hmem, of_decide_eq_true hkind, .inl hcan⟩
    · rename_i htype
      split_ifs at hwired
      · cases hwired
      · obtain ⟨hmem, husb⟩ := hcarried htype hwired
        exact ⟨hmem, of_decide_eq_true hkind, .inr husb⟩
    · cases hwired
  · rintro ⟨hmem, hkind, hcarried⟩
    obtain ⟨transport, hcarrier, htype⟩ : ∃ transport, route.carrier = some transport ∧
        (transport.type = .can ∨ transport.type = .usbCdc) := by
      rcases hcarried with h | h <;> obtain ⟨transport, hcarrier, htype⟩ := isCarriedBy_iff.mp h
      · exact ⟨transport, hcarrier, .inl htype⟩
      · exact ⟨transport, hcarrier, .inr htype⟩
    have hselected : route ∈ carriedBy (nodeRoutes lock.routes node) transport.name :=
      mem_carriedBy.mpr ⟨hmem, transport, hcarrier, rfl⟩
    refine ⟨transport, mem_externalTransports.mpr ⟨route, hmem, hcarrier⟩,
      mem_filter.mpr ⟨?_, decide_eq_true hkind⟩⟩
    unfold wiredTo
    dsimp only
    rcases htype with htype | htype
    · rw [htype]
      exact hselected
    · rw [htype]
      dsimp only
      rw [if_neg]
      · exact hselected
      · rw [any_eq_true]
        rintro ⟨other, hcarried, hrpc⟩
        obtain ⟨hother, carrier, hcarries, hname⟩ := mem_carriedBy.mp hcarried
        obtain rfl := r.carrier_eq (hsub hother) (hsub hmem) hcarries hcarrier hname
        exact of_decide_eq_true hrpc (r.kind_of_usbCdc (hsub hother) hcarries htype)

theorem mem_channelEgress :
    route ∈ channelEgress node (nodeRoutes lock.routes node) ↔
      route ∈ lock.routes ∧ route.Wired ∧ route.sourceNode = node := by
  rw [channelEgress, mem_filter, r.mem_wiredChannels, nodeRoutes, mem_filter]
  simp only [decide_eq_true_eq]
  tauto

theorem mem_channelIngress :
    route ∈ channelIngress node (nodeRoutes lock.routes node) ↔
      route ∈ lock.routes ∧ route.Wired ∧ route.destinationNode = node := by
  rw [channelIngress, mem_filter, r.mem_wiredChannels, nodeRoutes, mem_filter]
  simp only [decide_eq_true_eq]
  tauto

end Resolution

/-! ## Registrations -/

section Registrations

variable {graph : ApplicationGraph} {lock : DeploymentLock} {types : PortTypes} {node : NodeLock}

theorem mem_registrations {registration : LocalChannel.Registration Subscriber} :
    registration ∈ registrations graph lock types node ↔
      (∃ entry ∈ instancePorts graph node.instances,
        portRegistration types entry = some registration) ∨
      (∃ route ∈ channelEgress node.name (nodeRoutes lock.routes node.name), registration =
        .subscriber (channelDescriptor types.routeHash route route.source) (.egress route)) ∨
      ∃ route ∈ channelIngress node.name (nodeRoutes lock.routes node.name), registration =
        .publisher (channelDescriptor types.routeHash route route.destination) := by
  simp only [registrations, mem_append, mem_filterMap, mem_map, or_assoc, eq_comm]

/-- The ports that are called under a name. -/
theorem exists_callbackFor_port {name : String} {q : String × PortRow} :
    (∃ registration ∈ registrations graph lock types node,
      registration.callbackFor name = some (.port q)) ↔
      q ∈ instancePorts graph node.instances ∧ q.2.kind = .subscriber ∧ q.2.name = name := by
  simp only [mem_registrations]
  constructor
  · rintro ⟨registration, ⟨entry, hentry, hsome⟩ | ⟨route, hroute, rfl⟩ | ⟨route, hroute, rfl⟩, hcall⟩
    · unfold portRegistration at hsome
      split at hsome
      · cases hsome
        cases hcall
      · rename_i hkind
        cases hsome
        obtain ⟨hname, hentry'⟩ := Option.ite_none_right_eq_some.mp hcall
        cases hentry'
        exact ⟨hentry, hkind, hname⟩
      · cases hsome
      · cases hsome
    · obtain ⟨-, h⟩ := Option.ite_none_right_eq_some.mp hcall
      cases h
    · cases hcall
  · rintro ⟨hq, hkind, rfl⟩
    exact ⟨.subscriber (types.channel q.1 q.2) (.port q),
      .inl ⟨q, hq, by simp only [portRegistration, hkind]⟩, if_pos rfl⟩

/-- The bridges that are called under a name. -/
theorem exists_callbackFor_egress {name : String} {route : Route} :
    (∃ registration ∈ registrations graph lock types node,
      registration.callbackFor name = some (.egress route)) ↔
      route ∈ channelEgress node.name (nodeRoutes lock.routes node.name) ∧
        endpointPort route.source = name := by
  simp only [mem_registrations]
  constructor
  · rintro ⟨registration, ⟨entry, hentry, hsome⟩ | ⟨other, hother, rfl⟩ | ⟨other, hother, rfl⟩, hcall⟩
    · unfold portRegistration at hsome
      split at hsome
      · cases hsome
        cases hcall
      · cases hsome
        obtain ⟨-, h⟩ := Option.ite_none_right_eq_some.mp hcall
        cases h
      · cases hsome
      · cases hsome
    · obtain ⟨hname, h⟩ := Option.ite_none_right_eq_some.mp hcall
      cases h
      exact ⟨hother, hname⟩
    · cases hcall
  · rintro ⟨hroute, rfl⟩
    exact ⟨_, .inr (.inl ⟨route, hroute, rfl⟩), if_pos rfl⟩

end Registrations

/-! ## Where a message goes -/

namespace Network

variable {graph : ApplicationGraph} {lock : DeploymentLock} {types : PortTypes} {node : NodeLock}
  {registration other : LocalChannel.Registration Subscriber} {message : List UInt8}

/-- A publication calls those who are registered under its name. -/
theorem mem_callees (network : Network graph lock types) (hnode : node ∈ lock.nodes)
    (hmem : registration ∈ registrations graph lock types node)
    (hmessage : message.length ≤ registration.descriptor.messageType.maxSerializedSize)
    {subscriber : Subscriber} :
    subscriber ∈ (network.channel node.name).callees registration.descriptor message ↔
      ∃ other ∈ registrations graph lock types node,
        other.callbackFor registration.descriptor.name = some subscriber := by
  obtain ⟨order, hperm, hok, hseal⟩ := network.started node hnode
  obtain ⟨hholds, hsealed⟩ := (LocalChannel.holds_registerAll hok).of_seal hseal
  rw [LocalChannel.callees_of_holds hholds hsealed (hperm.mem_iff.mpr hmem) hmessage, mem_filterMap]
  simp only [hperm.mem_iff]

/-- All registrations under one name on a node are for the same type. -/
theorem descriptor_eq (network : Network graph lock types) (hnode : node ∈ lock.nodes)
    (hmem : registration ∈ registrations graph lock types node)
    (hother : other ∈ registrations graph lock types node)
    (hname : registration.descriptor.name = other.descriptor.name) :
    registration.descriptor = other.descriptor := by
  obtain ⟨order, hperm, hok, hseal⟩ := network.started node hnode
  have hholds := LocalChannel.holds_registerAll hok
  obtain ⟨topic, htopic, hdescriptor⟩ := hholds.descriptor_eq _ (hperm.mem_iff.mpr hmem)
  obtain ⟨topic', htopic', hdescriptor'⟩ := hholds.descriptor_eq _ (hperm.mem_iff.mpr hother)
  rw [hname, htopic', Option.some_inj] at htopic
  rw [← hdescriptor, ← hdescriptor', htopic]

variable (graph lock types message) in
/-- A channel on which the message can be published on a node. -/
def Publishable (here : String × ChannelDescriptor) : Prop :=
  ∃ node ∈ lock.nodes, node.name = here.1 ∧
    ∃ registration ∈ registrations graph lock types node, registration.descriptor = here.2 ∧
      message.length ≤ here.2.messageType.maxSerializedSize

variable {digest : String → String} {packages : List Package} {application : Application}
  {deployment : Deployment} {release : Bool} {here : String × ChannelDescriptor}

/-- A message is forwarded along a wired route that begins at its name. -/
theorem forwards_iff (network : Network graph lock types)
    (r : Resolution digest packages application deployment release lock)
    {there : String × ChannelDescriptor} (h : Publishable graph lock types message here) :
    network.Forwards message here there ↔
      ∃ route ∈ lock.routes, route.Wired ∧
        (here.1, here.2.name) = (route.sourceNode, endpointPort route.source) ∧
        there = (route.destinationNode,
          channelDescriptor types.routeHash route route.destination) := by
  obtain ⟨node, hnode, hname, registration, hmem, hdescriptor, hmessage⟩ := h
  obtain ⟨name, descriptor⟩ := here
  obtain rfl : node.name = name := hname
  obtain rfl : registration.descriptor = descriptor := hdescriptor
  unfold Forwards
  simp only [network.mem_callees hnode hmem hmessage, exists_callbackFor_egress,
    r.mem_channelEgress, r.mem_channelIngress, Prod.mk.injEq]
  constructor
  · rintro ⟨route, ⟨⟨hroute, hwired, hsource⟩, hport⟩, -, hthere⟩
    exact ⟨route, hroute, hwired, ⟨hsource.symm, hport.symm⟩, hthere⟩
  · rintro ⟨route, hroute, hwired, ⟨hsource, hport⟩, hthere⟩
    exact ⟨route, ⟨⟨hroute, hwired, hsource.symm⟩, hport.symm⟩, ⟨hroute, hwired, trivial⟩, hthere⟩

/-- A wired route leads to a channel on which the message can be published. -/
theorem Publishable.forward (network : Network graph lock types)
    (r : Resolution digest packages application deployment release lock)
    (h : Publishable graph lock types message here) {route : Route} (hroute : route ∈ lock.routes)
    (hwired : route.Wired)
    (hstart : (here.1, here.2.name) = (route.sourceNode, endpointPort route.source)) :
    Publishable graph lock types message (route.destinationNode,
      channelDescriptor types.routeHash route route.destination) := by
  obtain ⟨node, hnode, hname, registration, hmem, hdescriptor, hmessage⟩ := h
  obtain ⟨hsource, hport⟩ := Prod.mk.inj hstart
  obtain ⟨destination, hdestination, hdestinationName⟩ := r.exists_destination hroute
  refine ⟨destination, hdestination, hdestinationName,
    .publisher (channelDescriptor types.routeHash route route.destination), ?_, rfl, ?_⟩
  · refine mem_registrations.mpr (.inr (.inr ⟨route, ?_, rfl⟩))
    exact r.mem_channelIngress.mpr ⟨hroute, hwired, hdestinationName.symm⟩
  · -- Both bridges have the type of the route, and the egress has that of the channel.
    have hegress : LocalChannel.Registration.subscriber
        (channelDescriptor types.routeHash route route.source) (.egress route) ∈
          registrations graph lock types node := by
      refine mem_registrations.mpr (.inr (.inl ⟨route, ?_, rfl⟩))
      exact r.mem_channelEgress.mpr ⟨hroute, hwired, hsource.symm.trans hname.symm⟩
    have hsame := network.descriptor_eq hnode hmem hegress
      ((congrArg ChannelDescriptor.name hdescriptor).trans hport)
    rw [← hdescriptor, hsame] at hmessage
    exact hmessage

/-- A message that is forwarded follows wired routes. -/
theorem links_of_forwards (network : Network graph lock types)
    (r : Resolution digest packages application deployment release lock)
    {there : String × ChannelDescriptor} (h : Publishable graph lock types message here)
    (hpath : Relation.ReflTransGen (network.Forwards message) here there) :
    Relation.ReflTransGen (Links lock) (here.1, here.2.name) (there.1, there.2.name) ∧
      Publishable graph lock types message there := by
  induction hpath with
  | refl => exact ⟨.refl, h⟩
  | tail _ hstep ih =>
    obtain ⟨hlinks, hmiddle⟩ := ih
    obtain ⟨route, hroute, hwired, hstart, rfl⟩ := (network.forwards_iff r hmiddle).mp hstep
    exact ⟨hlinks.tail ⟨route, hroute, hwired, hstart, rfl⟩,
      hmiddle.forward network r hroute hwired hstart⟩

/-- Where wired routes lead, a message is forwarded. -/
theorem forwards_of_links (network : Network graph lock types)
    (r : Resolution digest packages application deployment release lock)
    (h : Publishable graph lock types message here) {place : String × String}
    (hpath : Relation.ReflTransGen (Links lock) (here.1, here.2.name) place) :
    ∃ there, Relation.ReflTransGen (network.Forwards message) here there ∧
      Publishable graph lock types message there ∧ (there.1, there.2.name) = place := by
  induction hpath with
  | refl => exact ⟨here, .refl, h, rfl⟩
  | tail _ hstep ih =>
    obtain ⟨middle, hpath, hmiddle, rfl⟩ := ih
    obtain ⟨route, hroute, hwired, hstart, rfl⟩ := hstep
    have hforwards := (network.forwards_iff r hmiddle).mpr ⟨route, hroute, hwired, hstart, rfl⟩
    exact ⟨_, hpath.tail hforwards, hmiddle.forward network r hroute hwired hstart, rfl⟩

/-- A port is called under its name. -/
theorem port_mem_callees_iff (network : Network graph lock types)
    (r : Resolution digest packages application deployment release lock) {destination : NodeLock}
    (hdestination : destination ∈ lock.nodes) {descriptor : ChannelDescriptor}
    (h : Publishable graph lock types message (destination.name, descriptor))
    {q : String × PortRow} (hq : q ∈ instancePorts graph destination.instances)
    (hsubscriber : q.2.kind = .subscriber) :
    .port q ∈ (network.channel destination.name).callees descriptor message ↔
      q.2.name = descriptor.name := by
  obtain ⟨node, hnode, hname, registration, hmem, hdescriptor, hmessage⟩ := h
  obtain rfl := r.node_eq hnode hdestination hname
  obtain rfl : registration.descriptor = descriptor := hdescriptor
  rw [network.mem_callees hnode hmem hmessage, exists_callbackFor_port]
  exact ⟨fun h => h.2.2, fun h => ⟨hq, hsubscriber, h⟩⟩

/-- A message goes where names and wired routes lead. -/
theorem reaches_iff (network : Network graph lock types)
    (r : Resolution digest packages application deployment release lock)
    {source destination : NodeLock} (hsource : source ∈ lock.nodes)
    (hdestination : destination ∈ lock.nodes) {p q : String × PortRow}
    (hp : p ∈ instancePorts graph source.instances) (hpublisher : p.2.kind = .publisher)
    (hq : q ∈ instancePorts graph destination.instances) (hsubscriber : q.2.kind = .subscriber)
    (hmessage : message.length ≤ p.2.maxEncodedSize) :
    network.Reaches message source p destination q ↔ Linked lock source p destination q := by
  have hstart : Publishable graph lock types message (source.name, types.channel p.1 p.2) :=
    ⟨source, hsource, rfl, .publisher (types.channel p.1 p.2),
      mem_registrations.mpr (.inl ⟨p, hp, by simp only [portRegistration, hpublisher]⟩), rfl,
      hmessage⟩
  constructor
  · rintro ⟨descriptor, hpath, hcalled⟩
    obtain ⟨hlinks, hthere⟩ := network.links_of_forwards r hstart hpath
    have hname := (network.port_mem_callees_iff r hdestination hthere hq hsubscriber).mp hcalled
    rw [Linked, hname]
    exact hlinks
  · intro hlinked
    obtain ⟨⟨name, descriptor⟩, hpath, hthere, hplace⟩ := network.forwards_of_links r hstart hlinked
    obtain ⟨rfl, hname⟩ := Prod.mk.inj hplace
    exact ⟨descriptor, hpath,
      (network.port_mem_callees_iff r hdestination hthere hq hsubscriber).mpr hname.symm⟩

end Network

/-- In every started network, messages follow the declared connections if and only if these are
    where names and wired routes lead. -/
theorem follows_connections_iff {digest : String → String} {packages : List Package}
    {application : Application} {deployment : Deployment} {release : Bool}
    {graph : ApplicationGraph} {lock : DeploymentLock}
    (hresolve : resolveDeployment digest packages application deployment release = .ok lock)
    {types : PortTypes} (network : Network graph lock types) :
    FollowsConnections application network ↔
      ∀ source ∈ lock.nodes, ∀ p ∈ instancePorts graph source.instances, p.2.kind = .publisher →
        ∀ destination ∈ lock.nodes, ∀ q ∈ instancePorts graph destination.instances,
          q.2.kind = .subscriber →
            (Linked lock source p destination q ↔ Declared application p q) := by
  obtain ⟨r⟩ := exists_resolution hresolve
  constructor
  · intro h source hsource p hp hpublisher destination hdestination q hq hsubscriber
    rw [← h source hsource p hp hpublisher destination hdestination q hq hsubscriber []
      (Nat.zero_le _)]
    exact (network.reaches_iff r hsource hdestination hp hpublisher hq hsubscriber
      (Nat.zero_le _)).symm
  · intro h source hsource p hp hpublisher destination hdestination q hq hsubscriber message hfits
    rw [network.reaches_iff r hsource hdestination hp hpublisher hq hsubscriber hfits]
    exact h source hsource p hp hpublisher destination hdestination q hq hsubscriber

/-! ## Samples -/

/-- The start of all nodes, each with the same capacities and with its registrations in order. -/
def Network.start {graph : ApplicationGraph} {lock : DeploymentLock} {types : PortTypes}
    (capacity : Capacities)
    (hnames : ∀ node ∈ lock.nodes, lock.nodes.find? (fun other => other.name = node.name) = some node)
    (hstarts : ∀ node ∈ lock.nodes,
      (∀ entry ∈ ({} : LocalChannel Subscriber capacity.channel capacity.subscriber
        capacity.message).statuses (registrations graph lock types node), entry.2 = .ok) ∧
      (({} : LocalChannel Subscriber capacity.channel capacity.subscriber
        capacity.message).registerAll (registrations graph lock types node)).sealTopics.1 = .ok) :
    Network graph lock types where
  capacity _ := capacity
  channel name := (lock.nodes.find? fun node => node.name = name).elim {} fun node =>
    (({} : LocalChannel Subscriber capacity.channel capacity.subscriber
      capacity.message).registerAll (registrations graph lock types node)).sealTopics.2
  started node hnode := by
    refine ⟨_, .refl _, (hstarts node hnode).1, Prod.ext (hstarts node hnode).2 ?_⟩
    rw [hnames node hnode]
    rfl

namespace Talks

/-- The types of ports, all with the same schema hash. -/
def types : PortTypes where
  message _ port := ⟨port.type, .replicate 16 0, 0⟩
  service _ port := ⟨port.type, .replicate 16 0, ⟨port.type, .replicate 16 0, 0⟩,
    ⟨port.type, .replicate 16 0, 0⟩, ""⟩
  routeHash _ := .replicate 16 0

/-- The package with a schema in which a word takes four bytes, and with a module that may listen to
    the words of others on its node. -/
def boundedPackages : List Package :=
  packages.map fun package =>
    { package with
      modules := package.modules ++
        [{ name := "monitor", ports := [⟨"out", .subscriber, "talks.Word", none, false, none⟩] }]
      schema := .ok (some ⟨"talks", [⟨"talks.Word", 4, by decide⟩], []⟩) }

/-- One talker and one listener. -/
def pair : Application where
  instances := [⟨"a", "talks/talker", none, []⟩, ⟨"b", "talks/listener", none, []⟩]
  connections := [{ source := "a.out", destination := "b.in" }]
  domains := [⟨"main", .monotonic⟩]
  instances_sorted := by decide

/-- The talker and the listener are on different nodes. -/
def pairNodes : Deployment :=
  deployment [{ name := "na", host := "h", instances := ["a"] },
    { name := "nb", host := "h", instances := ["b"] }] (by decide)

end Talks

/-- Two talkers on one node have ports of one name, so what one of them says goes over the bridge of
    the other one as well and comes to a listener to which it is not connected. -/
theorem unconnected_listener_reached :
    ∃ lock ∈ (resolveDeployment id Talks.boundedPackages (Talks.application .bestEffort none)
        Talks.twoNodes false).toOption,
      ∃ graph ∈ (compileApplication id Talks.boundedPackages (Talks.application .bestEffort none)
          false).toOption,
        ∃ network : Network graph lock Talks.types,
          ∃ source ∈ lock.nodes, ∃ p ∈ instancePorts graph source.instances,
            ∃ destination ∈ lock.nodes, ∃ q ∈ instancePorts graph destination.instances,
              (p.1, p.2.name) = ("a", "out") ∧ (q.1, q.2.name) = ("d", "in") ∧
              network.Reaches [0] source p destination q ∧
              ¬ Declared (Talks.application .bestEffort none) p q := by
  obtain ⟨lock, hlock, graph, hgraph, hnames, hstarts, source, hsource, p, hp, destination,
      hdestination, q, hq, hpublisher, hsubscriber, hfits, hpname, hqname, hlinks, hdeclared⟩ :
      ∃ lock ∈ (resolveDeployment id Talks.boundedPackages (Talks.application .bestEffort none)
          Talks.twoNodes false).toOption,
        ∃ graph ∈ (compileApplication id Talks.boundedPackages
            (Talks.application .bestEffort none) false).toOption,
          (∀ node ∈ lock.nodes,
            lock.nodes.find? (fun other => other.name = node.name) = some node) ∧
          (∀ node ∈ lock.nodes,
            (∀ entry ∈ ({} : LocalChannel Subscriber 8 8 8).statuses
              (registrations graph lock Talks.types node), entry.2 = .ok) ∧
            (({} : LocalChannel Subscriber 8 8 8).registerAll
              (registrations graph lock Talks.types node)).sealTopics.1 = .ok) ∧
          ∃ source ∈ lock.nodes, ∃ p ∈ instancePorts graph source.instances,
            ∃ destination ∈ lock.nodes, ∃ q ∈ instancePorts graph destination.instances,
              p.2.kind = .publisher ∧ q.2.kind = .subscriber ∧
              [(0 : UInt8)].length ≤ p.2.maxEncodedSize ∧
              (p.1, p.2.name) = ("a", "out") ∧ (q.1, q.2.name) = ("d", "in") ∧
              Links lock (source.name, p.2.name) (destination.name, q.2.name) ∧
              ¬ Declared (Talks.application .bestEffort none) p q := by
    decide +kernel
  obtain ⟨r⟩ := exists_resolution (mem_toOption.mp hlock)
  let network : Network graph lock Talks.types := .start ⟨8, 8, 8, 8⟩ hnames hstarts
  refine ⟨lock, hlock, graph, hgraph, network, source, hsource, p, hp, destination, hdestination, q,
    hq, hpname, hqname, ?_, hdeclared⟩
  exact (network.reaches_iff r hsource hdestination hp hpublisher hq hsubscriber hfits).mpr
    (.single hlinks)

/-- The words of one talker reach the listener to which it is connected. -/
theorem pair_follows_connections :
    ∃ lock graph, resolveDeployment id Talks.boundedPackages Talks.pair Talks.pairNodes false =
        .ok lock ∧
      compileApplication id Talks.boundedPackages Talks.pair false = .ok graph ∧
      ∃ network : Network graph lock Talks.types, FollowsConnections Talks.pair network ∧
        ∃ source ∈ lock.nodes, ∃ p ∈ instancePorts graph source.instances, p.2.kind = .publisher ∧
          ∃ destination ∈ lock.nodes, ∃ q ∈ instancePorts graph destination.instances,
            q.2.kind = .subscriber ∧ Declared Talks.pair p q := by
  obtain ⟨lock, hlock, graph, hgraph, hnames, hstarts, hall, hexists⟩ :
      ∃ lock ∈ (resolveDeployment id Talks.boundedPackages Talks.pair Talks.pairNodes
          false).toOption,
        ∃ graph ∈ (compileApplication id Talks.boundedPackages Talks.pair false).toOption,
          (∀ node ∈ lock.nodes,
            lock.nodes.find? (fun other => other.name = node.name) = some node) ∧
          (∀ node ∈ lock.nodes,
            (∀ entry ∈ ({} : LocalChannel Subscriber 8 8 8).statuses
              (registrations graph lock Talks.types node), entry.2 = .ok) ∧
            (({} : LocalChannel Subscriber 8 8 8).registerAll
              (registrations graph lock Talks.types node)).sealTopics.1 = .ok) ∧
          (∀ source ∈ lock.nodes, ∀ p ∈ instancePorts graph source.instances,
            p.2.kind = .publisher → ∀ destination ∈ lock.nodes,
              ∀ q ∈ instancePorts graph destination.instances, q.2.kind = .subscriber →
                Links lock (source.name, p.2.name) (destination.name, q.2.name) ∧
                  Declared Talks.pair p q) ∧
          ∃ source ∈ lock.nodes, ∃ p ∈ instancePorts graph source.instances,
            p.2.kind = .publisher ∧ ∃ destination ∈ lock.nodes,
              ∃ q ∈ instancePorts graph destination.instances, q.2.kind = .subscriber ∧
                Declared Talks.pair p q := by
    decide +kernel
  have hresolve := mem_toOption.mp hlock
  refine ⟨lock, graph, hresolve, mem_toOption.mp hgraph, .start ⟨8, 8, 8, 8⟩ hnames hstarts,
    (follows_connections_iff hresolve _).mpr ?_, hexists⟩
  intro source hsource p hp hpublisher destination hdestination q hq hsubscriber
  obtain ⟨hlinks, hdeclared⟩ :=
    hall source hsource p hp hpublisher destination hdestination q hq hsubscriber
  exact ⟨fun _ => hdeclared, fun _ => .single hlinks⟩

end AsterCtrl.Cli
