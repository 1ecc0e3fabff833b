import AsterCtrl.Spec.Cli.Resolution
import Mathlib.Data.Sym.Sym2

/-!
# Pairs of nodes on a link

CAN and USB CDC links are point to point: their control frames and their streams name no receiver.
The resolver checks that each node on a CAN link has one peer, and that the synchronized time
authority is on the link.  Two pairs of nodes pass these checks on one link, and the routes of a
USB CDC link are not checked at all.  A link joins one pair exactly if each route of a CAN link
has the authority as one of its ends and the routes of a USB CDC link have the same ends.

## Key results

- `linkNodes_length_eq_two_iff`: routes join one pair if and only if their ends are the same
- `Resolution.canLink`: what the resolver checks of a CAN link
- `joins_one_pair_iff`: when the links of an accepted deployment join one pair each
-/

namespace AsterCtrl.Cli

open List Deployment Except

namespace Deployment

/-! ## Ends of routes -/

/-- The two nodes of a route. -/
def Route.ends (route : Route) : Sym2 String := s(route.sourceNode, route.destinationNode)

variable {routes : List Route} {node : String}

theorem mem_linkNodes : node ∈ linkNodes routes ↔ ∃ route ∈ routes, node ∈ route.ends := by
  simp [linkNodes, Route.ends]

theorem mem_peers {peer : String} :
    peer ∈ peers routes node ↔ ∃ route ∈ routes, route.ends = s(node, peer) := by
  simp only [peers, Route.ends, mem_dedup, mem_flatMap, mem_append,
    mem_ite_nil_right, mem_singleton, Sym2.eq_iff]
  refine exists_congr fun route => and_congr_right fun _ => ?_
  constructor
  · rintro (⟨h, rfl⟩ | ⟨h, rfl⟩)
    · exact .inl ⟨h, rfl⟩
    · exact .inr ⟨rfl, h⟩
  · rintro (⟨h, rfl⟩ | ⟨rfl, h⟩)
    · exact .inl ⟨h, rfl⟩
    · exact .inr ⟨h, rfl⟩

/-- Routes between different nodes join one pair if and only if their ends are the same. -/
theorem linkNodes_length_eq_two_iff (hne : routes ≠ [])
    (hends : ∀ route ∈ routes, route.sourceNode ≠ route.destinationNode) :
    (linkNodes routes).length = 2 ↔
      ∀ route ∈ routes, ∀ other ∈ routes, route.ends = other.ends := by
  constructor
  · intro hlength
    obtain ⟨a, b, hnodes⟩ := length_eq_two.mp hlength
    have hpair : ∀ route ∈ routes, route.ends = s(a, b) := by
      intro route hroute
      have hmem : ∀ node ∈ route.ends, node = a ∨ node = b := by
        intro node hnode
        have := mem_linkNodes.mpr ⟨route, hroute, hnode⟩
        simpa [hnodes] using this
      have hdistinct := hends route hroute
      have hsource := hmem route.sourceNode (Sym2.mem_mk_left _ _)
      have hdestination := hmem route.destinationNode (Sym2.mem_mk_right _ _)
      rw [Route.ends, Sym2.eq_iff]
      grind
    intro route hroute other hother
    rw [hpair route hroute, hpair other hother]
  · intro hsame
    obtain ⟨first, hfirst⟩ := exists_mem_of_ne_nil routes hne
    -- Up to their order, the nodes are those of any one route.
    have hnodes : (linkNodes routes).toFinset = {first.sourceNode, first.destinationNode} := by
      ext node
      rw [mem_toFinset, mem_linkNodes, Finset.mem_insert, Finset.mem_singleton]
      constructor
      · rintro ⟨route, hroute, hnode⟩
        rw [hsame route hroute first hfirst] at hnode
        exact Sym2.mem_iff.mp hnode
      · intro hnode
        exact ⟨first, hfirst, Sym2.mem_iff.mpr hnode⟩
    have hnodup : (linkNodes routes).Nodup := nodup_dedup _
    rw [← toFinset_card_of_nodup hnodup, hnodes, Finset.card_pair (hends first hfirst)]

/-! ## CAN links -/

/-- What `checkCanLink` checks. -/
structure CanLink (timeAuthority : String) (routes : List Route) : Prop where
  onePeer : ∀ node ∈ linkNodes routes, (peers routes node).length = 1
  authority : timeAuthority ∈ linkNodes routes

variable {timeAuthority : String}

theorem canLink_of_checkCanLink {transport : String}
    (h : checkCanLink timeAuthority routes transport = .ok ()) :
    CanLink timeAuthority (carriedBy routes transport) := by
  unfold checkCanLink at h
  obtain ⟨hpeers, h⟩ := seq_eq_ok.mp h
  refine ⟨fun node hnode => ?_, require_eq_ok.mp h⟩
  have := filter_eq_nil_iff.mp (refuseAny_eq_ok.mp hpeers) node hnode
  simpa using this

/-- Routes at one node of a CAN link have the same ends. -/
theorem CanLink.ends_eq (h : CanLink timeAuthority routes) {route other : Route}
    (hroute : route ∈ routes) (hother : other ∈ routes) (hnode : node ∈ route.ends)
    (hnode' : node ∈ other.ends) : route.ends = other.ends := by
  obtain ⟨peer, hpeer⟩ := hnode
  obtain ⟨peer', hpeer'⟩ := hnode'
  obtain ⟨only, honly⟩ := length_eq_one_iff.mp (h.onePeer node
    (mem_linkNodes.mpr ⟨route, hroute, hpeer ▸ Sym2.mem_mk_left node peer⟩))
  have hmem := mem_peers.mpr ⟨route, hroute, hpeer⟩
  have hmem' := mem_peers.mpr ⟨other, hother, hpeer'⟩
  rw [honly, mem_singleton] at hmem hmem'
  rw [hpeer, hpeer', hmem, hmem']

/-- The routes of a CAN link have the same ends if and only if they all meet the authority. -/
theorem CanLink.ends_eq_iff (h : CanLink timeAuthority routes) :
    (∀ route ∈ routes, ∀ other ∈ routes, route.ends = other.ends) ↔
      ∀ route ∈ routes, timeAuthority ∈ route.ends := by
  constructor
  · intro hsame route hroute
    obtain ⟨first, hfirst, hmem⟩ := mem_linkNodes.mp h.authority
    rw [hsame route hroute first hfirst]
    exact hmem
  · intro hall route hroute other hother
    exact h.ends_eq hroute hother (hall route hroute) (hall other hother)

end Deployment

namespace Resolution

variable {digest : String → String} {packages : List Package} {application : Application}
  {deployment : Deployment} {release : Bool} {lock : DeploymentLock}
  (r : Resolution digest packages application deployment release lock)

include r

/-- The nodes of a link are two if and only if its routes have the same ends. -/
theorem joinsOnePair_iff {transport : Transport} (ht : transport ∈ deployment.transports)
    (hne : carriedBy lock.routes transport.name ≠ []) :
    (linkNodes (carriedBy lock.routes transport.name)).length = 2 ↔
      ∀ route ∈ carriedBy lock.routes transport.name,
        ∀ other ∈ carriedBy lock.routes transport.name, route.ends = other.ends := by
  refine linkNodes_length_eq_two_iff hne fun route hroute => ?_
  obtain ⟨hmem, hcarrier⟩ := r.carrier_of_mem_carriedBy ht hroute
  exact r.route_nodes hmem hcarrier

/-- A CAN link that carries a route has passed its checks, with the only time authority. -/
theorem canLink {transport : Transport} (ht : transport ∈ deployment.transports)
    (htype : transport.type = .can) (hne : carriedBy lock.routes transport.name ≠ []) :
    ∃ timeAuthority, deployment.timeAuthorities = [timeAuthority] ∧
      CanLink timeAuthority (carriedBy lock.routes transport.name) := by
  have hcan : ∀ route ∈ carriedBy lock.routes transport.name,
      route ∈ lock.routes.filter fun route => route.isCarriedBy .can := by
    intro route hroute
    obtain ⟨hmem, hcarrier⟩ := r.carrier_of_mem_carriedBy ht hroute
    exact mem_filter.mpr ⟨hmem, by simp [Route.isCarriedBy, hcarrier, htype]⟩
  obtain ⟨first, hfirst⟩ := exists_mem_of_ne_nil _ hne
  obtain ⟨hmem, hcarrier⟩ := r.carrier_of_mem_carriedBy ht hfirst
  have hcheck := r.can
  unfold checkCanRoutes at hcheck
  dsimp only at hcheck
  rw [if_pos (ne_nil_of_mem (hcan first hfirst))] at hcheck
  split at hcheck
  · rename_i timeAuthority hauthority
    obtain ⟨hlinks, -⟩ := seq_eq_ok.mp hcheck
    refine ⟨timeAuthority, hauthority, ?_⟩
    have hlink := canLink_of_checkCanLink (forM_eq_ok.mp hlinks transport.name
      (mem_sortedNames.mpr (mem_filterMap.mpr
        ⟨first, hcan first hfirst, by rw [hcarrier]; rfl⟩)))
    rwa [carriedBy, filter_filter, filter_congr (q := fun route =>
      route.carrier.any fun carrier => carrier.name = transport.name)] at hlink
    intro route hroute
    by_cases hname : route.carrier.any fun carrier => carrier.name = transport.name
    · have := mem_filter.mp (hcan route (mem_filter.mpr ⟨hroute, hname⟩))
      rw [this.2, Bool.and_true]
    · rw [Bool.not_eq_true] at hname
      rw [hname, Bool.false_and]
  · cases hcheck

end Resolution

/-- The links of an accepted deployment join one pair of nodes each if and only if every route of a
    CAN link begins or ends at a synchronized time authority and the routes of a USB CDC link have
    the same ends. -/
theorem joins_one_pair_iff (digest : String → String) (packages : List Package)
    (application : Application) (deployment : Deployment) (release : Bool) (lock : DeploymentLock)
    (h : resolveDeployment digest packages application deployment release = .ok lock) :
    (∀ transport ∈ deployment.transports, transport.type = .can ∨ transport.type = .usbCdc →
      carriedBy lock.routes transport.name ≠ [] →
      (linkNodes (carriedBy lock.routes transport.name)).length = 2) ↔
    ∀ transport ∈ deployment.transports,
      (transport.type = .can → ∀ route ∈ carriedBy lock.routes transport.name,
        route.sourceNode ∈ deployment.timeAuthorities ∨
          route.destinationNode ∈ deployment.timeAuthorities) ∧
      (transport.type = .usbCdc → ∀ route ∈ carriedBy lock.routes transport.name,
        ∀ other ∈ carriedBy lock.routes transport.name,
          s(route.sourceNode, route.destinationNode) =
            s(other.sourceNode, other.destinationNode)) := by
  obtain ⟨r⟩ := exists_resolution h
  refine forall_congr' fun transport => forall_congr' fun ht => ?_
  by_cases hne : carriedBy lock.routes transport.name = []
  · simp [hne]
  by_cases hcan : transport.type = .can
  · obtain ⟨timeAuthority, hauthority, hlink⟩ := r.canLink ht hcan hne
    have hmeets := (r.joinsOnePair_iff ht hne).trans hlink.ends_eq_iff
    simp only [Route.ends, Sym2.mem_iff] at hmeets
    simp [hcan, hne, hauthority, hmeets, eq_comm]
  · have hsame := r.joinsOnePair_iff ht hne
    simp only [Route.ends] at hsame
    simp [hcan, hne, hsame]

namespace Talks

/-- Each instance is on a node of its own. -/
def fourNodes : Deployment :=
  deployment [{ name := "na", host := "h", instances := ["a"] },
    { name := "nb", host := "h", instances := ["b"] },
    { name := "nc", host := "h", instances := ["c"] },
    { name := "nd", host := "h", instances := ["d"] }] (by decide)

end Talks

/-- The CAN link of an accepted deployment joins two pairs of nodes. -/
theorem four_nodes_on_one_link :
    ∃ lock ∈ (resolveDeployment id Talks.packages (Talks.application .bestEffort none) Talks.fourNodes
        false).toOption,
      ∃ transport ∈ Talks.fourNodes.transports, transport.type = .can ∧
        linkNodes (carriedBy lock.routes transport.name) = ["na", "nb", "nc", "nd"] := by
  decide +kernel

/-- The condition holds for two nodes, so the link joins one pair. -/
theorem two_nodes_on_one_link :
    ∃ lock, resolveDeployment id Talks.packages (Talks.application .bestEffort none) Talks.twoNodes false =
        .ok lock ∧
      ∀ transport ∈ Talks.twoNodes.transports, transport.type = .can ∨ transport.type = .usbCdc →
        carriedBy lock.routes transport.name ≠ [] →
        (linkNodes (carriedBy lock.routes transport.name)).length = 2 := by
  obtain ⟨lock, hlock, hroutes⟩ : ∃ lock ∈ (resolveDeployment id Talks.packages
      (Talks.application .bestEffort none) Talks.twoNodes false).toOption,
        ∀ route ∈ carriedBy lock.routes "bus", route.sourceNode = "na" := by
    decide +kernel
  refine ⟨lock, mem_toOption.mp hlock,
    (joins_one_pair_iff _ _ _ _ _ lock (mem_toOption.mp hlock)).mpr fun transport ht => ?_⟩
  obtain rfl := List.mem_singleton.mp ht
  refine ⟨fun _ route hroute => .inl ?_, nofun⟩
  rw [hroutes route hroute]
  decide

end AsterCtrl.Cli
