import AsterCtrl.Spec.Cli.Compilation
import Mathlib.Data.Finset.Card

/-!
# Identifiers of nodes and routes

`_assign_ids` keeps the identifiers that a document gives and fills up the others with the next
ones that are free.  The result does not repeat an identifier, so nodes are told apart by theirs
and so are routes.

## Key results

- `assigned_of_assignIds`: identifiers are distinct, and given or not below the first automatic one
- `Resolution.id_injective`, `Resolution.id_pos`: the identifiers of nodes are different, and not 0
- `Resolution.nodup_route_ids`, `Resolution.route_id_pos`: the same for routes
-/

namespace AsterCtrl.Cli

open List Deployment Except

theorem unique_eq_ok {items : List String} {location : String} {u : Unit} :
    unique items location = .ok u ↔ items.Nodup := by
  rw [unique, refuseAny_eq_ok, filter_eq_nil_iff, nodup_iff_count_le_one]
  constructor
  · intro h item
    by_cases hmem : item ∈ items
    · simpa using h item hmem
    · rw [count_eq_zero_of_not_mem hmem]
      exact Nat.zero_le 1
  · intro h item _
    simpa using h item

theorem mem_of_lookupLast {α : Type} {entries : List (String × α)} {key : String} {value : α}
    (h : lookupLast entries key = some value) : (key, value) ∈ entries := by
  obtain ⟨before, after, hentries, -⟩ := lookup_eq_some_iff.mp h
  rw [← mem_reverse, hentries]
  exact mem_append_right _ mem_cons_self

/-! ## Free identifiers -/

theorem le_nextFree (used : List Nat) (fuel candidate : Nat) :
    candidate ≤ nextFree used fuel candidate := by
  induction fuel generalizing candidate with
  | zero => exact Nat.le_refl _
  | succ fuel ih =>
    unfold nextFree
    split_ifs
    · exact Nat.le_of_succ_le (ih (candidate + 1))
    · exact Nat.le_refl _

variable {used : List Nat} {candidate : Nat}

/-- The loop ends at a free identifier: each round leaves one that is used behind. -/
theorem nextFree_not_mem {fuel : Nat}
    (h : (used.toFinset.filter fun id => candidate ≤ id).card < fuel) :
    nextFree used fuel candidate ∉ used := by
  induction fuel generalizing candidate with
  | zero => exact absurd h (Nat.not_lt_zero _)
  | succ fuel ih =>
    unfold nextFree
    split_ifs with hused
    · refine ih (Nat.lt_of_lt_of_le (Finset.card_lt_card ?_) (Nat.le_of_lt_succ h))
      refine Finset.ssubset_iff_subset_ne.mpr
        ⟨Finset.monotone_filter_right _ fun id _ hid => Nat.le_of_succ_le hid, fun heq => ?_⟩
      have hmem := heq.symm.subset (Finset.mem_filter.mpr
        ⟨mem_toFinset.mpr hused, Nat.le_refl candidate⟩)
      exact absurd (Finset.mem_filter.mp hmem).2 (Nat.not_succ_le_self candidate)
    · exact hused

/-- `_assign_ids` has candidates enough. -/
theorem nextFree_length_not_mem (used : List Nat) (candidate : Nat) :
    nextFree used (used.length + 1) candidate ∉ used :=
  nextFree_not_mem (Nat.lt_succ_of_le
    ((Finset.card_filter_le _ _).trans (toFinset_card_le used)))

/-! ## Assigned identifiers -/

/-- What `_assign_ids` returns for values with or without an identifier. -/
structure Assigned (values : List (String × Option Nat)) (first : Nat) (ids : List (String × Nat)) :
    Prop where
  distinct : (ids.map Prod.snd).Nodup
  given_or_le : ∀ entry ∈ ids, entry.2 ∈ values.filterMap Prod.snd ∨ first ≤ entry.2

variable {values : List (String × Option Nat)}

/-- The identifiers that the loop returns are given, or they are free and not below the
    candidate. -/
theorem given_or_free_of_mem_assignLoop {entry : String × Nat}
    (h : entry ∈ assignLoop values used candidate) :
    entry.2 ∈ values.filterMap Prod.snd ∨ candidate ≤ entry.2 ∧ entry.2 ∉ used := by
  induction values generalizing used candidate with
  | nil => cases h
  | cons value values ih =>
    obtain ⟨name, _ | id⟩ := value
    · have hle := le_nextFree used (used.length + 1) candidate
      rcases mem_cons.mp h with rfl | h
      · exact .inr ⟨hle, nextFree_length_not_mem used candidate⟩
      · rcases ih h with hgiven | ⟨hlater, hfree⟩
        · exact .inl hgiven
        · exact .inr ⟨by omega, fun hmem => hfree (mem_cons_of_mem _ hmem)⟩
    · rcases mem_cons.mp h with rfl | h
      · exact .inl mem_cons_self
      · rcases ih h with hgiven | hfree
        · exact .inl (mem_cons_of_mem _ hgiven)
        · exact .inr hfree

/-- The loop repeats no identifier if the given ones are distinct and used. -/
theorem nodup_assignLoop (hgiven : (values.filterMap Prod.snd).Nodup)
    (hused : values.filterMap Prod.snd ⊆ used) :
    ((assignLoop values used candidate).map Prod.snd).Nodup := by
  induction values generalizing used candidate with
  | nil => exact nodup_nil
  | cons value values ih =>
    obtain ⟨name, _ | id⟩ := value
    · refine nodup_cons.mpr ⟨fun hmem => ?_,
        ih hgiven fun id hid => mem_cons_of_mem _ (hused hid)⟩
      obtain ⟨entry, hentry, hid⟩ := mem_map.mp hmem
      rcases given_or_free_of_mem_assignLoop hentry with hfound | ⟨-, hfree⟩
      · rw [hid] at hfound
        exact nextFree_length_not_mem used candidate (hused hfound)
      · rw [hid] at hfree
        exact hfree mem_cons_self
    · obtain ⟨hnew, hgiven⟩ := nodup_cons.mp hgiven
      refine nodup_cons.mpr ⟨fun hmem => ?_,
        ih hgiven fun id hid => hused (mem_cons_of_mem _ hid)⟩
      obtain ⟨entry, hentry, hid⟩ := mem_map.mp hmem
      rcases given_or_free_of_mem_assignLoop hentry with hfound | ⟨-, hfree⟩
      · rw [hid] at hfound
        exact hnew hfound
      · rw [hid] at hfree
        exact hfree (hused mem_cons_self)

variable {ids : List (String × Nat)}

theorem assigned_of_assignIds {location : String} {first : Nat}
    (h : assignIds values location first = .ok ids) : Assigned values first ids := by
  unfold assignIds at h
  obtain ⟨hunique, h⟩ := seq_eq_ok.mp h
  obtain rfl := pure_eq_ok.mp h
  have hperm := (perm_insertionSort (fun a b => a.1 ≤ b.1) values).filterMap Prod.snd
  refine ⟨nodup_assignLoop (hperm.nodup_iff.mpr (List.Nodup.of_map _ (unique_eq_ok.mp hunique)))
    fun id hid => hperm.mem_iff.mp hid, fun entry hentry => ?_⟩
  rcases given_or_free_of_mem_assignLoop hentry with hgiven | ⟨hle, -⟩
  · exact .inl (hperm.mem_iff.mp hgiven)
  · exact .inr hle

/-- Names are told apart by their identifiers. -/
theorem Assigned.name_eq {first : Nat} (h : Assigned values first ids) {name other : String}
    {id : Nat} (hname : lookupLast ids name = some id) (hother : lookupLast ids other = some id) :
    name = other :=
  congrArg Prod.fst (inj_on_of_nodup_map h.distinct (mem_of_lookupLast hname)
    (mem_of_lookupLast hother) rfl)

/-! ## Nodes -/

variable {deployment : Deployment} {graph : ApplicationGraph}

/-- What the lock of a node copies. -/
theorem copied_of_lockNode {nodeIds : List (String × Nat)}
    {capabilities : List (String × List CapabilityBinding)} {routes : List Route}
    {executors : List ExecutorLock} {node : Node} {nodeLock : NodeLock}
    (h : deployment.lockNode graph nodeIds capabilities routes executors node = .ok nodeLock) :
    nodeLock.name = node.name ∧ nodeLock.host = node.host ∧
      lookupLast nodeIds node.name = some nodeLock.id := by
  unfold lockNode at h
  obtain ⟨host, -, h⟩ := bind_eq_ok.mp h
  obtain ⟨id, hid, h⟩ := bind_eq_ok.mp h
  obtain ⟨runtime, -, h⟩ := bind_eq_ok.mp h
  obtain rfl := pure_eq_ok.mp h
  exact ⟨rfl, rfl, getKey_eq_ok.mp hid⟩

namespace Resolution

variable {digest : String → String} {packages : List Package} {application : Application}
  {deployment : Deployment} {release : Bool} {lock : DeploymentLock}
  (r : Resolution digest packages application deployment release lock)

include r

/-- The host and the identifier of a locked node are those of a node of the deployment. -/
theorem copied {nodeLock : NodeLock} (hnode : nodeLock ∈ lock.nodes) :
    ∃ node ∈ deployment.nodes, nodeLock.name = node.name ∧ nodeLock.host = node.host ∧
      lookupLast r.nodeIds nodeLock.name = some nodeLock.id := by
  obtain ⟨⟨node, executors⟩, hzip, h⟩ := exists_of_mem_mapM r.locked hnode
  obtain ⟨hname, hhost, hid⟩ := copied_of_lockNode h
  exact ⟨node, (of_mem_zip hzip).1, hname, hhost, hname ▸ hid⟩

/-- Nodes are told apart by their identifiers. -/
theorem id_injective {node other : NodeLock} (hnode : node ∈ lock.nodes)
    (hother : other ∈ lock.nodes) (h : node.id = other.id) : node.name = other.name := by
  obtain ⟨_, -, -, -, hid⟩ := r.copied hnode
  obtain ⟨_, -, -, -, hid'⟩ := r.copied hother
  rw [h] at hid
  exact (assigned_of_assignIds r.identified).name_eq hid hid'

/-- No node has the identifier 0. -/
theorem id_pos {node : NodeLock} (hnode : node ∈ lock.nodes) : 0 < node.id := by
  obtain ⟨_, -, -, -, hid⟩ := r.copied hnode
  rcases (assigned_of_assignIds r.identified).given_or_le _ (mem_of_lookupLast hid) with hgiven | h
  · obtain ⟨⟨name, given⟩, hmem, hgiven⟩ := mem_filterMap.mp hgiven
    obtain ⟨source, -, heq⟩ := mem_map.mp hmem
    cases heq
    exact source.nodeId_pos _ hgiven
  · exact h

end Resolution

/-! ## Routes -/

theorem id_of_connect {e : Endpoints} {connection : Connection} {row : ConnectionRow}
    (h : e.connect ids connection = .ok row) : lookupLast ids connection.name = some row.id := by
  unfold Endpoints.connect at h
  obtain ⟨_, -, h⟩ := bind_eq_ok.mp h
  obtain ⟨_, -, h⟩ := bind_eq_ok.mp h
  obtain ⟨-, h⟩ := seq_eq_ok.mp h
  obtain ⟨-, h⟩ := seq_eq_ok.mp h
  obtain ⟨_, -, h⟩ := bind_eq_ok.mp h
  obtain ⟨_, -, h⟩ := bind_eq_ok.mp h
  obtain ⟨_, -, h⟩ := bind_eq_ok.mp h
  obtain ⟨-, h⟩ := seq_eq_ok.mp h
  obtain ⟨-, h⟩ := seq_eq_ok.mp h
  obtain ⟨id, hid, h⟩ := bind_eq_ok.mp h
  obtain rfl := pure_eq_ok.mp h
  exact getKey_eq_ok.mp hid

variable {digest : String → String} {packages : List Package} {application : Application}
    {release : Bool}

/-- The rows of a graph are told apart by their identifiers. -/
theorem Compilation.nodup_ids (c : Compilation digest packages application release graph) :
    (graph.connections.map ConnectionRow.id).Nodup := by
  have hids := map_eq_of_mapM c.connected (g := fun connection => lookupLast c.ids connection.name)
    (k := fun row => some row.id) fun _ _ h => id_of_connect h
  have hassigned := assigned_of_assignIds c.identified
  refine List.Nodup.of_map some ?_
  rw [map_map]
  refine hids ▸ ?_
  -- Names are distinct, and distinct names have distinct identifiers.
  change (List.map (lookupLast c.ids ∘ Connection.name) _).Nodup
  rw [← map_map]
  refine List.Nodup.map_on (fun name hname other hother heq => ?_) (unique_eq_ok.mp c.distinct)
  obtain ⟨connection, hconnection, rfl⟩ := mem_map.mp hname
  obtain ⟨row, -, hrow⟩ := exists_of_mem_of_mapM c.connected hconnection
  have hid := id_of_connect hrow
  exact hassigned.name_eq hid (heq ▸ hid)

/-- No row of a graph has the identifier 0. -/
theorem Compilation.id_pos (c : Compilation digest packages application release graph)
    {row : ConnectionRow} (hrow : row ∈ graph.connections) : 0 < row.id := by
  obtain ⟨connection, -, hconnect⟩ := exists_of_mem_mapM c.connected hrow
  rcases (assigned_of_assignIds c.identified).given_or_le _
    (mem_of_lookupLast (id_of_connect hconnect)) with hgiven | hle
  · obtain ⟨⟨name, given⟩, hmem, hgiven⟩ := mem_filterMap.mp hgiven
    obtain ⟨source, -, heq⟩ := mem_map.mp hmem
    cases heq
    exact source.routeId_pos _ hgiven
  · exact Nat.lt_of_lt_of_le (by decide) hle

/-- No route of a lock has the identifier 0. -/
theorem Resolution.route_id_pos {lock : DeploymentLock}
    (r : Resolution digest packages application deployment release lock) {route : Route}
    (hroute : route ∈ lock.routes) : 0 < route.id := by
  obtain ⟨c⟩ := exists_compilation r.compiled
  obtain ⟨row, hrow, hrouted⟩ := r.routedFrom hroute
  rw [hrouted.id]
  exact c.id_pos hrow

/-- The routes of a lock are told apart by their identifiers. -/
theorem Resolution.nodup_route_ids {lock : DeploymentLock}
    (r : Resolution digest packages application deployment release lock) :
    (lock.routes.map Route.id).Nodup := by
  obtain ⟨c⟩ := exists_compilation r.compiled
  have hids := map_eq_of_mapM r.routed (g := ConnectionRow.id) (k := Route.id)
    fun _ _ h => (routedFrom_of_resolveRoute h).id.symm
  rw [← hids]
  exact c.nodup_ids

end AsterCtrl.Cli
