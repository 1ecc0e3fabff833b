import AsterCtrl.Native.Cli.Emitters
import AsterCtrl.Spec.Cli.Numbering

/-!
# The names of endpoints

`compile_application` joins the name of an instance and the name of a port with a dot, and looks up
the ends of connections among these names.  For the package and for the node of an end it splits
the name at its first dot, and so do the emitters for the name of the port.

The two agree on instances whose names have no dot.  The schema of an application says nothing
about the names of instances, so there are applications for which they do not: the package, the
node and the registered name are then those of something else, or the instance is not found at all.

## Key results

- `splitEndpoint_eq_ok`: what `_split_endpoint` returns
- `onlyThrows_compileApplication`: the errors of `compile_application` for plain endpoints
- `endpoints_agree_iff`: the applications whose endpoints name one port
-/

namespace AsterCtrl.Cli

open List Except

/-! ## Joining and splitting -/

@[simp] theorem toList_endpoint (instanceName port : String) :
    (endpoint instanceName port).toList = instanceName.toList ++ '.' :: port.toList := by
  simp [endpoint]

variable {instanceName : String}

theorem splitEndpoint_endpoint (port : String) (h : '.' ∉ instanceName.toList) :
    splitEndpoint (endpoint instanceName port) = .ok (instanceName, port) := by
  have hne : ∀ c ∈ instanceName.toList, decide (c ≠ '.') = true := fun c hc =>
    decide_eq_true fun hdot => h (hdot ▸ hc)
  rw [splitEndpoint, span_eq_takeWhile_dropWhile, toList_endpoint,
    takeWhile_append_of_pos hne, dropWhile_append_of_pos hne]
  simp

variable {value : String}

/-- `_split_endpoint` returns the parts of a name of which the first has no dot. -/
theorem splitEndpoint_eq_ok {port : String} :
    splitEndpoint value = .ok (instanceName, port) ↔
      '.' ∉ instanceName.toList ∧ endpoint instanceName port = value := by
  refine ⟨fun h => ?_, ?_⟩
  · by_cases hdot : '.' ∈ value.toList
    · obtain ⟨first, rest, hvalue, hfirst⟩ := eq_append_cons_of_mem hdot
      have hfirst' : '.' ∉ (String.ofList first).toList := by simpa using hfirst
      have heq : endpoint (String.ofList first) (String.ofList rest) = value := by
        rw [← String.toList_inj, toList_endpoint, hvalue]
        simp
      rw [← heq, splitEndpoint_endpoint _ hfirst'] at h
      cases h
      exact ⟨hfirst', heq⟩
    · have hne : ∀ c ∈ value.toList, decide (c ≠ '.') = true := fun c hc =>
        decide_eq_true fun h => hdot (h ▸ hc)
      rw [splitEndpoint, span_eq_takeWhile_dropWhile, ← append_nil value.toList,
        dropWhile_append_of_pos hne] at h
      cases h
  · rintro ⟨hdot, rfl⟩
    exact splitEndpoint_endpoint _ hdot

/-- The emitters register what is after the first dot. -/
theorem endpointPort_endpoint {port : String} (h : '.' ∉ instanceName.toList) :
    endpointPort (endpoint instanceName port) = port := by
  have hne : ∀ c ∈ instanceName.toList, decide (c ≠ '.') = true := fun c hc =>
    decide_eq_true fun hdot => h (hdot ▸ hc)
  rw [endpointPort, toList_endpoint, dropWhile_append_of_pos hne]
  simp

theorem exists_lookupLast {α : Type} {entries : List (String × α)} {key : String}
    (h : key ∈ entries.map Prod.fst) : ∃ value, lookupLast entries key = some value := by
  obtain ⟨⟨_, value⟩, hmem, rfl⟩ := mem_map.mp h
  refine Option.ne_none_iff_exists'.mp fun hnone => ?_
  have := lookup_eq_none_iff.mp hnone _ (mem_reverse.mpr hmem)
  simp at this

/-! ## Declared ports -/

/-- The instances of an application with their modules. -/
def moduleInstances (packages : List Package) (application : Application) :
    Except Failure (List ModuleInstance) := do
  let modules ← loadModules packages
  application.instances.mapM (resolveModule modules)

/-- The module of an instance declares a port. -/
def Declares (instances : List ModuleInstance) (item : Instance) (port : Port) : Prop :=
  ∃ module, (item, module) ∈ instances ∧ port ∈ module.ports

theorem mem_ports {e : Endpoints} {port : Port} :
    (value, port) ∈ e.ports ↔
      ∃ item, Declares e.instances item port ∧ endpoint item.name port.name = value := by
  simp only [Endpoints.ports, mem_flatMap, mem_map, Prod.mk.injEq]
  constructor
  · rintro ⟨⟨item, module⟩, hitem, port, hport, rfl, rfl⟩
    exact ⟨item, ⟨module, hitem, hport⟩, rfl⟩
  · rintro ⟨item, ⟨module, hitem, hport⟩, rfl⟩
    exact ⟨(item, module), hitem, port, hport, rfl, rfl⟩

/-- A name is that of one port, which is checked, and whose instance and name are what the name
    is split into. -/
structure NamesOnePort (e : Endpoints) (value : String) (item : Instance) (port : Port) :
    Prop where
  declared : Declares e.instances item port
  named : endpoint item.name port.name = value
  only : ∀ item' port', Declares e.instances item' port' →
    endpoint item'.name port'.name = value → item' = item ∧ port' = port
  /-- Kind and type of this port are checked. -/
  checked : lookupLast e.ports value = some port
  /-- This instance gives the package and the node. -/
  split : splitEndpoint value = .ok (item.name, port.name)
  package : e.package value = .ok (packageOf item.module)
  /-- The emitters register a port of this name. -/
  registered : endpointPort value = port.name

/-- An application is refused with a `GraphError`, or it is accepted and its connections name one
    port at each end. -/
def EndpointsAgree (digest : String → String) (packages : List Package)
    (application : Application) (release : Bool) : Prop :=
  match compileApplication digest packages application release with
  | .ok _ => ∀ e : Endpoints, moduleInstances packages application = .ok e.instances →
    ∀ connection ∈ application.connections, ∀ value ∈ connection.endpoints,
      ∃ item port, NamesOnePort e value item port
  | .error (.graphError _) => True
  | .error _ => False

/-- No name at an end of a connection belongs to a port of an instance with a dot in its name. -/
def PlainEndpoints (packages : List Package) (application : Application) : Prop :=
  ∀ instances, moduleInstances packages application = .ok instances →
    ∀ connection ∈ application.connections, ∀ value ∈ connection.endpoints, ∀ item port,
      Declares instances item port → endpoint item.name port.name = value →
        '.' ∉ item.name.toList

/-! ## Errors -/

/-- An error is a `GraphError`. -/
def Failure.IsGraphError (failure : Failure) : Prop := ∃ message, failure = .graphError message

theorem isGraphError (message : String) : Failure.IsGraphError (.graphError message) :=
  ⟨message, rfl⟩

theorem onlyThrows_refuseAny (names : List String) (message : String) :
    OnlyThrows Failure.IsGraphError (refuseAny names message) :=
  onlyThrows_require (isGraphError _)

theorem onlyThrows_unique (items : List String) (location : String) :
    OnlyThrows Failure.IsGraphError (unique items location) :=
  onlyThrows_refuseAny _ _

theorem onlyThrows_assignIds (values : List (String × Option Nat)) (location : String)
    (first : Nat) : OnlyThrows Failure.IsGraphError (assignIds values location first) :=
  (onlyThrows_unique _ _).bind fun _ _ => onlyThrows_pure _

theorem onlyThrows_startupRounds (fuel : Nat) (dependencies : List (String × List String)) :
    OnlyThrows Failure.IsGraphError (startupRounds fuel dependencies) := by
  induction fuel generalizing dependencies with
  | zero =>
    unfold startupRounds
    split
    · exact onlyThrows_ok _
    · exact onlyThrows_error (isGraphError _)
  | succ fuel ih =>
    unfold startupRounds
    split
    · exact onlyThrows_ok _
    · exact (onlyThrows_require (isGraphError _)).bind fun _ _ =>
        (ih _).bind fun _ _ => onlyThrows_pure _

theorem onlyThrows_startupOrder (application : Application) :
    OnlyThrows Failure.IsGraphError (startupOrder application) := by
  refine (onlyThrows_forM fun item _ => ?_).bind fun _ _ => onlyThrows_startupRounds _ _
  exact (onlyThrows_refuseAny _ _).bind fun _ _ => onlyThrows_require (isGraphError _)

theorem onlyThrows_loadPackageModules (package : String) (exported : List Module)
    (modules : List (String × Module)) :
    OnlyThrows Failure.IsGraphError (loadPackageModules package exported modules) := by
  induction exported generalizing modules with
  | nil => exact onlyThrows_ok _
  | cons module exported ih => exact (onlyThrows_require (isGraphError _)).bind fun _ _ => ih _

theorem onlyThrows_loadPackages (packages : List Package) (modules : List (String × Module)) :
    OnlyThrows Failure.IsGraphError (loadPackages packages modules) := by
  induction packages generalizing modules with
  | nil => exact onlyThrows_ok _
  | cons package packages ih =>
    exact (onlyThrows_require (isGraphError _)).bind fun _ _ =>
      (onlyThrows_loadPackageModules _ _ _).bind fun _ _ => ih _

theorem onlyThrows_loadPackageSchemas (packages : List Package) :
    OnlyThrows Failure.IsGraphError (loadPackageSchemas packages) := by
  refine onlyThrows_mapM fun package _ => ?_
  split
  · exact onlyThrows_error (isGraphError _)
  · exact (onlyThrows_require (isGraphError _)).bind fun _ _ => onlyThrows_pure _
  · exact onlyThrows_ok _

theorem onlyThrows_resolveModule (modules : List (String × Module)) (item : Instance) :
    OnlyThrows Failure.IsGraphError (resolveModule modules item) := by
  unfold resolveModule
  split
  · exact onlyThrows_error (isGraphError _)
  · refine OnlyThrows.bind ?_ fun _ _ => onlyThrows_pure _
    unfold validateInstanceConfig
    split
    · exact onlyThrows_require (isGraphError _)
    · split
      · exact onlyThrows_error (isGraphError _)
      · exact onlyThrows_ok _

theorem onlyThrows_checkModule (domains : List String) (item : Instance) (module : Module) :
    OnlyThrows Failure.IsGraphError (checkModule domains item module) := by
  refine (onlyThrows_unique _ _).bind fun _ _ => (onlyThrows_unique _ _).bind fun _ _ =>
    (onlyThrows_unique _ _).bind fun _ _ => (onlyThrows_unique _ _).bind fun _ _ =>
    (onlyThrows_unique _ _).bind fun _ _ => ?_
  refine (onlyThrows_forM fun _ _ => onlyThrows_require (isGraphError _)).bind fun _ _ => ?_
  refine (onlyThrows_forM fun _ _ => onlyThrows_require (isGraphError _)).bind fun _ _ => ?_
  refine onlyThrows_forM fun _ _ => ?_
  exact (onlyThrows_require (isGraphError _)).bind fun _ _ => onlyThrows_require (isGraphError _)

namespace Endpoints

variable (e : Endpoints)

theorem onlyThrows_port (role value : String) :
    OnlyThrows Failure.IsGraphError (e.port role value) := by
  unfold port
  split
  · exact onlyThrows_error (isGraphError _)
  · exact onlyThrows_ok _

theorem onlyThrows_portMaxWireSize (schema : BoundedSchema) (package endpoint typeName : String)
    (rpc : Bool) :
    OnlyThrows Failure.IsGraphError (portMaxWireSize schema package endpoint typeName rpc) := by
  unfold portMaxWireSize
  dsimp only
  split
  · exact onlyThrows_error (isGraphError _)
  · exact onlyThrows_ok _

theorem onlyThrows_contract (connection : Connection) (source destination : Port)
    (sourcePackage destinationPackage : String) :
    OnlyThrows Failure.IsGraphError
      (e.contract connection source destination sourcePackage destinationPackage) := by
  unfold contract
  split
  · refine (onlyThrows_portMaxWireSize _ _ _ _ _).bind fun _ _ =>
      (onlyThrows_portMaxWireSize _ _ _ _ _).bind fun _ _ => ?_
    refine (onlyThrows_require (isGraphError _)).bind fun _ _ =>
      (onlyThrows_require (isGraphError _)).bind fun _ _ => ?_
    exact (onlyThrows_forM fun _ _ => onlyThrows_require (isGraphError _)).bind fun _ _ =>
      onlyThrows_pure _
  · exact (onlyThrows_require (isGraphError _)).bind fun _ _ =>
      (onlyThrows_require (isGraphError _)).bind fun _ _ => onlyThrows_pure _

theorem onlyThrows_checkBindings (bindings : List Binding) (bound : List String) :
    OnlyThrows Failure.IsGraphError (e.checkBindings bindings bound) := by
  induction bindings generalizing bound with
  | nil => exact onlyThrows_ok _
  | cons binding bindings ih =>
    unfold checkBindings
    dsimp only
    split
    · exact onlyThrows_error (isGraphError _)
    · rw [ok_bind]
      split
      · exact onlyThrows_error (isGraphError _)
      · exact (onlyThrows_require (isGraphError _)).bind fun _ _ =>
          (onlyThrows_require (isGraphError _)).bind fun _ _ =>
          (onlyThrows_require (isGraphError _)).bind fun _ _ => ih _

theorem onlyThrows_portRow (item : Instance) (port : Port) :
    OnlyThrows Failure.IsGraphError (e.portRow item port) := by
  unfold portRow
  refine OnlyThrows.bind ?_ fun _ _ =>
    (onlyThrows_require (isGraphError _)).bind fun _ _ => onlyThrows_pure _
  unfold portMaximum
  dsimp only
  split
  · exact onlyThrows_ok _
  · exact (onlyThrows_require (isGraphError _)).bind fun _ _ =>
      (onlyThrows_require (isGraphError _)).bind fun _ _ => onlyThrows_pure _

end Endpoints

/-! ## Plain endpoints -/

section Plain

variable {e : Endpoints} {value : String} {port : Port}

/-- The package of a name that is that of a port of an instance without a dot. -/
theorem package_endpoint {item : Instance} {module : Module} (hitem : (item, module) ∈ e.instances)
    (hnodup : (e.instances.map (·.1.name)).Nodup) (hdot : '.' ∉ item.name.toList) :
    e.package (endpoint item.name port.name) = .ok (packageOf item.module) := by
  obtain ⟨⟨found, foundModule⟩, hfound⟩ : ∃ found,
      (e.instances.find? fun other => other.1.name = item.name) = some found :=
    Option.isSome_iff_exists.mp (List.find?_isSome.mpr ⟨_, hitem, by simp⟩)
  have hname : found.name = item.name := by simpa using List.find?_some hfound
  have heq := inj_on_of_nodup_map hnodup (mem_of_find?_eq_some hfound) hitem hname
  rw [Endpoints.package, splitEndpoint_endpoint _ hdot, ok_bind]
  dsimp only
  erw [hfound]
  cases heq
  rfl

/-- A port that is looked up is declared. -/
theorem exists_declares_of_lookup (h : lookupLast e.ports value = some port) :
    ∃ item, Declares e.instances item port ∧ endpoint item.name port.name = value :=
  mem_ports.mp (mem_of_lookupLast h)

/-- The package of a name is found if the ports of that name are of instances without a dot. -/
theorem exists_package (hnodup : (e.instances.map (·.1.name)).Nodup)
    (hplain : ∀ item port, Declares e.instances item port → endpoint item.name port.name = value →
      '.' ∉ item.name.toList) (h : lookupLast e.ports value = some port) :
    ∃ package, e.package value = .ok package := by
  obtain ⟨item, ⟨module, hitem, hport⟩, rfl⟩ := exists_declares_of_lookup h
  have hdot := hplain item port ⟨module, hitem, hport⟩ rfl
  exact ⟨_, package_endpoint hitem hnodup hdot⟩

/-- Plain names name one port, if the ports of a module have different names. -/
theorem namesOnePort (hnodup : (e.instances.map (·.1.name)).Nodup)
    (hports : ∀ entry ∈ e.instances, (entry.2.ports.map Port.name).Nodup)
    (hplain : ∀ item port, Declares e.instances item port → endpoint item.name port.name = value →
      '.' ∉ item.name.toList) (h : lookupLast e.ports value = some port) :
    ∃ item, NamesOnePort e value item port := by
  obtain ⟨item, ⟨module, hitem, hport⟩, rfl⟩ := exists_declares_of_lookup h
  have hdot := hplain item port ⟨module, hitem, hport⟩ rfl
  refine ⟨item, ⟨⟨module, hitem, hport⟩, rfl, ?_, h, splitEndpoint_endpoint _ hdot,
    package_endpoint hitem hnodup hdot, endpointPort_endpoint hdot⟩⟩
  -- Both names are split into the same parts.
  rintro item' port' hdeclares' hname
  have hsplit := splitEndpoint_endpoint port'.name (hplain _ _ hdeclares' hname)
  rw [hname, splitEndpoint_endpoint _ hdot] at hsplit
  obtain ⟨module', hitem', hport'⟩ := hdeclares'
  injection hsplit with hsplit
  injection hsplit with hitemName hportName
  cases inj_on_of_nodup_map hnodup hitem' hitem hitemName.symm
  exact ⟨rfl, inj_on_of_nodup_map (hports _ hitem) hport' hport hportName.symm⟩

/-- A name that names one port is not that of a port of an instance with a dot. -/
theorem NamesOnePort.plain {item : Instance} (h : NamesOnePort e value item port) {item' : Instance}
    {port' : Port} (hdeclares : Declares e.instances item' port')
    (hname : endpoint item'.name port'.name = value) : '.' ∉ item'.name.toList := by
  obtain ⟨rfl, rfl⟩ := h.only item' port' hdeclares hname
  exact (splitEndpoint_eq_ok.mp h.split).1

end Plain

/-! ## Applications -/

section Applications

theorem map_fst_of_resolveModule {modules : List (String × Module)} {items : List Instance}
    {instances : List ModuleInstance} (h : items.mapM (resolveModule modules) = .ok instances) :
    items.map Instance.name = instances.map (·.1.name) := by
  refine map_eq_of_mapM h fun item resolved hresolved => ?_
  unfold resolveModule at hresolved
  split at hresolved
  · cases hresolved
  · obtain ⟨-, hresolved⟩ := seq_eq_ok.mp hresolved
    obtain rfl := pure_eq_ok.mp hresolved
    rfl

variable {packages : List Package} {application : Application}

theorem nodup_moduleInstances {instances : List ModuleInstance}
    (h : moduleInstances packages application = .ok instances) :
    (instances.map (·.1.name)).Nodup := by
  obtain ⟨modules, -, h⟩ := bind_eq_ok.mp h
  rw [← map_fst_of_resolveModule h]
  exact application.instances_sorted.imp ne_of_lt

/-- One round of the loop over the connections raises nothing else for plain endpoints. -/
theorem onlyThrows_connect {e : Endpoints} {ids : List (String × Nat)} {connection : Connection}
    (hnodup : (e.instances.map (·.1.name)).Nodup)
    (hplain : ∀ value ∈ connection.endpoints, ∀ item port, Declares e.instances item port →
      endpoint item.name port.name = value → '.' ∉ item.name.toList)
    (hid : connection.name ∈ ids.map Prod.fst) :
    OnlyThrows Failure.IsGraphError (e.connect ids connection) := by
  refine (e.onlyThrows_port _ _).bind fun source hsource =>
    (e.onlyThrows_port _ _).bind fun destination hdestination => ?_
  refine (onlyThrows_require (isGraphError _)).bind fun _ _ =>
    (onlyThrows_require (isGraphError _)).bind fun _ _ => ?_
  obtain ⟨sourcePackage, hsourcePackage⟩ := exists_package hnodup
    (hplain _ (by simp [Connection.endpoints])) (Endpoints.lookup_of_port hsource)
  obtain ⟨destinationPackage, hdestinationPackage⟩ := exists_package hnodup
    (hplain _ (by simp [Connection.endpoints])) (Endpoints.lookup_of_port hdestination)
  rw [hsourcePackage, hdestinationPackage, ok_bind, ok_bind]
  refine (e.onlyThrows_contract _ _ _ _ _).bind fun _ _ =>
    (onlyThrows_require (isGraphError _)).bind fun _ _ => ?_
  refine (onlyThrows_forM fun _ _ => onlyThrows_require (isGraphError _)).bind fun _ _ => ?_
  obtain ⟨id, hid⟩ := exists_lookupLast hid
  rw [hid]
  exact onlyThrows_pure _

/-- `compile_application` raises nothing but `GraphError` for plain endpoints. -/
theorem onlyThrows_compileApplication (hplain : PlainEndpoints packages application)
    (digest : String → String) (release : Bool) :
    OnlyThrows Failure.IsGraphError
      (compileApplication digest packages application release) := by
  refine (onlyThrows_startupOrder _).bind fun _ _ =>
    (onlyThrows_loadPackages _ _).bind fun modules hmodules =>
    (onlyThrows_loadPackageSchemas _).bind fun schemas _ =>
    (onlyThrows_mapM fun _ _ => onlyThrows_resolveModule _ _).bind fun instances hresolved => ?_
  have hinstances : moduleInstances packages application = .ok instances :=
    bind_eq_ok.mpr ⟨modules, hmodules, hresolved⟩
  have hnodup := nodup_moduleInstances hinstances
  refine (onlyThrows_unique _ _).bind fun _ _ =>
    (onlyThrows_forM fun _ _ => onlyThrows_checkModule _ _ _).bind fun _ _ =>
    (onlyThrows_unique _ _).bind fun _ _ =>
    (onlyThrows_assignIds _ _ _).bind fun ids hids => ?_
  refine (onlyThrows_mapM fun connection hconnection => ?_).bind fun _ _ => ?_
  · have hmem := (mem_insertionSort _).mp hconnection
    refine onlyThrows_connect hnodup (hplain _ hinstances _ hmem) ?_
    obtain ⟨-, rfl⟩ := assignIds_eq_ok.mp hids
    rw [map_fst_assignLoop]
    exact mem_map.mpr ⟨_, (mem_insertionSort _).mpr (mem_map_of_mem hconnection), rfl⟩
  · refine (onlyThrows_refuseAny _ _).bind fun _ _ =>
      (Endpoints.onlyThrows_checkBindings _ _ _).bind fun _ _ =>
      (onlyThrows_refuseAny _ _).bind fun _ _ => ?_
    refine (onlyThrows_mapM fun _ _ => ?_).bind fun _ _ => onlyThrows_pure _
    exact (onlyThrows_mapM fun _ _ => Endpoints.onlyThrows_portRow _ _ _).bind fun _ _ =>
      onlyThrows_pure _

/-- The ports of the modules of an accepted application have different names. -/
theorem Compilation.nodup_ports {digest : String → String} {release : Bool}
    {graph : ApplicationGraph} (c : Compilation digest packages application release graph) :
    ∀ entry ∈ c.instances, (entry.2.ports.map Port.name).Nodup := by
  intro entry hentry
  have hchecked := forM_eq_ok.mp c.checked entry hentry
  exact unique_eq_ok.mp (seq_eq_ok.mp hchecked).1

/-- The ends of the connections of an accepted application are looked up. -/
theorem Compilation.exists_lookup {digest : String → String} {release : Bool}
    {graph : ApplicationGraph} (c : Compilation digest packages application release graph)
    {connection : Connection} (hconnection : connection ∈ application.connections)
    (hvalue : value ∈ connection.endpoints) :
    ∃ port, lookupLast c.endpoints.ports value = some port := by
  obtain ⟨row, -, hrow⟩ := exists_of_mem_of_mapM c.connected
    ((mem_insertionSort _).mpr hconnection)
  obtain ⟨source, destination, hsource, hdestination, -⟩ := (connectedFrom_of_connect hrow).ports
  rcases mem_pair.mp hvalue with rfl | rfl
  · exact ⟨source, hsource⟩
  · exact ⟨destination, hdestination⟩

/-- An application is refused with a `GraphError`, or it is accepted and its connections name one
    port at each end, if and only if it is refused with a `GraphError` or no end of a connection
    belongs to an instance with a dot in its name. -/
theorem endpoints_agree_iff (digest : String → String) (packages : List Package)
    (application : Application) (release : Bool) :
    EndpointsAgree digest packages application release ↔
      (∃ message, compileApplication digest packages application release =
        .error (.graphError message)) ∨ PlainEndpoints packages application := by
  unfold EndpointsAgree
  split
  · rename_i graph hcompile
    obtain ⟨c⟩ := exists_compilation hcompile
    have hinstances : moduleInstances packages application = .ok c.instances :=
      bind_eq_ok.mpr ⟨c.modules, c.loaded, c.resolved⟩
    constructor
    · intro h
      refine .inr fun instances hother connection hconnection value hvalue item port hdeclares => ?_
      obtain rfl : c.instances = instances := Except.ok.inj (hinstances.symm.trans hother)
      obtain ⟨item', port', hnames⟩ := h c.endpoints hinstances connection hconnection value hvalue
      exact hnames.plain hdeclares
    · rintro (⟨_, herror⟩ | hplain)
      · cases hcompile.symm.trans herror
      · intro e he connection hconnection value hvalue
        obtain ⟨port, hlookup⟩ := c.exists_lookup hconnection hvalue
        have heq : e.instances = c.instances := Except.ok.inj (he.symm.trans hinstances)
        have hlookup : lookupLast e.ports value = some port := by
          unfold Endpoints.ports
          rw [heq]
          exact hlookup
        obtain ⟨item, h⟩ := namesOnePort (nodup_moduleInstances he) (heq ▸ c.nodup_ports)
          (hplain _ he connection hconnection value hvalue) hlookup
        exact ⟨item, port, h⟩
  · rename_i message hcompile
    exact iff_of_true trivial (.inl ⟨message, hcompile⟩)
  · rename_i failure hne hcompile
    refine iff_of_false id ?_
    rintro (⟨message, herror⟩ | hplain)
    · exact hne message (Except.error.inj (hcompile.symm.trans herror))
    · obtain ⟨message, rfl⟩ := onlyThrows_compileApplication hplain digest release _ hcompile
      exact hne message rfl

end Applications

/-! ## An instance with a dot in its name -/

/-- What `$` of a regular expression takes for the text before the end: a newline may follow. -/
def beforeEnd (text : List Char) : List Char :=
  if text.getLast? = some '\n' then text.dropLast else text

/-- `[a-z0-9]*(?:[-_.][a-z0-9]+)*`. -/
def isNameTail (afterSeparator : Bool) : List Char → Bool
  | [] => !afterSeparator
  | c :: rest =>
    if c.isLower ∨ c.isDigit then isNameTail false rest
    else c ∈ ['-', '_', '.'] && !afterSeparator && isNameTail true rest

/-- `^[a-z][a-z0-9]*(?:[-_.][a-z0-9]+)*$`. -/
def isName (text : String) : Bool :=
  match beforeEnd text.toList with
  | [] => false
  | c :: rest => c.isLower && isNameTail false rest

/-- `^[a-z][a-z0-9_.-]*\.[a-z][a-z0-9_.-]*$`. -/
def isEndpoint (text : String) : Bool :=
  match beforeEnd text.toList with
  | [] => false
  | c :: rest =>
    c.isLower && rest.all (fun c => c.isLower || c.isDigit || c ∈ ['_', '.', '-']) &&
      rest.tails.any fun tail => tail.head? = some '.' && (tail.drop 1).head?.any Char.isLower

/-- What the schemas of applications and modules say about the names in them. -/
def SchemaNames (packages : List Package) (application : Application) : Prop :=
  (∀ connection ∈ application.connections, ∀ value ∈ connection.endpoints, isEndpoint value) ∧
    (∀ item ∈ application.instances, ∀ name ∈ item.startupAfter, isName name) ∧
    ∀ package ∈ packages, ∀ module ∈ package.modules, ∀ port ∈ module.ports,
      isName port.name

instance (packages : List Package) (application : Application) :
    Decidable (SchemaNames packages application) :=
  inferInstanceAs (Decidable (_ ∧ _ ∧ _))

namespace Dotted

def output : Port := { name := "out", kind := .publisher, typeName := "T" }

def input : Port := { name := "in", kind := .subscriber, typeName := "T" }

/-- A package with a module at each end of a connection, and one with a module without ports. -/
def packages : List Package :=
  [{ name := "drive", metadataName := "drive"
     modules := [{ name := "source", ports := [output] }, { name := "sink", ports := [input] }] },
    { name := "tools", metadataName := "tools", modules := [{ name := "idle" }] }]

def left : Instance := { name := "arm.left", module := "drive/source" }

def sink : Instance := { name := "sink", module := "drive/sink" }

def connection : Connection := { source := "arm.left.out", destination := "sink.in" }

/-- What is before the first dot is the name of another instance. -/
def confused : Application :=
  { instances := [{ name := "arm", module := "tools/idle" }, left, sink]
    connections := [connection]
    instances_sorted := by decide +kernel }

/-- What is before the first dot is not the name of an instance. -/
def lost : Application :=
  { instances := [left, sink], connections := [connection], instances_sorted := by decide +kernel }

end Dotted

open Dotted in
/-- Names that the schemas allow: the first application is accepted although the port of the
    connection belongs to `arm.left`, the package is that of `arm` and the registered port is
    `left.out`; the second is refused with a `KeyError`. -/
theorem dotted_instance_confused :
    SchemaNames packages confused ∧ SchemaNames packages lost ∧
      (compileApplication id packages confused false).isOk ∧
      splitEndpoint "arm.left.out" = .ok ("arm", "left.out") ∧
      endpointPort "arm.left.out" = "left.out" ∧
      ¬ EndpointsAgree id packages confused false ∧
      compileApplication id packages lost false = .error (.keyError "arm") ∧
      ¬ EndpointsAgree id packages lost false := by
  have hlost : compileApplication id packages lost false = .error (.keyError "arm") := by
    decide +kernel
  have hok : (compileApplication id packages confused false).isOk := by decide +kernel
  refine ⟨by decide +kernel, by decide +kernel, hok, by decide +kernel, by decide +kernel, ?_,
    hlost, fun h => by rwa [EndpointsAgree, hlost] at h⟩
  intro h
  have hinstances : moduleInstances packages confused = .ok
      [({ name := "arm", module := "tools/idle" }, { name := "idle" }),
        (left, { name := "source", ports := [output] }),
        (sink, { name := "sink", ports := [input] })] := rfl
  unfold EndpointsAgree at h
  split at h
  · obtain ⟨item, port, hnames⟩ := h ⟨false, id, _, []⟩ hinstances connection
      List.mem_cons_self "arm.left.out" List.mem_cons_self
    refine hnames.plain ⟨{ name := "source", ports := [output] },
      List.mem_cons_of_mem _ List.mem_cons_self, List.mem_cons_self⟩ rfl ?_
    decide +kernel
  · rename_i hcompile
    rw [hcompile] at hok
    cases hok
  · exact h

end AsterCtrl.Cli
