import AsterCtrl.Native.Interface

/-!
# The module lifecycle

`Runtime` of `runtime.hpp` and `runtime.cpp`: modules are initialized in order, registries are
sealed, modules are started in order, and initialized modules are shut down in reverse order.

What modules and registries answer is not decided by the runtime.  Every call of a method of the
runtime comes with the `Answers` it gets, so a module may answer differently each time.  Beside its
result, a method returns the calls that it made, as a list of events.

Hooks are named by a type `κ`.  Left out: the version, type and package of a module, the core of a
slot and the execution scope around each call.
-/

namespace AsterCtrl

inductive RuntimeState where
  | constructed
  | initializing
  | initialized
  | starting
  | running
  | shuttingDown
  | stopped
  | failed
deriving DecidableEq, Repr

inductive LifecycleSubject where
  | module
  | registry
deriving DecidableEq, Repr

inductive LifecycleOperation where
  | validation
  | initialization
  | sealing
  | start
deriving DecidableEq, Repr

structure RuntimeFailure where
  subject : LifecycleSubject
  operation : LifecycleOperation
  index : Nat
  name : String
  status : Status
deriving DecidableEq, Repr

/-- A module is named by its index; the slot also has the name of the instance. -/
structure ModuleSlot where
  instanceName : String
deriving DecidableEq, Repr

/-- A pointer to a registry. -/
structure RegistrySlot where
  registry : Option Nat
deriving DecidableEq, Repr

/-- What modules and registries answer during one call of a method of the runtime. -/
structure Answers where
  /-- `ModuleRef::Validate`. -/
  validate : Nat → Status
  /-- The name in `ModuleRef::Info`. -/
  info : Nat → String
  /-- `ModuleRef::Initialize` and `ModuleRef::Start`. -/
  initializeModule : Nat → Status
  startModule : Nat → Status
  /-- `Registry::sealed` of the registry that is pointed to. -/
  isSealed : Nat → Bool
  /-- `Registry::Seal` of the slot. -/
  sealRegistry : Nat → Status

/-- The public methods. -/
inductive RuntimeMethod where
  | initializeRuntime
  | start
  | shutdown
deriving DecidableEq, Repr

/-- What happens during the life of a runtime. -/
inductive LifecycleEvent (κ : Type) where
  /-- A public method of the runtime is called. -/
  | called (method : RuntimeMethod)
  /-- A public method of the owner of the runtime has returned. -/
  | returned (method : RuntimeMethod)
  | validate (module : Nat)
  | info (module : Nat)
  | initializeModule (module : Nat) (status : Status)
  | sealRegistry (registry : Nat) (status : Status)
  | startModule (module : Nat) (status : Status)
  | shutdownModule (module : Nat)
  | failed (failure : RuntimeFailure)
  | hook (hook : κ)
deriving DecidableEq, Repr

structure Runtime (κ : Type) where
  modules : List ModuleSlot
  registries : List RegistrySlot := []
  initializedModuleCount : Nat := 0
  state : RuntimeState := .constructed
  failure : Option RuntimeFailure := none
  beforeModulesShutdown : Option κ := none
deriving DecidableEq, Repr

namespace Runtime

variable {κ : Type} (rt : Runtime κ)

/-- The name of a module in reports: that of the instance, or its own. -/
def instanceName (answers : Answers) (index : Nat) : String :=
  match rt.modules[index]? with
  | none => answers.info index
  | some slot => if slot.instanceName = "" then answers.info index else slot.instanceName

/-- `Runtime::RecordFailure`. -/
def recordFailure (failure : RuntimeFailure) : Runtime κ :=
  { rt with failure := some failure }

/-! ## Shutdown -/

/-- The loop of `ShutdownInitializedModules`. -/
def shutdownModules : Nat → List (LifecycleEvent κ)
  | 0 => []
  | count + 1 => .shutdownModule count :: shutdownModules count

/-- The hook is called if there is one and there is something to shut down. -/
def callHook : List (LifecycleEvent κ) :=
  match rt.beforeModulesShutdown with
  | some hook => if rt.initializedModuleCount ≠ 0 then [.hook hook] else []
  | none => []

/-- `Runtime::ShutdownInitializedModules`. -/
def shutdownInitializedModules : Runtime κ × List (LifecycleEvent κ) :=
  ({ rt with initializedModuleCount := 0 },
    rt.callHook ++ shutdownModules rt.initializedModuleCount)

/-- `RecordFailure`, `ShutdownInitializedModules` and `kFailed`, with which all loops end if
    something fails. -/
def fail (failure : RuntimeFailure) : Status × Runtime κ × List (LifecycleEvent κ) :=
  let (rt, events) := (rt.recordFailure failure).shutdownInitializedModules
  (failure.status, { rt with state := .failed }, .failed failure :: events)

/-! ## Validation -/

/-- What the first loop of `Validate` finds for one module. -/
def validateModule (answers : Answers) (index : Nat) : Option RuntimeFailure :=
  if answers.validate index ≠ .ok then
    some ⟨.module, .validation, index, "", answers.validate index⟩
  else
    let name := rt.instanceName answers index
    if (List.range index).any fun previous => rt.instanceName answers previous = name then
      some ⟨.module, .validation, index, name, .alreadyExists⟩
    else none

/-- What the second loop of `Validate` finds for one registry. -/
def validateRegistry (answers : Answers) (index : Nat) : Option RuntimeFailure :=
  match rt.registries[index]? with
  | some ⟨some registry⟩ =>
    if answers.isSealed registry then
      some ⟨.registry, .validation, index, "", .invalidArgument⟩
    else if (rt.registries.take index).any fun previous => previous.registry = some registry then
      some ⟨.registry, .validation, index, "", .alreadyExists⟩
    else none
  | _ => some ⟨.registry, .validation, index, "", .invalidArgument⟩

/-- The first loop of `Validate` for `count` modules from `index` on. -/
def validateModules (rt : Runtime κ) (answers : Answers) :
    (count index : Nat) → Option RuntimeFailure × List (LifecycleEvent κ)
  | 0, _ => (none, [])
  | count + 1, index =>
    match rt.validateModule answers index with
    | some failure => (some failure, [.validate index])
    | none =>
      let (failure, events) := rt.validateModules answers count (index + 1)
      (failure, .validate index :: events)

/-- `Runtime::Validate`. -/
def validate (answers : Answers) : Option RuntimeFailure × List (LifecycleEvent κ) :=
  match rt.validateModules answers rt.modules.length 0 with
  | (some failure, events) => (some failure, events)
  | (none, events) =>
    ((List.range rt.registries.length).findSome? (rt.validateRegistry answers), events)

/-! ## The public methods -/

/-- The first loop of `Initialize` for `count` modules from `index` on. -/
def initializeModules (answers : Answers) :
    (count index : Nat) → Runtime κ → Status × Runtime κ × List (LifecycleEvent κ)
  | 0, _, rt => (.ok, rt, [])
  | count + 1, index, rt =>
    let rt := { rt with initializedModuleCount := index + 1 }
    let status := answers.initializeModule index
    let calls : List (LifecycleEvent κ) := [.info index, .initializeModule index status]
    if status ≠ .ok then
      let (result, rt, events) :=
        rt.fail ⟨.module, .initialization, index, rt.instanceName answers index, status⟩
      (result, rt, calls ++ events)
    else
      let (result, rt, events) := initializeModules answers count (index + 1) rt
      (result, rt, calls ++ events)

/-- The second loop of `Initialize` for `count` registries from `index` on. -/
def sealRegistries (answers : Answers) :
    (count index : Nat) → Runtime κ → Status × Runtime κ × List (LifecycleEvent κ)
  | 0, _, rt => (.ok, rt, [])
  | count + 1, index, rt =>
    let status := answers.sealRegistry index
    if status ≠ .ok then
      let (result, rt, events) := rt.fail ⟨.registry, .sealing, index, "", status⟩
      (result, rt, .sealRegistry index status :: events)
    else
      let (result, rt, events) := sealRegistries answers count (index + 1) rt
      (result, rt, .sealRegistry index status :: events)

/-- `Runtime::Initialize`. -/
def initializeRuntime (answers : Answers) : Status × Runtime κ × List (LifecycleEvent κ) :=
  if rt.state ≠ .constructed then (.invalidState, rt, [])
  else
    match rt.validate answers with
    | (some failure, events) =>
      (failure.status, { rt.recordFailure failure with state := .failed },
        events ++ [.failed failure])
    | (none, validated) =>
      match initializeModules answers rt.modules.length 0 { rt with state := .initializing } with
      | (.ok, rt, initialized) =>
        match sealRegistries answers rt.registries.length 0 rt with
        | (.ok, rt, events) =>
          (.ok, { rt with state := .initialized }, validated ++ initialized ++ events)
        | (status, rt, events) => (status, rt, validated ++ initialized ++ events)
      | (status, rt, initialized) => (status, rt, validated ++ initialized)

/-- The loop of `Start` for `count` modules from `index` on. -/
def startModules (answers : Answers) :
    (count index : Nat) → Runtime κ → Status × Runtime κ × List (LifecycleEvent κ)
  | 0, _, rt => (.ok, rt, [])
  | count + 1, index, rt =>
    let status := answers.startModule index
    let calls : List (LifecycleEvent κ) := [.info index, .startModule index status]
    if status ≠ .ok then
      let (result, rt, events) :=
        rt.fail ⟨.module, .start, index, rt.instanceName answers index, status⟩
      (result, rt, calls ++ events)
    else
      let (result, rt, events) := startModules answers count (index + 1) rt
      (result, rt, calls ++ events)

/-- `Runtime::Start`. -/
def start (answers : Answers) : Status × Runtime κ × List (LifecycleEvent κ) :=
  if rt.state ≠ .initialized then (.invalidState, rt, [])
  else
    match startModules answers rt.modules.length 0 { rt with state := .starting } with
    | (.ok, rt, events) => (.ok, { rt with state := .running }, events)
    | (status, rt, events) => (status, rt, events)

/-- `Runtime::Shutdown`. -/
def shutdown : Runtime κ × List (LifecycleEvent κ) :=
  if rt.state = .stopped ∨ rt.state = .failed then (rt, [])
  else if rt.state = .constructed then ({ rt with state := .stopped }, [])
  else
    let (rt, events) := { rt with state := .shuttingDown }.shutdownInitializedModules
    ({ rt with state := .stopped }, events)

end Runtime

end AsterCtrl
