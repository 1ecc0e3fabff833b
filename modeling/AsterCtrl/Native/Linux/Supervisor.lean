import AsterCtrl.Native.Runtime

/-!
# The supervisor of a Linux node

`Supervisor` of `platform/linux/supervisor.cpp`: it owns a `Runtime` and prepares, activates and
quiesces the executors around the lifecycle of the modules.  `quiesce` is also the hook that the
runtime calls before it shuts modules down.

As in `Runtime`, every call comes with the answers that it gets, and methods return the calls they
made.  Left out: `AddModule`, `AddRegistry` and `LoadPackage`, with which the lists of modules and
registries are filled before `Initialize`, and `VisitGraph`.
-/

namespace AsterCtrl.Linux

inductive SupervisorState where
  | composing
  | initialized
  | running
  | stopped
  | failed
deriving DecidableEq, Repr

/-- `ExecutorLifecycle`: which of the hooks there are. -/
structure ExecutorLifecycle where
  prepare : Bool := false
  activate : Bool := false
  quiesce : Bool := false
deriving DecidableEq, Repr

/-- A call of one of the hooks, with its result. -/
inductive ExecutorHook where
  | prepare (status : Status)
  | activate (status : Status)
  | quiesce
deriving DecidableEq, Repr

/-- What modules, registries and executors answer during one call. -/
structure SupervisorAnswers extends Answers where
  prepare : Status
  activate : Status

/-- Deployments are named by a type `δ`. -/
structure Supervisor (δ : Type) where
  deploymentId : δ
  modules : List ModuleSlot
  registries : List RegistrySlot := []
  executor : ExecutorLifecycle := {}
  runtime : Option (Runtime ExecutorHook) := none
  executorPrepared : Bool := false
  state : SupervisorState := .composing
deriving DecidableEq, Repr

namespace Supervisor

variable {δ : Type} (s : Supervisor δ)

/-- The runtime that `Initialize` makes. -/
def newRuntime : Runtime ExecutorHook where
  modules := s.modules
  registries := s.registries
  beforeModulesShutdown := if s.executor.quiesce then some .quiesce else none

/-- `Supervisor::Initialize`. -/
def initializeSupervisor (answers : SupervisorAnswers) :
    Status × Supervisor δ × List (LifecycleEvent ExecutorHook) :=
  if s.state ≠ .composing then (.invalidState, s, [])
  else
    let lifecycleHooks :=
      s.executor.prepare.toNat + s.executor.activate.toNat + s.executor.quiesce.toNat
    if lifecycleHooks ≠ 0 ∧ lifecycleHooks ≠ 3 then (.invalidArgument, s, [])
    else
      let prepared := if s.executor.prepare then [.hook (.prepare answers.prepare)] else []
      if s.executor.prepare ∧ answers.prepare ≠ .ok then
        (answers.prepare, { s with state := .failed }, prepared)
      else
        let s := { s with executorPrepared := s.executorPrepared || s.executor.prepare }
        let result := s.newRuntime.initializeRuntime answers.toAnswers
        let quiesced := if result.1 ≠ .ok ∧ s.executorPrepared then [.hook .quiesce] else []
        (result.1,
          { s with
            runtime := some result.2.1
            state := if result.1 = .ok then .initialized else .failed },
          prepared ++ result.2.2 ++ quiesced)

/-- `Supervisor::Start` from the call of `Runtime::Start` on. -/
def startRuntime (rt : Runtime ExecutorHook) (answers : SupervisorAnswers) :
    Status × Supervisor δ × List (LifecycleEvent ExecutorHook) :=
  let result := rt.start answers.toAnswers
  if result.1 = .ok ∧ s.executor.activate then
    if answers.activate ≠ .ok then
      let stopped := result.2.1.shutdown
      (answers.activate, { s with runtime := some stopped.1, state := .failed },
        result.2.2 ++ .hook (.activate answers.activate) :: stopped.2)
    else
      (.ok, { s with runtime := some result.2.1, state := .running },
        result.2.2 ++ [.hook (.activate answers.activate)])
  else
    let quiesced :=
      if result.1 ≠ .ok ∧ s.executorPrepared ∧ s.executor.quiesce then [.hook .quiesce] else []
    (result.1,
      { s with
        runtime := some result.2.1
        state := if result.1 = .ok then .running else .failed },
      result.2.2 ++ quiesced)

/-- `Supervisor::Start` from the check of the state on. -/
def startInitialized (answers : SupervisorAnswers) :
    Status × Supervisor δ × List (LifecycleEvent ExecutorHook) :=
  if s.state ≠ .initialized then (.invalidState, s, [])
  else
    match s.runtime with
    -- There is a runtime in this state.
    | none => (.internal, s, [])
    | some rt => s.startRuntime rt answers

/-- `Supervisor::Start`. -/
def start [DecidableEq δ] (s : Supervisor δ) (deploymentId : δ) (answers : SupervisorAnswers) :
    Status × Supervisor δ × List (LifecycleEvent ExecutorHook) :=
  if deploymentId ≠ s.deploymentId then (.versionMismatch, s, [])
  else if s.state = .composing then
    let begun := s.initializeSupervisor answers
    if begun.1 ≠ .ok then begun
    else
      let result := begun.2.1.startInitialized answers
      (result.1, result.2.1, begun.2.2 ++ result.2.2)
  else s.startInitialized answers

/-- `Supervisor::Shutdown`. -/
def shutdown : Supervisor δ × List (LifecycleEvent ExecutorHook) :=
  let stopped := match s.runtime with
    | some rt => (some rt.shutdown.1, rt.shutdown.2)
    | none =>
      (none, if s.executorPrepared ∧ s.executor.quiesce then [.hook .quiesce] else [])
  ({ s with
      runtime := stopped.1
      executorPrepared := false
      state := if s.state ≠ .composing then .stopped else s.state },
    stopped.2)

end Supervisor

end AsterCtrl.Linux
