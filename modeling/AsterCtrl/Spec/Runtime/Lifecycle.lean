import AsterCtrl.ForStd.List
import AsterCtrl.ForStd.Run
import AsterCtrl.ForStd.Trace
import AsterCtrl.Native.Runtime

/-!
# The lifecycle of modules

Runs of a `Runtime`: its methods are called in any order, one after the other, and modules and
registries answer what they like.  `Allowed` says what may happen given what has happened before,
and `Phase` how far a runtime has come that has not failed.

## Key results

- `initializeRuntime_phase`, `start_phase`, `shutdown_over`: what the methods do
- `lifecycleCorrect_run`: the lifecycle over whole runs
-/

namespace AsterCtrl

open List LifecycleEvent Trace

variable {κ : Type}

/-! ## Events -/

namespace LifecycleEvent

/-- The module whose `Initialize` has been called. -/
def initializedModule : LifecycleEvent κ → Option Nat
  | .initializeModule module _ => some module
  | _ => none

/-- The module whose `Start` has been called. -/
def startedModule : LifecycleEvent κ → Option Nat
  | .startModule module _ => some module
  | _ => none

/-- The module whose `Shutdown` has been called. -/
def stoppedModule : LifecycleEvent κ → Option Nat
  | .shutdownModule module => some module
  | _ => none

/-- Events by which no module is initialized, started or shut down. -/
structure Silent (e : LifecycleEvent κ) : Prop where
  initialized : e.initializedModule = none := by rfl
  started : e.startedModule = none := by rfl
  stopped : e.stoppedModule = none := by rfl

/-- Modules are brought up. -/
def Begins : LifecycleEvent κ → Prop
  | .validate _ | .info _ | .initializeModule _ _ | .sealRegistry _ _ | .startModule _ _ => True
  | _ => False

/-- After this, no modules are brought up any more. -/
def Ends (hook : Option κ) : LifecycleEvent κ → Prop
  | .called .shutdown | .shutdownModule _ | .failed _ => True
  | .hook name => hook = some name
  | _ => False

/-- Events that a runtime causes: it calls no hook but its own. -/
def OfRuntime (hook : Option κ) : LifecycleEvent κ → Prop
  | .called _ | .returned _ => False
  | .hook name => hook = some name
  | _ => True

end LifecycleEvent

/-- What a runtime has been constructed with: how many modules and registries, and the hook. -/
structure Setup (κ : Type) where
  modules : Nat
  registries : Nat
  hook : Option κ

def Runtime.setup (rt : Runtime κ) : Setup κ :=
  ⟨rt.modules.length, rt.registries.length, rt.beforeModulesShutdown⟩

/-- An event that may happen after the events `past`. -/
structure Allowed (setup : Setup κ) (past : List (LifecycleEvent κ)) (e : LifecycleEvent κ) :
    Prop where
  /-- Nothing is brought up after a failure or a shutdown. -/
  begins : e.Begins → ∀ e' ∈ past, ¬ e'.Ends setup.hook
  initializedOnce : ∀ module, e.initializedModule = some module →
    module ∉ past.filterMap LifecycleEvent.initializedModule
  startedOnce : ∀ module, e.startedModule = some module →
    module ∉ past.filterMap LifecycleEvent.startedModule
  /-- Modules are started when all modules have been initialized and all registries sealed. -/
  startedAfter : ∀ module, e.startedModule = some module →
    (∀ index < setup.modules, .initializeModule index .ok ∈ past) ∧
      ∀ index < setup.registries, .sealRegistry index .ok ∈ past
  /-- The hook comes before the modules are shut down. -/
  hooked : ∀ module, e.stoppedModule = some module → ∀ hook, setup.hook = some hook →
    .hook hook ∈ past

variable {e : LifecycleEvent κ}

/-- Events that are not about a module are allowed if they bring nothing up or nothing has ended. -/
theorem Allowed.of_silent {setup : Setup κ} {past : List (LifecycleEvent κ)} (he : e.Silent)
    (hbegins : e.Begins → ∀ e' ∈ past, ¬ e'.Ends setup.hook) : Allowed setup past e where
  begins := hbegins
  initializedOnce _ h := nomatch he.initialized.symm.trans h
  startedOnce _ h := nomatch he.started.symm.trans h
  startedAfter _ h := nomatch he.started.symm.trans h
  hooked _ h := nomatch he.stopped.symm.trans h

/-! ## Phases -/

/-- A trace that is complete: what has been initialized has been shut down. -/
structure LifecycleCorrect (setup : Setup κ) (t : List (LifecycleEvent κ)) : Prop where
  allowed : Each (Allowed setup) t
  /-- Modules are shut down in the reverse of the order in which they were initialized. -/
  reverse : t.filterMap LifecycleEvent.stoppedModule =
    (t.filterMap LifecycleEvent.initializedModule).reverse

/-- A trace up to which nothing has been shut down. -/
structure Lived (setup : Setup κ) (rt : Runtime κ) (t : List (LifecycleEvent κ)) : Prop where
  ofSetup : rt.setup = setup
  allowed : Each (Allowed setup) t
  initializes : t.filterMap LifecycleEvent.initializedModule =
    List.range rt.initializedModuleCount
  shutdowns : t.filterMap LifecycleEvent.stoppedModule = []

/-- Nothing has failed so far, and this many modules have been initialized, registries been sealed
    and modules been started. -/
structure Phase (setup : Setup κ) (rt : Runtime κ) (t : List (LifecycleEvent κ))
    (initialized sealed started : Nat) : Prop extends Lived setup rt t where
  count : rt.initializedModuleCount = initialized
  alive : ∀ e ∈ t, ¬ e.Ends setup.hook
  successes : ∀ index < initialized, .initializeModule index .ok ∈ t
  seals : ∀ index < sealed, .sealRegistry index .ok ∈ t
  starts : t.filterMap LifecycleEvent.startedModule = List.range started
  running : ∀ index < started, .startModule index .ok ∈ t

variable {setup : Setup κ} {rt : Runtime κ} {t : List (LifecycleEvent κ)}

/-- Something happens that is not about a module. -/
theorem Lived.concat (h : Lived setup rt t) (hallowed : Allowed setup t e)
    (he : e.initializedModule = none ∧ e.stoppedModule = none) : Lived setup rt (t ++ [e]) where
  ofSetup := h.ofSetup
  allowed := each_concat.mpr ⟨h.allowed, hallowed⟩
  initializes := (filterMap_concat_none he.1).trans h.initializes
  shutdowns := (filterMap_concat_none he.2).trans h.shutdowns

theorem LifecycleCorrect.concat (h : LifecycleCorrect setup t) (he : e.Silent)
    (hbegins : ¬ e.Begins) : LifecycleCorrect setup (t ++ [e]) where
  allowed := each_concat.mpr ⟨h.allowed, .of_silent he fun h => absurd h hbegins⟩
  reverse := by
    rw [filterMap_concat_none he.stopped, filterMap_concat_none he.initialized, h.reverse]

namespace Phase

variable {initialized sealed started : Nat}

/-- Something happens that neither is about a module nor ends anything. -/
theorem concat (h : Phase setup rt t initialized sealed started) {e : LifecycleEvent κ}
    (hends : ¬ e.Ends setup.hook) (he : e.Silent) :
    Phase setup rt (t ++ [e]) initialized sealed started where
  toLived := h.toLived.concat (.of_silent he fun _ => h.alive) ⟨he.initialized, he.stopped⟩
  count := h.count
  alive := forall_mem_append.mpr ⟨h.alive, forall_mem_singleton.mpr hends⟩
  successes index hindex := mem_append_left _ (h.successes index hindex)
  seals index hindex := mem_append_left _ (h.seals index hindex)
  starts := (filterMap_concat_none he.started).trans h.starts
  running index hindex := mem_append_left _ (h.running index hindex)

/-- The state of the runtime does not matter. -/
theorem congr {rt' : Runtime κ} (h : Phase setup rt t initialized sealed started)
    (hsetup : rt'.setup = rt.setup)
    (hcount : rt'.initializedModuleCount = rt.initializedModuleCount) :
    Phase setup rt' t initialized sealed started :=
  { h with
    ofSetup := hsetup.trans h.ofSetup
    initializes := hcount ▸ h.initializes
    count := hcount.trans h.count }

/-- The next module is initialized; whether that works is seen afterwards. -/
theorem initializeModule (h : Phase setup rt t initialized sealed started) (status : Status) :
    Lived setup { rt with initializedModuleCount := initialized + 1 }
      (t ++ [.initializeModule initialized status]) where
  ofSetup := h.ofSetup
  allowed := by
    refine each_concat.mpr ⟨h.allowed, fun _ => h.alive, ?_, nofun, nofun, nofun⟩
    rintro module ⟨⟩
    rw [h.initializes, h.count, mem_range]
    exact Nat.lt_irrefl _
  initializes := by
    rw [filterMap_append, h.initializes, h.count, range_succ]
    rfl
  shutdowns := by
    rw [filterMap_append, h.shutdowns]
    rfl

theorem initializeModule_ok (h : Phase setup rt t initialized sealed started) :
    Phase setup { rt with initializedModuleCount := initialized + 1 }
      (t ++ [.initializeModule initialized .ok]) (initialized + 1) sealed started where
  toLived := h.initializeModule .ok
  count := rfl
  alive := forall_mem_append.mpr ⟨h.alive, forall_mem_singleton.mpr nofun⟩
  successes := Nat.forall_lt_succ_right.mpr
    ⟨fun index hindex => mem_append_left _ (h.successes index hindex), mem_concat_self⟩
  seals index hindex := mem_append_left _ (h.seals index hindex)
  starts := by
    rw [filterMap_append, h.starts]
    exact append_nil _
  running index hindex := mem_append_left _ (h.running index hindex)

/-- The next registry is sealed. -/
theorem sealRegistry_ok (h : Phase setup rt t initialized sealed started) :
    Phase setup rt (t ++ [.sealRegistry sealed .ok]) initialized (sealed + 1) started :=
  { h.concat (e := .sealRegistry sealed .ok) nofun {} with
    seals := Nat.forall_lt_succ_right.mpr
      ⟨fun index hindex => mem_append_left _ (h.seals index hindex), mem_concat_self⟩ }

/-- The next module is started; whether that works is seen afterwards. -/
theorem startModule (h : Phase setup rt t setup.modules setup.registries started)
    (status : Status) : Lived setup rt (t ++ [.startModule started status]) where
  ofSetup := h.ofSetup
  allowed := by
    refine each_concat.mpr ⟨h.allowed, fun _ => h.alive, nofun, ?_, ?_, nofun⟩
    · rintro module ⟨⟩
      rw [h.starts, mem_range]
      exact Nat.lt_irrefl _
    · exact fun _ _ => ⟨h.successes, h.seals⟩
  initializes := by
    rw [filterMap_append, h.initializes]
    exact append_nil _
  shutdowns := by
    rw [filterMap_append, h.shutdowns]
    rfl

theorem startModule_ok (h : Phase setup rt t setup.modules setup.registries started) :
    Phase setup rt (t ++ [.startModule started .ok]) setup.modules setup.registries
      (started + 1) where
  toLived := h.startModule .ok
  count := h.count
  alive := forall_mem_append.mpr ⟨h.alive, forall_mem_singleton.mpr nofun⟩
  successes index hindex := mem_append_left _ (h.successes index hindex)
  seals index hindex := mem_append_left _ (h.seals index hindex)
  starts := by
    rw [filterMap_append, h.starts, range_succ]
    rfl
  running := Nat.forall_lt_succ_right.mpr
    ⟨fun index hindex => mem_append_left _ (h.running index hindex), mem_concat_self⟩

end Phase

/-! ## Shutdown -/

variable (count : Nat)

theorem stoppedModule_shutdownModules :
    (Runtime.shutdownModules count : List (LifecycleEvent κ)).filterMap
      stoppedModule = (List.range count).reverse := by
  induction count with
  | zero => rfl
  | succ count ih =>
    rw [range_succ, reverse_append, Runtime.shutdownModules]
    exact congrArg (count :: ·) ih

theorem initializedModule_shutdownModules :
    (Runtime.shutdownModules count : List (LifecycleEvent κ)).filterMap
      initializedModule = [] := by
  induction count with
  | zero => rfl
  | succ count ih => exact ih

theorem each_shutdownModules (h : Each (Allowed setup) t)
    (hhook : ∀ hook, setup.hook = some hook → .hook hook ∈ t) (count : Nat) :
    Each (Allowed setup) (t ++ Runtime.shutdownModules count) := by
  induction count generalizing t with
  | zero => rwa [Runtime.shutdownModules, append_nil]
  | succ count ih =>
    rw [Runtime.shutdownModules, each_append_cons]
    refine ih (each_concat.mpr ⟨h, nofun, nofun, nofun, nofun, fun _ _ => hhook⟩) ?_
    exact fun hook hsome => mem_append_left _ (hhook hook hsome)

/-- What has been initialized is shut down, after the hook. -/
theorem Lived.shutdownInitializedModules (h : Lived setup rt t) :
    LifecycleCorrect setup (t ++ rt.shutdownInitializedModules.2) := by
  have hhook : rt.beforeModulesShutdown = setup.hook := congrArg Setup.hook h.ofSetup
  rw [Runtime.shutdownInitializedModules]
  dsimp only
  by_cases hzero : rt.initializedModuleCount = 0
  · -- There is nothing to shut down.
    have hevents : rt.callHook = [] := by
      rw [Runtime.callHook]
      split
      · exact if_neg (not_not_intro hzero)
      · rfl
    rw [hevents, hzero, Runtime.shutdownModules, append_nil, append_nil]
    refine ⟨h.allowed, ?_⟩
    rw [h.shutdowns, h.initializes, hzero]
    rfl
  · -- After the hook, everything is as if there were none.
    have hafter : ∀ u, Each (Allowed setup) u →
        u.filterMap initializedModule = List.range rt.initializedModuleCount →
        u.filterMap stoppedModule = [] →
        (∀ hook, setup.hook = some hook → .hook hook ∈ u) →
        LifecycleCorrect setup (u ++ Runtime.shutdownModules rt.initializedModuleCount) := by
      intro u hallowed hinitializes hshutdowns hhooked
      refine ⟨each_shutdownModules hallowed hhooked _, ?_⟩
      rw [filterMap_append, filterMap_append, hshutdowns, hinitializes,
        stoppedModule_shutdownModules, initializedModule_shutdownModules, append_nil, nil_append]
    rw [Runtime.callHook]
    cases hsome : rt.beforeModulesShutdown with
    | none =>
      dsimp only
      rw [nil_append]
      refine hafter t h.allowed h.initializes h.shutdowns fun hook hset => ?_
      rw [← hhook, hsome] at hset
      cases hset
    | some hook =>
      dsimp only
      rw [if_pos hzero, ← append_assoc]
      have hlived := h.concat (e := .hook hook) (.of_silent {} nofun) ⟨rfl, rfl⟩
      refine hafter _ hlived.allowed hlived.initializes hlived.shutdowns fun hook' hset => ?_
      rw [← hhook, hsome] at hset
      rw [Option.some.inj hset]
      exact mem_append_right _ (mem_singleton.mpr rfl)

theorem ofRuntime_shutdownInitializedModules (rt : Runtime κ) :
    ∀ e ∈ rt.shutdownInitializedModules.2, e.OfRuntime rt.beforeModulesShutdown := by
  have hmodules : ∀ count, ∀ e ∈ (Runtime.shutdownModules count : List (LifecycleEvent κ)),
      e.OfRuntime rt.beforeModulesShutdown := by
    intro count
    induction count with
    | zero => exact nofun
    | succ count ih => exact forall_mem_cons.mpr ⟨trivial, ih⟩
  refine forall_mem_append.mpr ⟨?_, hmodules _⟩
  rw [Runtime.callHook]
  split
  · rename_i hook hsome
    split_ifs
    · exact forall_mem_singleton.mpr hsome
    · exact nofun
  · exact nofun

/-- A method ends with a failure. -/
theorem Lived.fail (h : Lived setup rt t) (failure : RuntimeFailure) :
    LifecycleCorrect setup (t ++ (rt.fail failure).2.2) := by
  have hlived := h.concat (e := .failed failure) (.of_silent {} nofun) ⟨rfl, rfl⟩
  have hfailed : Lived setup (rt.recordFailure failure) (t ++ [.failed failure]) :=
    { hlived with }
  have hover := hfailed.shutdownInitializedModules
  rwa [append_assoc, singleton_append] at hover

/-! ## The methods -/

/-- How a method may end: it comes to the next phase, or everything has been shut down. -/
structure Outcome (setup : Setup κ) (state : RuntimeState) (t : List (LifecycleEvent κ))
    (initialized sealed started : Nat) (r : Status × Runtime κ × List (LifecycleEvent κ)) :
    Prop where
  ofSetup : r.2.1.setup = setup
  ofRuntime : ∀ e ∈ r.2.2, e.OfRuntime setup.hook
  ok : r.1 = .ok → r.2.1.state = state ∧
    Phase setup r.2.1 (t ++ r.2.2) initialized sealed started
  failed : r.1 ≠ .ok → r.2.1.state = .failed ∧ LifecycleCorrect setup (t ++ r.2.2)

variable {state : RuntimeState} {r : Status × Runtime κ × List (LifecycleEvent κ)}
    {initialized sealed started : Nat}

theorem Outcome.of_fail (calls : List (LifecycleEvent κ)) {failure : RuntimeFailure}
    (hfailure : failure.status ≠ .ok) (hcalls : ∀ e ∈ calls, e.OfRuntime setup.hook)
    (h : Lived setup rt (t ++ calls)) :
    Outcome setup state t initialized sealed started
      (let r := rt.fail failure; (r.1, r.2.1, calls ++ r.2.2)) where
  ofSetup := h.ofSetup
  ofRuntime := by
    have hhook : rt.beforeModulesShutdown = setup.hook := congrArg Setup.hook h.ofSetup
    refine forall_mem_append.mpr ⟨hcalls, forall_mem_cons.mpr ⟨trivial, ?_⟩⟩
    rw [← hhook]
    exact ofRuntime_shutdownInitializedModules (rt.recordFailure failure)
  ok hok := absurd hok hfailure
  failed _ := by
    have hover := h.fail failure
    rw [append_assoc] at hover
    exact ⟨rfl, hover⟩

/-- The calls of one round of a loop come in front of those of the next rounds. -/
theorem Outcome.of_append {calls : List (LifecycleEvent κ)}
    (hcalls : ∀ e ∈ calls, e.OfRuntime setup.hook)
    (h : Outcome setup state (t ++ calls) initialized sealed started r) :
    Outcome setup state t initialized sealed started (r.1, r.2.1, calls ++ r.2.2) where
  ofSetup := h.ofSetup
  ofRuntime := forall_mem_append.mpr ⟨hcalls, h.ofRuntime⟩
  ok hok := by
    rw [← append_assoc]
    exact h.ok hok
  failed hfailed := by
    rw [← append_assoc]
    exact h.failed hfailed

theorem Outcome.of_failed {state' : RuntimeState} {i i' j j' k k' : Nat}
    (h : Outcome setup state t i j k r) (hfailed : r.1 ≠ .ok) : Outcome setup state' t i' j' k' r :=
  ⟨h.ofSetup, h.ofRuntime, fun hok => absurd hok hfailed, h.failed⟩

/-- A method has succeeded, and the runtime is in its next state. -/
theorem Outcome.setState {i j k : Nat} {events : List (LifecycleEvent κ)}
    (h : Outcome setup state t i j k (.ok, rt, events)) (state' : RuntimeState) :
    Outcome setup state' t i j k (.ok, { rt with state := state' }, events) :=
  ⟨h.ofSetup, h.ofRuntime, fun _ => ⟨rfl, (h.ok rfl).2.congr rfl rfl⟩, fun hne => absurd rfl hne⟩

variable (answers : Answers) (index : Nat)

theorem initializeModules_phase (answers : Answers) (count index : Nat) (rt : Runtime κ)
    (t : List (LifecycleEvent κ)) (h : Phase setup rt t index 0 0) :
    Outcome setup rt.state t (index + count) 0 0
      (Runtime.initializeModules answers count index rt) := by
  induction count generalizing index rt t with
  | zero =>
    refine ⟨h.ofSetup, nofun, fun _ => ⟨rfl, ?_⟩, fun hne => absurd rfl hne⟩
    rwa [Runtime.initializeModules, append_nil]
  | succ count ih =>
    have hinfo := h.concat (e := .info index) nofun {}
    unfold Runtime.initializeModules
    dsimp only
    by_cases hok : answers.initializeModule index ≠ .ok
    · rw [if_pos hok]
      refine .of_fail _ hok (by simp [LifecycleEvent.OfRuntime]) ?_
      have hlived := hinfo.initializeModule (answers.initializeModule index)
      rwa [append_assoc] at hlived
    · rw [if_neg hok]
      rw [not_not] at hok
      rw [hok]
      have hnext := hinfo.initializeModule_ok
      rw [append_assoc] at hnext
      have hrest := ih (index + 1) _ _ hnext
      rw [Nat.add_right_comm] at hrest
      exact hrest.of_append (by simp [LifecycleEvent.OfRuntime])

theorem sealRegistries_phase (answers : Answers) (count index initialized : Nat)
    (rt : Runtime κ) (t : List (LifecycleEvent κ)) (h : Phase setup rt t initialized index 0) :
    Outcome setup rt.state t initialized (index + count) 0
      (Runtime.sealRegistries answers count index rt) := by
  induction count generalizing index rt t with
  | zero =>
    refine ⟨h.ofSetup, nofun, fun _ => ⟨rfl, ?_⟩, fun hne => absurd rfl hne⟩
    rwa [Runtime.sealRegistries, append_nil]
  | succ count ih =>
    unfold Runtime.sealRegistries
    dsimp only
    by_cases hok : answers.sealRegistry index ≠ .ok
    · rw [if_pos hok]
      refine .of_fail [.sealRegistry index (answers.sealRegistry index)] hok
        (forall_mem_singleton.mpr trivial) ?_
      exact (h.concat (by exact nofun) {}).toLived
    · rw [if_neg hok]
      rw [not_not] at hok
      rw [hok]
      have hrest := ih (index + 1) _ _ h.sealRegistry_ok
      rw [Nat.add_right_comm] at hrest
      exact hrest.of_append (by simp [LifecycleEvent.OfRuntime])

theorem startModules_phase (answers : Answers) (count index : Nat) (rt : Runtime κ)
    (t : List (LifecycleEvent κ)) (h : Phase setup rt t setup.modules setup.registries index) :
    Outcome setup rt.state t setup.modules setup.registries (index + count)
      (Runtime.startModules answers count index rt) := by
  induction count generalizing index rt t with
  | zero =>
    refine ⟨h.ofSetup, nofun, fun _ => ⟨rfl, ?_⟩, fun hne => absurd rfl hne⟩
    rwa [Runtime.startModules, append_nil]
  | succ count ih =>
    have hinfo := h.concat (e := .info index) nofun {}
    unfold Runtime.startModules
    dsimp only
    by_cases hok : answers.startModule index ≠ .ok
    · rw [if_pos hok]
      have hlived := hinfo.startModule (answers.startModule index)
      rw [append_assoc] at hlived
      exact .of_fail _ hok (by simp [LifecycleEvent.OfRuntime]) hlived
    · rw [if_neg hok]
      rw [not_not] at hok
      rw [hok]
      have hnext := hinfo.startModule_ok
      rw [append_assoc] at hnext
      have hrest := ih (index + 1) _ _ hnext
      rw [Nat.add_right_comm] at hrest
      exact hrest.of_append (by simp [LifecycleEvent.OfRuntime])

theorem validateModules_phase (answers : Answers) (count index : Nat) (h : Phase setup rt t 0 0 0) :
    Phase setup rt (t ++ (rt.validateModules answers count index).2) 0 0 0 := by
  induction count generalizing index t with
  | zero => rwa [Runtime.validateModules, append_nil]
  | succ count ih =>
    have hnext := h.concat (e := .validate index) nofun {}
    unfold Runtime.validateModules
    split
    · exact hnext
    · have hrest := ih (index + 1) hnext
      rwa [append_assoc] at hrest

theorem ofRuntime_validateModules (rt : Runtime κ) (answers : Answers) (count index : Nat)
    (hook : Option κ) : ∀ e ∈ (rt.validateModules answers count index).2, e.OfRuntime hook := by
  induction count generalizing index with
  | zero => exact nofun
  | succ count ih =>
    unfold Runtime.validateModules
    split
    · exact forall_mem_singleton.mpr trivial
    · exact forall_mem_cons.mpr ⟨trivial, ih (index + 1)⟩

theorem validate_phase (h : Phase setup rt t 0 0 0) :
    Phase setup rt (t ++ (rt.validate answers).2) 0 0 0 ∧
      ∀ e ∈ (rt.validate answers).2, e.OfRuntime setup.hook := by
  have hmodules := validateModules_phase answers rt.modules.length 0 h
  have hevents := ofRuntime_validateModules rt answers rt.modules.length 0 setup.hook
  unfold Runtime.validate
  split
  · rename_i heq
    rw [heq] at hmodules hevents
    exact ⟨hmodules, hevents⟩
  · rename_i heq
    rw [heq] at hmodules hevents
    exact ⟨hmodules, hevents⟩

/-- The failures that `Validate` reports are not `kOk`. -/
theorem status_ne_ok_of_validate {answers : Answers} {failure : RuntimeFailure}
    (h : (rt.validate answers).1 = some failure) : failure.status ≠ .ok := by
  have hmodule : ∀ index, rt.validateModule answers index = some failure →
      failure.status ≠ .ok := by
    intro index hindex
    unfold Runtime.validateModule at hindex
    dsimp only at hindex
    split_ifs at hindex with hvalid
    · obtain rfl := Option.some.inj hindex
      exact hvalid
    · obtain rfl := Option.some.inj hindex
      exact nofun
  have hmodules : ∀ count index, (rt.validateModules answers count index).1 = some failure →
      failure.status ≠ .ok := by
    intro count
    induction count with
    | zero => exact fun index hindex => nomatch hindex
    | succ count ih =>
      intro index hindex
      unfold Runtime.validateModules at hindex
      split at hindex
      · rename_i found hfound
        obtain rfl := Option.some.inj hindex
        exact hmodule index hfound
      · exact ih (index + 1) hindex
  unfold Runtime.validate at h
  split at h
  · rename_i found events hfound
    obtain rfl := Option.some.inj h
    exact hmodules _ _ (congrArg Prod.fst hfound)
  · obtain ⟨index, -, hindex⟩ := exists_of_findSome?_eq_some h
    unfold Runtime.validateRegistry at hindex
    split at hindex
    · split_ifs at hindex <;>
      · obtain rfl := Option.some.inj hindex
        exact nofun
    · obtain rfl := Option.some.inj hindex
      exact nofun

/-- `Initialize` of a new runtime. -/
theorem initializeRuntime_phase (hstate : rt.state = .constructed) (h : Phase setup rt t 0 0 0) :
    Outcome setup .initialized t setup.modules setup.registries 0
      (rt.initializeRuntime answers) := by
  obtain ⟨hvalidated, hcalls⟩ := validate_phase answers h
  unfold Runtime.initializeRuntime
  rw [if_neg (not_not_intro hstate)]
  split
  · rename_i failure events hvalidate
    have hfailure := status_ne_ok_of_validate (congrArg Prod.fst hvalidate)
    rw [hvalidate] at hvalidated hcalls
    have hlived := hvalidated.toLived.concat (e := .failed failure)
      (.of_silent {} nofun) ⟨rfl, rfl⟩
    refine ⟨h.ofSetup, forall_mem_append.mpr ⟨hcalls, forall_mem_singleton.mpr trivial⟩,
      fun hok => absurd hok hfailure, fun _ => ⟨rfl, ?_, ?_⟩⟩
    · rw [← append_assoc]
      exact hlived.allowed
    · rw [← append_assoc, hlived.shutdowns, hlived.initializes, h.count]
      rfl
  · rename_i validated hvalidate
    rw [hvalidate] at hvalidated hcalls
    have hbegun : Phase setup { rt with state := .initializing } (t ++ validated) 0 0 0 :=
      hvalidated.congr rfl rfl
    have hinit := initializeModules_phase answers rt.modules.length 0 _ _ hbegun
    have hmodules : rt.modules.length = setup.modules := congrArg Setup.modules h.ofSetup
    rw [Nat.zero_add, hmodules] at hinit
    rw [hmodules]
    split
    · rename_i rt' initialized hinitialized
      rw [hinitialized] at hinit
      obtain ⟨-, hphase⟩ := hinit.ok rfl
      have hregistries : rt'.registries.length = setup.registries :=
        congrArg Setup.registries hphase.ofSetup
      have hseal := sealRegistries_phase answers rt'.registries.length 0 _ _ _ hphase
      rw [Nat.zero_add, hregistries, append_assoc] at hseal
      have hall := hseal.of_append (forall_mem_append.mpr ⟨hcalls, hinit.ofRuntime⟩)
      rw [hregistries]
      split
      · rename_i hsealed
        rw [hsealed] at hall
        exact hall.setState .initialized
      · rename_i hne hsealed
        rw [hsealed] at hall
        exact hall.of_failed hne
    · rename_i hne hinitialized
      rw [hinitialized] at hinit
      exact (hinit.of_failed hne).of_append hcalls

/-- `Start` of an initialized runtime. -/
theorem start_phase (hstate : rt.state = .initialized)
    (h : Phase setup rt t setup.modules setup.registries 0) :
    Outcome setup .running t setup.modules setup.registries setup.modules (rt.start answers) := by
  have hbegun : Phase setup { rt with state := .starting } t setup.modules setup.registries 0 :=
    h.congr rfl rfl
  have hstart := startModules_phase answers rt.modules.length 0 _ _ hbegun
  have hmodules : rt.modules.length = setup.modules := congrArg Setup.modules h.ofSetup
  rw [Nat.zero_add, hmodules] at hstart
  unfold Runtime.start
  rw [if_neg (not_not_intro hstate), hmodules]
  split
  · rename_i hstarted
    rw [hstarted] at hstart
    exact hstart.setState .running
  · rename_i hne hstarted
    rw [hstarted] at hstart
    exact hstart.of_failed hne

/-- `Shutdown` of a runtime in which nothing has been shut down yet. -/
theorem shutdown_over (h : Lived setup rt t)
    (hconstructed : rt.state = .constructed → rt.initializedModuleCount = 0)
    (hstate : rt.state ≠ .stopped ∧ rt.state ≠ .failed) :
    rt.shutdown.1.setup = setup ∧ rt.shutdown.1.state = .stopped ∧
      (∀ e ∈ rt.shutdown.2, e.OfRuntime setup.hook) ∧
      LifecycleCorrect setup (t ++ rt.shutdown.2) := by
  have hhook : rt.beforeModulesShutdown = setup.hook := congrArg Setup.hook h.ofSetup
  unfold Runtime.shutdown
  rw [if_neg (not_or.mpr hstate)]
  split_ifs with hnew
  · refine ⟨h.ofSetup, rfl, nofun, ?_, ?_⟩
    · rw [append_nil]
      exact h.allowed
    · rw [append_nil, h.shutdowns, h.initializes, hconstructed hnew]
      rfl
  · have hlived : Lived setup { rt with state := .shuttingDown } t :=
      { h with }
    refine ⟨h.ofSetup, rfl, ?_, hlived.shutdownInitializedModules⟩
    rw [← hhook]
    exact ofRuntime_shutdownInitializedModules { rt with state := .shuttingDown }

/-! ## Whole runs -/

/-- A call of a public method, with the answers that it gets. -/
inductive RuntimeCall where
  | initializeRuntime (answers : Answers)
  | start (answers : Answers)
  | shutdown

/-- A runtime and all that has happened. -/
structure RuntimeHistory (κ : Type) where
  runtime : Runtime κ
  trace : List (LifecycleEvent κ) := []

namespace RuntimeHistory

/-- A new runtime. -/
def construct (modules : List ModuleSlot) (registries : List RegistrySlot) (hook : Option κ) :
    RuntimeHistory κ where
  runtime :=
    { modules := modules, registries := registries, beforeModulesShutdown := hook }

/-- One call. -/
def step (h : RuntimeHistory κ) : RuntimeCall → RuntimeHistory κ
  | .initializeRuntime answers =>
    let result := h.runtime.initializeRuntime answers
    ⟨result.2.1, h.trace ++ .called .initializeRuntime :: result.2.2⟩
  | .start answers =>
    let result := h.runtime.start answers
    ⟨result.2.1, h.trace ++ .called .start :: result.2.2⟩
  | .shutdown =>
    let result := h.runtime.shutdown
    ⟨result.1, h.trace ++ .called .shutdown :: result.2⟩

/-- How far the runtime has come, by its state. -/
def Inv (setup : Setup κ) (h : RuntimeHistory κ) : Prop :=
  h.runtime.setup = setup ∧
    match h.runtime.state with
    | .constructed => Phase setup h.runtime h.trace 0 0 0
    | .initialized => Phase setup h.runtime h.trace setup.modules setup.registries 0
    | .running => Phase setup h.runtime h.trace setup.modules setup.registries setup.modules
    | .stopped | .failed => LifecycleCorrect setup h.trace
    | .initializing | .starting | .shuttingDown => False

variable {h : RuntimeHistory κ}

namespace Inv

/-- The runtime is not in the state for the call, so nothing happens. -/
theorem rejected (hinv : Inv setup h) {method : RuntimeMethod} (hmethod : method ≠ .shutdown) :
    Inv setup ⟨h.runtime, h.trace ++ [.called method]⟩ := by
  have hends : ¬ (called method : LifecycleEvent κ).Ends setup.hook := by
    cases method
    · exact nofun
    · exact nofun
    · exact absurd rfl hmethod
  refine ⟨hinv.1, ?_⟩
  have hstate := hinv.2
  dsimp only
  split at hstate
  all_goals first
    | exact hstate.concat hends {}
    | exact hstate.concat {} nofun
    | exact hstate.elim

theorem of_outcome {state : RuntimeState} (h : Outcome setup state t initialized sealed started r)
    (hok : r.2.1.state = state → Phase setup r.2.1 (t ++ r.2.2) initialized sealed started → Inv
      setup ⟨r.2.1, t ++ r.2.2⟩) : Inv setup ⟨r.2.1, t ++ r.2.2⟩ := by
  by_cases hstatus : r.1 = .ok
  · obtain ⟨hstate, hphase⟩ := h.ok hstatus
    exact hok hstate hphase
  · obtain ⟨hstate, hover⟩ := h.failed hstatus
    refine ⟨h.ofSetup, ?_⟩
    rw [hstate]
    exact hover

theorem step (hinv : Inv setup h) (call : RuntimeCall) : Inv setup (h.step call) := by
  cases call with
  | initializeRuntime answers =>
    rw [RuntimeHistory.step]
    by_cases hstate : h.runtime.state = .constructed
    · have hphase := hinv.2
      rw [hstate] at hphase
      have hcalled := hphase.concat (e := .called .initializeRuntime) nofun {}
      have houtcome := initializeRuntime_phase answers hstate hcalled
      rw [← singleton_append, ← append_assoc]
      refine of_outcome houtcome fun hinitialized hphase => ⟨houtcome.ofSetup, ?_⟩
      rw [hinitialized]
      exact hphase
    · rw [Runtime.initializeRuntime, if_pos hstate]
      exact hinv.rejected nofun
  | start answers =>
    rw [RuntimeHistory.step]
    by_cases hstate : h.runtime.state = .initialized
    · have hphase := hinv.2
      rw [hstate] at hphase
      have hcalled := hphase.concat (e := .called .start) nofun {}
      have houtcome := start_phase answers hstate hcalled
      rw [← singleton_append, ← append_assoc]
      refine of_outcome houtcome fun hrunning hphase => ⟨houtcome.ofSetup, ?_⟩
      rw [hrunning]
      exact hphase
    · rw [Runtime.start, if_pos hstate]
      exact hinv.rejected nofun
  | shutdown =>
    rw [RuntimeHistory.step]
    by_cases hover : h.runtime.state = .stopped ∨ h.runtime.state = .failed
    · rw [Runtime.shutdown, if_pos hover]
      refine ⟨hinv.1, ?_⟩
      have hcorrect := hinv.2
      rcases hover with hstate | hstate <;> rw [hstate] at hcorrect <;> dsimp only <;>
        rw [hstate] <;> exact hcorrect.concat {} nofun
    · -- In all other states nothing has been shut down.
      have hlived : Lived setup h.runtime h.trace ∧
          (h.runtime.state = .constructed → h.runtime.initializedModuleCount = 0) := by
        have hphase := hinv.2
        split at hphase
        · exact ⟨hphase.toLived, fun _ => hphase.count⟩
        · rename_i hstate
          exact ⟨hphase.toLived, fun hnew => nomatch hstate.symm.trans hnew⟩
        · rename_i hstate
          exact ⟨hphase.toLived, fun hnew => nomatch hstate.symm.trans hnew⟩
        · rename_i hstate
          exact absurd (.inl hstate) hover
        · rename_i hstate
          exact absurd (.inr hstate) hover
        all_goals exact hphase.elim
      have hcalled := hlived.1.concat (e := .called .shutdown) (.of_silent {} nofun)
        ⟨rfl, rfl⟩
      obtain ⟨hsetup, hstopped, -, hcorrect⟩ := shutdown_over hcalled hlived.2 (not_or.mp hover)
      rw [append_assoc] at hcorrect
      refine ⟨hsetup, ?_⟩
      dsimp only
      rw [hstopped]
      exact hcorrect

theorem construct (modules : List ModuleSlot) (registries : List RegistrySlot)
    (hook : Option κ) :
    Inv ⟨modules.length, registries.length, hook⟩
      (RuntimeHistory.construct modules registries hook) := by
  have hnone : ∀ index < 0, ∀ e : LifecycleEvent κ, e ∈ [] :=
    fun index hindex => absurd hindex (Nat.not_lt_zero _)
  exact ⟨rfl, ⟨rfl, each_nil, rfl, rfl⟩, rfl, nofun, fun index hindex => hnone index hindex _,
    fun index hindex => hnone index hindex _, rfl, fun index hindex => hnone index hindex _⟩

end Inv

/-- In every run that ends with `Shutdown`, the modules whose `Initialize` was called are shut down
    once and in reverse order, after the hook; modules are initialized and started at most once,
    started only when everything has been initialized and sealed, and neither after a failure or a
    shutdown. -/
theorem lifecycleCorrect_run (modules : List ModuleSlot) (registries : List RegistrySlot)
    (hook : Option κ) (calls : List RuntimeCall) :
    LifecycleCorrect ⟨modules.length, registries.length, hook⟩
      (Machine.run step (construct modules registries hook) (calls ++ [.shutdown])).trace := by
  have hinv := Machine.run_invariant step (fun _ call hinv => hinv.step call)
    (Inv.construct modules registries hook) calls
  rw [Machine.run_append, Machine.run_cons, Machine.run_nil]
  generalize Machine.run step (construct modules registries hook) calls = h at hinv
  have hstopped : (h.step .shutdown).runtime.state = .stopped ∨
      (h.step .shutdown).runtime.state = .failed := by
    rw [step, Runtime.shutdown]
    split_ifs with hover
    · exact hover
    · exact .inl rfl
    · exact .inl rfl
  have hafter := (hinv.step .shutdown).2
  rcases hstopped with hstate | hstate <;> rw [hstate] at hafter <;> exact hafter

end RuntimeHistory

end AsterCtrl
