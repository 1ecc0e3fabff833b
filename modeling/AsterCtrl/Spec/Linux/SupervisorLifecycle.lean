import AsterCtrl.Native.Linux.Supervisor
import AsterCtrl.Spec.Runtime.Lifecycle

/-!
# Executors around the lifecycle of modules

Runs of a `Supervisor` with all three executor hooks.  Its runtime keeps the order of the modules;
what is left is when the hooks are called.  `quiesce` is called by the runtime as soon as a module
is to be shut down, and by the supervisor where the runtime has no module to shut down.

## Key results

- `initializeSupervisor_phase`, `startRuntime_phase`, `shutdown_closed`: what the methods do
- `quiescedFirst_run`: the hooks over whole runs
-/

namespace AsterCtrl.Linux

open List Trace

/-- What may happen after the events `past` when there are this many modules. -/
structure QuiescedFirst (modules : Nat) (past : List (LifecycleEvent ExecutorHook))
    (e : LifecycleEvent ExecutorHook) : Prop where
  /-- Modules are shut down after `quiesce`. -/
  shutdown : ∀ module, e = .shutdownModule module → .hook .quiesce ∈ past
  /-- `Shutdown` does not return before `quiesce` if the executors have been prepared. -/
  returned : e = .returned .shutdown → .hook (.prepare .ok) ∈ past → .hook .quiesce ∈ past
  activatedOnce : ∀ status, e = .hook (.activate status) → ∀ status',
    .hook (.activate status') ∉ past
  /-- The executors are activated after all modules have been started. -/
  activatedAfter : ∀ status, e = .hook (.activate status) → ∀ module < modules,
    .startModule module .ok ∈ past
  /-- After `quiesce`, modules are only shut down. -/
  quiet : .hook .quiesce ∈ past → ¬ e.Begins

/-- What the supervisor is responsible for beside its runtime. -/
structure HookAllowed (modules : Nat) (past : List (LifecycleEvent ExecutorHook))
    (e : LifecycleEvent ExecutorHook) : Prop where
  returned : e = .returned .shutdown → .hook (.prepare .ok) ∈ past → .hook .quiesce ∈ past
  activatedOnce : ∀ status, e = .hook (.activate status) → ∀ status',
    .hook (.activate status') ∉ past
  activatedAfter : ∀ status, e = .hook (.activate status) → ∀ module < modules,
    .startModule module .ok ∈ past

theorem quiescedFirst_of_allowed {setup : Setup ExecutorHook}
    (hhook : setup.hook = some .quiesce) {past : List (LifecycleEvent ExecutorHook)}
    {e : LifecycleEvent ExecutorHook} (hallowed : Allowed setup past e)
    (hhooks : HookAllowed setup.modules past e) : QuiescedFirst setup.modules past e where
  shutdown := by
    rintro module rfl
    exact hallowed.hooked module rfl _ hhook
  returned := hhooks.returned
  activatedOnce := hhooks.activatedOnce
  activatedAfter := hhooks.activatedAfter
  quiet hquiesce hbegins := hallowed.begins hbegins _ hquiesce hhook

/-! ## The events of the runtime -/

variable {setup : Setup ExecutorHook} {t : List (LifecycleEvent ExecutorHook)}
    {events : List (LifecycleEvent ExecutorHook)}

theorem HookAllowed.of_ofRuntime (hhook : setup.hook = some .quiesce)
    {past : List (LifecycleEvent ExecutorHook)} {e : LifecycleEvent ExecutorHook}
    (he : e.OfRuntime setup.hook) : HookAllowed setup.modules past e := by
  have hnot : ∀ status, e ≠ .hook (.activate status) := by
    rintro status rfl
    cases hhook.symm.trans he
  refine ⟨?_, fun status heq => absurd heq (hnot status), fun status heq => absurd heq (hnot status)⟩
  rintro rfl
  exact he.elim

theorem each_hookAllowed_append (hhook : setup.hook = some .quiesce)
    (h : Each (HookAllowed setup.modules) t) (hevents : ∀ e ∈ events, e.OfRuntime setup.hook) :
    Each (HookAllowed setup.modules) (t ++ events) := by
  induction events generalizing t with
  | nil => rwa [append_nil]
  | cons e events ih =>
    obtain ⟨he, hrest⟩ := forall_mem_cons.mp hevents
    rw [each_append_cons]
    exact ih (each_concat.mpr ⟨h, .of_ofRuntime hhook he⟩) hrest

/-- Where modules have been initialized and shut down, the hook has been called. -/
theorem hook_mem_of_initialized (h : LifecycleCorrect setup t) (hhook : setup.hook = some .quiesce)
    {module : Nat} {status : Status} (hmodule : .initializeModule module status ∈ t) :
    .hook .quiesce ∈ t := by
  have hinitialized : module ∈ t.filterMap LifecycleEvent.initializedModule :=
    mem_filterMap.mpr ⟨_, hmodule, rfl⟩
  rw [← mem_reverse, ← h.reverse] at hinitialized
  obtain ⟨e, he, hstopped⟩ := mem_filterMap.mp hinitialized
  obtain ⟨past, future, rfl⟩ := append_of_mem he
  have hmem := (h.allowed past e future rfl).hooked module hstopped _ hhook
  exact mem_append_left _ hmem

/-! ## The methods in the states in which they do something -/

section Equations

variable {δ : Type} {s : Supervisor δ} (answers : SupervisorAnswers)

/-- `Initialize` with executors that cannot be prepared. -/
theorem initializeSupervisor_of_not_prepared (hstate : s.state = .composing)
    (hhooks : s.executor = ⟨true, true, true⟩) (hprepare : answers.prepare ≠ .ok) :
    s.initializeSupervisor answers =
      (answers.prepare, { s with state := .failed }, [.hook (.prepare answers.prepare)]) := by
  unfold Supervisor.initializeSupervisor
  rw [if_neg (not_not_intro hstate)]
  simp [hhooks, hprepare]

/-- `Initialize` with executors that have been prepared. -/
theorem initializeSupervisor_of_prepared (hstate : s.state = .composing)
    (hhooks : s.executor = ⟨true, true, true⟩) (hprepare : answers.prepare = .ok) :
    s.initializeSupervisor answers =
      let result := s.newRuntime.initializeRuntime answers.toAnswers
      (result.1,
        { s with
          executorPrepared := true
          runtime := some result.2.1
          state := if result.1 = .ok then .initialized else .failed },
        .hook (.prepare .ok) :: (result.2.2 ++
          if result.1 ≠ .ok then [.hook .quiesce] else [])) := by
  unfold Supervisor.initializeSupervisor
  rw [if_neg (not_not_intro hstate)]
  simp [hhooks, hprepare, Supervisor.newRuntime]

/-- `Shutdown` when there is a runtime. -/
theorem shutdown_of_runtime {rt : Runtime ExecutorHook} (hrt : s.runtime = some rt)
    (hstate : s.state ≠ .composing) :
    s.shutdown = ({ s with
      runtime := some rt.shutdown.1, executorPrepared := false, state := .stopped },
        rt.shutdown.2) := by
  unfold Supervisor.shutdown
  rw [hrt, if_pos hstate]

/-- `Shutdown` when there is no runtime and nothing has been prepared. -/
theorem shutdown_of_not_prepared (hrt : s.runtime = none) (hprepared : s.executorPrepared = false) :
    s.shutdown =
      ({ s with state := if s.state ≠ .composing then .stopped else s.state }, []) := by
  unfold Supervisor.shutdown
  simp [hrt, hprepared]

end Equations

/-! ## Phases of a supervisor -/

/-- Nothing will happen any more, and the executors are quiet if they have been prepared. -/
structure Closed {δ : Type} (s : Supervisor δ) (t : List (LifecycleEvent ExecutorHook)) : Prop where
  quiesced : .hook (.prepare .ok) ∈ t → .hook .quiesce ∈ t
  runtime : ∀ rt, s.runtime = some rt → rt.state = .stopped ∨ rt.state = .failed
  prepared : s.runtime = none → s.executorPrepared = false

/-- What is true of a supervisor in all states. -/
structure SupervisorBase {δ : Type} (setup : Setup ExecutorHook) (s : Supervisor δ)
    (t : List (LifecycleEvent ExecutorHook)) : Prop where
  hook : setup.hook = some .quiesce
  nonempty : 0 < setup.modules
  hooks : s.executor = ⟨true, true, true⟩
  ofSetup : s.newRuntime.setup = setup
  allowed : Each (Allowed setup) t
  hookAllowed : Each (HookAllowed setup.modules) t

/-- How far the supervisor has come, by its state. -/
structure SupervisorInv {δ : Type} (setup : Setup ExecutorHook) (s : Supervisor δ)
    (t : List (LifecycleEvent ExecutorHook)) : Prop extends SupervisorBase setup s t where
  composing : s.state = .composing → s.runtime = none ∧ s.executorPrepared = false ∧
    ∀ e ∈ t, ∃ method, e = .returned method
  initialized : s.state = .initialized → s.executorPrepared = true ∧
    (∀ status, .hook (.activate status) ∉ t) ∧
    ∃ rt, s.runtime = some rt ∧ rt.state = .initialized ∧
      Phase setup rt t setup.modules setup.registries 0
  running : s.state = .running → ∃ rt, s.runtime = some rt ∧ rt.state = .running ∧
    Lived setup rt t ∧ .initializeModule 0 .ok ∈ t
  closed : s.state = .stopped ∨ s.state = .failed → Closed s t

namespace SupervisorInv

variable {δ : Type} {s : Supervisor δ}

/-- A call is rejected, or returns. -/
theorem returned (h : SupervisorInv setup s t) {method : RuntimeMethod}
    (hmethod : method = .shutdown → .hook (.prepare .ok) ∈ t → .hook .quiesce ∈ t) :
    SupervisorInv setup s (t ++ [.returned method]) where
  hook := h.hook
  nonempty := h.nonempty
  hooks := h.hooks
  ofSetup := h.ofSetup
  allowed := each_concat.mpr ⟨h.allowed, .of_silent {} nofun⟩
  hookAllowed := by
    refine each_concat.mpr ⟨h.hookAllowed, fun heq => hmethod ?_, nofun, nofun⟩
    exact LifecycleEvent.returned.inj heq
  composing hstate := by
    obtain ⟨hruntime, hprepared, hevents⟩ := h.composing hstate
    refine ⟨hruntime, hprepared, forall_mem_append.mpr ⟨hevents, ?_⟩⟩
    exact forall_mem_singleton.mpr ⟨method, rfl⟩
  initialized hstate := by
    obtain ⟨hprepared, hactivate, rt, hruntime, hinitialized, hphase⟩ := h.initialized hstate
    refine ⟨hprepared, fun status hmem => ?_, rt, hruntime, hinitialized,
      hphase.concat nofun {}⟩
    rcases mem_append.mp hmem with hmem | hmem
    · exact hactivate status hmem
    · exact nomatch mem_singleton.mp hmem
  running hstate := by
    obtain ⟨rt, hruntime, hrunning, hlived, hmodule⟩ := h.running hstate
    exact ⟨rt, hruntime, hrunning, hlived.concat (.of_silent {} nofun) ⟨rfl, rfl⟩,
      mem_append_left _ hmodule⟩
  closed hstate := by
    obtain ⟨hquiesced, hruntime, hprepared⟩ := h.closed hstate
    refine ⟨fun hmem => mem_append_left _ (hquiesced ?_), hruntime, hprepared⟩
    exact (mem_append.mp hmem).resolve_right fun h => nomatch mem_singleton.mp h

theorem of_closed (h : SupervisorBase setup s t) (hstate : s.state = .stopped ∨ s.state = .failed)
    (hclosed : Closed s t) : SupervisorInv setup s t where
  toSupervisorBase := h
  composing heq := by simp [heq] at hstate
  initialized heq := by simp [heq] at hstate
  running heq := by simp [heq] at hstate
  closed _ := hclosed

variable {rt : Runtime ExecutorHook}

/-- The runtime has failed, and the supervisor calls `quiesce` itself. -/
theorem of_quiesced {s' : Supervisor δ} (h : SupervisorBase setup s t)
    (hexecutor : s'.executor = s.executor) (hnew : s'.newRuntime = s.newRuntime)
    (hstate : s'.state = .failed) (hruntime : s'.runtime = some rt) (hfailed : rt.state = .failed)
    (hevents : ∀ e ∈ events, e.OfRuntime setup.hook)
    (hcorrect : LifecycleCorrect setup (t ++ events)) :
    SupervisorInv setup s' (t ++ events ++ [.hook .quiesce]) := by
  refine of_closed ⟨h.hook, h.nonempty, hexecutor.trans h.hooks, hnew ▸ h.ofSetup, ?_, ?_⟩
    (.inr hstate) ⟨fun _ => ?_, ?_, ?_⟩
  · exact each_concat.mpr ⟨hcorrect.allowed, .of_silent {} nofun⟩
  · refine each_concat.mpr ⟨each_hookAllowed_append h.hook h.hookAllowed hevents, ?_⟩
    exact ⟨nofun, nofun, nofun⟩
  · exact mem_append_right _ (mem_singleton.mpr rfl)
  · intro rt' heq
    obtain rfl := Option.some.inj (hruntime.symm.trans heq)
    exact .inr hfailed
  · exact fun hnone => nomatch hnone.symm.trans hruntime

theorem not_activate_of_ofRuntime (hhook : setup.hook = some .quiesce)
    (hevents : ∀ e ∈ events, e.OfRuntime setup.hook) (status : Status) :
    .hook (.activate status) ∉ events :=
  fun hmem => nomatch hhook.symm.trans (hevents _ hmem)

/-- Before `Initialize`, the trace is as good as empty. -/
theorem phase_of_returned (h : SupervisorBase setup s t)
    (hevents : ∀ e ∈ t, ∃ method, e = .returned method) : Phase setup s.newRuntime t 0 0 0 := by
  have hnone : ∀ {β : Type} (f : LifecycleEvent ExecutorHook → Option β),
      (∀ method, f (.returned method) = none) → t.filterMap f = [] := by
    intro β f hf
    refine filterMap_eq_nil_iff.mpr fun e he => ?_
    obtain ⟨method, rfl⟩ := hevents e he
    exact hf method
  refine ⟨⟨h.ofSetup, h.allowed, hnone _ fun _ => rfl, hnone _ fun _ => rfl⟩, rfl, ?_, ?_, ?_,
    hnone _ fun _ => rfl, ?_⟩
  · intro e he
    obtain ⟨method, rfl⟩ := hevents e he
    exact nofun
  all_goals exact fun index hindex => absurd hindex (Nat.not_lt_zero _)

/-- `Initialize`. -/
theorem initializeSupervisor (h : SupervisorInv setup s t) (answers : SupervisorAnswers)
    (hstate : s.state = .composing) :
    SupervisorInv setup (s.initializeSupervisor answers).2.1
      (t ++ (s.initializeSupervisor answers).2.2) := by
  obtain ⟨hruntime, hprepared, hevents⟩ := h.composing hstate
  have hprepareOk : .hook (.prepare .ok) ∉ t := fun hmem => by
    obtain ⟨method, heq⟩ := hevents _ hmem
    cases heq
  have hphase := (phase_of_returned h.toSupervisorBase hevents).concat
    (e := .hook (.prepare answers.prepare)) (fun heq => nomatch h.hook.symm.trans heq) {}
  have hhookAllowed : Each (HookAllowed setup.modules)
      (t ++ [.hook (.prepare answers.prepare)]) :=
    each_concat.mpr ⟨h.hookAllowed, nofun, nofun, nofun⟩
  have hbase : SupervisorBase setup s (t ++ [.hook (.prepare answers.prepare)]) :=
    { h.toSupervisorBase with allowed := hphase.allowed, hookAllowed := hhookAllowed }
  by_cases hprepare : answers.prepare = .ok
  · rw [initializeSupervisor_of_prepared answers hstate h.hooks hprepare]
    rw [hprepare] at hphase hhookAllowed hbase
    have houtcome := initializeRuntime_phase answers.toAnswers rfl hphase
    dsimp only
    rw [← singleton_append, ← append_assoc, ← append_assoc]
    by_cases hok : (s.newRuntime.initializeRuntime answers.toAnswers).1 = .ok
    · obtain ⟨hinitialized, hnext⟩ := houtcome.ok hok
      rw [if_neg (not_not_intro hok), append_nil, if_pos hok]
      have hallowed := each_hookAllowed_append h.hook hhookAllowed houtcome.ofRuntime
      refine ⟨{ hbase with allowed := hnext.allowed, hookAllowed := hallowed }, nofun,
        fun _ => ⟨rfl, fun status hmem => ?_, _, rfl, hinitialized, hnext⟩, nofun, ?_⟩
      · rcases mem_append.mp hmem with hmem | hmem
        · rcases mem_append.mp hmem with hmem | hmem
          · obtain ⟨method, heq⟩ := hevents _ hmem
            cases heq
          · simp at hmem
        · exact not_activate_of_ofRuntime h.hook houtcome.ofRuntime status hmem
      · rintro (heq | heq) <;> cases heq
    · obtain ⟨hfailed, hcorrect⟩ := houtcome.failed hok
      rw [if_pos hok, if_neg hok]
      refine of_quiesced hbase ?_ ?_ ?_ ?_ hfailed houtcome.ofRuntime hcorrect <;> rfl
  · rw [initializeSupervisor_of_not_prepared answers hstate h.hooks hprepare]
    refine of_closed { hbase with } (.inr rfl) ⟨fun hmem => ?_, ?_, fun _ => hprepared⟩
    · rcases mem_append.mp hmem with hmem | hmem
      · exact absurd hmem hprepareOk
      · simp only [mem_singleton, LifecycleEvent.hook.injEq, ExecutorHook.prepare.injEq] at hmem
        exact absurd hmem.symm hprepare
    · exact fun rt heq => nomatch hruntime.symm.trans heq

/-- The runtime is shut down after modules have been initialized, and calls `quiesce`. -/
theorem of_shutdown (s' : Supervisor δ) (h : SupervisorBase setup s t)
    (hexecutor : s'.executor = s.executor) (hnew : s'.newRuntime = s.newRuntime)
    (hstate : s'.state = .stopped ∨ s'.state = .failed) (hlived : Lived setup rt t)
    (hmodule : .initializeModule 0 .ok ∈ t) (hrt : rt.state = .initialized ∨ rt.state = .running)
    (hruntime : s'.runtime = some rt.shutdown.1) : SupervisorInv setup s' (t ++ rt.shutdown.2) := by
  obtain ⟨-, hstopped, hevents, hcorrect⟩ := shutdown_over hlived
    (fun hnew => by simp [hnew] at hrt) (by rcases hrt with heq | heq <;> simp [heq])
  refine of_closed ⟨h.hook, h.nonempty, hexecutor.trans h.hooks, hnew ▸ h.ofSetup, hcorrect.allowed,
    each_hookAllowed_append h.hook h.hookAllowed hevents⟩ hstate ⟨fun _ => ?_, ?_, ?_⟩
  · exact hook_mem_of_initialized hcorrect h.hook (mem_append_left _ hmodule)
  · intro rt' heq
    obtain rfl := Option.some.inj (hruntime.symm.trans heq)
    exact .inl hstopped
  · exact fun hnone => nomatch hnone.symm.trans hruntime

/-- `Start` of an initialized supervisor. -/
theorem startRuntime (h : SupervisorInv setup s t) (answers : SupervisorAnswers)
    (hstate : s.state = .initialized) (hrt : s.runtime = some rt) :
    SupervisorInv setup (s.startRuntime rt answers).2.1
      (t ++ (s.startRuntime rt answers).2.2) := by
  obtain ⟨hprepared, hactivate, rt', hrt', hinitialized, hphase⟩ := h.initialized hstate
  obtain rfl := Option.some.inj (hrt.symm.trans hrt')
  have houtcome := start_phase answers.toAnswers hinitialized hphase
  have hhookAllowed := each_hookAllowed_append h.hook h.hookAllowed houtcome.ofRuntime
  unfold Supervisor.startRuntime
  dsimp only
  by_cases hok : (rt.start answers.toAnswers).1 = .ok
  · obtain ⟨hrunning, hnext⟩ := houtcome.ok hok
    rw [if_pos ⟨hok, by rw [h.hooks]⟩]
    have hactivated := hnext.concat (e := .hook (.activate answers.activate))
      (fun heq => nomatch h.hook.symm.trans heq) {}
    have hallowed : Each (HookAllowed setup.modules) (t ++ (rt.start answers.toAnswers).2.2 ++
        [.hook (.activate answers.activate)]) := by
      refine each_concat.mpr ⟨hhookAllowed, nofun, fun status _ status' hmem => ?_,
        fun _ _ => hnext.running⟩
      rcases mem_append.mp hmem with hmem | hmem
      · exact hactivate status' hmem
      · exact not_activate_of_ofRuntime h.hook houtcome.ofRuntime status' hmem
    have hmodule := hactivated.successes 0 h.nonempty
    split_ifs with hactivateOk
    · have hbase : SupervisorBase setup s (t ++ (rt.start answers.toAnswers).2.2 ++
          [.hook (.activate answers.activate)]) :=
        { h.toSupervisorBase with allowed := hactivated.allowed, hookAllowed := hallowed }
      have hshut := of_shutdown { s with
          runtime := some (rt.start answers.toAnswers).2.1.shutdown.1
          state := .failed } hbase rfl rfl (.inr rfl) hactivated.toLived hmodule (.inr hrunning) rfl
      simpa only [append_assoc, singleton_append] using hshut
    · rw [← append_assoc]
      refine ⟨⟨h.hook, h.nonempty, h.hooks, h.ofSetup, hactivated.allowed, hallowed⟩, nofun, nofun,
        fun _ => ⟨_, rfl, hrunning, hactivated.toLived, hmodule⟩, ?_⟩
      rintro (heq | heq) <;> cases heq
  · obtain ⟨hfailed, hcorrect⟩ := houtcome.failed hok
    have hquiesce : s.executor.quiesce = true := by rw [h.hooks]
    rw [if_neg fun hboth => hok hboth.1, if_pos (And.intro hok (And.intro hprepared hquiesce)),
      if_neg hok, ← append_assoc]
    refine of_quiesced h.toSupervisorBase ?_ ?_ ?_ ?_ hfailed houtcome.ofRuntime hcorrect <;> rfl

/-- `Shutdown`. -/
theorem shutdown (h : SupervisorInv setup s t) :
    SupervisorInv setup s.shutdown.1 (t ++ s.shutdown.2) ∧
      (.hook (.prepare .ok) ∈ t ++ s.shutdown.2 → .hook .quiesce ∈ t ++ s.shutdown.2) := by
  cases hstate : s.state with
  | composing =>
    obtain ⟨hruntime, hprepared, hevents⟩ := h.composing hstate
    rw [shutdown_of_not_prepared hruntime hprepared, append_nil]
    refine ⟨⟨{ h.toSupervisorBase with }, fun _ => ⟨hruntime, hprepared, hevents⟩, ?_, ?_, ?_⟩,
      fun hmem => ?_⟩
    · simp [hstate]
    · simp [hstate]
    · simp [hstate]
    · obtain ⟨method, heq⟩ := hevents _ hmem
      cases heq
  | initialized =>
    obtain ⟨-, -, rt, hruntime, hinitialized, hphase⟩ := h.initialized hstate
    rw [shutdown_of_runtime hruntime (by simp [hstate])]
    have hshut := of_shutdown { s with
        runtime := some rt.shutdown.1, executorPrepared := false, state := .stopped }
      h.toSupervisorBase rfl rfl (.inl rfl) hphase.toLived (hphase.successes 0 h.nonempty)
      (.inl hinitialized) rfl
    exact ⟨hshut, (hshut.closed (.inl rfl)).quiesced⟩
  | running =>
    obtain ⟨rt, hruntime, hrunning, hlived, hmodule⟩ := h.running hstate
    rw [shutdown_of_runtime hruntime (by simp [hstate])]
    have hshut := of_shutdown { s with
        runtime := some rt.shutdown.1, executorPrepared := false, state := .stopped }
      h.toSupervisorBase rfl rfl (.inl rfl) hlived hmodule (.inr hrunning) rfl
    exact ⟨hshut, (hshut.closed (.inl rfl)).quiesced⟩
  | stopped | failed =>
    obtain ⟨hquiesced, hruntime, hprepared⟩ := h.closed (by simp [hstate])
    cases hrt : s.runtime with
    | none =>
      rw [shutdown_of_not_prepared hrt (hprepared hrt), append_nil]
      refine ⟨of_closed { h.toSupervisorBase with } ?_ ⟨hquiesced, hruntime, hprepared⟩, hquiesced⟩
      simp [hstate]
    | some rt =>
      have hstopped := hruntime rt hrt
      have hshutdown : rt.shutdown = (rt, []) := by rw [Runtime.shutdown, if_pos hstopped]
      rw [shutdown_of_runtime hrt (by simp [hstate]), hshutdown, append_nil]
      refine ⟨of_closed { h.toSupervisorBase with } (.inl rfl) ⟨hquiesced, ?_, fun hnone => by cases hnone⟩, hquiesced⟩
      rintro rt' ⟨⟩
      exact hstopped

theorem startInitialized (h : SupervisorInv setup s t) (answers : SupervisorAnswers) :
    SupervisorInv setup (s.startInitialized answers).2.1
      (t ++ (s.startInitialized answers).2.2) := by
  unfold Supervisor.startInitialized
  split_ifs with hstate
  · rwa [append_nil]
  · split
    · rwa [append_nil]
    · rename_i rt hrt
      exact h.startRuntime answers (Decidable.not_not.mp hstate) hrt

/-- `Start`. -/
theorem start [DecidableEq δ] (h : SupervisorInv setup s t) (deploymentId : δ)
    (answers : SupervisorAnswers) :
    SupervisorInv setup (s.start deploymentId answers).2.1
      (t ++ (s.start deploymentId answers).2.2) := by
  unfold Supervisor.start
  by_cases hdeployment : deploymentId ≠ s.deploymentId
  · rwa [if_pos hdeployment, append_nil]
  rw [if_neg hdeployment]
  by_cases hcomposing : s.state = .composing
  · rw [if_pos hcomposing]
    have hbegun := h.initializeSupervisor answers hcomposing
    dsimp only
    split_ifs
    · exact hbegun
    · rw [← append_assoc]
      exact hbegun.startInitialized answers
  · rw [if_neg hcomposing]
    exact h.startInitialized answers

end SupervisorInv

/-! ## Whole runs -/

/-- A call of a public method, with the answers that it gets. -/
inductive SupervisorCall (δ : Type) where
  | initializeSupervisor (answers : SupervisorAnswers)
  | start (deploymentId : δ) (answers : SupervisorAnswers)
  | shutdown

/-- A supervisor and all that has happened. -/
structure SupervisorHistory (δ : Type) where
  supervisor : Supervisor δ
  trace : List (LifecycleEvent ExecutorHook) := []

namespace SupervisorHistory

variable {δ : Type}

/-- A new supervisor with all three hooks, after modules and registries have been added. -/
def construct (deploymentId : δ) (modules : List ModuleSlot) (registries : List RegistrySlot) :
    SupervisorHistory δ where
  supervisor :=
    { deploymentId := deploymentId, modules := modules, registries := registries,
      executor := ⟨true, true, true⟩ }

variable [DecidableEq δ]

/-- One call, and its return. -/
def step (h : SupervisorHistory δ) : SupervisorCall δ → SupervisorHistory δ
  | .initializeSupervisor answers =>
    let result := h.supervisor.initializeSupervisor answers
    ⟨result.2.1, h.trace ++ result.2.2 ++ [.returned .initializeRuntime]⟩
  | .start deploymentId answers =>
    let result := h.supervisor.start deploymentId answers
    ⟨result.2.1, h.trace ++ result.2.2 ++ [.returned .start]⟩
  | .shutdown =>
    let result := h.supervisor.shutdown
    ⟨result.1, h.trace ++ result.2 ++ [.returned .shutdown]⟩

theorem supervisorInv_step {setup : Setup ExecutorHook} {h : SupervisorHistory δ}
    (hinv : SupervisorInv setup h.supervisor h.trace) (call : SupervisorCall δ) :
    SupervisorInv setup (h.step call).supervisor (h.step call).trace := by
  cases call with
  | initializeSupervisor answers =>
    refine SupervisorInv.returned ?_ nofun
    dsimp only [step]
    by_cases hstate : h.supervisor.state = .composing
    · exact hinv.initializeSupervisor answers hstate
    · have hrejected : h.supervisor.initializeSupervisor answers =
          (.invalidState, h.supervisor, []) := if_pos hstate
      rw [hrejected, append_nil]
      exact hinv
  | start deploymentId answers => exact (hinv.start deploymentId answers).returned nofun
  | shutdown => exact hinv.shutdown.1.returned fun _ => hinv.shutdown.2

/-- In every run of a supervisor with at least one module and all three hooks, `quiesce` is called
    before modules are shut down and, if `prepare` has succeeded, before `Shutdown` returns;
    `activate` is called at most once, after all modules have been started; and after `quiesce`
    modules are only shut down. -/
theorem quiescedFirst_run (deploymentId : δ) {modules : List ModuleSlot} (hmodules : modules ≠ [])
    (registries : List RegistrySlot) (calls : List (SupervisorCall δ)) :
    Each (QuiescedFirst modules.length)
      (Machine.run step (construct deploymentId modules registries) calls).trace := by
  let setup : Setup ExecutorHook := ⟨modules.length, registries.length, some .quiesce⟩
  have hinit : SupervisorInv setup (construct deploymentId modules registries).supervisor
      (construct deploymentId modules registries).trace := by
    refine ⟨⟨rfl, List.length_pos_iff.mpr hmodules, rfl, rfl, each_nil, each_nil⟩,
      fun _ => ⟨rfl, rfl, nofun⟩, nofun, nofun, ?_⟩
    rintro (heq | heq) <;> cases heq
  have hinv := Machine.run_invariant step
    (I := fun h : SupervisorHistory δ => SupervisorInv setup h.supervisor h.trace)
    (fun _ call hinv => supervisorInv_step hinv call) hinit calls
  exact (hinv.allowed.and hinv.hookAllowed).mono fun past e h =>
    quiescedFirst_of_allowed rfl h.1 h.2

/-- The executors cannot be activated after one module has been started. -/
theorem quiescedFirst_of_not_activated :
    let answers : SupervisorAnswers :=
      { validate := fun _ => .ok, info := fun _ => "imu", initializeModule := fun _ => .ok,
        startModule := fun _ => .ok, isSealed := fun _ => false, sealRegistry := fun _ => .ok,
        prepare := .ok, activate := .unavailable }
    let trace := (Machine.run step (construct () [⟨""⟩] []) [.start () answers, .shutdown]).trace
    Each (QuiescedFirst 1) trace ∧
      trace = [.hook (.prepare .ok), .validate 0, .info 0, .initializeModule 0 .ok, .info 0,
        .startModule 0 .ok, .hook (.activate .unavailable), .hook .quiesce, .shutdownModule 0,
        .returned .start, .returned .shutdown] :=
  ⟨quiescedFirst_run () (List.cons_ne_nil _ _) [] _, by decide⟩

end SupervisorHistory

end AsterCtrl.Linux
