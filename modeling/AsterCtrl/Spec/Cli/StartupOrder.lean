import AsterCtrl.ForStd.Acyclic
import AsterCtrl.Spec.Cli.Identifiers

/-!
# The order of start-up

`_startup_order` takes the instances that wait for nothing, then those that wait for nothing else,
and so on.  Names and their dependencies are a set of names and a relation on it: a round removes
the names that are related to nothing, and the order it returns depends on nothing but the set and
the relation.

A round finds a name as long as the relation has no cycle, because a relation without cycles is
well-founded on a finite set.

## Key results

- `exists_startupRounds_eq_ok`: the rounds succeed if the relation has no cycle
- `idxOf_lt_of_startupRounds`: a name comes after the names it is related to
- `startupRounds_congr`: the rounds depend on the set of names and on the relation
- `startup_order`: all of it, for `_startup_order` and for the nodes of a deployment
-/

namespace AsterCtrl.Cli

open List Deployment Except

/-- What `_startup_order` calls `dependencies`: each name with those it must start after. -/
abbrev Dependencies := List (String × List String)

/-- The name `a` must start after the name `b`. -/
def StartsAfter (dependencies : Dependencies) (a b : String) : Prop :=
  ∃ after, (a, after) ∈ dependencies ∧ b ∈ after

namespace Dependencies

/-- The names that wait for nothing. -/
def ready (dependencies : Dependencies) : List String :=
  sortedNames ((dependencies.filter fun entry => entry.2 = []).map Prod.fst)

/-- What a round leaves. -/
def remaining (dependencies : Dependencies) : Dependencies :=
  (dependencies.filter fun entry => entry.1 ∉ dependencies.ready).map fun entry =>
    (entry.1, entry.2.filter (· ∉ dependencies.ready))

/-- The error of a round in which nothing is ready. -/
def cycleError (dependencies : Dependencies) : Failure :=
  .graphError
    s!"startup dependency cycle contains: {joined (sortedNames (dependencies.map Prod.fst))}"

end Dependencies

open Dependencies

/-! ## One round -/

theorem startupRounds_nil (fuel : Nat) : startupRounds fuel [] = .ok [] := by
  cases fuel <;> rfl

theorem startupRounds_zero {dependencies : Dependencies} (h : dependencies ≠ []) :
    startupRounds 0 dependencies = .error dependencies.cycleError := by
  rw [startupRounds, if_neg h]
  rfl

theorem startupRounds_succ {dependencies : Dependencies} (h : dependencies ≠ []) (fuel : Nat) :
    startupRounds (fuel + 1) dependencies = (do
      require (dependencies.ready ≠ []) dependencies.cycleError
      let order ← startupRounds fuel dependencies.remaining
      pure (dependencies.ready ++ order)) := by
  rw [startupRounds, if_neg h]
  rfl

/-- The orders that rounds return: what is ready, and then the order of what remains. -/
inductive Rounds : Dependencies → List String → Prop where
  | done : Rounds [] []
  | round {dependencies : Dependencies} {rest : List String}
      (h : Rounds dependencies.remaining rest) : Rounds dependencies (dependencies.ready ++ rest)

variable {order : List String}

theorem rounds_of_startupRounds {fuel : Nat} {dependencies : Dependencies}
    (h : startupRounds fuel dependencies = .ok order) : Rounds dependencies order := by
  induction fuel generalizing dependencies order with
  | zero =>
    rcases eq_or_ne dependencies [] with rfl | hne
    · cases (startupRounds_nil 0).symm.trans h
      exact .done
    · exact nomatch (startupRounds_zero hne).symm.trans h
  | succ fuel ih =>
    rcases eq_or_ne dependencies [] with rfl | hne
    · cases (startupRounds_nil _).symm.trans h
      exact .done
    · rw [startupRounds_succ hne] at h
      obtain ⟨-, h⟩ := seq_eq_ok.mp h
      obtain ⟨rest, hrest, h⟩ := bind_eq_ok.mp h
      obtain rfl := pure_eq_ok.mp h
      exact .round (ih hrest)

section Round

variable {dependencies : Dependencies} {a b : String}

theorem eq_of_mem (hnodup : (dependencies.map Prod.fst).Nodup) {after after' : List String}
    (h : (a, after) ∈ dependencies) (h' : (a, after') ∈ dependencies) : after = after' :=
  congrArg Prod.snd (inj_on_of_nodup_map hnodup h h' rfl)

theorem mem_ready (hnodup : (dependencies.map Prod.fst).Nodup) :
    a ∈ ready dependencies ↔
      a ∈ dependencies.map Prod.fst ∧ ∀ b, ¬ StartsAfter dependencies a b := by
  rw [ready, mem_sortedNames, mem_map, mem_map]
  constructor
  · rintro ⟨⟨name, after⟩, hmem, rfl⟩
    obtain ⟨hmem, hafter⟩ := mem_filter.mp hmem
    obtain rfl : after = [] := by simpa using hafter
    refine ⟨⟨_, hmem, rfl⟩, fun b ⟨after, hafter, hb⟩ => ?_⟩
    rw [eq_of_mem hnodup hafter hmem] at hb
    cases hb
  · rintro ⟨⟨⟨name, after⟩, hmem, rfl⟩, hnone⟩
    refine ⟨_, mem_filter.mpr ⟨hmem, ?_⟩, rfl⟩
    rw [decide_eq_true_eq, eq_nil_iff_forall_not_mem]
    exact fun b hb => hnone b ⟨after, hmem, hb⟩

theorem mem_names_remaining :
    a ∈ (remaining dependencies).map Prod.fst ↔
      a ∈ dependencies.map Prod.fst ∧ a ∉ ready dependencies := by
  simp only [remaining, map_map, mem_map, mem_filter, Function.comp_apply, decide_eq_true_eq]
  constructor
  · rintro ⟨entry, ⟨hmem, hready⟩, rfl⟩
    exact ⟨⟨entry, hmem, rfl⟩, hready⟩
  · rintro ⟨⟨entry, hmem, rfl⟩, hready⟩
    exact ⟨entry, ⟨hmem, hready⟩, rfl⟩

theorem startsAfter_remaining :
    StartsAfter (remaining dependencies) a b ↔
      StartsAfter dependencies a b ∧ a ∉ ready dependencies ∧ b ∉ ready dependencies := by
  simp only [StartsAfter, remaining, mem_map, mem_filter, decide_eq_true_eq, Prod.mk.injEq]
  constructor
  · rintro ⟨after, ⟨entry, ⟨hmem, hready⟩, rfl, rfl⟩, hb⟩
    obtain ⟨hb, hbready⟩ := mem_filter.mp hb
    exact ⟨⟨entry.2, hmem, hb⟩, hready, by simpa using hbready⟩
  · rintro ⟨⟨after, hmem, hb⟩, hready, hbready⟩
    exact ⟨_, ⟨(a, after), ⟨hmem, hready⟩, rfl, rfl⟩, mem_filter.mpr ⟨hb, by simpa⟩⟩

theorem map_fst_remaining :
    (remaining dependencies).map Prod.fst =
      (dependencies.map Prod.fst).filter (· ∉ ready dependencies) := by
  rw [remaining, map_map, filter_map]
  rfl

theorem nodup_remaining (hnodup : (dependencies.map Prod.fst).Nodup) :
    ((remaining dependencies).map Prod.fst).Nodup := by
  rw [map_fst_remaining]
  exact hnodup.filter _

/-- A round in which a name is ready makes the dependencies shorter. -/
theorem length_remaining_lt (hready : ready dependencies ≠ []) :
    (remaining dependencies).length < dependencies.length := by
  obtain ⟨name, hname⟩ := exists_mem_of_ne_nil _ hready
  obtain ⟨entry, hmem, rfl⟩ := mem_map.mp (mem_sortedNames.mp hname)
  rw [remaining, length_map, length_filter_lt_length_iff_exists]
  exact ⟨entry, (mem_filter.mp hmem).1, by simpa using hname⟩

/-- The names of a round and of what remains. -/
theorem ready_append_perm (hnodup : (dependencies.map Prod.fst).Nodup) :
    (ready dependencies ++ (remaining dependencies).map Prod.fst).Perm
      (dependencies.map Prod.fst) := by
  have hready : (ready dependencies).Nodup :=
    (perm_insertionSort ..).nodup_iff.mpr (nodup_dedup _)
  rw [perm_ext_iff_of_nodup (nodup_append.mpr ⟨hready, nodup_remaining hnodup, ?_⟩) hnodup]
  · intro name
    rw [mem_append, mem_names_remaining, mem_ready hnodup]
    tauto
  · rintro name hname _ hother rfl
    exact (mem_names_remaining.mp hother).2 hname

end Round

/-! ## All rounds -/

namespace Rounds

variable {dependencies : Dependencies} {order : List String}

/-- An order has every name once. -/
theorem perm (h : Rounds dependencies order) (hnodup : (dependencies.map Prod.fst).Nodup) :
    order.Perm (dependencies.map Prod.fst) := by
  induction h with
  | done => exact .nil
  | round _ ih =>
    exact ((ih (nodup_remaining hnodup)).append_left _).trans (ready_append_perm hnodup)

/-- A name comes after the names that it must start after: it is not ready before they are. -/
theorem idxOf_lt (h : Rounds dependencies order) (hnodup : (dependencies.map Prod.fst).Nodup)
    {a b : String} (hab : StartsAfter dependencies a b) : order.idxOf b < order.idxOf a := by
  induction h with
  | done =>
    obtain ⟨_, hmem, -⟩ := hab
    cases hmem
  | @round dependencies rest _ ih =>
    have ha : a ∉ ready dependencies := fun ha => ((mem_ready hnodup).mp ha).2 b hab
    rw [idxOf_append_of_notMem ha]
    by_cases hb : b ∈ ready dependencies
    · rw [idxOf_append_of_mem hb]
      exact Nat.lt_add_right _ (idxOf_lt_length_of_mem hb)
    · rw [idxOf_append_of_notMem hb]
      exact Nat.add_lt_add_left
        (ih (nodup_remaining hnodup) (startsAfter_remaining.mpr ⟨hab, ha, hb⟩)) _

theorem idxOf_lt_of_transGen (h : Rounds dependencies order)
    (hnodup : (dependencies.map Prod.fst).Nodup) {a b : String}
    (hab : Relation.TransGen (StartsAfter dependencies) a b) : order.idxOf b < order.idxOf a :=
  hab.rank_lt fun _ _ hab => h.idxOf_lt hnodup hab

end Rounds

section Success

variable {fuel : Nat} {dependencies other : Dependencies}

/-- A relation without cycles on a finite set has a name that is related to no other. -/
theorem ready_ne_nil (hnodup : (dependencies.map Prod.fst).Nodup) (hne : dependencies ≠ [])
    (hclosed : ∀ a b, StartsAfter dependencies a b → b ∈ dependencies.map Prod.fst)
    (hacyclic : ∀ a, ¬ Relation.TransGen (StartsAfter dependencies) a a) :
    ready dependencies ≠ [] := by
  obtain ⟨a, ha, hlast⟩ := Relation.exists_mem_forall_not hacyclic
    (l := dependencies.map Prod.fst) (by rwa [ne_eq, map_eq_nil_iff])
  refine ne_nil_of_mem ((mem_ready hnodup).mpr ⟨ha, fun b hab => ?_⟩)
  exact hlast b (hclosed a b hab) hab

/-- The rounds succeed if the relation has no cycle and no unknown name. -/
theorem exists_startupRounds_eq_ok (hnodup : (dependencies.map Prod.fst).Nodup)
    (hfuel : dependencies.length ≤ fuel)
    (hclosed : ∀ a b, StartsAfter dependencies a b → b ∈ dependencies.map Prod.fst)
    (hacyclic : ∀ a, ¬ Relation.TransGen (StartsAfter dependencies) a a) :
    ∃ order, startupRounds fuel dependencies = .ok order := by
  induction fuel generalizing dependencies with
  | zero =>
    obtain rfl := eq_nil_of_length_eq_zero (Nat.le_zero.mp hfuel)
    exact ⟨[], startupRounds_nil 0⟩
  | succ fuel ih =>
    rcases eq_or_ne dependencies [] with rfl | hne
    · exact ⟨[], startupRounds_nil _⟩
    have hready := ready_ne_nil hnodup hne hclosed hacyclic
    have hlength := length_remaining_lt hready
    have hclosed' : ∀ a b, StartsAfter (remaining dependencies) a b →
        b ∈ (remaining dependencies).map Prod.fst := by
      intro a b hab
      obtain ⟨hab, -, hb⟩ := startsAfter_remaining.mp hab
      exact mem_names_remaining.mpr ⟨hclosed a b hab, hb⟩
    obtain ⟨rest, hrest⟩ := ih (nodup_remaining hnodup) (by omega) hclosed' fun a hcycle =>
      hacyclic a (Relation.TransGen.mono (fun _ _ h => (startsAfter_remaining.mp h).1) a a hcycle)
    refine ⟨ready dependencies ++ rest, ?_⟩
    rw [startupRounds_succ hne, seq_eq_ok, require_eq_ok]
    exact ⟨hready, bind_eq_ok.mpr ⟨rest, hrest, rfl⟩⟩

end Success

/-- The same names, and the same relation on them. -/
structure SameDependencies (dependencies other : Dependencies) : Prop where
  nodup : (dependencies.map Prod.fst).Nodup
  nodup_other : (other.map Prod.fst).Nodup
  names : ∀ a, a ∈ dependencies.map Prod.fst ↔ a ∈ other.map Prod.fst
  after : ∀ a b, StartsAfter dependencies a b ↔ StartsAfter other a b

namespace SameDependencies

variable {dependencies other : Dependencies}

theorem eq_nil_iff (h : SameDependencies dependencies other) : dependencies = [] ↔ other = [] := by
  rw [← map_eq_nil_iff (f := Prod.fst), ← map_eq_nil_iff (f := Prod.fst) (l := other),
    eq_nil_iff_forall_not_mem, eq_nil_iff_forall_not_mem]
  exact forall_congr' fun a => not_congr (h.names a)

theorem ready_eq (h : SameDependencies dependencies other) : ready dependencies = ready other := by
  refine sortedNames_congr fun a => ?_
  have hready : a ∈ ready dependencies ↔ a ∈ ready other := by
    rw [mem_ready h.nodup, mem_ready h.nodup_other]
    simp only [h.names, h.after]
  rwa [ready, ready, mem_sortedNames, mem_sortedNames] at hready

theorem remaining (h : SameDependencies dependencies other) :
    SameDependencies (remaining dependencies) (remaining other) where
  nodup := nodup_remaining h.nodup
  nodup_other := nodup_remaining h.nodup_other
  names a := by rw [mem_names_remaining, mem_names_remaining, h.names, h.ready_eq]
  after a b := by rw [startsAfter_remaining, startsAfter_remaining, h.after, h.ready_eq]

/-- The rounds depend on the set of names and on the relation. -/
theorem startupRounds_eq (h : SameDependencies dependencies other) (fuel : Nat) :
    startupRounds fuel dependencies = startupRounds fuel other := by
  have hcycle {dependencies other : Dependencies} (h : SameDependencies dependencies other) :
      cycleError dependencies = cycleError other := by
    rw [cycleError, cycleError, sortedNames_congr h.names]
  induction fuel generalizing dependencies other with
  | zero =>
    rcases eq_or_ne other [] with rfl | hne
    · rw [h.eq_nil_iff.mpr rfl]
    · rw [startupRounds_zero hne, startupRounds_zero (h.eq_nil_iff.not.mpr hne), hcycle h]
  | succ fuel ih =>
    rcases eq_or_ne other [] with rfl | hne
    · rw [h.eq_nil_iff.mpr rfl]
    · rw [startupRounds_succ hne, startupRounds_succ (h.eq_nil_iff.not.mpr hne), hcycle h,
        h.ready_eq, ih h.remaining]

end SameDependencies

/-! ## Applications -/

/-- The names of the instances. -/
def Application.names (application : Application) : List String :=
  application.instances.map Instance.name

/-- The dependencies of the instances. -/
def Application.dependencies (application : Application) : Dependencies :=
  application.instances.map fun item => (item.name, item.startupAfter)

namespace Application

variable {application other : Application}

theorem map_fst_dependencies (application : Application) :
    application.dependencies.map Prod.fst = application.names := by
  rw [dependencies, map_map]
  rfl

theorem nodup_names (application : Application) : application.names.Nodup :=
  application.instances_sorted.imp ne_of_lt

theorem startsAfter_iff {a b : String} :
    StartsAfter application.dependencies a b ↔
      ∃ item ∈ application.instances, item.name = a ∧ b ∈ item.startupAfter := by
  simp only [StartsAfter, dependencies, mem_map, Prod.mk.injEq]
  constructor
  · rintro ⟨_, ⟨item, hitem, rfl, rfl⟩, hb⟩
    exact ⟨item, hitem, rfl, hb⟩
  · rintro ⟨item, hitem, rfl, hb⟩
    exact ⟨_, ⟨item, hitem, rfl, rfl⟩, hb⟩

theorem startsAfter_name_iff {item : Instance} (hitem : item ∈ application.instances)
    {b : String} : StartsAfter application.dependencies item.name b ↔ b ∈ item.startupAfter := by
  rw [startsAfter_iff]
  refine ⟨?_, fun hb => ⟨item, hitem, rfl, hb⟩⟩
  rintro ⟨other, hother, hname, hb⟩
  obtain rfl := inj_on_of_nodup_map application.nodup_names hother hitem hname
  exact hb

/-- The names of an application determine their order. -/
theorem names_eq (hnames : ∀ a, a ∈ other.names ↔ a ∈ application.names) :
    other.names = application.names :=
  List.Perm.eq_of_pairwise (fun _ _ _ _ hab hba => absurd (hab.trans hba) (lt_irrefl _))
    other.instances_sorted application.instances_sorted
    ((perm_ext_iff_of_nodup other.nodup_names application.nodup_names).mpr hnames)

end Application

/-- The check of one instance in `_startup_order`. -/
def checkStartup (names : List String) (item : Instance) : Except Failure Unit := do
  refuseAny (item.startupAfter.filter (· ∉ names))
    s!"instance {quoted item.name} starts after unknown instances: "
  require (item.name ∉ item.startupAfter)
    (.graphError s!"instance {quoted item.name} cannot start after itself")

theorem startupOrder_eq (application : Application) :
    startupOrder application = (do
      application.instances.forM (checkStartup application.names)
      startupRounds application.instances.length application.dependencies) := rfl

theorem checkStartup_eq_ok {names : List String} {item : Instance} {u : Unit} :
    checkStartup names item = .ok u ↔
      (∀ b ∈ item.startupAfter, b ∈ names) ∧ item.name ∉ item.startupAfter := by
  rw [checkStartup, seq_eq_ok, refuseAny_eq_ok, require_eq_ok, filter_eq_nil_iff]
  simp only [decide_eq_true_eq, not_not]

theorem checkStartup_congr {item other : Instance} (names : List String)
    (hname : item.name = other.name)
    (hafter : ∀ b, b ∈ item.startupAfter ↔ b ∈ other.startupAfter) :
    checkStartup names item = checkStartup names other := by
  have hrefuse : ∀ message, refuseAny (item.startupAfter.filter (· ∉ names)) message =
      refuseAny (other.startupAfter.filter (· ∉ names)) message :=
    refuseAny_congr fun b => by simp only [mem_filter, hafter]
  simp only [checkStartup, hrefuse, hname, hafter]

/-- The checks of instances that have the same names and wait for the same ones. -/
theorem forM_checkStartup_congr {items others : List Instance} (names : List String)
    (h : List.Forall₂ (fun item other => item.name = other.name ∧
      ∀ b, b ∈ item.startupAfter ↔ b ∈ other.startupAfter) items others) :
    items.forM (checkStartup names) = others.forM (checkStartup names) := by
  induction h with
  | nil => rfl
  | cons hitem _ ih =>
    rw [List.forM, List.forM, checkStartup_congr names hitem.1 hitem.2, ih]

/-- The checks that come before the rounds. -/
theorem forM_checkStartup_eq_ok (application : Application) {u : Unit} :
    application.instances.forM (checkStartup application.names) = .ok u ↔
      (∀ a b, StartsAfter application.dependencies a b → b ∈ application.names) ∧
        ∀ a, ¬ StartsAfter application.dependencies a a := by
  simp only [forM_eq_ok, checkStartup_eq_ok, Application.startsAfter_iff]
  constructor
  · intro h
    refine ⟨?_, ?_⟩
    · rintro a b ⟨item, hitem, -, hb⟩
      exact (h item hitem).1 b hb
    · rintro _ ⟨item, hitem, rfl, hself⟩
      exact (h item hitem).2 hself
  · rintro ⟨hclosed, hself⟩ item hitem
    exact ⟨fun b hb => hclosed _ b ⟨item, hitem, rfl, hb⟩, fun h => hself _ ⟨item, hitem, rfl, h⟩⟩

variable {application : Application}

theorem startupOrder_eq_ok :
    startupOrder application = .ok order ↔
      ((∀ a b, StartsAfter application.dependencies a b → b ∈ application.names) ∧
        ∀ a, ¬ StartsAfter application.dependencies a a) ∧
      startupRounds application.instances.length application.dependencies = .ok order := by
  rw [startupOrder_eq, seq_eq_ok, forM_checkStartup_eq_ok]

/-- The rounds of an application that has an order. -/
theorem rounds_of_startupOrder (h : startupOrder application = .ok order) :
    Rounds application.dependencies order :=
  rounds_of_startupRounds (startupOrder_eq_ok.mp h).2

theorem exists_startupOrder_eq_ok (application : Application) :
    (∃ order, startupOrder application = .ok order) ↔
      (∀ a b, StartsAfter application.dependencies a b → b ∈ application.names) ∧
        ∀ a, ¬ Relation.TransGen (StartsAfter application.dependencies) a a := by
  have hnodup := application.map_fst_dependencies ▸ application.nodup_names
  constructor
  · rintro ⟨order, h⟩
    refine ⟨(startupOrder_eq_ok.mp h).1.1, fun a hcycle => ?_⟩
    exact lt_irrefl _ ((rounds_of_startupOrder h).idxOf_lt_of_transGen hnodup hcycle)
  · rintro ⟨hclosed, hacyclic⟩
    obtain ⟨order, h⟩ := exists_startupRounds_eq_ok hnodup
      (by simp [Application.dependencies] : _ ≤ application.instances.length) (by simpa [Application.map_fst_dependencies]) hacyclic
    exact ⟨order, startupOrder_eq_ok.mpr ⟨⟨hclosed, fun a h => hacyclic a (.single h)⟩, h⟩⟩

/-- The order, or the text of the error, depends on the set of the instances and on the relation. -/
theorem startupOrder_congr {application other : Application}
    (hnames : ∀ a, a ∈ other.names ↔ a ∈ application.names)
    (hafter : ∀ a b, StartsAfter other.dependencies a b ↔
      StartsAfter application.dependencies a b) :
    startupOrder other = startupOrder application := by
  have heq := Application.names_eq hnames
  have hlength : other.instances.length = application.instances.length := by
    simpa [Application.names] using congrArg List.length heq
  have hforall : List.Forall₂ (fun item other => item.name = other.name ∧
      ∀ b, b ∈ item.startupAfter ↔ b ∈ other.startupAfter) other.instances
        application.instances := by
    have hname : List.Forall₂ (fun item other : Instance => item.name = other.name)
        other.instances application.instances := by
      rw [← List.forall₂_eq_eq_eq] at heq
      simpa only [Application.names, List.forall₂_map_left_iff, List.forall₂_map_right_iff] using heq
    refine List.forall₂_iff_zip.mpr ⟨hlength, fun {item item'} hmem => ?_⟩
    obtain ⟨hitem, hitem'⟩ := of_mem_zip hmem
    have hname := (List.forall₂_iff_zip.mp hname).2 hmem
    refine ⟨hname, fun b => ?_⟩
    rw [← Application.startsAfter_name_iff hitem, hafter, hname,
      Application.startsAfter_name_iff hitem']
  have hsame : SameDependencies other.dependencies application.dependencies :=
    ⟨other.map_fst_dependencies ▸ other.nodup_names,
      application.map_fst_dependencies ▸ application.nodup_names, by
        simpa only [Application.map_fst_dependencies] using hnames, hafter⟩
  rw [startupOrder_eq, startupOrder_eq, heq, forM_checkStartup_congr _ hforall, hlength,
    hsame.startupRounds_eq]

/-! ## Deployments -/

/-- The instances of a node are in the order of start-up. -/
theorem pairwise_of_lockNode {deployment : Deployment} {graph : ApplicationGraph}
    {nodeIds : List (String × Nat)} {capabilities : List (String × List CapabilityBinding)}
    {routes : List Route} {executors : List ExecutorLock} {node : Node} {nodeLock : NodeLock}
    (h : deployment.lockNode graph nodeIds capabilities routes executors node = .ok nodeLock) :
    nodeLock.instances.Pairwise fun a b =>
      graph.startupOrder.idxOf a ≤ graph.startupOrder.idxOf b := by
  unfold lockNode at h
  obtain ⟨host, -, h⟩ := bind_eq_ok.mp h
  obtain ⟨id, -, h⟩ := bind_eq_ok.mp h
  obtain ⟨runtime, -, h⟩ := bind_eq_ok.mp h
  obtain rfl := pure_eq_ok.mp h
  have : Std.Total fun a b => graph.startupOrder.idxOf a ≤ graph.startupOrder.idxOf b :=
    ⟨fun _ _ => Nat.le_total _ _⟩
  have : IsTrans String fun a b => graph.startupOrder.idxOf a ≤ graph.startupOrder.idxOf b :=
    ⟨fun _ _ _ => Nat.le_trans⟩
  exact pairwise_insertionSort _ node.instances

/-- The instances of a locked node are those of a node of the deployment, and none comes before
    another that it must start after. -/
theorem Resolution.startup {digest : String → String} {packages : List Package}
    {deployment : Deployment} {release : Bool} {lock : DeploymentLock}
    (r : Resolution digest packages application deployment release lock) {nodeLock : NodeLock}
    (hnode : nodeLock ∈ lock.nodes) :
    ∃ node ∈ deployment.nodes, nodeLock.name = node.name ∧
      nodeLock.instances.Perm node.instances ∧
      nodeLock.instances.Pairwise fun a b => ¬ StartsAfter application.dependencies a b := by
  obtain ⟨⟨node, executors⟩, hzip, h⟩ := exists_of_mem_mapM r.locked hnode
  have hlocked := lockedFrom_of_lockNode h
  obtain ⟨c⟩ := exists_compilation r.compiled
  refine ⟨node, (of_mem_zip hzip).1, hlocked.name, hlocked.instances, ?_⟩
  refine (pairwise_of_lockNode h).imp fun hle hab => ?_
  have hnodup := application.map_fst_dependencies ▸ application.nodup_names
  exact Nat.not_lt.mpr hle ((rounds_of_startupOrder c.ordered).idxOf_lt hnodup hab)

/-- `_startup_order` succeeds if and only if every name is known and the relation has no cycle.
    Its result has every instance once, after those that it must start after, and depends on
    nothing but the set of the instances and the relation.  The nodes of a deployment keep to it. -/
theorem startup_order (application : Application) :
    ((∃ order, startupOrder application = .ok order) ↔
        (∀ a b, StartsAfter application.dependencies a b → b ∈ application.names) ∧
          ∀ a, ¬ Relation.TransGen (StartsAfter application.dependencies) a a) ∧
      (∀ order, startupOrder application = .ok order →
        order.Perm application.names ∧
          ∀ a b, StartsAfter application.dependencies a b → order.idxOf b < order.idxOf a) ∧
      (∀ other : Application, (∀ a, a ∈ other.names ↔ a ∈ application.names) →
        (∀ a b, StartsAfter other.dependencies a b ↔ StartsAfter application.dependencies a b) →
        startupOrder other = startupOrder application) ∧
      ∀ digest packages deployment release lock,
        resolveDeployment digest packages application deployment release = .ok lock →
        ∀ nodeLock ∈ lock.nodes, ∃ node ∈ deployment.nodes, nodeLock.name = node.name ∧
          nodeLock.instances.Perm node.instances ∧
          nodeLock.instances.Pairwise fun a b => ¬ StartsAfter application.dependencies a b := by
  have hnodup := application.map_fst_dependencies ▸ application.nodup_names
  refine ⟨exists_startupOrder_eq_ok application, fun order h => ?_, fun other => startupOrder_congr,
    fun digest packages deployment release lock h nodeLock hnode => ?_⟩
  · have hrounds := rounds_of_startupOrder h
    exact ⟨application.map_fst_dependencies ▸ hrounds.perm hnodup,
      fun a b hab => hrounds.idxOf_lt hnodup hab⟩
  · obtain ⟨r⟩ := exists_resolution h
    exact r.startup hnode

end AsterCtrl.Cli
