import AsterCtrl.ForStd.Run
import AsterCtrl.Native.Linux.ThreadExecutor
import AsterCtrl.Native.Zephyr.ThreadExecutor

/-!
# Timestamps on Zephyr

The thread of the Zephyr executor takes items in the order in which they were posted and waits for
the time of each before it looks at the next.  As long as no item is posted with an earlier time
than one that is still to be run, this is the order of time and admission in which `NextIndex`
selects items on Linux.  Otherwise an item that is due waits behind one that is not.

## Key results

- `nextIndex_eq_zero`: what `NextIndex` selects from items in the order of their times
- `honours_of_inOrder`: the executor honours timestamps if they are posted in order
- `waits_with_due_item`: an item that waits behind another
-/

namespace AsterCtrl.Zephyr

open List ThreadExecutor

variable {ω : Type}

/-- An executor and the time. -/
structure TimedExecutor (ω : Type) where
  executor : ThreadExecutor ω
  nowNs : UInt64 := 0
deriving DecidableEq, Repr

inductive ExecutorAction (ω : Type) where
  /-- The clock shows another time. -/
  | tick (nowNs : UInt64)
  | prepare (threadCreated : Bool)
  | activate
  | tryPostAt (timestampNs : UInt64) (work : Option ω)
  | worker
  | quiesce
  | purge
  | putStop
  | giveRunGate
  | giveDelayGate
  | joined

/-- The entry that the thread has got and that is not known to be due. -/
def Worker.held : Worker ω → Option (Entry ω)
  | .got entry | .checked entry | .waiting entry => some entry
  | _ => none

/-- The entries that are still to be run, in the order in which they will be. -/
def ThreadExecutor.pending (e : ThreadExecutor ω) : List (Entry ω) :=
  e.worker.held.toList ++ e.queue

/-- The slots of a Linux executor to which the same entries were posted. -/
def linuxQueue (entries : List (Entry ω)) : List (Linux.Entry ω) :=
  entries.mapIdx fun index entry => ⟨entry.timestampNs, UInt64.ofNat index, entry.work, true⟩

/-- The first of two items does not have the later time. -/
def InOrder (first second : Entry ω) : Prop :=
  first.work.isSome = true → second.work.isSome = true → first.timestampNs ≤ second.timestampNs

instance (first second : Entry ω) : Decidable (InOrder first second) :=
  inferInstanceAs (Decidable (_ → _ → _))

/-- If items are in the order of their times, `NextIndex` selects the first. -/
theorem nextIndex_eq_zero {entry : Entry ω} {queue : List (Entry ω)}
    (hwork : entry.work.isSome = true) (horder : ∀ other ∈ queue, InOrder entry other) :
    Linux.ThreadExecutor.nextIndex (linuxQueue (entry :: queue)) = 0 := by
  have hfirst : (linuxQueue (entry :: queue))[0]? =
      some ⟨entry.timestampNs, 0, entry.work, true⟩ := by
    simp [linuxQueue]
  have hready : (⟨entry.timestampNs, 0, entry.work, true⟩ : Linux.Entry ω).ready = true := by
    simp [Linux.Entry.ready, hwork]
  have hrounds : ∀ count, Linux.ThreadExecutor.nextIndexUpTo (linuxQueue (entry :: queue))
      (count + 1) = 0 := by
    intro count
    induction count with
    | zero =>
      unfold Linux.ThreadExecutor.nextIndexUpTo
      simp [hfirst, hready, Linux.ThreadExecutor.nextIndexUpTo]
    | succ count ih =>
      unfold Linux.ThreadExecutor.nextIndexUpTo
      rw [ih]
      dsimp only
      rw [hfirst]
      dsimp only
      split
      · rfl
      · rename_i other hother
        split_ifs with hnot hless
        · rfl
        · -- The item behind would have to be earlier, or not have been posted later.
          simp only [linuxQueue, List.getElem?_mapIdx, List.getElem?_cons_succ,
            Option.map_eq_some_iff] at hother
          obtain ⟨later, hlater, rfl⟩ := hother
          rw [Bool.not_eq_false, Linux.Entry.ready, decide_eq_true_eq] at hnot
          have hle := horder later (mem_of_getElem? hlater) hwork hnot.1
          simp only [Linux.Entry.precedes, decide_eq_true_eq] at hless
          rcases hless with hlt | ⟨-, hlt⟩
          · rw [UInt64.lt_iff_toNat_lt] at hlt
            rw [UInt64.le_iff_toNat_le] at hle
            omega
          · rw [UInt64.lt_iff_toNat_lt] at hlt
            exact absurd hlt (Nat.not_lt_zero _)
        · rfl
  have hlength : (linuxQueue (entry :: queue)).length = queue.length + 1 := by
    simp [linuxQueue]
  rw [Linux.ThreadExecutor.nextIndex, hlength]
  exact hrounds queue.length

namespace TimedExecutor

/-- One action; the calls of `Shutdown` come after its first section. -/
def step (s : TimedExecutor ω) : ExecutorAction ω → TimedExecutor ω
  | .tick nowNs => { s with nowNs := nowNs }
  | .prepare threadCreated => { s with executor := (s.executor.prepare threadCreated).2 }
  | .activate => { s with executor := s.executor.activate.2 }
  | .tryPostAt timestampNs work =>
    { s with executor := (s.executor.tryPostAt timestampNs work).2 }
  | .worker => { s with executor := s.executor.workerStep s.nowNs }
  | .quiesce => { s with executor := s.executor.quiesce }
  | .purge => if s.executor.state = .quiescing then { s with executor := s.executor.purge } else s
  | .putStop =>
    if s.executor.state = .quiescing then { s with executor := s.executor.putStop } else s
  | .giveRunGate =>
    if s.executor.state = .quiescing then { s with executor := s.executor.giveRunGate } else s
  | .giveDelayGate =>
    if s.executor.state = .quiescing then { s with executor := s.executor.giveDelayGate } else s
  | .joined => { s with executor := s.executor.joined }

/-- The executor honours timestamps: while its thread waits for the time of an item, no other item
    is due, and the item that it has got or gets next is the one that `NextIndex` would select. -/
structure Honours (s : TimedExecutor ω) : Prop where
  waiting : ∀ entry, s.executor.worker = .waiting entry → s.nowNs < entry.timestampNs →
    ∀ other ∈ s.executor.queue, other.work.isSome = true → s.nowNs < other.timestampNs
  next : ∀ entry queue, s.executor.pending = entry :: queue → entry.work.isSome = true →
    Linux.ThreadExecutor.nextIndex (linuxQueue s.executor.pending) = 0

/-- The action does not post an item with an earlier time than one that is still to be run. -/
def PostsInOrder (s : TimedExecutor ω) : ExecutorAction ω → Prop
  | .tryPostAt timestampNs work =>
    (s.executor.tryPostAt timestampNs work).1 = .ok →
      ∀ entry ∈ s.executor.pending, InOrder entry ⟨timestampNs, work⟩
  | _ => True

instance (s : TimedExecutor ω) (a : ExecutorAction ω) : Decidable (PostsInOrder s a) :=
  match a with
  | .tryPostAt _ _ => inferInstanceAs (Decidable (_ → _))
  | .tick _ | .prepare _ | .activate | .worker | .quiesce | .purge | .putStop | .giveRunGate
  | .giveDelayGate | .joined => isTrue trivial

/-- The items still to be run are in the order of their times. -/
structure Sorted (e : ThreadExecutor ω) : Prop where
  pairwise : e.pending.Pairwise InOrder
  isSome : ∀ entry, e.worker = .checked entry ∨ e.worker = .waiting entry →
    entry.work.isSome = true

/-- The thread does not change what the items are, but it may take the first. -/
theorem Sorted.workerStep {e : ThreadExecutor ω} (hs : Sorted e) (nowNs : UInt64) :
    Sorted (e.workerStep nowNs) := by
  have hpairwise := hs.pairwise
  have hisSome := hs.isSome
  unfold pending at hpairwise
  unfold ThreadExecutor.workerStep
  split <;> rename_i hworker <;> rw [hworker] at hpairwise hisSome
  · exact hs
  · exact hs
  · -- gated
    split
    · exact ⟨hpairwise, nofun⟩
    · exact hs
  · -- idle: the head of the queue becomes the entry that the thread has got
    split
    · exact hs
    · rename_i entry queue hqueue
      rw [hqueue] at hpairwise
      exact ⟨hpairwise, nofun⟩
  · -- got
    rename_i entry
    split_ifs with hstop
    · exact ⟨hpairwise.of_cons, nofun⟩
    · refine ⟨hpairwise, fun other hother => ?_⟩
      obtain rfl : entry = other := by simpa using hother
      simpa [Option.isSome_iff_ne_none] using (not_or.mp hstop).1
  · -- checked
    rename_i entry
    split_ifs
    · refine ⟨hpairwise, fun other hother => ?_⟩
      obtain rfl : entry = other := by simpa using hother
      exact hisSome entry (.inl rfl)
    · exact ⟨hpairwise.of_cons, nofun⟩
  · -- waiting
    split_ifs
    · exact ⟨hpairwise.of_cons, nofun⟩
    · exact hs
    · exact ⟨hpairwise.of_cons, nofun⟩
    · exact ⟨hpairwise.of_cons, nofun⟩
  · -- due
    split_ifs
    · exact ⟨hpairwise, nofun⟩
    · exact ⟨hpairwise, nofun⟩
  · exact ⟨hpairwise, nofun⟩

/-- An entry comes in behind the others. -/
theorem Sorted.append {e : ThreadExecutor ω} (hs : Sorted e) {entry : Entry ω}
    (horder : ∀ other ∈ e.pending, InOrder other entry) :
    Sorted { e with queue := e.queue ++ [entry] } := by
  refine ⟨?_, hs.isSome⟩
  show (e.worker.held.toList ++ (e.queue ++ [entry])).Pairwise InOrder
  rw [← append_assoc, pairwise_append]
  exact ⟨hs.pairwise, pairwise_singleton _ _, fun other hother last hlast => by
    rw [mem_singleton.mp hlast]
    exact horder other hother⟩

theorem Sorted.construct (name : String) (hasStack : Bool) (capacity : Nat) :
    Sorted ({ name := name, hasStack := hasStack, capacity := capacity } : ThreadExecutor ω) where
  pairwise := List.Pairwise.nil
  isSome _ hworker := hworker.elim nofun nofun

/-- Every action keeps the items sorted as long as they are posted in order. -/
theorem Sorted.step {s : TimedExecutor ω} (hs : Sorted s.executor) {a : ExecutorAction ω}
    (hposts : PostsInOrder s a) : Sorted (s.step a).executor := by
  cases a with
  | tick nowNs => exact hs
  | worker => exact hs.workerStep s.nowNs
  | prepare threadCreated =>
    simp only [TimedExecutor.step, prepare]
    split_ifs with hname hstate
    · exact hs
    · exact hs
    · exact ⟨hs.pairwise.sublist (sublist_append_right _ _), nofun⟩
    · exact ⟨hs.pairwise, hs.isSome⟩
  | activate =>
    simp only [TimedExecutor.step, activate]
    split_ifs
    · exact hs
    · exact ⟨hs.pairwise, hs.isSome⟩
  | tryPostAt timestampNs work =>
    simp only [TimedExecutor.step]
    simp only [PostsInOrder] at hposts
    unfold tryPostAt at hposts ⊢
    split_ifs at hposts ⊢
    · exact hs
    · exact hs
    · exact hs.append (hposts rfl)
    · exact hs
  | quiesce =>
    simp only [TimedExecutor.step, quiesce]
    split <;> exact ⟨hs.pairwise, hs.isSome⟩
  | purge =>
    simp only [TimedExecutor.step]
    split_ifs
    · refine ⟨hs.pairwise.sublist ?_, hs.isSome⟩
      exact (List.Sublist.refl _).append (nil_sublist _)
    · exact hs
  | putStop =>
    simp only [TimedExecutor.step, putStop]
    split_ifs
    · exact hs.append fun other _ _ => nofun
    · exact hs
    · exact hs
  | giveRunGate =>
    simp only [TimedExecutor.step]
    split_ifs
    · exact ⟨hs.pairwise, hs.isSome⟩
    · exact hs
  | giveDelayGate =>
    simp only [TimedExecutor.step]
    split_ifs
    · exact ⟨hs.pairwise, hs.isSome⟩
    · exact hs
  | joined =>
    simp only [TimedExecutor.step, joined]
    split_ifs
    · exact ⟨hs.pairwise, hs.isSome⟩
    · exact hs

/-- Sorted items are run in the order of their times. -/
theorem Sorted.honours {s : TimedExecutor ω} (hs : Sorted s.executor) : Honours s where
  waiting entry hwaiting hnow other hother hwork := by
    have hpairwise := hs.pairwise
    rw [pending, hwaiting] at hpairwise
    have hle := (pairwise_cons.mp hpairwise).1 other hother
      (hs.isSome entry (.inr hwaiting)) hwork
    rw [UInt64.lt_iff_toNat_lt] at hnow ⊢
    exact Nat.lt_of_lt_of_le hnow (UInt64.le_iff_toNat_le.mp hle)
  next entry queue hpending hwork := by
    have hpairwise := hs.pairwise
    rw [hpending] at hpairwise ⊢
    exact nextIndex_eq_zero hwork (pairwise_cons.mp hpairwise).1

/-- In every run in which no item is posted with an earlier time than one that is still to be run,
    and with any clock, the executor honours timestamps. -/
theorem honours_of_inOrder (name : String) (hasStack : Bool) (capacity : Nat) (nowNs : UInt64)
    (as : List (ExecutorAction ω))
    (hposts : Machine.Along step PostsInOrder
      ⟨{ name := name, hasStack := hasStack, capacity := capacity }, nowNs⟩ as) :
    Honours (Machine.run step
      ⟨{ name := name, hasStack := hasStack, capacity := capacity }, nowNs⟩ as) :=
  (Machine.run_invariant_along step (I := fun s : TimedExecutor ω => Sorted s.executor)
    (fun _ _ hs hposts => hs.step hposts) (.construct name hasStack capacity) hposts).honours

/-- Items that are posted with the time of the clock, and one with a later time behind them. -/
theorem honours_of_inOrder_delayed :
    let as : List (ExecutorAction Nat) := [.prepare true, .tryPostAt 0 (some 1), .activate,
      .tick 3, .tryPostAt 3 (some 2), .tryPostAt 90 (some 3), .worker, .worker]
    Honours (Machine.run step ⟨{ name := "control", capacity := 4 }, 0⟩ as) :=
  honours_of_inOrder "control" true 4 0 _ (by decide)

/-- An item is posted with a later time and then one that is due at once: the thread waits for the
    first while the second is due, and `NextIndex` would have selected the second. -/
theorem waits_with_due_item :
    let as : List (ExecutorAction Nat) := [.prepare true, .activate, .tryPostAt 90 (some 1),
      .tryPostAt 0 (some 2), .worker, .worker, .worker, .worker, .tick 5]
    let s := Machine.run step ⟨{ name := "control", capacity := 4 }, 0⟩ as
    s.executor.worker = .waiting ⟨90, some 1⟩ ∧ s.nowNs < 90 ∧
      s.executor.queue = [⟨0, some 2⟩] ∧ (0 : UInt64) ≤ s.nowNs ∧
      Linux.ThreadExecutor.nextIndex (linuxQueue s.executor.pending) = 1 := by
  decide

end TimedExecutor

end AsterCtrl.Zephyr
