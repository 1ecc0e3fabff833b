import Mathlib.Data.Prod.Lex
import AsterCtrl.ForStd.Slots
import AsterCtrl.Native.Linux.ThreadExecutor

/-!
# What the operations of the Linux executor do

Seen from outside, the queue of a `ThreadExecutor` is the multiset of the entries in its occupied
slots.  Each operation either leaves it as it is or adds, changes or removes one entry, and a
worker removes the least armed one.  Nothing above this file looks at the slots.

## Key results

- `enqueue_cases`, `scheduleReserved_cases`, `cancelReserved_cases`: the outcomes of the operations
- `taken_of_take`: what a worker takes
-/

namespace AsterCtrl.Linux

variable {ω : Type}

namespace Entry

/-- Entries are taken in this order. -/
def key (entry : Entry ω) : ℕ ×ₗ ℕ := toLex (entry.timestampNs.toNat, entry.sequence.toNat)

theorem precedes_iff (left right : Entry ω) :
    left.precedes right = true ↔ left.key < right.key := by
  simp only [precedes, key, decide_eq_true_eq, Prod.Lex.toLex_lt_toLex, UInt64.lt_iff_toNat_lt,
    UInt64.toNat_inj]

end Entry

namespace ThreadExecutor

variable (e : ThreadExecutor ω)

/-- The entries in the queue. -/
def stored : Multiset (Entry ω) :=
  Slots.stored (fun entry => entry.work.isSome) e.queue

@[simp] theorem stored_construct (name : String) (queueDepth threads : Nat) :
    (construct name queueDepth threads : ThreadExecutor ω).stored = 0 := by
  rw [stored, construct, Slots.stored, List.filter_eq_nil_iff.mpr]
  · rfl
  · intro entry hentry
    rw [List.eq_of_mem_replicate hentry]
    exact Bool.false_ne_true

/-! ## Adding -/

/-- An entry has been put into a free slot. -/
structure Admitted (e : ThreadExecutor ω) (entry : Entry ω) (e' : ThreadExecutor ω) : Prop where
  accepting : e.accepting = true
  room : e.size ≠ e.queue.length
  isSome : entry.work.isSome = true
  sequence : entry.sequence = e.nextSequence
  stored : e'.stored = entry ::ₘ e.stored
  changed : ∃ index old, e.queue[index]? = some old ∧ old.work = none ∧
    e' = { e with
      queue := e.queue.set index entry
      size := e.size + 1
      nextSequence := e.nextSequence + 1 }

/-- The counter says how many slots are occupied. -/
def Counted : Prop :=
  e.accepting = true → e.size = Multiset.card e.stored

/-- The outcomes of `Enqueue`. -/
inductive Enqueued (e : ThreadExecutor ω) (entry : Entry ω) :
    Status × Option UInt64 × ThreadExecutor ω → Prop where
  | refused {status : Status} (h : status ≠ .ok) : Enqueued e entry (status, none, e)
  /-- The counter says that there is a free slot, but there is none. -/
  | lost (h : ¬ e.Counted) : Enqueued e entry (.ok, none, e)
  | admitted {e' : ThreadExecutor ω} (h : Admitted e entry e') :
    Enqueued e entry (.ok, some e.nextSequence, e')

theorem enqueue_cases (work : Option ω) (timestampNs : UInt64) (armed : Bool) :
    Enqueued e ⟨timestampNs, e.nextSequence, work, armed⟩ (e.enqueue work timestampNs armed) := by
  unfold enqueue
  split_ifs with hwork haccepting hfull
  · exact .refused nofun
  · exact .refused nofun
  · exact .refused nofun
  · rw [Bool.not_eq_false] at haccepting
    rw [Bool.not_eq_true, Option.isNone_eq_false_iff] at hwork
    cases hfind : e.queue.findIdx? fun entry => entry.work.isNone with
    | none =>
      refine .lost fun hcounted => ?_
      obtain ⟨index, old, hindex, -, -⟩ := Slots.exists_free
        (fun heq => hfull ((hcounted haccepting).trans heq))
      simp only [Option.not_isSome, hfind] at hindex
      cases hindex
    | some index =>
      obtain ⟨hlt, hfree, -⟩ := List.findIdx?_eq_some_iff_getElem.mp hfind
      have hold := List.getElem?_eq_getElem hlt
      rw [Option.isNone_iff_eq_none] at hfree
      exact .admitted
        { accepting := haccepting
          room := hfull
          isSome := hwork
          sequence := rfl
          stored := Slots.stored_fill hold (by rw [hfree]; rfl) hwork
          changed := ⟨index, _, hold, hfree, rfl⟩ }

/-- An operation adds an entry or nothing if the counter is right. -/
theorem enqueue_of_counted {e : ThreadExecutor ω} (h : e.Counted) (work : Option ω)
    (timestampNs : UInt64) (armed : Bool) :
    (e.enqueue work timestampNs armed).1 ≠ .ok ∧
        (e.enqueue work timestampNs armed).2 = (none, e) ∨
      (e.enqueue work timestampNs armed).1 = .ok ∧
        (e.enqueue work timestampNs armed).2.1 = some e.nextSequence ∧
        Admitted e ⟨timestampNs, e.nextSequence, work, armed⟩
          (e.enqueue work timestampNs armed).2.2 := by
  generalize hresult : e.enqueue work timestampNs armed = result
  have hcases := e.enqueue_cases work timestampNs armed
  rw [hresult] at hcases
  cases hcases with
  | refused hstatus => exact .inl ⟨hstatus, rfl⟩
  | lost hlost => exact absurd h hlost
  | admitted hadmitted => exact .inr ⟨rfl, rfl, hadmitted⟩

theorem tryPostAt_of_counted {e : ThreadExecutor ω} (h : e.Counted) (timestampNs : UInt64)
    (work : Option ω) (interrupt : Bool) :
    (e.tryPostAt timestampNs work interrupt).1 ≠ .ok ∧
        (e.tryPostAt timestampNs work interrupt).2 = e ∨
      (e.tryPostAt timestampNs work interrupt).1 = .ok ∧
        Admitted e ⟨timestampNs, e.nextSequence, work, true⟩
          (e.tryPostAt timestampNs work interrupt).2 := by
  unfold tryPostAt
  split
  · exact .inl ⟨nofun, rfl⟩
  · rcases enqueue_of_counted h work timestampNs true with ⟨hstatus, heq⟩ | ⟨hstatus, -, hadmitted⟩
    · exact .inl ⟨hstatus, congrArg Prod.snd heq⟩
    · exact .inr ⟨hstatus, hadmitted⟩

/-! ## Changing and removing -/

/-- An entry has been armed, perhaps once more. -/
structure Armed (e : ThreadExecutor ω) (ticket timestampNs : UInt64) (e' : ThreadExecutor ω) :
    Prop where
  accepting : e.accepting = true
  stored : ∃ entry rest, entry.sequence = ticket ∧ e.stored = entry ::ₘ rest ∧
    e'.stored = { entry with timestampNs := timestampNs, armed := true } ::ₘ rest
  changed : ∃ queue, queue.length = e.queue.length ∧ e' = { e with queue := queue }

/-- An entry has been removed. -/
structure Removed (e : ThreadExecutor ω) (entry : Entry ω) (e' : ThreadExecutor ω) : Prop where
  accepting : e.accepting = true
  stored : e.stored = entry ::ₘ e'.stored
  changed : ∃ queue, queue.length = e.queue.length ∧
    e' = { e with queue := queue, size := e.size - 1 }

theorem holds_iff {entry : Entry ω} {ticket : UInt64} :
    entry.holds ticket = true ↔ entry.work.isSome = true ∧ entry.sequence = ticket := by
  rw [Entry.holds, decide_eq_true_iff]

theorem scheduleReserved_cases (ticket timestampNs : UInt64) :
    (e.scheduleReserved ticket timestampNs).1 ≠ .ok ∧
        (e.scheduleReserved ticket timestampNs).2 = e ∨
      (e.scheduleReserved ticket timestampNs).1 = .ok ∧
        Armed e ticket timestampNs (e.scheduleReserved ticket timestampNs).2 := by
  unfold scheduleReserved
  split
  · exact .inl ⟨nofun, rfl⟩
  · rename_i haccepting
    split
    · exact .inl ⟨nofun, rfl⟩
    · rename_i index hfind
      obtain ⟨hlt, hholds, -⟩ := List.findIdx?_eq_some_iff_getElem.mp hfind
      obtain ⟨hsome, hticket⟩ := holds_iff.mp hholds
      have hold := List.getElem?_eq_getElem hlt
      obtain ⟨rest, hrest, hrest'⟩ := Slots.stored_replace
        (fun entry : Entry ω => entry.work.isSome)
        { e.queue[index] with timestampNs := timestampNs, armed := true } {} hold hsome hsome rfl
      refine .inr ⟨rfl, ⟨Bool.not_eq_false _ ▸ haccepting, ⟨_, rest, hticket, hrest, ?_⟩, _,
        List.length_modify .., rfl⟩⟩
      rw [stored, List.modify_eq_set_getElem?, hold]
      exact hrest'

theorem cancelReserved_cases (ticket : UInt64) :
    (e.cancelReserved ticket).1 ≠ .ok ∧ (e.cancelReserved ticket).2 = e ∨
      (e.cancelReserved ticket).1 = .ok ∧
        ∃ entry, entry.sequence = ticket ∧ Removed e entry (e.cancelReserved ticket).2 := by
  unfold cancelReserved
  split
  · exact .inl ⟨nofun, rfl⟩
  · rename_i haccepting
    split
    · exact .inl ⟨nofun, rfl⟩
    · rename_i index hfind
      obtain ⟨hlt, hholds, -⟩ := List.findIdx?_eq_some_iff_getElem.mp hfind
      obtain ⟨hsome, hticket⟩ := holds_iff.mp hholds
      exact .inr ⟨rfl, _, hticket, Bool.not_eq_false _ ▸ haccepting,
        Slots.stored_clear (List.getElem?_eq_getElem hlt) hsome rfl, _, List.length_set, rfl⟩

/-! ## Taking -/

/-- What the loop of `NextIndex` has found in the first `count` slots. -/
theorem nextIndexUpTo_cases (queue : List (Entry ω)) (count : Nat) :
    (nextIndexUpTo queue count = queue.length ∧
        ∀ index < count, ∀ entry, queue[index]? = some entry → entry.ready = false) ∨
      ∃ best, queue[nextIndexUpTo queue count]? = some best ∧ best.ready = true ∧
        ∀ index < count, ∀ entry, queue[index]? = some entry → entry.ready = true →
          best.key ≤ entry.key := by
  induction count with
  | zero => exact .inl ⟨rfl, fun index hindex => absurd hindex (Nat.not_lt_zero _)⟩
  | succ count ih =>
    have hlast : ∀ {P : Entry ω → Prop},
        (∀ index < count, ∀ entry, queue[index]? = some entry → P entry) →
        (∀ entry, queue[count]? = some entry → P entry) →
        ∀ index < count + 1, ∀ entry, queue[index]? = some entry → P entry := by
      intro P hbefore hat index hindex entry hentry
      rcases Nat.lt_succ_iff_lt_or_eq.mp hindex with hlt | rfl
      · exact hbefore index hlt entry hentry
      · exact hat entry hentry
    unfold nextIndexUpTo
    dsimp only
    cases hslot : queue[count]? with
    | none =>
      -- There is no such slot.
      dsimp only
      refine ih.imp (fun ⟨hresult, hnone⟩ => ⟨hresult, hlast hnone ?_⟩)
        (fun ⟨best, hbest, hready, hleast⟩ => ⟨best, hbest, hready, hlast hleast ?_⟩)
      all_goals exact fun entry hentry => nomatch hslot.symm.trans hentry
    | some current =>
      dsimp only
      by_cases hcurrent : current.ready = false
      · rw [if_pos hcurrent]
        refine ih.imp (fun ⟨hresult, hnone⟩ => ⟨hresult, hlast hnone ?_⟩)
          (fun ⟨best, hbest, hready, hleast⟩ => ⟨best, hbest, hready, hlast hleast ?_⟩)
        all_goals
          intro entry hentry
          obtain rfl := Option.some.inj (hslot.symm.trans hentry)
        · exact hcurrent
        · exact fun hready => nomatch hcurrent.symm.trans hready
      rw [if_neg hcurrent]
      rw [Bool.not_eq_false] at hcurrent
      right
      rcases ih with ⟨hresult, hnone⟩ | ⟨best, hbest, hready, hleast⟩
      · rw [hresult, List.getElem?_eq_none (Nat.le_refl _)]
        refine ⟨current, hslot, hcurrent, hlast (fun index hindex entry hentry hready => ?_) ?_⟩
        · exact nomatch (hnone index hindex entry hentry).symm.trans hready
        · intro entry hentry _
          rw [Option.some.inj (hslot.symm.trans hentry)]
      · rw [hbest]
        dsimp only
        by_cases hless : current.precedes best = true
        · rw [if_pos hless]
          rw [Entry.precedes_iff] at hless
          refine ⟨current, hslot, hcurrent, hlast (fun index hindex entry hentry hother => ?_) ?_⟩
          · exact hless.le.trans (hleast index hindex entry hentry hother)
          · intro entry hentry _
            rw [Option.some.inj (hslot.symm.trans hentry)]
        · rw [if_neg hless]
          rw [Entry.precedes_iff, not_lt] at hless
          refine ⟨best, hbest, hready, hlast hleast ?_⟩
          intro entry hentry _
          rwa [← Option.some.inj (hslot.symm.trans hentry)]

/-- A worker has taken the least of the armed entries, and its time has come. -/
structure Taken (e : ThreadExecutor ω) (nowNs : UInt64) (entry : Entry ω)
    (e' : ThreadExecutor ω) : Prop extends Removed e entry e' where
  running : e.state = .running
  armed : entry.armed = true
  due : entry.timestampNs ≤ nowNs
  least : ∀ other ∈ e.stored, other.armed = true → entry.key ≤ other.key

theorem ready_iff {entry : Entry ω} :
    entry.ready = true ↔ entry.work.isSome = true ∧ entry.armed = true := by
  rw [Entry.ready, decide_eq_true_iff]

theorem taken_of_take {e e' : ThreadExecutor ω} {nowNs : UInt64} {entry : Entry ω}
    (h : e.take nowNs = some (entry, e')) : Taken e nowNs entry e' := by
  unfold take at h
  by_cases hrunning : e.state ≠ .running
  · rw [if_pos hrunning] at h
    cases h
  rw [if_neg hrunning] at h
  dsimp only at h
  split at h
  · cases h
  · rename_i chosen hchosen
    by_cases hlate : chosen.timestampNs > nowNs
    · rw [if_pos hlate] at h
      cases h
    rw [if_neg hlate] at h
    obtain ⟨rfl, rfl⟩ := Prod.mk.inj (Option.some.inj h)
    have hstate := Decidable.not_not.mp hrunning
    rcases nextIndexUpTo_cases e.queue e.queue.length with
      ⟨hresult, -⟩ | ⟨best, hbest, hready, hleast⟩
    · rw [nextIndex, hresult, List.getElem?_eq_none (Nat.le_refl _)] at hchosen
      cases hchosen
    · obtain rfl := Option.some.inj (hchosen.symm.trans hbest)
      obtain ⟨hsome, harmed⟩ := ready_iff.mp hready
      exact
        { accepting := by rw [accepting, hstate]; rfl
          stored := Slots.stored_clear hchosen hsome rfl
          changed := ⟨_, List.length_set, rfl⟩
          running := hstate
          armed := harmed
          due := by
            rw [UInt64.le_iff_toNat_le]
            exact Nat.not_lt.mp fun hlt => hlate (UInt64.lt_iff_toNat_lt.mpr hlt)
          least := by
            intro other hother hotherArmed
            obtain ⟨hmem, hotherSome⟩ := Slots.mem_stored.mp hother
            obtain ⟨index, hlt, hget⟩ := List.getElem_of_mem hmem
            exact hleast index hlt other (List.getElem?_eq_some_iff.mpr ⟨hlt, hget⟩)
              (ready_iff.mpr ⟨hotherSome, hotherArmed⟩) }

end ThreadExecutor

end AsterCtrl.Linux
