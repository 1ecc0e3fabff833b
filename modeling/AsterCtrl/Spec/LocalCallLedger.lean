import AsterCtrl.Native.LocalCalls
import Mathlib.Data.Fintype.Card

/-!
# Slots and frames of calls

Whoever has a pointer to a slot of `pending_` is one of the frames of the system: a `CallAsync` that
is posting, a work item of the executor or a handler that is running.  Each slot in use belongs to
one frame (`Slots`), and each call that was accepted is completed or has one frame (`Ledger`).  Both
are kept when a frame comes, goes or gets on, which is all that the steps of the system do to them.

## Key results

- `LocalCalls.Slots.add`, `.keep`, `.remove`: a frame comes, stays or goes
- `Ledger.of_accepted`, `Ledger.of_rejected`: what became of a call
-/

namespace AsterCtrl

open List CallFrame CallEvent

variable {η κ σ : Type} {maxServices maxRequest maxResponse maxPending : Nat}

/-! ## Slots -/

namespace LocalCalls

variable {rpc rpc' : LocalCalls η κ σ maxServices maxRequest maxResponse maxPending}
  {frames frames' front back : List (CallFrame maxResponse maxPending)}
  {frame : CallFrame maxResponse maxPending} {slot other : Fin maxPending}

/-- The slots in use are those of the frames, and every frame has its own. -/
structure Slots
    (rpc : LocalCalls η κ σ maxServices maxRequest maxResponse maxPending)
    (frames : List (CallFrame maxResponse maxPending)) : Prop where
  nodup : (frames.map CallFrame.slot).Nodup
  inUse_iff : ∀ slot, (rpc.pending slot).inUse = true ↔ slot ∈ frames.map CallFrame.slot
  count : rpc.pendingCount = frames.length

theorem Slots.card (h : Slots rpc frames) :
    rpc.pendingCount = (Finset.univ.filter fun slot => (rpc.pending slot).inUse = true).card := by
  have hset : (Finset.univ.filter fun slot => (rpc.pending slot).inUse = true) =
      (frames.map slot).toFinset := by
    ext slot
    rw [Finset.mem_filter, h.inUse_iff, mem_toFinset]
    exact and_iff_right (Finset.mem_univ slot)
  rw [hset, toFinset_card_of_nodup h.nodup, length_map, h.count]

theorem Slots.add (h : Slots rpc frames) (hframe : frame.slot ∉ frames.map CallFrame.slot)
    (hinUse : ∀ slot, (rpc'.pending slot).inUse = true ↔
      slot = frame.slot ∨ (rpc.pending slot).inUse = true)
    (hcount : rpc'.pendingCount = rpc.pendingCount + 1) : Slots rpc' (frames ++ [frame]) where
  nodup := by
    rw [map_append, map_singleton, nodup_append]
    refine ⟨h.nodup, nodup_singleton _, fun a ha b hb => ?_⟩
    rintro rfl
    rw [mem_singleton] at hb
    exact hframe (hb ▸ ha)
  inUse_iff slot := by
    rw [hinUse, h.inUse_iff, map_append, map_singleton, mem_append, mem_singleton, or_comm]
  count := by rw [hcount, h.count, length_append, length_singleton]

theorem Slots.keep (h : Slots rpc frames)
    (hinUse : ∀ slot, (rpc'.pending slot).inUse = (rpc.pending slot).inUse)
    (hcount : rpc'.pendingCount = rpc.pendingCount)
    (hframes : frames'.map CallFrame.slot = frames.map CallFrame.slot) : Slots rpc' frames' where
  nodup := hframes ▸ h.nodup
  inUse_iff slot := by rw [hinUse, h.inUse_iff, hframes]
  count := by rw [hcount, h.count, ← length_map slot, ← hframes, length_map]

theorem Slots.slot_notMem (h : Slots rpc (front ++ frame :: back)) :
    frame.slot ∉ (front ++ back).map CallFrame.slot := by
  have hnodup := h.nodup
  rw [map_append, map_cons, nodup_middle, nodup_cons] at hnodup
  rw [map_append]
  exact hnodup.1

theorem Slots.remove (h : Slots rpc (front ++ frame :: back))
    (hinUse : ∀ slot, (rpc'.pending slot).inUse = true ↔
      slot ≠ frame.slot ∧ (rpc.pending slot).inUse = true)
    (hcount : rpc'.pendingCount = rpc.pendingCount - 1) : Slots rpc' (front ++ back) where
  nodup := by
    have hnodup := h.nodup
    rw [map_append, map_cons, nodup_middle, nodup_cons] at hnodup
    rw [map_append]
    exact hnodup.2
  inUse_iff slot := by
    have hnot := h.slot_notMem
    rw [hinUse, h.inUse_iff, map_append, map_append, map_cons]
    rw [map_append] at hnot
    simp only [mem_append, mem_cons] at hnot ⊢
    constructor
    · rintro ⟨hne, hfront | heq | hback⟩
      · exact .inl hfront
      · exact absurd heq hne
      · exact .inr hback
    · intro hmem
      refine ⟨fun heq => hnot (heq ▸ hmem), hmem.imp_right .inr⟩
  count := by
    rw [hcount, h.count, length_append, length_append, length_cons]
    omega

theorem freeSlot_eq_some (h : rpc.freeSlot = some slot) : (rpc.pending slot).inUse = false := by
  simpa using List.find?_some h

/-! ## What is done to a slot -/

theorem pending_setPending_of_ne (call : PendingCall κ σ maxRequest maxResponse)
    (h : other ≠ slot) : (rpc.setPending slot call).pending other = rpc.pending other :=
  Function.update_of_ne h _ _

theorem pending_setPending_self (call : PendingCall κ σ maxRequest maxResponse) :
    (rpc.setPending slot call).pending slot = call :=
  Function.update_self _ _ _

theorem pending_release_of_ne (h : other ≠ slot) :
    (rpc.release slot).pending other = rpc.pending other :=
  pending_setPending_of_ne _ h

theorem inUse_release (other : Fin maxPending) :
    ((rpc.release slot).pending other).inUse = true ↔
      other ≠ slot ∧ (rpc.pending other).inUse = true := by
  by_cases h : other = slot
  · subst h
    have hself : ((rpc.release other).pending other).inUse = false :=
      congrArg PendingCall.inUse (pending_setPending_self _)
    simp [hself]
  · rw [pending_release_of_ne h]
    exact (and_iff_right h).symm

theorem Slots.release (h : Slots rpc (front ++ frame :: back))
    (hpending : rpc'.pending = (rpc.release frame.slot).pending)
    (hcount : rpc'.pendingCount = (rpc.release frame.slot).pendingCount) :
    Slots rpc' (front ++ back) :=
  h.remove (fun slot => by rw [hpending, inUse_release]) hcount

end LocalCalls

/-! ## Accepted and completed calls -/

namespace CallEvent

def isAccepted (call : Nat) : CallEvent η κ σ maxResponse → Bool
  | .accepted number => number = call
  | _ => false

def isRejected (call : Nat) : CallEvent η κ σ maxResponse → Bool
  | .rejected number _ => number = call
  | _ => false

def isCompleted (call : Nat) : CallEvent η κ σ maxResponse → Bool
  | .completed number _ => number = call
  | _ => false

end CallEvent

namespace CallFrame

/-- A frame of a call that has not been accepted yet. -/
def isPosting (call : Nat) (frame : CallFrame maxResponse maxPending) : Bool :=
  frame.call = call ∧ frame.phase = .posting

/-- A frame of a call that has been accepted. -/
def isUnderWay (call : Nat) (frame : CallFrame maxResponse maxPending) : Bool :=
  frame.call = call ∧ frame.phase ≠ .posting

end CallFrame

/-- Each of the first `calls` calls is accepted, rejected or being posted, and each accepted one is
    completed or under way. -/
structure Ledger (frames : List (CallFrame maxResponse maxPending))
    (history : List (CallEvent η κ σ maxResponse)) (calls : Nat) : Prop where
  answered : ∀ call, history.countP (CallEvent.isAccepted call) +
    history.countP (CallEvent.isRejected call) + frames.countP (CallFrame.isPosting call) =
      if call < calls then 1 else 0
  completed : ∀ call, history.countP (CallEvent.isAccepted call) =
    history.countP (CallEvent.isCompleted call) + frames.countP (CallFrame.isUnderWay call)

namespace Ledger

variable {frames front back : List (CallFrame maxResponse maxPending)}
  {history : List (CallEvent η κ σ maxResponse)} {calls number : Nat}
  {slot : Fin maxPending}

theorem refuse (h : Ledger frames history calls) (status : Status) :
    Ledger frames (history ++ [.rejected calls status]) (calls + 1) where
  answered call := by
    have := h.answered call
    simp only [countP_append, countP_singleton, isAccepted,
      isRejected, decide_eq_true_eq, Bool.false_eq_true, if_false] at this ⊢
    split_ifs at this ⊢ <;> omega
  completed call := by
    simpa [countP_append, isAccepted, isCompleted] using h.completed call

theorem admitCall (h : Ledger frames history calls) (arguments : CallArguments κ σ)
    (info : RpcCallInfo) :
    Ledger (frames ++ [⟨calls, slot, .posting⟩]) (history ++ [.admitted calls arguments info])
      (calls + 1) where
  answered call := by
    have := h.answered call
    simp only [countP_append, countP_singleton, isAccepted, isRejected, isPosting,
      decide_eq_true_eq, Bool.false_eq_true, if_false, and_true] at this ⊢
    split_ifs at this ⊢ <;> omega
  completed call := by
    simpa [countP_append, isAccepted, isCompleted, isUnderWay]
      using h.completed call

theorem reject (h : Ledger (front ++ ⟨number, slot, .posting⟩ :: back) history calls)
    (status : Status) : Ledger (front ++ back) (history ++ [.rejected number status]) calls where
  answered call := by
    have := h.answered call
    simp only [countP_append, countP_cons, countP_nil, isAccepted, isRejected, isPosting,
      decide_eq_true_eq, Bool.false_eq_true, if_false, and_true] at this ⊢
    omega
  completed call := by
    simpa [countP_append, isAccepted, isCompleted, isUnderWay]
      using h.completed call

theorem accept (h : Ledger (front ++ ⟨number, slot, .posting⟩ :: back) history calls) :
    Ledger (front ++ ⟨number, slot, .posted⟩ :: back) (history ++ [.accepted number]) calls where
  answered call := by
    have := h.answered call
    simp [countP_append, countP_cons, isAccepted, isRejected, isPosting] at this ⊢
    omega
  completed call := by
    have := h.completed call
    simp [countP_append, countP_cons, isAccepted, isCompleted, isUnderWay] at this ⊢
    omega

/-- A change of the phase of a call that is under way, with an event that is none of the three. -/
theorem advance {phase phase' : CallPhase maxResponse}
    (h : Ledger (front ++ ⟨number, slot, phase⟩ :: back) history calls)
    (hphase : phase ≠ .posting) (hphase' : phase' ≠ .posting)
    {events : List (CallEvent η κ σ maxResponse)}
    (hevents : ∀ event ∈ events, ∀ call, event.isAccepted call = false ∧
      event.isRejected call = false ∧ event.isCompleted call = false) :
    Ledger (front ++ ⟨number, slot, phase'⟩ :: back) (history ++ events) calls := by
  have hzero : ∀ call, events.countP (isAccepted call) = 0 ∧
      events.countP (isRejected call) = 0 ∧
      events.countP (isCompleted call) = 0 := by
    intro call
    simp only [countP_eq_zero, Bool.not_eq_true]
    exact ⟨fun e he => (hevents e he call).1, fun e he => (hevents e he call).2.1,
      fun e he => (hevents e he call).2.2⟩
  constructor
  · intro call
    have := h.answered call
    simpa [countP_append, countP_cons, isPosting, hzero, hphase, hphase']
      using this
  · intro call
    have := h.completed call
    simpa [countP_append, countP_cons, isUnderWay, hzero, hphase, hphase']
      using this

theorem complete {phase : CallPhase maxResponse}
    (h : Ledger (front ++ ⟨number, slot, phase⟩ :: back) history calls) (hphase : phase ≠ .posting)
    (completion : Completion κ σ) :
    Ledger (front ++ back) (history ++ [.completed number completion]) calls where
  answered call := by
    have := h.answered call
    simpa [countP_append, countP_cons, isPosting, hphase, isAccepted, isRejected] using this
  completed call := by
    have := h.completed call
    simp [countP_append, countP_cons, isUnderWay, hphase, isAccepted, isCompleted] at this ⊢
    omega

/-- A call that was rejected has not been accepted, is not completed and has no frame. -/
theorem of_rejected (h : Ledger frames history calls) {status : Status}
    (hrejected : .rejected number status ∈ history) :
    .accepted number ∉ history ∧ history.countP (isCompleted number) = 0 ∧
      ∀ frame ∈ frames, frame.call ≠ number := by
  have hanswered := h.answered number
  have hcompleted := h.completed number
  have hpos : 0 < history.countP (isRejected number) :=
    countP_pos_iff.mpr ⟨_, hrejected, by simp [isRejected]⟩
  have hle : (if number < calls then 1 else 0) ≤ 1 := by split <;> omega
  have haccepted : history.countP (isAccepted number) = 0 := by omega
  have hposting : frames.countP (isPosting number) = 0 := by omega
  have hunderWay : frames.countP (isUnderWay number) = 0 := by omega
  refine ⟨fun hmem => ?_, by omega, fun frame hframe heq => ?_⟩
  · exact countP_eq_zero.mp haccepted _ hmem (by simp [isAccepted])
  · by_cases hphase : frame.phase = .posting
    · exact countP_eq_zero.mp hposting frame hframe (by simp [isPosting, heq, hphase])
    · exact countP_eq_zero.mp hunderWay frame hframe
        (by simp [isUnderWay, heq, hphase])

/-- An accepted call is completed once or under way once. -/
theorem of_accepted (h : Ledger frames history calls) (haccepted : .accepted number ∈ history) :
    history.countP (isCompleted number) + frames.countP (isUnderWay number) =
      1 := by
  have hanswered := h.answered number
  have hpos : 0 < history.countP (isAccepted number) :=
    countP_pos_iff.mpr ⟨_, haccepted, by simp [isAccepted]⟩
  rw [h.completed number] at hanswered hpos
  split_ifs at hanswered <;> omega

end Ledger

end AsterCtrl
