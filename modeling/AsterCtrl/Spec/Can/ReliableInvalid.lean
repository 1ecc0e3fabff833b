import Mathlib.Data.List.ReduceOption
import AsterCtrl.ForStd.Run
import AsterCtrl.Spec.Can.ReliableReceiverCorrect

/-!
# Invalid frames do not disturb the reliable receiver

A run of timed calls is compared with the same run into which further `Accept` calls were
inserted, each of which finds its frame invalid.  The inserted calls are not without effect: they
advance the observed time and can give up a message before the next original call does so.  The
two receivers are therefore related by `Follows`: they agree but for counters and observed time,
or the undisturbed one still holds a message whose time is up and which its next call gives up.

## Key results

- `acceptImpl_alike`: counters and observed time have no influence on `AcceptImpl`
- `Follows.original`, `Follows.inserted`: one call of the run
- `originalAnswers_eq`: all runs
-/

namespace AsterCtrl.Can

/-- A timed call of a receiver. -/
inductive TimedCall where
  | accept (frame : CanFrame) (timeNs : UInt64)
  | poll (nowNs : UInt64)
deriving DecidableEq

def TimedCall.timeNs : TimedCall → UInt64
  | .accept _ timeNs => timeNs
  | .poll nowNs => nowNs

/-- A call of a run, or one that was inserted into it. -/
structure MarkedCall where
  inserted : Bool
  call : TimedCall
deriving DecidableEq

/-- The run without the inserted calls. -/
def originalCalls (calls : List MarkedCall) : List TimedCall :=
  (calls.filter fun c => !c.inserted).map MarkedCall.call

namespace ReliableReceiver

variable {maxSize : Nat}

/-- The receiver after a call. -/
def call (r : ReliableReceiver maxSize) : TimedCall → ReliableReceiver maxSize
  | .accept frame timeNs => (r.acceptAt frame timeNs).2
  | .poll nowNs => (r.poll nowNs).2

/-- What `Accept` hands back; `Poll` hands back no message and no acknowledgement. -/
def answer (r : ReliableReceiver maxSize) : TimedCall → Option ReceiveResult
  | .accept frame timeNs => some (r.acceptAt frame timeNs).1
  | .poll _ => none

/-- What a run of calls hands back. -/
def answers (r : ReliableReceiver maxSize) (calls : List TimedCall) :
    List (Option ReceiveResult) :=
  Machine.outputs call answer r calls

/-- What the original calls of a run with inserted calls hand back. -/
def originalAnswers (r : ReliableReceiver maxSize) (calls : List MarkedCall) :
    List (Option ReceiveResult) :=
  (Machine.outputs (fun r c => r.call c.call)
    (fun r c => if c.inserted then none else some (r.answer c.call)) r calls).reduceOption

/-- An inserted call is an `Accept` that finds its frame invalid. -/
def InsertedInvalid (r : ReliableReceiver maxSize) (c : MarkedCall) : Prop :=
  c.inserted = true → (r.answer c.call).map ReceiveResult.status = some .invalidArgument

instance (r : ReliableReceiver maxSize) (c : MarkedCall) :
    Decidable (r.InsertedInvalid c) :=
  inferInstanceAs (Decidable (_ → _))

/-! ## Counters and observed time -/

/-- The receiver without its counters and the observed time. -/
def core (r : ReliableReceiver maxSize) : ReliableReceiver maxSize :=
  { r with stats := {}, hasObservedTime := false, lastObservedTimeNs := 0 }

/-- Both receivers agree but for counters and observed time. -/
def Alike (r r' : ReliableReceiver maxSize) : Prop := r.core = r'.core

/-- The same is handed back, and the receivers agree. -/
structure AlikeResult {ρ : Type} (p p' : ρ × ReliableReceiver maxSize) : Prop where
  result : p.1 = p'.1
  receiver : Alike p.2 p'.2

theorem AlikeResult.symm {ρ : Type} {p p' : ρ × ReliableReceiver maxSize}
    (h : AlikeResult p p') : AlikeResult p' p := ⟨h.result.symm, h.receiver.symm⟩

theorem AlikeResult.trans {ρ : Type} {p p' p'' : ρ × ReliableReceiver maxSize}
    (h : AlikeResult p p') (h' : AlikeResult p' p'') : AlikeResult p p'' :=
  ⟨h.result.trans h'.result, h.receiver.trans h'.receiver⟩

variable {r r' : ReliableReceiver maxSize}

theorem Alike.reset (h : Alike r r') :
    Alike r.reset r'.reset :=
  congrArg ReliableReceiver.reset h

/-- A function that does not look at counters and observed time is the same on receivers that
    agree. -/
theorem alikeResult_of_core {ρ : Type} {f : ReliableReceiver maxSize → ρ × ReliableReceiver maxSize}
    (hf : ∀ r, AlikeResult (f r.core) (f r)) (h : Alike r r') : AlikeResult (f r) (f r') := by
  have hcore := hf r
  rw [h] at hcore
  exact hcore.symm.trans (hf r')

variable (frameId : UInt16)

theorem prepareAfterCompleted_alike (sequence : UInt8) (h : Alike r r') :
    AlikeResult (r.prepareAfterCompleted frameId sequence)
      (r'.prepareAfterCompleted frameId sequence) := by
  refine alikeResult_of_core (f := fun r => r.prepareAfterCompleted frameId sequence)
    (fun r => ?_) h
  dsimp only [prepareAfterCompleted, core]
  split_ifs <;> exact ⟨rfl, rfl⟩

theorem prepareMessage_alike (sequence : UInt8) (h : Alike r r') :
    AlikeResult (r.prepareMessage frameId sequence)
      (r'.prepareMessage frameId sequence) := by
  refine alikeResult_of_core (f := fun r => r.prepareMessage frameId sequence)
    (fun r => ?_) h
  dsimp only [prepareMessage, core]
  split_ifs
  · exact prepareAfterCompleted_alike frameId sequence rfl
  · exact ⟨rfl, rfl⟩
  · exact ⟨rfl, rfl⟩
  · exact prepareAfterCompleted_alike frameId sequence rfl
  · exact prepareAfterCompleted_alike frameId sequence rfl

theorem completeMessage_alike (count : Nat) (h : Alike r r') :
    AlikeResult (r.completeMessage frameId count)
      (r'.completeMessage frameId count) := by
  refine alikeResult_of_core (f := fun r => r.completeMessage frameId count) (fun r => ?_) h
  dsimp only [completeMessage, core]
  split_ifs <;> exact ⟨rfl, rfl⟩

variable (f : ReliableFragment maxSize)

theorem storeFragment_alike (h : Alike r r') :
    AlikeResult (r.storeFragment f) (r'.storeFragment f) := by
  refine alikeResult_of_core (f := fun r => r.storeFragment f) (fun r => ?_) h
  dsimp only [storeFragment, core]
  split_ifs
  · exact ⟨rfl, rfl⟩
  · exact ⟨rfl, rfl⟩
  · exact completeMessage_alike f.arbitrationId f.count rfl

theorem acceptFragment_alike (timeNs : Option UInt64) (h : Alike r r') :
    AlikeResult (r.acceptFragment f timeNs) (r'.acceptFragment f timeNs) := by
  refine alikeResult_of_core (f := fun r => r.acceptFragment f timeNs) (fun r => ?_) h
  have hcore : Alike r.core r := rfl
  have hprepared := prepareMessage_alike f.arbitrationId f.sequence hcore
  unfold acceptFragment
  by_cases hnew : r.active = false ∨ r.arbitrationId ≠ f.arbitrationId ∨ r.sequence ≠ f.sequence
  · rw [if_pos hnew, if_pos (show r.core.active = false ∨ r.core.arbitrationId ≠ f.arbitrationId ∨
      r.core.sequence ≠ f.sequence from hnew)]
    dsimp only
    rw [hprepared.result]
    split
    · exact ⟨rfl, hprepared.receiver⟩
    · exact storeFragment_alike f (congrArg (fun r => activate r f timeNs)
        hprepared.receiver)
  · rw [if_neg hnew, if_neg (show ¬ (r.core.active = false ∨
      r.core.arbitrationId ≠ f.arbitrationId ∨ r.core.sequence ≠ f.sequence) from hnew)]
    by_cases hcount : r.fragmentCount ≠ f.count
    · rw [if_pos hcount, if_pos (show r.core.fragmentCount ≠ f.count from hcount)]
      exact ⟨rfl, rfl⟩
    · rw [if_neg hcount, if_neg (show ¬ r.core.fragmentCount ≠ f.count from hcount)]
      exact storeFragment_alike f hcore

theorem acceptImpl_alike (frame : CanFrame) (timeNs : Option UInt64) (h : Alike r r') :
    AlikeResult (r.acceptImpl frame timeNs) (r'.acceptImpl frame timeNs) := by
  unfold acceptImpl
  cases parseFragment maxSize frame with
  | none => exact ⟨rfl, h⟩
  | some f => exact acceptFragment_alike f timeNs h

/-! ## Invalid frames -/

theorem prepareAfterCompleted_ne_invalid (r : ReliableReceiver maxSize)
    (frameId : UInt16) (sequence : UInt8) :
    (r.prepareAfterCompleted frameId sequence).1 ≠ .invalidArgument := by
  obtain ⟨-, -, ⟨hst, -⟩ | ⟨hst, -⟩⟩ := r.prepareAfterCompleted_cases frameId sequence <;>
    simp [hst]

theorem prepareMessage_ne_invalid (r : ReliableReceiver maxSize) (frameId : UInt16)
    (sequence : UInt8) : (r.prepareMessage frameId sequence).1 ≠ .invalidArgument := by
  unfold prepareMessage
  dsimp only
  split_ifs
  · exact prepareAfterCompleted_ne_invalid _ _ _
  · exact nofun
  · exact nofun
  · exact prepareAfterCompleted_ne_invalid _ _ _
  · exact prepareAfterCompleted_ne_invalid _ _ _

theorem storeFragment_ne_invalid (r : ReliableReceiver maxSize)
    (f : ReliableFragment maxSize) : (r.storeFragment f).1.status ≠ .invalidArgument := by
  unfold storeFragment completeMessage
  dsimp only
  split_ifs <;> rintro ⟨⟩

/-- A frame that `AcceptImpl` calls invalid leaves no trace but in a counter. -/
theorem alike_of_invalid {frame : CanFrame}
    {timeNs : Option UInt64}
    (h : (r.acceptImpl frame timeNs).1.status = .invalidArgument) :
    Alike (r.acceptImpl frame timeNs).2 r := by
  unfold acceptImpl at h ⊢
  cases hparse : parseFragment maxSize frame with
  | none => rfl
  | some f =>
    rw [hparse] at h
    dsimp only [acceptFragment] at h ⊢
    split_ifs at h ⊢
    · exact absurd h (prepareMessage_ne_invalid r _ _)
    · exact absurd h (storeFragment_ne_invalid _ f)
    · rfl
    · exact absurd h (storeFragment_ne_invalid r f)

/-! ## Observed time -/

/-- The receiver after it has noticed the time `nowNs`. -/
def noticed (r : ReliableReceiver maxSize) (nowNs : UInt64) :
    ReliableReceiver maxSize :=
  (expireIfDue { r with hasObservedTime := true, lastObservedTimeNs := nowNs } nowNs).2

variable {nowNs : UInt64}

theorem ObservedBy.acceptAt_eq (h : r.ObservedBy nowNs)
    (frame : CanFrame) :
    r.acceptAt frame nowNs = (r.noticed nowNs).acceptImpl frame (some nowNs) :=
  if_neg (h.not_refuses (UInt64.le_refl nowNs))

theorem ObservedBy.poll_eq (h : r.ObservedBy nowNs) : (r.poll nowNs).2 = r.noticed nowNs := by
  have hnot : ¬ (r.hasObservedTime = true ∧ nowNs < r.lastObservedTimeNs) :=
    h.not_refuses (UInt64.le_refl nowNs)
  rw [ReliableReceiver.poll, if_neg hnot]
  rfl

theorem ObservedBy.call {c : TimedCall}
    (h : r.ObservedBy c.timeNs) : (r.call c).ObservedBy c.timeNs := by
  cases c with
  | accept frame timeNs => exact h.acceptAt (UInt64.le_refl _) frame
  | poll nowNs => exact h.poll (UInt64.le_refl _)

/-- The message that is being reassembled is given up at the time `nowNs`. -/
structure Due (r : ReliableReceiver maxSize) (nowNs : UInt64) : Prop where
  active : r.active = true
  timeout : r.reassemblyTimeoutNs ≠ 0
  deadline : r.reassemblyDeadlineNs ≤ nowNs

theorem Due.noticed (h : r.Due nowNs) : Alike (r.noticed nowNs) r.reset := by
  unfold ReliableReceiver.noticed expireIfDue
  rw [if_neg]
  · rfl
  · rintro (hactive | htimeout | hearly)
    · cases hactive.symm.trans h.active
    · exact h.timeout htimeout
    · exact UInt64.not_lt.mpr h.deadline hearly

theorem noticed_of_not_due (h : ¬ r.Due nowNs) : Alike (r.noticed nowNs) r := by
  unfold noticed expireIfDue
  rw [if_pos]
  · rfl
  · by_contra hnot
    obtain ⟨hactive, hnot⟩ := not_or.mp hnot
    obtain ⟨htimeout, hearly⟩ := not_or.mp hnot
    exact h ⟨Bool.not_eq_false _ ▸ hactive, htimeout, UInt64.not_lt.mp hearly⟩

theorem Alike.due_iff (h : Alike r r') (nowNs : UInt64) : r.Due nowNs ↔ r'.Due nowNs := by
  have hcore : ∀ r : ReliableReceiver maxSize, r.core.Due nowNs ↔ r.Due nowNs :=
    fun r => ⟨fun h => ⟨h.1, h.2, h.3⟩, fun h => ⟨h.1, h.2, h.3⟩⟩
  rw [← hcore r, h, hcore r']

/-! ## Both runs -/

/-- `r'` has seen inserted calls up to the time `nowNs`, and `r` has not. -/
structure Follows (r r' : ReliableReceiver maxSize) (nowNs : UInt64) : Prop where
  observed : r.ObservedBy nowNs
  observed' : r'.ObservedBy nowNs
  related : Alike r r' ∨ r.Due nowNs ∧ Alike r.reset r'

variable {beforeNs : UInt64} {c : TimedCall}

theorem Follows.mono (h : Follows r r' beforeNs) (hle : beforeNs ≤ nowNs) : Follows r r' nowNs where
  observed := h.observed.mono hle
  observed' := h.observed'.mono hle
  related := h.related.imp_right fun ⟨hdue, hreset⟩ =>
    ⟨⟨hdue.active, hdue.timeout, UInt64.le_trans hdue.deadline hle⟩, hreset⟩

theorem not_due_reset (r : ReliableReceiver maxSize) (nowNs : UInt64) :
    ¬ r.reset.Due nowNs := fun h => nomatch h.active

/-- The next call of the run gives up what an inserted call has given up already. -/
theorem Follows.noticed (h : Follows r r' nowNs) : Alike (r.noticed nowNs) (r'.noticed nowNs) := by
  rcases h.related with halike | ⟨hdue, hreset⟩
  · by_cases hdue : r.Due nowNs
    · exact hdue.noticed.trans (halike.reset.trans ((halike.due_iff nowNs).mp hdue).noticed.symm)
    · exact (noticed_of_not_due hdue).trans (halike.trans
        (noticed_of_not_due (mt (halike.due_iff nowNs).mpr hdue)).symm)
  · have hnot : ¬ r'.Due nowNs := mt (hreset.due_iff nowNs).mpr (not_due_reset r nowNs)
    exact hdue.noticed.trans (hreset.trans (noticed_of_not_due hnot).symm)

/-- An original call hands back the same in both runs. -/
theorem Follows.original (h : Follows r r' c.timeNs) :
    r.answer c = r'.answer c ∧ Follows (r.call c) (r'.call c) c.timeNs := by
  suffices hsame : r.answer c = r'.answer c ∧ Alike (r.call c) (r'.call c) from
    ⟨hsame.1, h.observed.call, h.observed'.call, .inl hsame.2⟩
  cases c with
  | accept frame timeNs =>
    dsimp only [answer, call, TimedCall.timeNs] at h ⊢
    have haccept := acceptImpl_alike frame (some timeNs) h.noticed
    rw [h.observed.acceptAt_eq, h.observed'.acceptAt_eq, haccept.result]
    exact ⟨rfl, haccept.receiver⟩
  | poll nowNs =>
    dsimp only [answer, call, TimedCall.timeNs] at h ⊢
    rw [h.observed.poll_eq, h.observed'.poll_eq]
    exact ⟨rfl, h.noticed⟩

/-- An inserted call is not noticed. -/
theorem Follows.inserted (h : Follows r r' c.timeNs)
    (hinvalid : (r'.answer c).map ReceiveResult.status = some .invalidArgument) :
    Follows r (r'.call c) c.timeNs := by
  refine ⟨h.observed, h.observed'.call, ?_⟩
  cases c with
  | poll nowNs => cases hinvalid
  | accept frame timeNs =>
    dsimp only [answer, call, TimedCall.timeNs] at h hinvalid ⊢
    rw [h.observed'.acceptAt_eq] at hinvalid ⊢
    have halike := alike_of_invalid (Option.some.inj hinvalid)
    rcases h.related with hsame | ⟨hdue, hreset⟩
    · by_cases hdue : r.Due timeNs
      · -- the inserted call gives up the message before the run does
        refine .inr ⟨hdue, hsame.reset.trans ?_⟩
        exact ((hsame.due_iff timeNs).mp hdue).noticed.symm.trans halike.symm
      · refine .inl (hsame.trans ?_)
        exact (noticed_of_not_due (mt (hsame.due_iff timeNs).mpr hdue)).symm.trans
          halike.symm
    · have hnot : ¬ r'.Due timeNs :=
        mt (hreset.due_iff timeNs).mpr (not_due_reset r timeNs)
      exact .inr ⟨hdue, hreset.trans ((noticed_of_not_due hnot).symm.trans halike.symm)⟩

theorem originalAnswers_cons (r : ReliableReceiver maxSize) (c : MarkedCall)
    (calls : List MarkedCall) :
    r.originalAnswers (c :: calls) =
      if c.inserted then (r.call c.call).originalAnswers calls
      else r.answer c.call :: (r.call c.call).originalAnswers calls := by
  rw [originalAnswers, Machine.outputs_cons]
  cases c.inserted <;> rfl

theorem Follows.answers_original (h : Follows r r' beforeNs) {calls : List MarkedCall}
    (htimes : calls.Pairwise fun c c' => c.call.timeNs ≤ c'.call.timeNs)
    (hbefore : ∀ c ∈ calls, beforeNs ≤ c.call.timeNs)
    (hinvalid : Machine.Along (fun r c => r.call c.call) InsertedInvalid r' calls) :
    r'.originalAnswers calls = r.answers (originalCalls calls) := by
  induction calls generalizing r r' beforeNs with
  | nil => rfl
  | cons c calls ih =>
    obtain ⟨hlater, htimes⟩ := List.pairwise_cons.mp htimes
    obtain ⟨hhead, hinvalid⟩ := hinvalid
    have hnow := h.mono (hbefore c List.mem_cons_self)
    rw [originalAnswers_cons]
    cases hc : c.inserted with
    | true =>
      rw [originalCalls, List.filter_cons_of_neg (by simp [hc])]
      exact ih (hnow.inserted (hhead hc)) htimes hlater hinvalid
    | false =>
      obtain ⟨hanswer, hnext⟩ := hnow.original
      rw [originalCalls, List.filter_cons_of_pos (by simp [hc]), List.map_cons, answers,
        Machine.outputs_cons, hanswer, if_neg Bool.false_ne_true]
      exact congrArg (List.cons _) (ih hnext htimes hlater hinvalid)

/-- Inserting `Accept` calls that find their frame invalid into a run of timed calls changes
    nothing that the calls of the run hand back: neither which of them deliver a message, nor the
    message, nor the acknowledgements. -/
theorem originalAnswers_eq (maxSize : Nat) (reassemblyTimeoutNs : UInt64)
    (calls : List MarkedCall)
    (htimes : calls.Pairwise fun c c' => c.call.timeNs ≤ c'.call.timeNs)
    (hinvalid : Machine.Along (fun r c => r.call c.call) InsertedInvalid
      ({ reassemblyTimeoutNs } : ReliableReceiver maxSize) calls) :
    ({ reassemblyTimeoutNs } : ReliableReceiver maxSize).originalAnswers calls =
      ({ reassemblyTimeoutNs } : ReliableReceiver maxSize).answers
        (originalCalls calls) := by
  have hstart : Follows ({ reassemblyTimeoutNs } : ReliableReceiver maxSize)
      { reassemblyTimeoutNs } 0 := ⟨nofun, nofun, .inl rfl⟩
  exact hstart.answers_original htimes (fun _ _ => UInt64.zero_le) hinvalid

/-- A message of two frames with a reassembly timeout of 100 ns; its second half comes again after
    the message was given up, and twice an empty frame is inserted. -/
def sampleCalls : List MarkedCall :=
  let half (index : Nat) : CanFrame := dataFrame 8 3 2 index [1, 2, 3, 4, 5, 6]
  [⟨false, .accept (half 0) 10⟩, ⟨true, .accept {} 20⟩, ⟨false, .accept (half 1) 30⟩,
    ⟨false, .accept (half 1) 40⟩, ⟨true, .accept {} 200⟩, ⟨false, .poll 210⟩,
    ⟨false, .accept (half 0) 220⟩]

theorem sampleCalls_originalAnswers :
    let r : ReliableReceiver 16 := { reassemblyTimeoutNs := 100 }
    r.answers (originalCalls sampleCalls) =
        [some { status := .unavailable },
          some ⟨.ok, ⟨8, 3, [1, 2, 3, 4, 5, 6, 1, 2, 3, 4, 5, 6]⟩, ackFrame 8 3⟩,
          some { status := .unavailable }, none, some { status := .unavailable }] ∧
      r.originalAnswers sampleCalls = r.answers (originalCalls sampleCalls) :=
  ⟨by decide +kernel, originalAnswers_eq 16 100 sampleCalls (by decide) (by decide +kernel)⟩

end ReliableReceiver

end AsterCtrl.Can
