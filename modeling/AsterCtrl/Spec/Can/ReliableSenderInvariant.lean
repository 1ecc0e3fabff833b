import AsterCtrl.Native.Can.ReliablePath

/-!
# Invariant of the reliable sender

`ReliableSender.Inv` relates the fragment counters of a sender to its payload and to its
state.  Every operation keeps it, and from it follows what a pump does: `pump_spec` says
which fragments a pump offers to the writer and where it stops.

## Key results

- `inv_begin`, `inv_nextFrame`, ...: every operation keeps the invariant
- `same_handleAck`, `same_poll`, ...: only `begin` changes the message being sent
- `pump_spec`: a pump offers the remaining fragments in order, up to and including the first
  one that the writer rejects
-/

namespace AsterCtrl.Can.ReliableSender

variable {maxSize : Nat}

/-- The fragment counters agree with the payload and the state. -/
structure Inv (s : ReliableSender maxSize) : Prop where
  count : s.fragmentCount = fragmentsOf kFragmentPayload s.payload.length
  count_le : s.fragmentCount ≤ 16
  sequence : s.sequence ≤ 0x0f
  sending : s.state = .sending → s.nextFragment < s.fragmentCount
  waiting : s.state = .waitingForAck →
    s.nextFragment = s.fragmentCount ∧ 0 < s.fragmentCount
  pending : s.pendingWrite = true →
    s.nextFragment = s.pendingFragment + 1 ∧ s.nextFragment ≤ s.fragmentCount

/-- The two senders carry the same message. -/
structure SameMessage (s s' : ReliableSender maxSize) : Prop where
  payload : s'.payload = s.payload
  arbitrationId : s'.arbitrationId = s.arbitrationId
  sequence : s'.sequence = s.sequence
  fragmentCount : s'.fragmentCount = s.fragmentCount

theorem SameMessage.refl (s : ReliableSender maxSize) : SameMessage s s :=
  ⟨rfl, rfl, rfl, rfl⟩

theorem SameMessage.trans {s₁ s₂ s₃ : ReliableSender maxSize} (h : SameMessage s₁ s₂)
    (h' : SameMessage s₂ s₃) : SameMessage s₁ s₃ :=
  ⟨h'.payload.trans h.payload, h'.arbitrationId.trans h.arbitrationId,
    h'.sequence.trans h.sequence, h'.fragmentCount.trans h.fragmentCount⟩

variable {s : ReliableSender maxSize} {s' : ReliableSender maxSize}

/-- The invariant only has to be checked on the counters when the message stays the same. -/
theorem Inv.of_same (h : Inv s) (hsame : SameMessage s s')
    (hsending : s'.state = .sending → s'.nextFragment < s.fragmentCount)
    (hwaiting : s'.state = .waitingForAck → s'.nextFragment = s.fragmentCount ∧ 0 < s.fragmentCount)
    (hpending : s'.pendingWrite = true → s'.nextFragment = s'.pendingFragment + 1 ∧ s'.nextFragment
      ≤ s.fragmentCount) : Inv s' where
  count := by rw [hsame.fragmentCount, hsame.payload]; exact h.count
  count_le := by rw [hsame.fragmentCount]; exact h.count_le
  sequence := by rw [hsame.sequence]; exact h.sequence
  sending := by rw [hsame.fragmentCount]; exact hsending
  waiting := by rw [hsame.fragmentCount]; exact hwaiting
  pending := by rw [hsame.fragmentCount]; exact hpending

/-- A sender that was never used, or was reset by assigning `{}`. -/
theorem inv_default : Inv ({} : ReliableSender maxSize) := by
  constructor <;> simp [fragmentsOf, kFragmentPayload]

/-! ## begin -/

/-- Everything a `begin` that succeeds has checked and set. -/
structure Begun (s' : ReliableSender maxSize) (routeId : UInt16)
    (priority : CanPriority) (sequence : UInt8) (payload : List UInt8) : Prop where
  route : CanArbitrationId.encode priority routeId = (.ok, s'.arbitrationId)
  nonempty : payload ≠ []
  fits : payload.length ≤ maxSize
  count_le : fragmentsOf kFragmentPayload payload.length ≤ 16
  sequence_le : sequence ≤ 0x0f
  payload_eq : s'.payload = payload
  sequence_eq : s'.sequence = sequence
  count_eq : s'.fragmentCount = fragmentsOf kFragmentPayload payload.length
  next_eq : s'.nextFragment = 0
  pending_eq : s'.pendingWrite = false
  state_eq : s'.state = .sending

/-- `begin` either fails, without touching more than the arbitration id, or begins the
    message. -/
theorem begin_cases (s : ReliableSender maxSize) (routeId : UInt16)
    (priority : CanPriority) (sequence : UInt8) (payload : List UInt8)
    (nowNs retryTimeoutNs : UInt64) (maximumRetries : UInt8) :
    ((s.begin routeId priority sequence payload nowNs retryTimeoutNs maximumRetries).1 ≠ .ok ∧
      ∃ id, (s.begin routeId priority sequence payload nowNs retryTimeoutNs maximumRetries).2 =
        { s with arbitrationId := id } ∧
        (id = s.arbitrationId ∨ id = (CanArbitrationId.encode priority routeId).2)) ∨
    ((s.begin routeId priority sequence payload nowNs retryTimeoutNs maximumRetries).1 = .ok ∧
      senderBusy s.state = false ∧ retryTimeoutNs ≠ 0 ∧
      Begun (s.begin routeId priority sequence payload nowNs retryTimeoutNs maximumRetries).2
        routeId priority sequence payload) := by
  by_cases hbusy : s.state = .sending ∨ s.state = .waitingForAck
  · left
    rw [begin, if_pos hbusy]
    exact ⟨nofun, s.arbitrationId, rfl, .inl rfl⟩
  by_cases hargs : payload = [] ∨ payload.length > maxSize ∨ sequence > 0x0f ∨
      retryTimeoutNs = 0
  · left
    rw [begin, if_neg hbusy, if_pos hargs]
    exact ⟨nofun, s.arbitrationId, rfl, .inl rfl⟩
  by_cases henc : (CanArbitrationId.encode priority routeId).1 ≠ .ok
  · left
    rw [begin, if_neg hbusy, if_neg hargs]
    dsimp only
    rw [if_pos henc]
    exact ⟨henc, _, rfl, .inr rfl⟩
  by_cases hcount : (payload.length + 5) / 6 > 16
  · left
    rw [begin, if_neg hbusy, if_neg hargs]
    dsimp only
    rw [if_neg henc, if_pos hcount]
    exact ⟨nofun, _, rfl, .inr rfl⟩
  · right
    rw [begin, if_neg hbusy, if_neg hargs]
    dsimp only
    rw [if_neg henc, if_neg hcount]
    obtain ⟨hne, hfits, hseq, htimeout⟩ : payload ≠ [] ∧ ¬ payload.length > maxSize ∧
        ¬ sequence > 0x0f ∧ retryTimeoutNs ≠ 0 := by simpa only [not_or] using hargs
    refine ⟨rfl, by simp [senderBusy, hbusy], htimeout, ?_⟩
    constructor <;> try dsimp only
    · exact Prod.ext (Decidable.not_not.mp henc) rfl
    · exact hne
    · omega
    · exact Nat.le_of_not_lt hcount
    · exact UInt8.not_lt.mp hseq
    · rfl

/-- `begin` takes every message that a sender can send while it is not busy. -/
theorem begin_ok (hbusy : senderBusy s.state = false) {routeId : UInt16} {priority : CanPriority}
    (hroute : (CanArbitrationId.encode priority routeId).1 = .ok) {sequence : UInt8}
    (hseq : sequence ≤ 0x0f) {payload : List UInt8} (hne : payload ≠ [])
    (hfit : payload.length ≤ maxSize) (hcount : fragmentsOf kFragmentPayload payload.length ≤ 16)
    (nowNs : UInt64) {retryTimeoutNs : UInt64} (hretry : retryTimeoutNs ≠ 0)
    (maximumRetries : UInt8) :
    (s.begin routeId priority sequence payload nowNs retryTimeoutNs maximumRetries).1 = .ok := by
  have hidle : ¬ (s.state = .sending ∨ s.state = .waitingForAck) := by
    simpa [senderBusy] using hbusy
  have hargs : ¬ (payload = [] ∨ payload.length > maxSize ∨ sequence > 0x0f ∨
      retryTimeoutNs = 0) := by
    simp only [not_or, Nat.not_lt, UInt8.not_lt]
    exact ⟨hne, hfit, hseq, hretry⟩
  have hfragments : ¬ (payload.length + 5) / 6 > 16 := Nat.not_lt.mpr hcount
  unfold begin
  dsimp only
  rw [if_neg hidle, if_neg hargs, if_neg (not_not_intro hroute), if_neg hfragments]

theorem Begun.inv {routeId : UInt16} {priority : CanPriority} {sequence : UInt8}
    {payload : List UInt8} (h : Begun s' routeId priority sequence payload) : Inv s' where
  count := by rw [h.count_eq, h.payload_eq]
  count_le := by rw [h.count_eq]; exact h.count_le
  sequence := by rw [h.sequence_eq]; exact h.sequence_le
  sending _ := by
    rw [h.next_eq, h.count_eq]
    exact fragmentsOf_pos (by decide) (List.length_pos_of_ne_nil h.nonempty)
  waiting hw := by rw [h.state_eq] at hw; cases hw
  pending hp := by rw [h.pending_eq] at hp; cases hp

theorem inv_begin (h : Inv s) (routeId : UInt16) (priority : CanPriority) (sequence : UInt8)
    (payload : List UInt8) (nowNs retryTimeoutNs : UInt64) (maximumRetries : UInt8) :
    Inv (s.begin routeId priority sequence payload nowNs retryTimeoutNs maximumRetries).2 := by
  rcases begin_cases s routeId priority sequence payload nowNs retryTimeoutNs maximumRetries with
    ⟨_, id, heq, _⟩ | ⟨_, _, _, hbegun⟩
  · rw [heq]
    exact ⟨h.count, h.count_le, h.sequence, h.sending, h.waiting, h.pending⟩
  · exact hbegun.inv

/-! ## nextFrame and the write completion -/

theorem nextFrame_of_sending (h : s.state = .sending) :
    s.nextFrame = some (s.currentFrame, s.advance.pendingWriteToken, s.advance) := by
  rw [nextFrame, if_neg (not_not_intro h)]

theorem nextFrame_of_ne (h : s.state ≠ .sending) : s.nextFrame = none := by
  rw [nextFrame, if_pos h]

theorem same_advance (s : ReliableSender maxSize) : SameMessage s s.advance := by
  constructor <;> simp only [advance]

theorem inv_advance (h : Inv s) (hst : s.state = .sending) : Inv s.advance := by
  have hlt := h.sending hst
  refine h.of_same (same_advance s) ?_ ?_ ?_ <;> simp only [advance]
  · intro hs
    split at hs
    · cases hs
    · omega
  · intro hw
    split at hw
    · omega
    · rw [hst] at hw; cases hw
  · intro _
    exact ⟨trivial, hlt⟩

theorem same_onFrameWrite (s : ReliableSender maxSize) (token : UInt32)
    (status : Status) : SameMessage s (s.onFrameWrite token status) := by
  unfold onFrameWrite
  split
  · exact .refl s
  · dsimp only
    split
    · constructor <;> dsimp only
    · split <;> constructor <;> dsimp only

theorem inv_onFrameWrite (h : Inv s) (token : UInt32) (status : Status) :
    Inv (s.onFrameWrite token status) := by
  refine h.of_same (same_onFrameWrite s token status) ?_ ?_ ?_ <;> unfold onFrameWrite <;> split
  · exact h.sending
  · rename_i hpending
    simp only [not_or, Bool.not_eq_false] at hpending
    have hpend := h.pending hpending.1
    dsimp only
    split
    · exact h.sending
    · split
      · intro _; dsimp only; omega
      · exact h.sending
  · exact h.waiting
  · dsimp only
    split
    · exact h.waiting
    · split
      · exact fun hw => nomatch hw
      · exact h.waiting
  · exact h.pending
  · dsimp only
    split
    · exact fun hp => nomatch hp
    · split <;> exact fun hp => nomatch hp

/-- A write completion does not complete a message. -/
theorem complete_of_onFrameWrite (token : UInt32) (status : Status)
    (h : (s.onFrameWrite token status).state = .complete) : s.state = .complete := by
  unfold onFrameWrite at h
  split at h
  · exact h
  · dsimp only at h
    split at h
    · exact h
    · split at h
      · cases h
      · exact h

/-- The sender after its next frame was produced and the writer accepted it. -/
def advanceWritten (s : ReliableSender maxSize) : ReliableSender maxSize :=
  { s.advance with pendingWrite := false }

theorem onFrameWrite_advance_ok (s : ReliableSender maxSize) :
    s.advance.onFrameWrite s.advance.pendingWriteToken .ok = s.advanceWritten := by
  simp [onFrameWrite, advanceWritten, advance]

theorem same_advanceWritten (s : ReliableSender maxSize) : SameMessage s s.advanceWritten := by
  constructor <;> simp only [advanceWritten, advance]

theorem inv_advanceWritten (h : Inv s) (hst : s.state = .sending) : Inv s.advanceWritten := by
  rw [← onFrameWrite_advance_ok]
  exact inv_onFrameWrite (inv_advance h hst) _ _

/-- A frame of this sender that the writer rejects is the next one to be sent again. -/
theorem onFrameWrite_advance_ne (s : ReliableSender maxSize) {status : Status}
    (h : status ≠ .ok) :
    let s' := s.advance.onFrameWrite s.advance.pendingWriteToken status
    s'.state = .sending ∧ s'.nextFragment = s.nextFragment ∧ s'.pendingWrite = false := by
  simp [onFrameWrite, advance, h]

/-! ## handleAck, poll and armAckDeadline -/

theorem same_handleAck (s : ReliableSender maxSize) (frame : CanFrame) :
    SameMessage s (s.handleAck frame).2 := by
  unfold handleAck
  split
  · exact .refl s
  · split
    · constructor <;> dsimp only
    · split <;> constructor <;> dsimp only

/-- An acknowledgement changes the state only of a sender that waits for it, and only if it
    is the acknowledgement of the message being sent. -/
theorem handleAck_cases (s : ReliableSender maxSize) (frame : CanFrame) :
    ((s.handleAck frame).1 ≠ .ok ∧ (s.handleAck frame).2.state = s.state ∧
      (s.handleAck frame).2.nextFragment = s.nextFragment ∧
      (s.handleAck frame).2.pendingFragment = s.pendingFragment ∧
      (s.handleAck frame).2.pendingWrite = s.pendingWrite) ∨
    ((s.handleAck frame).1 = .ok ∧ s.state = .waitingForAck ∧
      (s.handleAck frame).2.state = .complete ∧ (s.handleAck frame).2.pendingWrite = false ∧
      frame.arbitrationId = s.arbitrationId ∧ frame.header &&& 0x0f = s.sequence) := by
  unfold handleAck
  split
  · left; simp
  · rename_i hmatch
    simp only [not_or, ne_eq, Decidable.not_not] at hmatch
    split
    · left; simp
    · split
      · left; simp
      · rename_i hwait
        right
        refine ⟨rfl, Decidable.not_not.mp hwait, rfl, rfl, hmatch.2.2.2.2.1, hmatch.2.2.2.2.2⟩

theorem inv_handleAck (h : Inv s) (frame : CanFrame) : Inv (s.handleAck frame).2 := by
  rcases handleAck_cases s frame with ⟨_, hst, hnext, hpf, hpw⟩ | ⟨_, _, hst, hpw, _⟩
  · refine h.of_same (same_handleAck s frame) ?_ ?_ ?_
    · rw [hst, hnext]; exact h.sending
    · rw [hst, hnext]; exact h.waiting
    · rw [hpw, hnext, hpf]; exact h.pending
  · refine h.of_same (same_handleAck s frame) ?_ ?_ ?_
    · rw [hst]; exact fun hs => nomatch hs
    · rw [hst]; exact fun hw => nomatch hw
    · rw [hpw]; exact fun hp => nomatch hp

theorem same_poll (s : ReliableSender maxSize) (nowNs : UInt64) :
    SameMessage s (s.poll nowNs).2 := by
  unfold poll
  split
  · exact .refl s
  · split <;> constructor <;> dsimp only

/-- What a poll can do: nothing, give up, or start over from the first fragment. -/
theorem poll_cases (s : ReliableSender maxSize) (nowNs : UInt64) :
    (s.poll nowNs = (.unavailable, s) ∧
        (s.state ≠ .waitingForAck ∨ nowNs < s.retryDeadlineNs)) ∨
      (s.state = .waitingForAck ∧ (s.poll nowNs).1 = .timeout ∧
        (s.poll nowNs).2.state = .failed ∧ (s.poll nowNs).2.pendingWrite = false) ∨
      (s.state = .waitingForAck ∧ (s.poll nowNs).1 = .ok ∧
        (s.poll nowNs).2.state = .sending ∧ (s.poll nowNs).2.nextFragment = 0 ∧
        (s.poll nowNs).2.pendingWrite = false) := by
  unfold poll
  split
  · rename_i h; exact .inl ⟨rfl, h⟩
  · rename_i hwait
    simp only [not_or, ne_eq, Decidable.not_not] at hwait
    split
    · right; left; simp [hwait.1]
    · right; right; simp [hwait.1]

theorem inv_poll (h : Inv s) (nowNs : UInt64) : Inv (s.poll nowNs).2 := by
  rcases poll_cases s nowNs with ⟨heq, _⟩ | ⟨_, _, hst, hpw⟩ | ⟨hwait, _, hst, hnext, hpw⟩
  · rw [heq]; exact h
  · refine h.of_same (same_poll s nowNs) ?_ ?_ ?_
    · rw [hst]; exact fun hs => nomatch hs
    · rw [hst]; exact fun hw => nomatch hw
    · rw [hpw]; exact fun hp => nomatch hp
  · refine h.of_same (same_poll s nowNs) ?_ ?_ ?_
    · rw [hnext]; exact fun _ => (h.waiting hwait).2
    · rw [hst]; exact fun hw => nomatch hw
    · rw [hpw]; exact fun hp => nomatch hp

theorem same_armAckDeadline (s : ReliableSender maxSize) (nowNs : UInt64) :
    SameMessage s (s.armAckDeadline nowNs).2 := by
  unfold armAckDeadline
  split
  · exact .refl s
  · constructor <;> dsimp only

theorem inv_armAckDeadline (h : Inv s) (nowNs : UInt64) : Inv (s.armAckDeadline nowNs).2 := by
  unfold armAckDeadline
  split
  · exact h
  · exact ⟨h.count, h.count_le, h.sequence, h.sending, h.waiting, h.pending⟩

/-! ## The pump -/

/-- The frame that carries fragment `i` of the message being sent. -/
def fragmentFrame (s : ReliableSender maxSize) (i : Nat) : CanFrame :=
  dataFrame s.arbitrationId s.sequence s.fragmentCount i
    (fragmentAt kFragmentPayload s.payload i)

theorem SameMessage.fragmentFrame (h : SameMessage s s') : s'.fragmentFrame = s.fragmentFrame := by
  funext i
  rw [ReliableSender.fragmentFrame, ReliableSender.fragmentFrame, h.arbitrationId, h.sequence,
    h.fragmentCount, h.payload]

/-- A pump of `s` into `w` that ended with `r` after the writer took the fragments below `m`. -/
structure Pumped (s : ReliableSender maxSize) (w : CanFrameWriter) (m : Nat)
    (r : Status × ReliableSender maxSize × CanFrameWriter) : Prop where
  same : SameMessage s r.2.1
  inv : Inv r.2.1
  next_le : s.nextFragment ≤ m
  le_count : m ≤ s.fragmentCount
  next_eq : r.2.1.nextFragment = m
  pending : r.2.1.pendingWrite = false
  outcome : ∀ k < m - s.nextFragment, w.outcome k = .ok
  accepted : r.2.2.accepted =
    w.accepted ++ (List.range' s.nextFragment (m - s.nextFragment)).map s.fragmentFrame
  done : m = s.fragmentCount → r.1 = .ok ∧ r.2.1.state = .waitingForAck
  stopped : m < s.fragmentCount →
    r.1 ≠ .ok ∧ r.1 = w.outcome (m - s.nextFragment) ∧ r.2.1.state = .sending

variable {w : CanFrameWriter}

/-- The first frame of a pump was rejected: the pump stops and keeps the fragment. -/
private theorem pumped_rejected (h : Inv s) (hst : s.state = .sending) (hw : w.outcome 0 ≠ .ok) :
    Pumped s w s.nextFragment
      (s.advance.sendFrame w s.currentFrame s.advance.pendingWriteToken) := by
  have hlt := h.sending hst
  obtain ⟨hstate, hnext, hpw⟩ := onFrameWrite_advance_ne s hw
  constructor
  · exact (same_advance s).trans (same_onFrameWrite _ _ _)
  · exact inv_onFrameWrite (inv_advance h hst) _ _
  · exact Nat.le_refl _
  · exact Nat.le_of_lt hlt
  · exact hnext
  · exact hpw
  · intro k hk; omega
  · rw [Nat.sub_self, List.range'_zero, List.map_nil, List.append_nil]
    exact CanFrameWriter.accepted_send_of_ne _ hw
  · intro heq; omega
  · intro _
    rw [Nat.sub_self]
    exact ⟨hw, rfl, hstate⟩

/-- The first frame of a pump was accepted, and the rest of the pump behaved. -/
private theorem pumped_accepted {m : Nat} {r : Status × ReliableSender maxSize × CanFrameWriter}
    (hw : w.outcome 0 = .ok) (hr : Pumped s.advanceWritten (w.send s.currentFrame).2 m r) :
    Pumped s w m r := by
  have hsame := same_advanceWritten s
  have hcount := hsame.fragmentCount
  have hnext : s.advanceWritten.nextFragment = s.nextFragment + 1 := rfl
  have hle : s.nextFragment + 1 ≤ m := hr.next_le
  have hm : m - s.nextFragment = (m - (s.nextFragment + 1)) + 1 := by omega
  constructor
  · exact hsame.trans hr.same
  · exact hr.inv
  · omega
  · have := hr.le_count; rw [hcount] at this; exact this
  · exact hr.next_eq
  · exact hr.pending
  · intro k hk
    cases k with
    | zero => exact hw
    | succ k => exact hr.outcome k (by rw [hnext]; omega)
  · rw [hr.accepted, CanFrameWriter.accepted_send_of_ok _ hw, hsame.fragmentFrame, hm,
      List.range'_succ, List.map_cons, List.append_assoc]
    rfl
  · intro heq; exact hr.done (by rw [hcount]; exact heq)
  · intro hlt
    obtain ⟨hne, hout, hstate⟩ := hr.stopped (by rw [hcount]; exact hlt)
    rw [hm]
    exact ⟨hne, hout, hstate⟩

private theorem pumpLoop_spec (fuel : Nat) (s : ReliableSender maxSize)
    (w : CanFrameWriter) (h : Inv s) (hst : s.state = .sending)
    (hfuel : s.fragmentCount - s.nextFragment ≤ fuel) : ∃ m, Pumped s w m (pumpLoop fuel s w) := by
  induction fuel generalizing s w with
  | zero =>
    have := h.sending hst
    omega
  | succ fuel ih =>
    rw [pumpLoop, nextFrame_of_sending hst]
    dsimp only
    by_cases hw : w.outcome 0 = .ok
    · have hsent : s.advance.sendFrame w s.currentFrame s.advance.pendingWriteToken =
          (.ok, s.advanceWritten, (w.send s.currentFrame).2) := by
        rw [sendFrame, CanFrameWriter.send_status, hw, onFrameWrite_advance_ok]
      rw [hsent]
      dsimp only
      rw [if_neg (by simp)]
      have hinv := inv_advanceWritten h hst
      have hcount := (same_advanceWritten s).fragmentCount
      by_cases hlast : s.nextFragment + 1 = s.fragmentCount
      · -- the last fragment: the sender now waits and the loop ends
        have hwait : s.advanceWritten.state = .waitingForAck := by
          simp only [advanceWritten, advance, hlast, if_true]
        have hend : pumpLoop fuel s.advanceWritten (w.send s.currentFrame).2 =
            (.ok, s.advanceWritten, (w.send s.currentFrame).2) := by
          cases fuel with
          | zero => rfl
          | succ fuel =>
            rw [pumpLoop, nextFrame_of_ne]
            rw [hwait]
            exact nofun
        rw [hend]
        refine ⟨s.fragmentCount, pumped_accepted hw ?_⟩
        have hnext : s.advanceWritten.nextFragment = s.fragmentCount := hlast
        constructor
        · exact .refl _
        · exact hinv
        · exact Nat.le_of_eq hnext
        · exact Nat.le_of_eq hcount.symm
        · exact hnext
        · rfl
        · intro k hk; rw [hnext] at hk; omega
        · rw [hnext]; simp
        · intro _; exact ⟨rfl, hwait⟩
        · intro hlt; rw [hcount] at hlt; omega
      · have hstate : s.advanceWritten.state = .sending := by
          simp only [advanceWritten, advance, hlast, if_false, hst]
        have hnext : s.advanceWritten.nextFragment = s.nextFragment + 1 := rfl
        obtain ⟨m, hm⟩ := ih s.advanceWritten (w.send s.currentFrame).2 hinv hstate (by omega)
        exact ⟨m, pumped_accepted hw hm⟩
    · have hne : (s.advance.sendFrame w s.currentFrame s.advance.pendingWriteToken).1 ≠ .ok := hw
      rw [if_pos hne]
      exact ⟨s.nextFragment, pumped_rejected h hst hw⟩

/-- A pump offers the remaining fragments in order, up to and including the first one that
    the writer rejects. -/
theorem pump_spec (h : Inv s) (hst : s.state = .sending) (w : CanFrameWriter) :
    ∃ m, Pumped s w m (s.pump w) := by
  have := h.count_le
  exact pumpLoop_spec 256 s w h hst (by omega)

/-- A writer that accepts everything takes the whole message. -/
theorem pump_of_accepting (h : Inv s) (hst : s.state = .sending) (hnext : s.nextFragment = 0)
    (hw : ∀ k, w.outcome k = .ok) :
    (s.pump w).1 = .ok ∧ (s.pump w).2.1.state = .waitingForAck ∧
      (s.pump w).2.2.accepted = w.accepted ++ (List.range s.fragmentCount).map s.fragmentFrame := by
  obtain ⟨m, hm⟩ := pump_spec h hst w
  have hall : m = s.fragmentCount := by
    refine Nat.le_antisymm hm.le_count (Nat.not_lt.mp fun hlt => ?_)
    obtain ⟨hne, hout, -⟩ := hm.stopped hlt
    exact hne (hout.trans (hw _))
  have haccepted := hm.accepted
  rw [hnext, Nat.sub_zero, hall, ← List.range_eq_range'] at haccepted
  exact ⟨(hm.done hall).1, (hm.done hall).2, haccepted⟩

end AsterCtrl.Can.ReliableSender
