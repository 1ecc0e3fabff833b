import AsterCtrl.ForStd.Run
import AsterCtrl.Spec.Can.ReliableReceiverCorrect
import AsterCtrl.Spec.Can.ReliableSenderInvariant

/-!
# What a reliable sender has produced

A sender is used through `Begin`, `NextFrame`, `HandleAck`, `Poll` and `ArmAckDeadline`, and the
writer reports the outcome of a frame back at any later time, with any token.  A late report can
take the sender back by one fragment, out of `kWaitingForAck` too.  `SenderHistory` records beside
the sender the message of the last successful `Begin`, how often it was transmitted, and the
frames produced in the current transmission together with the rejections that were reported.

## Key results

- `SenderHistory.inv_step`: every operation keeps the invariant
- `SenderHistory.sound_run`: what holds after every interleaving
-/

namespace AsterCtrl.Can

open List ReliableSender

/-- The arguments of a successful `Begin` that the frames depend on. -/
structure BegunMessage where
  routeId : UInt16
  priority : CanPriority
  sequence : UInt8
  payload : List UInt8
  maximumRetries : UInt8
deriving DecidableEq

namespace BegunMessage

def arbitrationId (m : BegunMessage) : UInt16 := (CanArbitrationId.encode m.priority m.routeId).2

/-- Number of fragments. -/
def count (m : BegunMessage) : Nat := fragmentsOf kFragmentPayload m.payload.length

/-- The frame of fragment `i`. -/
def frame (m : BegunMessage) (i : Nat) : CanFrame :=
  dataFrame m.arbitrationId m.sequence m.count i (fragmentAt kFragmentPayload m.payload i)

end BegunMessage

/-- A frame that `NextFrame` produced, with its write token; `rejected` once a write completion
    with this token has reported a failure. -/
structure ProducedFrame where
  token : UInt32
  frame : CanFrame
  rejected : Bool
deriving DecidableEq

namespace ProducedFrame

/-- The fragment index that the frame carries. -/
def index (p : ProducedFrame) : Nat := (p.frame.second &&& 0x0f).toNat

/-- A write completion with `token` reports a failure. -/
def reject (token : UInt32) (p : ProducedFrame) : ProducedFrame :=
  { p with rejected := p.rejected || p.token == token }

/-- The indices of the frames that were not rejected, in the order of production. -/
def kept (produced : List ProducedFrame) : List Nat :=
  (produced.filter fun p => !p.rejected).map index

theorem kept_append (ps qs : List ProducedFrame) : kept (ps ++ qs) = kept ps ++ kept qs := by
  simp only [kept, filter_append, map_append]

/-- Rejections only remove indices. -/
theorem kept_reject (token : UInt32) (ps : List ProducedFrame) :
    (kept (ps.map (reject token))).Sublist (kept ps) := by
  induction ps with
  | nil => exact .slnil
  | cons p ps ih =>
    have hcons : ∀ (p : ProducedFrame) (ps : List ProducedFrame),
        kept (p :: ps) = kept [p] ++ kept ps := fun p ps => kept_append [p] ps
    rw [map_cons, hcons, hcons p]
    refine List.Sublist.append ?_ ih
    cases hp : p.rejected <;> cases ht : p.token == token <;> simp [kept, reject, index, hp, ht]

theorem kept_of_rejected {p : ProducedFrame} (h : p.rejected = true) : kept [p] = [] := by
  simp [kept, h]

end ProducedFrame

/-- An operation of the sender, or a write completion. -/
inductive SenderAction where
  | begin (message : BegunMessage) (nowNs retryTimeoutNs : UInt64)
  | nextFrame
  | frameWritten (token : UInt32) (status : Status)
  | handleAck (frame : CanFrame)
  | poll (nowNs : UInt64)
  | armAckDeadline (nowNs : UInt64)
deriving DecidableEq

/-- A sender with its history: the message of the last successful `Begin`, the number of its
    transmissions, and the frames produced in the current one. -/
structure SenderHistory (maxSize : Nat) where
  sender : ReliableSender maxSize := {}
  message : Option BegunMessage := none
  transmissions : Nat := 0
  produced : List ProducedFrame := []
deriving DecidableEq

namespace SenderHistory

variable {maxSize : Nat}

/-- The outcome of `Begin`. -/
def beginMessage (h : SenderHistory maxSize) (m : BegunMessage)
    (nowNs retryTimeoutNs : UInt64) : Status × ReliableSender maxSize :=
  h.sender.begin m.routeId m.priority m.sequence m.payload nowNs retryTimeoutNs m.maximumRetries

def step (h : SenderHistory maxSize) : SenderAction → SenderHistory maxSize
  | .begin m nowNs retryTimeoutNs =>
    let begun := h.beginMessage m nowNs retryTimeoutNs
    if begun.1 = .ok then
      { sender := begun.2, message := some m, transmissions := 1, produced := [] }
    else { h with sender := begun.2 }
  | .nextFrame =>
    match h.sender.nextFrame with
    | none => h
    | some (frame, token, sender) =>
      { h with sender := sender, produced := h.produced ++ [⟨token, frame, false⟩] }
  | .frameWritten token status =>
    { h with
      sender := h.sender.onFrameWrite token status
      produced := if status = .ok then h.produced
        else h.produced.map (ProducedFrame.reject token) }
  | .handleAck frame => { h with sender := (h.sender.handleAck frame).2 }
  | .poll nowNs =>
    let polled := h.sender.poll nowNs
    if polled.1 = .ok then
      { h with sender := polled.2, transmissions := h.transmissions + 1, produced := [] }
    else { h with sender := polled.2 }
  | .armAckDeadline nowNs => { h with sender := (h.sender.armAckDeadline nowNs).2 }

/-- The action is a `Begin` that succeeds. -/
def Begins (h : SenderHistory maxSize) : SenderAction → Prop
  | .begin m nowNs retryTimeoutNs => (h.beginMessage m nowNs retryTimeoutNs).1 = .ok
  | _ => False

/-- What holds of a sender at any time. -/
structure Sound (h : SenderHistory maxSize) : Prop where
  /-- The next fragment starts inside the payload. -/
  sending : h.sender.state = .sending → h.sender.nextFragment < h.sender.fragmentCount ∧
    h.sender.nextFragment * kFragmentPayload < h.sender.payload.length
  /-- All fragments of the transmission were produced. -/
  waiting : h.sender.state = .waitingForAck → ∀ i < h.sender.fragmentCount,
    ∃ p ∈ h.produced, p.index = i
  /-- A frame carries the fragment of the message that its index names. -/
  frames : ∀ p ∈ h.produced, ∃ m ∈ h.message, p.index < m.count ∧ p.frame = m.frame p.index
  /-- The frames that were not rejected are in the order of their fragments. -/
  order : (ProducedFrame.kept h.produced).Pairwise (· < ·)
  retries : h.sender.retryCount ≤ h.sender.maximumRetries
  transmissions : ∀ m ∈ h.message, h.transmissions ≤ m.maximumRetries.toNat + 1
  /-- A sender that is done stays so until the next message. -/
  done : ∀ action, h.sender.state = .complete ∨ h.sender.state = .failed →
    (h.step action).sender.state = h.sender.state ∨ h.Begins action

/-! ## The invariant -/

/-- The sender carries the message. -/
structure Carries (s : ReliableSender maxSize) (m : BegunMessage) : Prop where
  arbitrationId : s.arbitrationId = m.arbitrationId
  sequence : s.sequence = m.sequence
  payload : s.payload = m.payload

structure Inv (h : SenderHistory maxSize) : Prop where
  sender : h.sender.Inv
  busy : senderBusy h.sender.state = true → ∃ m ∈ h.message, Carries h.sender m
  settled : senderBusy h.sender.state = false → h.sender.pendingWrite = false
  message : ∀ m ∈ h.message, h.sender.maximumRetries = m.maximumRetries ∧
    h.transmissions = h.sender.retryCount.toNat + 1
  retries : h.sender.retryCount ≤ h.sender.maximumRetries
  frames : ∀ p ∈ h.produced, ∃ m ∈ h.message, p.index < m.count ∧ p.frame = m.frame p.index
  produced : ∀ i < h.sender.nextFragment, ∃ p ∈ h.produced, p.index = i
  kept : (ProducedFrame.kept h.produced).Sublist (List.range h.sender.nextFragment)
  /-- The frame whose write is pending is the last one. -/
  pending : h.sender.pendingWrite = true → ∃ earlier last, h.produced = earlier ++ [last] ∧
    last.token = h.sender.pendingWriteToken ∧
    (ProducedFrame.kept earlier).Sublist (List.range h.sender.pendingFragment)

theorem inv_default : Inv ({} : SenderHistory maxSize) where
  sender := ReliableSender.inv_default
  busy := nofun
  settled _ := rfl
  message := nofun
  retries := UInt8.le_refl _
  frames := nofun
  produced := nofun
  kept := .slnil
  pending := nofun

/-- What the retry counters are after an operation that does not touch them. -/
structure SameRetries (s s' : ReliableSender maxSize) : Prop where
  retryCount : s'.retryCount = s.retryCount
  maximumRetries : s'.maximumRetries = s.maximumRetries

/-- An operation that leaves the fragment counters alone, and perhaps stops waiting for a write. -/
theorem Inv.update {h : SenderHistory maxSize} (hinv : Inv h)
    {s' : ReliableSender maxSize} (hsender : s'.Inv)
    (hsame : ReliableSender.SameMessage h.sender s') (hretries : SameRetries h.sender s')
    (hnext : s'.nextFragment = h.sender.nextFragment)
    (hbusy : senderBusy s'.state = true → senderBusy h.sender.state = true)
    (hsettled : senderBusy s'.state = false → s'.pendingWrite = false)
    (hpending : s'.pendingWrite = true → h.sender.pendingWrite = true ∧
      s'.pendingWriteToken = h.sender.pendingWriteToken ∧
      s'.pendingFragment = h.sender.pendingFragment) : Inv { h with sender := s' } where
  sender := hsender
  busy hb := by
    obtain ⟨m, hm, hcarries⟩ := hinv.busy (hbusy hb)
    exact ⟨m, hm, hsame.arbitrationId.trans hcarries.arbitrationId,
      hsame.sequence.trans hcarries.sequence, hsame.payload.trans hcarries.payload⟩
  settled := hsettled
  message m hm := by
    dsimp only
    rw [hretries.maximumRetries, hretries.retryCount]
    exact hinv.message m hm
  retries := by
    dsimp only
    rw [hretries.maximumRetries, hretries.retryCount]
    exact hinv.retries
  frames := hinv.frames
  produced := by
    dsimp only
    rw [hnext]
    exact hinv.produced
  kept := by
    dsimp only
    rw [hnext]
    exact hinv.kept
  pending hp := by
    obtain ⟨hp, htoken, hfragment⟩ := hpending hp
    dsimp only
    rw [htoken, hfragment]
    exact hinv.pending hp

/-! ## Begin -/

variable {h : SenderHistory maxSize} {s : ReliableSender maxSize}

theorem begin_of_busy (hbusy : senderBusy s.state = true) (routeId : UInt16)
    (priority : CanPriority) (sequence : UInt8) (payload : List UInt8)
    (nowNs retryTimeoutNs : UInt64) (maximumRetries : UInt8) :
    s.begin routeId priority sequence payload nowNs retryTimeoutNs maximumRetries =
      (.invalidState, s) := by
  rw [begin, if_pos (of_decide_eq_true hbusy)]

theorem retries_of_begin {routeId : UInt16} {priority : CanPriority} {sequence : UInt8}
    {payload : List UInt8} {nowNs retryTimeoutNs : UInt64} {maximumRetries : UInt8}
    (hok : (s.begin routeId priority sequence payload nowNs retryTimeoutNs maximumRetries).1 = .ok) :
    (s.begin routeId priority sequence payload nowNs retryTimeoutNs maximumRetries).2.retryCount =
        0 ∧
      (s.begin routeId priority sequence payload nowNs retryTimeoutNs
        maximumRetries).2.maximumRetries = maximumRetries := by
  unfold begin at hok ⊢
  dsimp only at hok ⊢
  split_ifs at hok ⊢
  · exact absurd hok ‹_›
  · exact ⟨rfl, rfl⟩

theorem inv_begin (hinv : Inv h) (m : BegunMessage) (nowNs retryTimeoutNs : UInt64) :
    Inv (h.step (.begin m nowNs retryTimeoutNs)) := by
  have hsender := ReliableSender.inv_begin hinv.sender m.routeId m.priority m.sequence m.payload
    nowNs retryTimeoutNs m.maximumRetries
  dsimp only [step]
  split
  · rename_i hok
    rcases h.sender.begin_cases m.routeId m.priority m.sequence m.payload nowNs retryTimeoutNs
      m.maximumRetries with ⟨hfail, -⟩ | ⟨-, -, -, hbegun⟩
    · exact absurd hok hfail
    obtain ⟨hretry, hmaximum⟩ := retries_of_begin hok
    exact {
      sender := hsender
      busy := fun _ => ⟨m, rfl, (congrArg Prod.snd hbegun.route).symm, hbegun.sequence_eq,
        hbegun.payload_eq⟩
      settled := fun _ => hbegun.pending_eq
      message := by
        rintro _ ⟨⟩
        exact ⟨hmaximum, by rw [beginMessage, hretry]; rfl⟩
      retries := by
        rw [beginMessage, hretry]
        exact UInt8.zero_le
      frames := nofun
      produced := fun i hi => absurd hi (by rw [beginMessage, hbegun.next_eq]; exact Nat.not_lt_zero i)
      kept := nil_sublist _
      pending := fun hp => nomatch hbegun.pending_eq.symm.trans hp }
  · rename_i hfail
    by_cases hbusy : senderBusy h.sender.state = true
    · rw [beginMessage, begin_of_busy hbusy]
      exact hinv
    · rcases h.sender.begin_cases m.routeId m.priority m.sequence m.payload nowNs retryTimeoutNs
        m.maximumRetries with ⟨-, id, heq, -⟩ | ⟨hok, -⟩
      · have hidle : ∀ s' : ReliableSender maxSize, s' = { h.sender with
            arbitrationId := id } → s'.Inv → Inv { h with sender := s' } := by
          rintro _ rfl hsender
          exact {
            sender := hsender
            busy := fun hb => absurd hb hbusy
            settled := hinv.settled
            message := hinv.message
            retries := hinv.retries
            frames := hinv.frames
            produced := hinv.produced
            kept := hinv.kept
            pending := hinv.pending }
        exact hidle _ heq hsender
      · exact absurd hok hfail

/-! ## Frames and their writes -/

/-- The index of a frame of the message is read back. -/
theorem index_frame {m : BegunMessage} (hcount : m.count ≤ 16) {i : Nat} (hi : i < m.count)
    (token : UInt32) (rejected : Bool) :
    (⟨token, m.frame i, rejected⟩ : ProducedFrame).index = i := by
  rw [ProducedFrame.index, BegunMessage.frame, dataFrame, CanFrame.second_frameData]
  exact (fragmentByte_read _ hcount i hi).1

theorem inv_nextFrame (hinv : Inv h) : Inv (h.step .nextFrame) := by
  dsimp only [step]
  by_cases hst : h.sender.state = .sending
  · rw [nextFrame_of_sending hst]
    obtain ⟨m, hm, hcarries⟩ := hinv.busy (by rw [hst]; rfl)
    have hlt := hinv.sender.sending hst
    have hcount : h.sender.fragmentCount = m.count := by
      rw [hinv.sender.count, hcarries.payload, BegunMessage.count]
    have hframe : h.sender.currentFrame = m.frame h.sender.nextFragment := by
      rw [currentFrame, BegunMessage.frame, hcount, hcarries.arbitrationId,
        hcarries.sequence, hcarries.payload]
    have hindex := index_frame (hcount ▸ hinv.sender.count_le) (hcount ▸ hlt)
      h.sender.advance.pendingWriteToken false
    have hrange : List.range h.sender.advance.nextFragment =
        List.range h.sender.nextFragment ++ [h.sender.nextFragment] := range_succ
    rw [hframe]
    exact {
      sender := inv_advance hinv.sender hst
      busy := fun _ => ⟨m, hm, hcarries.1, hcarries.2, hcarries.3⟩
      settled := fun hb => by
        dsimp only [advance] at hb
        split at hb
        · cases hb
        · rw [hst] at hb
          cases hb
      message := hinv.message
      retries := hinv.retries
      frames := fun p hp => by
        rcases mem_append.mp hp with hp | hp
        · exact hinv.frames p hp
        · cases mem_singleton.mp hp
          rw [hindex]
          exact ⟨m, hm, hcount ▸ hlt, rfl⟩
      produced := fun i hi => by
        rcases Nat.lt_succ_iff_lt_or_eq.mp hi with hi | rfl
        · obtain ⟨p, hp, hpi⟩ := hinv.produced i hi
          exact ⟨p, mem_append_left _ hp, hpi⟩
        · exact ⟨_, mem_append_right _ (mem_singleton_self _), hindex⟩
      kept := by
        dsimp only
        rw [ProducedFrame.kept_append, hrange]
        refine hinv.kept.append ?_
        simp only [ProducedFrame.kept, filter_cons, Bool.not_false, if_true, filter_nil,
          map_cons, map_nil, hindex]
        exact List.Sublist.refl _
      pending := fun _ => ⟨h.produced, _, rfl, rfl, hinv.kept⟩ }
  · rw [nextFrame_of_ne hst]
    exact hinv

/-- A report that a write failed, as far as the recorded frames are concerned. -/
theorem Inv.reject (hinv : Inv h) (token : UInt32) :
    Inv { h with produced := h.produced.map (ProducedFrame.reject token) } where
  sender := hinv.sender
  busy := hinv.busy
  settled := hinv.settled
  message := hinv.message
  retries := hinv.retries
  frames p hp := by
    obtain ⟨q, hq, rfl⟩ := mem_map.mp hp
    exact hinv.frames q hq
  produced i hi := by
    obtain ⟨p, hp, hpi⟩ := hinv.produced i hi
    exact ⟨_, mem_map_of_mem hp, hpi⟩
  kept := (ProducedFrame.kept_reject token h.produced).trans hinv.kept
  pending hp := by
    obtain ⟨earlier, last, hproduced, htoken, hkept⟩ := hinv.pending hp
    refine ⟨earlier.map (ProducedFrame.reject token), last.reject token, ?_, htoken,
      (ProducedFrame.kept_reject token earlier).trans hkept⟩
    dsimp only
    rw [hproduced, map_append, map_singleton]

/-- What a write completion can do to a sender. -/
theorem onFrameWrite_cases (hs : s.Inv) (token : UInt32) (status : Status) :
    s.onFrameWrite token status = s ∨
      (status = .ok ∧ s.onFrameWrite token status = { s with pendingWrite := false }) ∨
      (status ≠ .ok ∧ s.pendingWrite = true ∧ token = s.pendingWriteToken ∧
        ∃ stats, s.onFrameWrite token status = { s with
          pendingWrite := false, nextFragment := s.pendingFragment, state := .sending,
          stats := stats }) := by
  unfold onFrameWrite
  split
  · exact .inl rfl
  · rename_i hpending
    obtain ⟨hpending, htoken⟩ := not_or.mp hpending
    have hpending := Bool.not_eq_false _ ▸ hpending
    dsimp only
    split
    · rename_i hok
      exact .inr (.inl ⟨hok, rfl⟩)
    · rename_i hok
      rw [if_pos (hs.pending hpending).1]
      exact .inr (.inr ⟨hok, hpending, not_not.mp htoken, _, rfl⟩)

/-- A rejected frame takes the sender back to its fragment. -/
theorem inv_rolledBack (hinv : Inv h) (hpending : h.sender.pendingWrite = true)
    {s' : ReliableSender maxSize} (hsender : s'.Inv) {stats : ReliableSenderStats}
    (hs' : s' = { h.sender with
      pendingWrite := false, nextFragment := h.sender.pendingFragment, state := .sending,
      stats := stats }) :
    Inv { h with
      sender := s'
      produced := h.produced.map (ProducedFrame.reject h.sender.pendingWriteToken) } := by
  have hrejected := hinv.reject h.sender.pendingWriteToken
  have hnext := (hinv.sender.pending hpending).1
  have hbusy : senderBusy h.sender.state = true :=
    (Bool.eq_false_or_eq_true _).resolve_right fun hidle =>
      nomatch (hinv.settled hidle).symm.trans hpending
  subst hs'
  exact {
    sender := hsender
    busy := fun _ => by
      obtain ⟨m, hm, hcarries⟩ := hinv.busy hbusy
      exact ⟨m, hm, hcarries.1, hcarries.2, hcarries.3⟩
    settled := fun _ => rfl
    message := hinv.message
    retries := hinv.retries
    frames := hrejected.frames
    produced := fun i hi => hrejected.produced i (hnext ▸ Nat.lt_succ_of_lt hi)
    kept := by
      obtain ⟨earlier, last, hproduced, htoken, hkept⟩ := hinv.pending hpending
      have hlast : (last.reject h.sender.pendingWriteToken).rejected = true := by
        simp [ProducedFrame.reject, htoken]
      dsimp only
      rw [hproduced, map_append, map_singleton, ProducedFrame.kept_append,
        ProducedFrame.kept_of_rejected hlast, append_nil]
      exact (ProducedFrame.kept_reject _ earlier).trans hkept
    pending := nofun }

theorem inv_frameWritten (hinv : Inv h) (token : UInt32) (status : Status) :
    Inv (h.step (.frameWritten token status)) := by
  have hsender := inv_onFrameWrite hinv.sender token status
  dsimp only [step]
  rcases onFrameWrite_cases hinv.sender token status with
    heq | ⟨hok, heq⟩ | ⟨hok, hpending, rfl, stats, heq⟩
  · rw [heq]
    split
    · exact hinv
    · exact hinv.reject token
  · rw [if_pos hok]
    rw [heq] at hsender ⊢
    exact hinv.update hsender ⟨rfl, rfl, rfl, rfl⟩ ⟨rfl, rfl⟩ rfl id (fun _ => rfl) nofun
  · rw [if_neg hok]
    exact inv_rolledBack hinv hpending hsender heq

/-! ## HandleAck, Poll and ArmAckDeadline -/

theorem sameRetries_handleAck (s : ReliableSender maxSize) (frame : CanFrame) :
    SameRetries s (s.handleAck frame).2 ∧
      (s.handleAck frame).2.nextFragment = s.nextFragment ∧
      (s.handleAck frame).2.pendingWriteToken = s.pendingWriteToken := by
  unfold handleAck
  split_ifs <;> exact ⟨⟨rfl, rfl⟩, rfl, rfl⟩

theorem inv_handleAck (hinv : Inv h) (frame : CanFrame) : Inv (h.step (.handleAck frame)) := by
  have hsender := ReliableSender.inv_handleAck hinv.sender frame
  obtain ⟨hretries, hnext, htoken⟩ := sameRetries_handleAck h.sender frame
  refine hinv.update hsender (ReliableSender.same_handleAck _ frame) hretries hnext ?_ ?_ ?_ <;>
    rcases h.sender.handleAck_cases frame with ⟨-, hst, -, hfragment, hpw⟩ | ⟨-, -, hst, hpw, -⟩
  · rw [hst]
    exact id
  · rw [hst]
    exact nofun
  · rw [hst, hpw]
    exact hinv.settled
  · exact fun _ => hpw
  · rw [hpw]
    exact fun hp => ⟨hp, htoken, hfragment⟩
  · rw [hpw]
    exact nofun

theorem inv_armAckDeadline (hinv : Inv h) (nowNs : UInt64) :
    Inv (h.step (.armAckDeadline nowNs)) := by
  have hsender := ReliableSender.inv_armAckDeadline hinv.sender nowNs
  dsimp only [step]
  unfold ReliableSender.armAckDeadline at hsender ⊢
  split
  · exact hinv
  · rename_i hwait
    rw [if_neg hwait] at hsender
    exact hinv.update hsender ⟨rfl, rfl, rfl, rfl⟩ ⟨rfl, rfl⟩ rfl id hinv.settled
      fun hp => ⟨hp, rfl, rfl⟩

theorem inv_poll (hinv : Inv h) (nowNs : UInt64) : Inv (h.step (.poll nowNs)) := by
  have hsender := ReliableSender.inv_poll hinv.sender nowNs
  dsimp only [step]
  unfold ReliableSender.poll at hsender ⊢
  by_cases hwait : h.sender.state ≠ .waitingForAck ∨ nowNs < h.sender.retryDeadlineNs
  · rw [if_pos hwait, if_neg (by simp)]
    exact hinv
  rw [if_neg hwait] at hsender ⊢
  have hst : h.sender.state = .waitingForAck := not_not.mp (not_or.mp hwait).1
  by_cases hretry : h.sender.retryCount ≥ h.sender.maximumRetries
  · rw [if_pos hretry] at hsender ⊢
    rw [if_neg (by simp)]
    exact hinv.update hsender ⟨rfl, rfl, rfl, rfl⟩ ⟨rfl, rfl⟩ rfl nofun (fun _ => rfl) nofun
  · -- one more transmission, from the first fragment on
    rw [if_neg hretry] at hsender ⊢
    rw [if_pos rfl]
    have hlt : h.sender.retryCount.toNat < h.sender.maximumRetries.toNat :=
      UInt8.lt_iff_toNat_lt.mp (UInt8.not_le.mp hretry)
    have hmax := h.sender.maximumRetries.toNat_lt
    have hnext : (h.sender.retryCount + 1).toNat = h.sender.retryCount.toNat + 1 := by
      rw [UInt8.toNat_add]
      exact Nat.mod_eq_of_lt (by simp only [UInt8.reduceToNat]; omega)
    exact {
      sender := hsender
      busy := fun _ => by
        obtain ⟨m, hm, hcarries⟩ := hinv.busy (by rw [hst]; rfl)
        exact ⟨m, hm, hcarries.1, hcarries.2, hcarries.3⟩
      settled := fun _ => rfl
      message := fun m hm => by
        obtain ⟨hmaximum, htransmissions⟩ := hinv.message m hm
        exact ⟨hmaximum, by dsimp only; rw [hnext, htransmissions]⟩
      retries := UInt8.le_iff_toNat_le.mpr (by dsimp only; rw [hnext]; exact hlt)
      frames := nofun
      produced := nofun
      kept := nil_sublist _
      pending := nofun }

/-! ## All interleavings -/

theorem inv_step (h : SenderHistory maxSize) (action : SenderAction) (hinv : Inv h) :
    Inv (h.step action) := by
  cases action with
  | begin m nowNs retryTimeoutNs => exact inv_begin hinv m nowNs retryTimeoutNs
  | nextFrame => exact inv_nextFrame hinv
  | frameWritten token status => exact inv_frameWritten hinv token status
  | handleAck frame => exact inv_handleAck hinv frame
  | poll nowNs => exact inv_poll hinv nowNs
  | armAckDeadline nowNs => exact inv_armAckDeadline hinv nowNs

/-- A sender that is done is left alone by everything but a successful `Begin`. -/
theorem Inv.done (hinv : Inv h) (action : SenderAction)
    (hdone : h.sender.state = .complete ∨ h.sender.state = .failed) :
    (h.step action).sender.state = h.sender.state ∨ h.Begins action := by
  have hidle : senderBusy h.sender.state = false := by
    rcases hdone with hst | hst <;> rw [hst] <;> rfl
  have hwait : h.sender.state ≠ .waitingForAck := fun hst => by rw [hst] at hidle; cases hidle
  cases action with
  | begin m nowNs retryTimeoutNs =>
    by_cases hok : (h.beginMessage m nowNs retryTimeoutNs).1 = .ok
    · exact .inr hok
    · left
      dsimp only [step]
      rw [if_neg hok]
      rcases h.sender.begin_cases m.routeId m.priority m.sequence m.payload nowNs retryTimeoutNs
        m.maximumRetries with ⟨-, id, heq, -⟩ | ⟨hok', -⟩
      · rw [beginMessage, heq]
      · exact absurd hok' hok
  | nextFrame =>
    have hst : h.sender.state ≠ .sending := fun hst => by rw [hst] at hidle; cases hidle
    dsimp only [step]
    rw [nextFrame_of_ne hst]
    exact .inl rfl
  | frameWritten token status =>
    left
    dsimp only [step]
    rw [onFrameWrite, if_pos (.inl (hinv.settled hidle))]
  | handleAck frame =>
    left
    dsimp only [step]
    rcases h.sender.handleAck_cases frame with ⟨-, hst, -⟩ | ⟨-, hst, -⟩
    · exact hst
    · exact absurd hst hwait
  | poll nowNs =>
    have hpoll : h.sender.poll nowNs = (.unavailable, h.sender) := by
      rw [poll, if_pos (.inl hwait)]
    left
    dsimp only [step]
    rw [hpoll, if_neg (by simp)]
  | armAckDeadline nowNs =>
    left
    dsimp only [step]
    rw [armAckDeadline, if_pos hwait]

theorem Inv.sound (hinv : Inv h) : Sound h where
  sending hst := by
    have hlt := hinv.sender.sending hst
    refine ⟨hlt, ?_⟩
    rw [hinv.sender.count] at hlt
    exact (lt_fragmentsOf_iff (by decide)).mp hlt
  waiting hst i hi := hinv.produced i ((hinv.sender.waiting hst).1 ▸ hi)
  frames := hinv.frames
  order := pairwise_lt_range.sublist hinv.kept
  retries := hinv.retries
  transmissions m hm := by
    obtain ⟨hmaximum, htransmissions⟩ := hinv.message m hm
    have := UInt8.le_iff_toNat_le.mp hinv.retries
    rw [hmaximum] at this
    omega
  done := hinv.done

/-- After every interleaving of `Begin`, `NextFrame`, `HandleAck`, `Poll`, `ArmAckDeadline` and
    write completions with any token and status, the history of the sender is sound. -/
theorem sound_run (maxSize : Nat) (actions : List SenderAction) :
    Sound (Machine.run step ({} : SenderHistory maxSize) actions) :=
  (Machine.run_invariant step inv_step inv_default actions).sound

end SenderHistory

end AsterCtrl.Can
