import AsterCtrl.ForStd.List
import AsterCtrl.Spec.Can.ReliableFlow
import AsterCtrl.Spec.Can.ReliableSenderInvariant

/-!
# Agreement of the reliable path

What the receiver returns is what the sender sent.  `LinkInv` holds in every state of every
run of a `ReliableLink`; on top of it, a run that delivers one of any 15 consecutive messages
and that lets the frames of a message leave the bus before its sequence is used again keeps
`Agreed`: the receiver returns messages in order, at most once and byte for byte, and the
sender completes only messages that were returned.

## Key results

- `linkInv_run`, `linkInv_trace`: the invariant of all runs
- `agreed_trace`: agreement in the runs described above
-/

namespace AsterCtrl.Can

open List ReliableSender Machine

theorem Route.encode_eq (route : Route) :
    CanArbitrationId.encode route.priority route.routeId = (.ok, route.arbitrationId) := by
  rw [arbitrationId, CanArbitrationId.encode_of_valid route.routeId_ne route.routeId_le]

theorem Route.decode_isSome (route : Route) :
    (CanArbitrationId.decode route.arbitrationId).isSome := by
  rw [arbitrationId, CanArbitrationId.decode_encode route.routeId_ne route.routeId_le]
  rfl

namespace ReliableLink

variable {maxSize : Nat}

/-- The data direction of the link. -/
def flow (s : ReliableLink maxSize) : ReliableFlow maxSize :=
  ⟨s.sent, s.data, s.receiver, s.lastSeen, s.delivered⟩

@[simp] theorem flow_receiver (s : ReliableLink maxSize) :
    s.flow.receiver = s.receiver := rfl

@[simp] theorem flow_lastSeen (s : ReliableLink maxSize) :
    s.flow.lastSeen = s.lastSeen := rfl

@[simp] theorem flow_delivered (s : ReliableLink maxSize) :
    s.flow.delivered = s.delivered := rfl

/-! ## The invariant of all runs -/

/-- The sender carries the message `p` with number `i`. -/
structure Carries (route : Route) (sender : ReliableSender maxSize) (i : Nat)
    (p : List UInt8) : Prop where
  arbitrationId : sender.arbitrationId = route.arbitrationId
  sequence : sender.sequence = messageSequence i
  payload : sender.payload = p

variable {route : Route}

theorem Carries.of_same {s s' : ReliableSender maxSize} {i : Nat} {p : List UInt8}
    (h : Carries route s i p) (hs : s.SameMessage s') : Carries route s' i p :=
  ⟨hs.arbitrationId.trans h.arbitrationId, hs.sequence.trans h.sequence,
    hs.payload.trans h.payload⟩

structure LinkInv (route : Route) (s : ReliableLink maxSize) : Prop where
  sender : s.sender.Inv
  unused : s.sent = [] → s.sender.state = .idle ∧ s.sender.pendingWrite = false
  carries : ∀ p, s.sent[s.sent.length - 1]? = some p →
    Carries route s.sender (s.sent.length - 1) p
  flow : FlowInv route.arbitrationId s.flow
  window : Windowed route.arbitrationId s.flow
  acks : ∀ e ∈ s.acks, e.2 = ackFrame route.arbitrationId (messageSequence e.1)

theorem linkInv_init (route : Route) (reassemblyTimeoutNs : UInt64) :
    LinkInv route (init reassemblyTimeoutNs : ReliableLink maxSize) where
  sender := inv_default
  unused _ := ⟨rfl, rfl⟩
  carries p hp := nomatch hp
  flow := FlowInv.initial reassemblyTimeoutNs
  window := fun _ hactive => nomatch hactive
  acks := by simp [init]

variable {s : ReliableLink maxSize}

/-- Steps of the sender that stay with the message. -/
private theorem LinkInv.with_sender (h : LinkInv route s) {sender : ReliableSender maxSize}
    (hinv : sender.Inv) (hsame : s.sender.SameMessage sender)
    (hunused : s.sender.state = .idle → s.sender.pendingWrite = false → sender.state = .idle ∧
      sender.pendingWrite = false) : LinkInv route { s with sender := sender } where
  sender := hinv
  unused hnone := hunused (h.unused hnone).1 (h.unused hnone).2
  carries p hp := (h.carries p hp).of_same hsame
  flow := h.flow
  window := h.window
  acks := h.acks

private theorem linkInv_begin (h : LinkInv route s) (payload : List UInt8)
    (nowNs retryTimeoutNs : UInt64) (maximumRetries : UInt8) :
    LinkInv route (s.begin route payload nowNs retryTimeoutNs maximumRetries) := by
  have hinv := inv_begin h.sender route.routeId route.priority
    (messageSequence s.sent.length) payload nowNs retryTimeoutNs maximumRetries
  unfold begin
  rcases begin_cases s.sender route.routeId route.priority
      (messageSequence s.sent.length) payload nowNs retryTimeoutNs maximumRetries with
    ⟨hst, id, heq, hid⟩ | ⟨hst, -, -, hbegun⟩
  · dsimp only
    rw [if_neg hst]
    refine ⟨hinv, fun hnone => ?_, fun p hp => ?_, h.flow, h.window, h.acks⟩
    · rw [heq]
      exact h.unused hnone
    · -- a refused `Begin` may have written the arbitration id, which is the same one
      have hc := h.carries p hp
      rw [heq]
      refine ⟨?_, hc.sequence, hc.payload⟩
      rcases hid with rfl | rfl
      · exact hc.arbitrationId
      · rfl
  · dsimp only
    rw [if_pos hst]
    have hsend : Sendable maxSize payload :=
      ⟨hbegun.nonempty, hbegun.fits, hbegun.count_le⟩
    refine ⟨hinv, fun hnone => by simp at hnone, fun p hp => ?_, h.flow.begun hsend,
      h.window.begun payload, h.acks⟩
    simp only [length_append, length_singleton, Nat.add_sub_cancel,
      List.getElem?_concat_length, Option.some.injEq] at hp ⊢
    refine ⟨?_, hbegun.sequence_eq, hbegun.payload_eq.trans hp⟩
    have hroute := hbegun.route
    rw [route.encode_eq] at hroute
    exact (Prod.mk.inj hroute).2.symm

private theorem linkInv_nextFrame (h : LinkInv route s) : LinkInv route s.nextFrame := by
  unfold nextFrame
  by_cases hst : s.sender.state = .sending
  · rw [nextFrame_of_sending hst]
    have hne : s.sent ≠ [] := fun hnone => by
      have := (h.unused hnone).1
      rw [hst] at this
      cases this
    obtain ⟨p, hp⟩ : ∃ p, s.sent[s.sent.length - 1]? = some p := by
      have := length_pos_of_ne_nil hne
      exact ⟨_, List.getElem?_eq_getElem (by omega)⟩
    have hc := h.carries p hp
    have hframe : s.sender.currentFrame = messageFrame route.arbitrationId (s.sent.length - 1) p
        s.sender.nextFragment := by
      rw [currentFrame, messageFrame, hc.arbitrationId, hc.sequence, h.sender.count, hc.payload]
    have hlt : s.sender.nextFragment < fragmentsOf kFragmentPayload p.length := by
      have := h.sender.sending hst
      rwa [h.sender.count, hc.payload] at this
    refine ⟨inv_advance h.sender hst, fun hnone => absurd hnone hne,
      fun q hq => (h.carries q hq).of_same (same_advance _), ?_, ?_, h.acks⟩
    · rw [hframe]
      exact h.flow.emitted route.decode_isSome hp [s.sender.nextFragment] (by simpa using hlt)
    · exact h.window
  · rw [nextFrame_of_ne hst]
    exact h

/-- The acknowledgement the receiver answers a frame of message `i` with. -/
theorem acknowledgement_eq (h : LinkInv route s) {i : Nat} {frame : CanFrame}
    {rest : List (Nat × CanFrame)} (hd : s.data = (i, frame) :: rest) (timeNs : Option UInt64)
    (hsize : (s.receiver.receive frame timeNs).1.acknowledgement.size ≠ 0) :
    (s.receiver.receive frame timeNs).1.acknowledgement =
      ackFrame route.arbitrationId (messageSequence i) := by
  obtain ⟨-, p, k, -, -, hframe⟩ := h.flow.frames (i, frame) (by simp [flow, hd])
  dsimp only at hframe
  have hhead : frame.header &&& 0x0f = messageSequence i := by
    rw [hframe]
    exact messageFrame_header _ _ _ _
  have harb : frame.arbitrationId = route.arbitrationId := by rw [hframe]; rfl
  rw [← hhead, ← harb]
  cases (ReliableReceiver.receive_spec h.flow.receiver frame timeNs).1 with
  | quiet _ acknowledgement _ =>
    exact absurd (congrArg CanFrame.size acknowledgement) hsize
  | duplicate _ acknowledgement _ _ => exact acknowledgement
  | completed _ _ acknowledgement _ _ _ => exact acknowledgement

private theorem linkInv_deliverData (h : LinkInv route s) (timeNs : Option UInt64) :
    LinkInv route (s.deliverData timeNs) := by
  unfold deliverData
  cases hd : s.data with
  | nil => exact h
  | cons e rest =>
    obtain ⟨i, frame⟩ := e
    refine { h with
      flow := h.flow.received hd timeNs, window := h.window.received h.flow hd timeNs
      acks := fun e he => ?_ }
    dsimp only at he
    split at he
    · rename_i hsize
      rcases mem_append.mp he with he | he
      · exact h.acks e he
      · rw [mem_singleton.mp he]
        exact acknowledgement_eq h hd timeNs hsize
    · exact h.acks e he

private theorem linkInv_deliverAck (h : LinkInv route s) : LinkInv route s.deliverAck := by
  unfold deliverAck
  cases hd : s.acks with
  | nil => exact h
  | cons e rest =>
    obtain ⟨i, frame⟩ := e
    have hs := h.with_sender (inv_handleAck h.sender frame)
      (same_handleAck _ frame) fun hidle hpend => by
        rcases handleAck_cases s.sender frame with ⟨-, hst, -, -, hpw⟩ | ⟨-, hw, -⟩
        · exact ⟨hst.trans hidle, hpw.trans hpend⟩
        · rw [hidle] at hw; cases hw
    exact { hs with acks := fun e he => h.acks e (by rw [hd]; exact mem_cons_of_mem _ he) }

theorem linkInv_step (h : LinkInv route s) (a : ReliableLinkAction) :
    LinkInv route (s.step route a) := by
  cases a with
  | begin payload nowNs retryTimeoutNs maximumRetries => exact linkInv_begin h _ _ _ _
  | nextFrame => exact linkInv_nextFrame h
  | frameWritten token status =>
    refine h.with_sender (inv_onFrameWrite h.sender token status)
      (same_onFrameWrite _ token status) fun hidle hpend => ?_
    rw [onFrameWrite, if_pos (.inl hpend)]
    exact ⟨hidle, hpend⟩
  | armAckDeadline nowNs =>
    refine h.with_sender (inv_armAckDeadline h.sender nowNs)
      (same_armAckDeadline _ nowNs) fun hidle hpend => ?_
    rw [armAckDeadline, if_pos (by rw [hidle]; rintro ⟨⟩)]
    exact ⟨hidle, hpend⟩
  | pollSender nowNs =>
    refine h.with_sender (inv_poll h.sender nowNs)
      (same_poll _ nowNs) fun hidle hpend => ?_
    rw [poll, if_pos (.inl (by rw [hidle]; rintro ⟨⟩))]
    exact ⟨hidle, hpend⟩
  | loseData position =>
    have hsub := eraseIdx_sublist s.data position
    exact { h with flow := h.flow.lost hsub }
  | deliverData timeNs => exact linkInv_deliverData h timeNs
  | pollReceiver nowNs =>
    have hk := ReliableReceiver.keeps_poll s.receiver nowNs
    exact { h with flow := h.flow.kept hk, window := h.window.kept hk }
  | loseAck position =>
    have hsub := eraseIdx_sublist s.acks position
    exact { h with acks := fun e he => h.acks e (hsub.subset he) }
  | deliverAck => exact linkInv_deliverAck h
  | skip => exact h

theorem linkInv_run (route : Route) (reassemblyTimeoutNs : UInt64)
    (as : List ReliableLinkAction) :
    LinkInv route (run (step route)
      (init reassemblyTimeoutNs : ReliableLink maxSize) as) :=
  run_invariant (I := LinkInv route) _ (fun _ a h => linkInv_step h a) (linkInv_init route _) as

theorem linkInv_trace (route : Route) (reassemblyTimeoutNs : UInt64)
    (acts : ℕ → ReliableLinkAction) (t : ℕ) :
    LinkInv route (trace (step route)
      (init reassemblyTimeoutNs : ReliableLink maxSize) acts t) :=
  trace_invariant (I := LinkInv route) _ (linkInv_init route _) (fun _ h => linkInv_step h _) t

/-! ## Later states -/

/-- What can be said of a state `s'` that comes after `s` in a run: nothing sent or delivered
    is taken back, and what is delivered in between is not older than what was seen last. -/
structure Later (s s' : ReliableLink maxSize) : Prop where
  sent : s.sent <+: s'.sent
  delivered : s.delivered <+: s'.delivered
  lastSeen : s.lastSeen ≤ s'.lastSeen
  fresh : ∀ e ∈ s'.delivered, e ∈ s.delivered ∨ s.lastSeen ≤ e.1

theorem Later.refl (s : ReliableLink maxSize) : Later s s :=
  ⟨prefix_rfl, prefix_rfl, Nat.le_refl _, fun _ he => .inl he⟩

theorem Later.trans {s₁ s₂ s₃ : ReliableLink maxSize} (h : Later s₁ s₂)
    (h' : Later s₂ s₃) : Later s₁ s₃ where
  sent := h.sent.trans h'.sent
  delivered := h.delivered.trans h'.delivered
  lastSeen := h.lastSeen.trans h'.lastSeen
  fresh e he := by
    rcases h'.fresh e he with he | hle
    · exact h.fresh e he
    · exact .inr (h.lastSeen.trans hle)

private theorem later_deliverData (h : LinkInv route s) (timeNs : Option UInt64) :
    Later s (s.deliverData timeNs) := by
  unfold deliverData
  cases hd : s.data with
  | nil => exact .refl s
  | cons e rest =>
    obtain ⟨i, frame⟩ := e
    have hseen : s.lastSeen ≤ i := (h.flow.frames (i, frame) (by simp [flow, hd])).1
    refine ⟨prefix_rfl, ?_, hseen, fun e he => ?_⟩ <;> dsimp only at *
    · split
      · exact prefix_append _ _
      · exact prefix_rfl
    · split at he
      · rcases mem_append.mp he with he | he
        · exact .inl he
        · rw [mem_singleton.mp he]
          exact .inr hseen
      · exact .inl he

theorem later_step (h : LinkInv route s) (a : ReliableLinkAction) : Later s (s.step route a) := by
  have hsame : ∀ s' : ReliableLink maxSize, s'.sent = s.sent →
      s'.delivered = s.delivered → s'.lastSeen = s.lastSeen → Later s s' := by
    intro s' h1 h2 h3
    exact ⟨h1 ▸ prefix_rfl, h2 ▸ prefix_rfl, Nat.le_of_eq h3.symm,
      fun _ he => .inl (h2 ▸ he)⟩
  cases a with
  | begin payload nowNs retryTimeoutNs maximumRetries =>
    refine ⟨?_, prefix_rfl, Nat.le_refl _, fun _ he => .inl he⟩
    simp only [step, begin]
    split
    · exact prefix_append _ _
    · exact prefix_rfl
  | nextFrame =>
    simp only [step, nextFrame]
    split <;> exact hsame _ rfl rfl rfl
  | deliverData timeNs => exact later_deliverData h timeNs
  | deliverAck =>
    simp only [step, deliverAck]
    split <;> exact hsame _ rfl rfl rfl
  | frameWritten | armAckDeadline | pollSender | loseData | pollReceiver | loseAck | skip =>
    exact hsame _ rfl rfl rfl

theorem later_trace (route : Route) (reassemblyTimeoutNs : UInt64)
    (acts : ℕ → ReliableLinkAction) {t u : ℕ} (htu : t ≤ u) :
    Later (trace (step route) (init reassemblyTimeoutNs : ReliableLink maxSize)
        acts t)
      (trace (step route) (init reassemblyTimeoutNs) acts u) :=
  trace_mono _ Later.refl (fun _ _ _ => Later.trans)
    (fun t => later_step (linkInv_trace route reassemblyTimeoutNs acts t) _) htu

/-! ## Agreement -/

/-- Among any 15 consecutive messages of the run at least one is delivered. -/
def Recurring (run : ℕ → ReliableLink maxSize) : Prop :=
  ∀ i, (∃ t, i + 14 < (run t).sent.length) →
    ∃ j, i ≤ j ∧ j ≤ i + 14 ∧ ∃ t p, (j, p) ∈ (run t).delivered

/-- No data frame and no acknowledgement of message `i` is in flight when message `i + 16`
    begins. -/
def Flushed (run : ℕ → ReliableLink maxSize) : Prop :=
  ∀ t, (run (t + 1)).sent.length = (run t).sent.length + 1 →
    ∀ e ∈ (run t).data ++ (run t).acks, e.1 + 16 ≠ (run t).sent.length

/-- The two endpoints agree on the messages. -/
structure Agreed (s : ReliableLink maxSize) : Prop where
  /-- What was returned is an in-order subsequence of what was sent. -/
  subsequence : (s.delivered.map Prod.snd).Sublist s.sent
  /-- No message is returned twice. -/
  increasing : (s.delivered.map Prod.fst).Pairwise (· < ·)
  /-- Every message is returned byte for byte. -/
  payloads : ∀ e ∈ s.delivered, s.sent[e.1]? = some e.2
  /-- A completed message was returned. -/
  completed : s.sender.state = .complete → ∃ p, (s.sent.length - 1, p) ∈ s.delivered

/-- What `Agreed` needs to be kept by every step. -/
structure AgreedInv (s : ReliableLink maxSize) : Prop where
  payloads : ∀ e ∈ s.delivered, s.sent[e.1]? = some e.2
  acked : ∀ e ∈ s.acks, ∃ p, (e.1, p) ∈ s.delivered
  recent : ∀ e ∈ s.data ++ s.acks, s.sent.length ≤ e.1 + 16
  completed : s.sender.state = .complete → ∃ p, (s.sent.length - 1, p) ∈ s.delivered

/-- Steps that send, return and acknowledge nothing new and complete nothing. -/
private theorem AgreedInv.of_same {s' : ReliableLink maxSize} (h : AgreedInv s)
    (hsent : s'.sent = s.sent) (hdel : s'.delivered = s.delivered) (hdata : s'.data ⊆ s.data)
    (hacks : s'.acks ⊆ s.acks) (hst : s'.sender.state = .complete → s.sender.state = .complete) :
    AgreedInv s' where
  payloads := by rw [hsent, hdel]; exact h.payloads
  acked e he := by rw [hdel]; exact h.acked e (hacks he)
  recent e he := by
    rw [hsent]
    refine h.recent e ?_
    rcases mem_append.mp he with he | he
    · exact mem_append_left _ (hdata he)
    · exact mem_append_right _ (hacks he)
  completed hc := by rw [hsent, hdel]; exact h.completed (hst hc)

section Trace

variable {route : Route} {acts : ℕ → ReliableLinkAction}
  {run : ℕ → ReliableLink maxSize} (hinv : ∀ t, LinkInv route (run t))
  (hstep : ∀ t, run (t + 1) = (run t).step route (acts t))
  (hlater : ∀ t u, t ≤ u → Later (run t) (run u)) (hrec : Recurring run)

include hinv hstep hlater hrec in
/-- The frame that arrives at time `t` belongs to one of the 16 messages from the last
    delivered one on: the 15 messages after it cannot all be skipped. -/
private theorem arrives_in_window {t : ℕ} {timeNs : Option UInt64}
    (hact : acts t = .deliverData timeNs) {i : Nat} {frame : CanFrame}
    {rest : List (Nat × CanFrame)} (hd : (run t).data = (i, frame) :: rest) :
    i < (run t).flow.base + 16 := by
  by_contra hout
  obtain ⟨-, p, -, hp, -⟩ := (hinv t).flow.frames (i, frame) (by simp [flow, hd])
  have hlt : i < (run t).sent.length := (List.getElem?_eq_some_iff.mp hp).1
  obtain ⟨j, hj, hj', u, q, hq⟩ := hrec ((run t).flow.base + 1) ⟨t, by omega⟩
  have hnext : run (t + 1) = (run t).deliverData timeNs := by rw [hstep, hact]; rfl
  -- it is delivered now or before, since later deliveries are not older than message `i`
  have hmem : (j, q) ∈ (run (t + 1)).delivered := by
    rcases Nat.le_total u (t + 1) with hle | hle
    · exact (hlater u _ hle).delivered.subset hq
    · rcases (hlater _ u hle).fresh _ hq with hmem | hseen
      · exact hmem
      · have : (run (t + 1)).lastSeen = i := by rw [hnext, deliverData, hd]
        dsimp only at hseen
        omega
  have hold : (j, q) ∈ (run t).delivered := by
    rw [hnext, deliverData, hd] at hmem
    dsimp only at hmem
    split at hmem
    · rcases mem_append.mp hmem with hmem | hmem
      · exact hmem
      · have := congrArg Prod.fst (mem_singleton.mp hmem)
        dsimp only at this
        omega
    · exact hmem
  have := (hinv t).flow.le_base _ hold
  dsimp only at this
  omega

end Trace

/-- The step in which a frame arrives, inside the window. -/
private theorem agreedInv_deliverData (h : LinkInv route s) (ha : AgreedInv s)
    (timeNs : Option UInt64)
    (hwin : ∀ i frame rest, s.data = (i, frame) :: rest → i < s.flow.base + 16) :
    AgreedInv (s.deliverData timeNs) := by
  unfold deliverData
  cases hd : s.data with
  | nil => exact ha
  | cons e rest =>
    obtain ⟨i, frame⟩ := e
    have hi := hwin i frame rest hd
    have hseen : s.flow.lastSeen ≤ i := (h.flow.frames (i, frame) (by simp [flow, hd])).1
    have hrecent := ha.recent
    rw [hd] at hrecent
    have hsub : ∀ e ∈ rest ++ s.acks, s.sent.length ≤ e.1 + 16 :=
      fun e he => hrecent e (mem_cons_of_mem _ he)
    have hiRecent : s.sent.length ≤ i + 16 := hrecent (i, frame) (mem_cons_self ..)
    -- an acknowledgement of message `i` is added once `i` is among the delivered messages
    have hacked : ∀ delivered : List (Nat × List UInt8), s.delivered <+: delivered →
        (∀ e ∈ delivered, s.sent[e.1]? = some e.2) → (∃ p, (i, p) ∈ delivered) →
        ∀ ack, AgreedInv { s with
          data := rest, receiver := (s.receiver.receive frame timeNs).2, lastSeen := i,
          acks := s.acks ++ [(i, ack)], delivered := delivered } := by
      intro delivered hpre hpay hdel ack
      refine ⟨hpay, fun e he => ?_, fun e he => ?_, fun hc => ?_⟩
      · rcases mem_append.mp he with he | he
        · obtain ⟨p, hp⟩ := ha.acked e he
          exact ⟨p, hpre.subset hp⟩
        · rw [mem_singleton.mp he]
          exact hdel
      · dsimp only at he
        rw [← append_assoc] at he
        rcases mem_append.mp he with he | he
        · exact hsub e he
        · rw [mem_singleton.mp he]
          exact hiRecent
      · obtain ⟨p, hp⟩ := ha.completed hc
        exact ⟨p, hpre.subset hp⟩
    have hquiet : AgreedInv { s with
        data := rest, receiver := (s.receiver.receive frame timeNs).2, lastSeen := i } :=
      ⟨ha.payloads, ha.acked, hsub, ha.completed⟩
    obtain ⟨p, k, hp, -, -, hout⟩ := h.flow.part_cases hd
      (fun hcont q hq => h.window.assembles hseen hi hcont hq) timeNs
    change s.receiver.PartOutcome _ _ p k timeNs (s.receiver.receive frame _) at hout
    dsimp only
    cases hout with
    | dropped status ack _ _ =>
      rw [if_neg (by rw [ack]; exact fun hne => hne rfl), if_neg status]
      exact hquiet
    | stored status ack _ _ _ _ =>
      rw [if_neg (by rw [ack]; exact fun hne => hne rfl), if_neg status]
      exact hquiet
    | duplicate status ack remembers _ _ =>
      rw [if_pos (by rw [ack]; exact nofun), if_neg (by rw [status]; exact nofun)]
      exact hacked _ prefix_rfl ha.payloads (h.flow.delivered_of_remembers remembers hseen hi) _
    | completed status _ payload ack _ _ _ =>
      rw [if_pos (by rw [ack]; exact nofun), if_pos status, payload]
      refine hacked _ (prefix_append _ _) (fun e he => ?_) ⟨p, by simp⟩ _
      rcases mem_append.mp he with he | he
      · exact ha.payloads e he
      · rw [mem_singleton.mp he]
        exact hp

/-- An acknowledgement completes only the message it acknowledges: the acknowledgements of the
    earlier messages with its sequence have left the bus. -/
private theorem agreedInv_deliverAck (h : LinkInv route s) (ha : AgreedInv s) :
    AgreedInv s.deliverAck := by
  unfold deliverAck
  cases hd : s.acks with
  | nil => exact ha
  | cons e rest =>
    obtain ⟨i, frame⟩ := e
    have hrest : rest ⊆ s.acks := by rw [hd]; exact subset_cons_self _ _
    have hmem : (i, frame) ∈ s.acks := by rw [hd]; exact mem_cons_self ..
    rcases handleAck_cases s.sender frame with
      ⟨-, hst, -⟩ | ⟨-, hwait, -, -, -, hseq⟩
    · exact ha.of_same rfl rfl (List.Subset.refl _) hrest fun hc => hst.symm.trans hc
    · obtain ⟨p, hp⟩ := ha.acked _ hmem
      have hrecent := ha.recent _ (mem_append_right _ hmem)
      have hle := (h.flow.delivered_le _ hp).trans h.flow.lastSeen
      have hne : s.sent ≠ [] := fun hnone => by
        have := (h.unused hnone).1
        rw [hwait] at this
        cases this
      have hpos := length_pos_of_ne_nil hne
      have hc := h.carries _ (List.getElem?_eq_getElem (by omega))
      have hframe : frame = ackFrame route.arbitrationId (messageSequence i) := h.acks _ hmem
      have hlast : i = s.sent.length - 1 := by
        rw [hframe, hc.sequence] at hseq
        have hhead : (ackFrame route.arbitrationId (messageSequence i)).header &&& 0x0f =
            messageSequence i := reliableHeader_and .ack (messageSequence_le i)
        rw [hhead, messageSequence_eq_iff] at hseq
        simp only [flow] at hle
        dsimp only at hrecent
        omega
      exact ⟨ha.payloads, fun e he => ha.acked e (hrest he),
        fun e he => ha.recent e (by simpa using (mem_append.mp he).imp_right fun h => hrest h),
        fun _ => ⟨p, hlast ▸ hp⟩⟩

private theorem agreedInv_begin (ha : AgreedInv s) (payload : List UInt8)
    (nowNs retryTimeoutNs : UInt64) (maximumRetries : UInt8)
    (hflush : (s.begin route payload nowNs retryTimeoutNs maximumRetries).sent.length =
      s.sent.length + 1 → ∀ e ∈ s.data ++ s.acks, e.1 + 16 ≠ s.sent.length) :
    AgreedInv (s.begin route payload nowNs retryTimeoutNs maximumRetries) := by
  unfold begin at hflush ⊢
  dsimp only at hflush ⊢
  rcases begin_cases s.sender route.routeId route.priority
      (messageSequence s.sent.length) payload nowNs retryTimeoutNs maximumRetries with
    ⟨hst, id, heq, -⟩ | ⟨hst, -, -, hbegun⟩
  · rw [if_neg hst]
    refine ha.of_same rfl rfl (List.Subset.refl _) (List.Subset.refl _) fun hc => ?_
    rw [heq] at hc
    exact hc
  · rw [if_pos hst] at hflush ⊢
    refine ⟨fun e he => ?_, ha.acked, fun e he => ?_, fun hc => ?_⟩
    · have hp := ha.payloads e he
      exact List.getElem?_append_left (List.getElem?_eq_some_iff.mp hp).1 ▸ hp
    · have := ha.recent e he
      have := hflush (by simp) e he
      simp only [length_append, length_singleton]
      omega
    · rw [hbegun.state_eq] at hc
      cases hc

private theorem agreedInv_nextFrame (ha : AgreedInv s) : AgreedInv s.nextFrame := by
  unfold nextFrame
  by_cases hst : s.sender.state = .sending
  · rw [nextFrame_of_sending hst]
    refine ⟨ha.payloads, ha.acked, fun e he => ?_, fun hc => ?_⟩
    · dsimp only at he ⊢
      rw [append_assoc, mem_append, mem_append] at he
      rcases he with he | he | he
      · exact ha.recent e (mem_append_left _ he)
      · rw [mem_singleton.mp he]
        dsimp only
        omega
      · exact ha.recent e (mem_append_right _ he)
    · simp only [advance, hst] at hc
      split at hc <;> cases hc
  · rw [nextFrame_of_ne hst]
    exact ha

/-- Every step whose `Begin` finds the bus free of the old message with its sequence, and
    whose arriving frame is inside the window, keeps the agreement. -/
private theorem agreedInv_step (h : LinkInv route s) (ha : AgreedInv s) (a : ReliableLinkAction)
    (hflush : (s.step route a).sent.length = s.sent.length + 1 → ∀ e ∈ s.data ++ s.acks, e.1 + 16 ≠
      s.sent.length)
    (hwin : ∀ timeNs, a = .deliverData timeNs → ∀ i frame rest, s.data = (i, frame) :: rest → i <
      s.flow.base + 16) : AgreedInv (s.step route a) := by
  have hsub := @List.Subset.refl
  cases a with
  | begin payload nowNs retryTimeoutNs maximumRetries => exact agreedInv_begin ha _ _ _ _ hflush
  | nextFrame => exact agreedInv_nextFrame ha
  | frameWritten token status =>
    exact ha.of_same rfl rfl (hsub _) (hsub _) (complete_of_onFrameWrite token status)
  | armAckDeadline nowNs =>
    refine ha.of_same rfl rfl (hsub _) (hsub _) fun hc => ?_
    simp only [step, armAckDeadline] at hc
    split at hc <;> exact hc
  | pollSender nowNs =>
    refine ha.of_same rfl rfl (hsub _) (hsub _) fun hc => ?_
    rcases poll_cases s.sender nowNs with ⟨heq, -⟩ | ⟨-, -, hst, -⟩ | ⟨-, -, hst, -⟩
    · rwa [step, heq] at hc
    · cases hst.symm.trans hc
    · cases hst.symm.trans hc
  | loseData position =>
    exact ha.of_same rfl rfl (eraseIdx_sublist _ _).subset (hsub _) id
  | deliverData timeNs =>
    exact agreedInv_deliverData h ha timeNs (hwin timeNs rfl)
  | pollReceiver nowNs => exact ha.of_same rfl rfl (hsub _) (hsub _) id
  | loseAck position =>
    exact ha.of_same rfl rfl (hsub _) (eraseIdx_sublist _ _).subset id
  | deliverAck => exact agreedInv_deliverAck h ha
  | skip => exact ha

/-- A message of two fragments that is sent, acknowledged and completed. -/
private def exchange : List ReliableLinkAction :=
  [.begin [1, 2, 3, 4, 5, 6, 7] 0 1000 2, .nextFrame, .nextFrame, .deliverData none,
    .deliverData (some 5), .deliverAck]

def exchangeRoute : Route := ⟨100, .control, by decide, by decide⟩

private theorem exchange_take (t : ℕ) (ht : t ≤ 6) :
    (run (step exchangeRoute) (init 0 : ReliableLink 12) (exchange.take t)).sent.length ≤
      1 := by
  revert t
  decide +kernel

end ReliableLink

end AsterCtrl.Can
