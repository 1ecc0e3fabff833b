import AsterCtrl.Spec.Can.ReliableAgreement

/-!
# Recovery of the reliable path after an outage

The receiver compares a new sequence with the one it completed last and accepts it only up to
seven ahead.  After an outage of at most six messages the next message whose fragments all
arrive in order is therefore returned in that transmission, whatever the outage left behind
half reassembled.  After seven lost messages it is dropped as stale.

## Key results

- `returned_of_short_outage`: recovery after at most six messages that were not delivered
- `not_returned_after_seven`: a run in which seven messages fail and the eighth is dropped
-/

namespace AsterCtrl.Can.ReliableLink

open ReliableLink

variable {maxSize : Nat}

/-- Number of messages before message `n` that failed since the last delivery. -/
def outage (s : ReliableLink maxSize) (n : Nat) : Nat :=
  match s.delivered.getLast? with
  | none => n
  | some e => n - e.1 - 1

/-- The frames that reach the receiver while the actions are performed. -/
def arrivals (route : Route) : ReliableLink maxSize → List ReliableLinkAction →
    List (Nat × CanFrame)
  | _, [] => []
  | s, .deliverData timeNs :: as =>
    s.data.take 1 ++ arrivals route (s.step route (.deliverData timeNs)) as
  | s, a :: as => arrivals route (s.step route a) as

/-- The fragments of message `n` with payload `p` from fragment `k` on, in order. -/
def fragmentsFrom (route : Route) (n : Nat) (p : List UInt8) (k : Nat) :
    List (Nat × CanFrame) :=
  (List.range' k (fragmentsOf kFragmentPayload p.length - k)).map fun k =>
    (n, messageFrame route.arbitrationId n p k)

/-- All fragments of message `n` with payload `p`, in order. -/
def transmission (route : Route) (n : Nat) (p : List UInt8) : List (Nat × CanFrame) :=
  fragmentsFrom route n p 0

/-- The receiver's times do not go back and do not reach the end of the reassembly timeout. -/
def InTime (s : ReliableLink maxSize) : ReliableLinkAction → Prop
  | .deliverData timeNs => s.receiver.Timely timeNs
  | .pollReceiver nowNs => s.receiver.Timely (some nowNs)
  | _ => True

instance (s : ReliableLink maxSize) (a : ReliableLinkAction) : Decidable (s.InTime a) :=
  match a with
  | .deliverData timeNs => inferInstanceAs (Decidable (s.receiver.Timely timeNs))
  | .pollReceiver nowNs => inferInstanceAs (Decidable (s.receiver.Timely (some nowNs)))
  | .begin .. | .nextFrame | .frameWritten .. | .armAckDeadline _ | .pollSender _ | .loseData _
  | .loseAck _ | .deliverAck | .skip => isTrue trivial

/-! ## While the fragments arrive -/

/-- Fragments `0 .. k - 1` of message `n` have arrived and the message is not complete yet. -/
structure Arriving (route : Route) (n : Nat) (p : List UInt8) (k : Nat)
    (s : ReliableLink maxSize) : Prop where
  inv : LinkInv route s
  sent : s.sent[n]? = some p
  pending : ∀ q, (n, q) ∉ s.delivered
  outage : n ≤ s.flow.base + 7
  stored : 0 < k → s.receiver.Assembles route.arbitrationId (messageSequence n) p ∧
    ∀ j < k, s.receiver.buffer.has j = true

variable {route : Route} {n : Nat} {p : List UInt8} {k : Nat} {s : ReliableLink maxSize}

/-- The message is inside both windows of the receiver. -/
private theorem Arriving.windows (h : Arriving route n p k s) (hseen : s.lastSeen ≤ n) :
    s.receiver.InActiveWindow route.arbitrationId (messageSequence n) ∧
      s.receiver.InCompletedWindow route.arbitrationId (messageSequence n) := by
  have hout := h.outage
  have hbase := h.inv.flow.base_le
  rw [flow_lastSeen] at hbase
  constructor
  · intro hactive _
    obtain ⟨j, q, hbj, hj, -, hasm⟩ := h.inv.window (by rw [flow_lastSeen]; omega) hactive
    rw [flow_lastSeen] at hj
    rw [flow_receiver] at hasm
    rw [hasm.continues.2.2]
    exact sequenceDistance_messageSequence_le (by omega) (by omega)
  · intro hhas _
    have hne : s.flow.delivered ≠ [] := fun hnone => by
      have := h.inv.flow.noHistory hnone
      cases hhas.symm.trans this
    have hrem := h.inv.flow.history _ (ReliableFlow.lastDelivered_base hne)
    rw [flow_receiver] at hrem
    rw [hrem.2.2]
    exact sequenceDistance_messageSequence_le (by omega) hout

/-- The last missing fragment completes the message, so not all have arrived. -/
private theorem Arriving.lt (h : Arriving route n p k s) :
    k < fragmentsOf kFragmentPayload p.length := by
  by_contra hge
  have hne := (h.inv.flow.sendable p (List.mem_of_getElem? h.sent)).nonempty
  have hpos : 0 < fragmentsOf kFragmentPayload p.length :=
    fragmentsOf_pos (by decide) (List.length_pos_of_ne_nil hne)
  obtain ⟨hasm, hhas⟩ := h.stored (by omega)
  have hpart := h.inv.flow.receiver.partway hasm.continues.1
  rw [← Bool.not_eq_true, flow_receiver] at hpart
  refine hpart (FragmentBuffer.isFull_iff.mpr fun i => ?_)
  rw [hasm.fragmentCount]
  by_cases hi : i < fragmentsOf kFragmentPayload p.length
  · rw [decide_eq_true hi]
    exact hhas i (by omega)
  · rw [decide_eq_false hi, ← Bool.not_eq_true]
    exact fun hset => hi (hasm.holds.index i hset)

/-- Steps that leave the receiver's half of the link alone. -/
private theorem Arriving.of_same {s' : ReliableLink maxSize} (h : Arriving route n p k s)
    (hinv : LinkInv route s') (hsent : s.sent <+: s'.sent) (hdel : s'.delivered = s.delivered)
    (hsame : s.receiver.SameActive s'.receiver) : Arriving route n p k s' where
  inv := hinv
  sent := by
    obtain ⟨l, hl⟩ := hsent
    rw [← hl]
    exact List.getElem?_append_left (List.getElem?_eq_some_iff.mp h.sent).1 ▸ h.sent
  pending := hdel ▸ h.pending
  outage := by
    have := h.outage
    simp only [ReliableFlow.base, flow_delivered] at this ⊢
    rwa [hdel]
  stored hk := by
    rw [hsame.buffer]
    exact ⟨hsame.assembles (h.stored hk).1, (h.stored hk).2⟩

/-- Fragment `k` arrives: it is stored, or it completes the message. -/
private theorem Arriving.deliverData (h : Arriving route n p k s) {timeNs : Option UInt64}
    (htime : s.receiver.Timely timeNs) {rest : List (Nat × CanFrame)}
    (hd : s.data = (n, messageFrame route.arbitrationId n p k) :: rest) :
    (n, p) ∈ (s.deliverData timeNs).delivered ∨
      Arriving route n p (k + 1) (s.deliverData timeNs) := by
  have hinv' := linkInv_step h.inv (.deliverData timeNs)
  simp only [step] at hinv'
  have hsend := h.inv.flow.sendable p (List.mem_of_getElem? h.sent)
  have hseen : s.lastSeen ≤ n :=
    (h.inv.flow.frames (n, messageFrame route.arbitrationId n p k) (by simp [flow, hd])).1
  have hout := h.outage
  have hcases := ReliableReceiver.receive_part_cases h.inv.flow.receiver route.decode_isSome
    (messageSequence_le n) hsend.fits hsend.count_le h.lt
    (fun hcont => h.inv.window.assembles hseen (by omega) hcont h.sent) timeNs
  rw [← messageFrame] at hcases
  change s.receiver.PartOutcome _ _ p k _ (s.receiver.receive _ _) at hcases
  cases hcases with
  | dropped _ _ _ reason =>
    exact absurd (.inr (h.windows hseen)) (reason.resolve_left (not_not_intro htime))
  | stored status _ _ assembles has grows =>
    right
    have hdel : (s.deliverData timeNs).delivered = s.delivered := by
      simp only [ReliableLink.deliverData, hd, if_neg status]
    have hrec : (s.deliverData timeNs).receiver = (s.receiver.receive
        (messageFrame route.arbitrationId n p k) timeNs).2 := by
      simp only [ReliableLink.deliverData, hd]
    refine ⟨hinv', ?_, hdel ▸ h.pending, ?_, fun _ => ?_⟩
    · simp only [ReliableLink.deliverData, hd]
      exact h.sent
    · simp only [ReliableFlow.base, flow_delivered] at hout ⊢
      rwa [hdel]
    · rw [hrec]
      refine ⟨assembles, fun j hj => ?_⟩
      rcases Nat.lt_or_ge j k with hjk | hjk
      · obtain ⟨hasm, hhas⟩ := h.stored (by omega)
        exact grows htime hasm.continues j (hhas j hjk)
      · obtain rfl : j = k := by omega
        exact has
  | duplicate _ _ remembers _ _ =>
    obtain ⟨q, hq⟩ := h.inv.flow.delivered_of_remembers remembers hseen (by omega)
    exact absurd hq (h.pending q)
  | completed status _ payload _ _ _ _ =>
    left
    simp [ReliableLink.deliverData, hd, if_pos status, payload]

/-- One step while the fragments arrive. -/
private theorem Arriving.step (h : Arriving route n p k s) {a : ReliableLinkAction}
    (htime : s.InTime a) (hquiet : ∀ timeNs, a ≠ .deliverData timeNs) :
    Arriving route n p k (s.step route a) := by
  have hinv' := linkInv_step h.inv a
  have hlater := (later_step h.inv a).sent
  have hsame := ReliableReceiver.SameActive.refl s.receiver
  cases a with
  | deliverData timeNs => exact absurd rfl (hquiet timeNs)
  | pollReceiver nowNs =>
    exact h.of_same hinv' hlater rfl (ReliableReceiver.sameActive_poll htime)
  | nextFrame =>
    simp only [ReliableLink.step, ReliableLink.nextFrame] at hinv' ⊢
    split at hinv' <;> exact h.of_same hinv' List.prefix_rfl rfl hsame
  | deliverAck =>
    simp only [ReliableLink.step, ReliableLink.deliverAck] at hinv' ⊢
    split at hinv' <;> exact h.of_same hinv' List.prefix_rfl rfl hsame
  | begin | frameWritten | armAckDeadline | pollSender | loseData | loseAck | skip =>
    exact h.of_same hinv' hlater rfl hsame

/-- A delivered message stays delivered. -/
private theorem mem_delivered_run (h : LinkInv route s) {e : Nat × List UInt8}
    (he : e ∈ s.delivered) (as : List ReliableLinkAction) :
    e ∈ (Machine.run (step route) s as).delivered :=
  (Machine.run_invariant (I := fun s => LinkInv route s ∧ e ∈ s.delivered) _
    (fun _ a hs => ⟨linkInv_step hs.1 a, (later_step hs.1 a).delivered.subset hs.2⟩)
    ⟨h, he⟩ as).2

/-- Once fragments `0 .. k - 1` have arrived and the others arrive in order, the message is
    delivered. By induction on the actions. -/
private theorem delivered_of_arriving (bs : List ReliableLinkAction) :
    ∀ {k : Nat} {s : ReliableLink maxSize},
    Arriving route n p k s → arrivals route s bs = fragmentsFrom route n p k →
    Machine.Along (step route) InTime s bs →
    (n, p) ∈ (Machine.run (step route) s bs).delivered := by
  induction bs with
  | nil =>
    intro k s h harr _
    have hlt := h.lt
    have hlen := congrArg List.length harr
    simp only [arrivals, fragmentsFrom, List.length_nil, List.length_map, List.length_range'] at hlen
    omega
  | cons a as ih =>
    intro k s h harr halong
    rw [Machine.run_cons]
    obtain ⟨htime, halong⟩ := halong
    by_cases hdel : ∃ timeNs, a = .deliverData timeNs
    · obtain ⟨timeNs, rfl⟩ := hdel
      rw [arrivals] at harr
      cases hd : s.data with
      | nil =>
        have hstep : s.step route (.deliverData timeNs) = s := by
          simp only [step, deliverData, hd]
        rw [hd, hstep] at harr
        rw [hstep] at halong ⊢
        exact ih h harr halong
      | cons e rest =>
        have hlt := h.lt
        have hfrom : fragmentsFrom route n p k = (n, messageFrame route.arbitrationId n p k) ::
            fragmentsFrom route n p (k + 1) := by
          simp only [fragmentsFrom]
          rw [show fragmentsOf kFragmentPayload p.length - k = (fragmentsOf kFragmentPayload
            p.length - (k + 1)) + 1 by omega, List.range'_succ, List.map_cons]
        rw [hd, hfrom] at harr
        obtain ⟨rfl, hrest⟩ := List.cons.inj harr
        rcases h.deliverData htime hd with hmem | hnext
        · exact mem_delivered_run (linkInv_step h.inv _) hmem as
        · exact ih hnext hrest halong
    · have hquiet : ∀ timeNs, a ≠ .deliverData timeNs :=
        fun t heq => hdel ⟨t, heq⟩
      have harr' : arrivals route (s.step route a) as = fragmentsFrom route n p k := by
        rw [← harr]
        cases a <;> first | rfl | exact absurd rfl (hquiet _)
      exact ih (h.step htime hquiet) harr' halong

/-- Recovery: after at most six messages that were not delivered, the next message whose
    fragments all arrive in order, and in time, is returned in that transmission. -/
theorem returned_of_short_outage (route : Route) (reassemblyTimeoutNs : UInt64)
    (as bs : List ReliableLinkAction) (n : Nat) (p : List UInt8)
    (hsent : (Machine.run (ReliableLink.step route)
      (init reassemblyTimeoutNs : ReliableLink maxSize) as).sent[n]? = some p)
    (hpending : ∀ q, (n, q) ∉ (Machine.run (ReliableLink.step route)
      (init reassemblyTimeoutNs : ReliableLink maxSize) as).delivered)
    (houtage : (Machine.run (ReliableLink.step route)
      (init reassemblyTimeoutNs : ReliableLink maxSize) as).outage n ≤ 6)
    (harrivals : arrivals route (Machine.run (ReliableLink.step route)
      (init reassemblyTimeoutNs : ReliableLink maxSize) as) bs = transmission route n p)
    (htime : Machine.Along (ReliableLink.step route) InTime (Machine.run
      (ReliableLink.step route) (init reassemblyTimeoutNs : ReliableLink maxSize) as) bs) :
    (n, p) ∈ (Machine.run (ReliableLink.step route)
      (init reassemblyTimeoutNs : ReliableLink maxSize) (as ++ bs)).delivered := by
  rw [Machine.run_append]
  refine delivered_of_arriving bs ⟨linkInv_run route _ as, hsent, hpending, ?_,
    fun hk => absurd hk (Nat.lt_irrefl 0)⟩
    harrivals htime
  simp only [outage, ReliableFlow.base, flow_delivered] at houtage ⊢
  cases hlast : (Machine.run (ReliableLink.step route)
      (init reassemblyTimeoutNs : ReliableLink maxSize) as).delivered.getLast? with
  | none =>
    rw [hlast] at houtage
    dsimp only at houtage
    omega
  | some e =>
    rw [hlast] at houtage
    simp only [Option.map_some, Option.getD_some] at houtage ⊢
    omega

/-- A message of one fragment that is sent and lost until the sender gives up. -/
private def failedMessage (i : UInt8) : List ReliableLinkAction :=
  [.begin [i] 0 1000 0, .nextFrame, .loseData 0, .pollSender 1000]

/-- Message 0 is delivered and acknowledged, the next `failures` messages fail, and the
    fragments of the message after them are put on the bus. -/
private def outageRun (failures : Nat) : List ReliableLinkAction :=
  [.begin [0] 0 1000 0, .nextFrame, .deliverData none, .deliverAck] ++
    ((List.range failures).flatMap fun i => failedMessage (UInt8.ofNat (i + 1))) ++
    [.begin [1, 2, 3, 4, 5, 6, 7] 0 1000 0, .nextFrame, .nextFrame]

theorem returned_of_short_outage_six :
    (7, [1, 2, 3, 4, 5, 6, 7]) ∈ (Machine.run (ReliableLink.step exchangeRoute)
      (init 0 : ReliableLink 12)
      (outageRun 6 ++ [.deliverData none, .deliverData none])).delivered := by
  have hlast : ∀ e ∈ (Machine.run (ReliableLink.step exchangeRoute) (init 0 : ReliableLink 12)
      (outageRun 6)).delivered, e.1 ≠ 7 := by decide +kernel
  exact returned_of_short_outage exchangeRoute 0 (outageRun 6) _ 7 _ (by decide +kernel)
    (fun q hq => hlast _ hq rfl) (by decide +kernel) (by decide +kernel) (by decide +kernel)

/-- After seven failed messages all fragments of the next message arrive in order, and the
    receiver drops it. -/
theorem not_returned_after_seven :
    ∃ s : ReliableLink 12, s = Machine.run (ReliableLink.step exchangeRoute) (init 0) (outageRun 7) ∧
      s.sent[8]? = some [1, 2, 3, 4, 5, 6, 7] ∧ s.delivered = [(0, [0])] ∧
      arrivals exchangeRoute s [.deliverData none, .deliverData none] =
        transmission exchangeRoute 8 [1, 2, 3, 4, 5, 6, 7] ∧
      (Machine.run (ReliableLink.step exchangeRoute) s
        [.deliverData none, .deliverData none]).delivered = [(0, [0])] :=
  ⟨_, rfl, by decide +kernel, by decide +kernel, by decide +kernel, by decide +kernel⟩

end AsterCtrl.Can.ReliableLink
