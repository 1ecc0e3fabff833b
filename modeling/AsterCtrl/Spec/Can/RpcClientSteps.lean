import AsterCtrl.Native.Can.RpcClient
import AsterCtrl.Spec.Can.ReliableReceiverCorrect
import AsterCtrl.Spec.Can.ReliableSenderInvariant

/-!
# What the operations of the RPC client do

Every way `CallAsync`, `Accept`, `Poll` and `ResetPeer` of `CanRpcClient` can end, said once,
so that the proofs about runs never unfold the operations again.

## Key results

- `callAsync_cases`, `accept_cases`, `poll_cases`, `resetPeer_cases`
-/

namespace AsterCtrl.Can

theorem acknowledge_cases (writer : CanFrameWriter) (acknowledgement : CanFrame) :
    (acknowledgement.size = 0 ∧ acknowledge writer acknowledgement = (.ok, writer)) ∨
    (acknowledgement.size ≠ 0 ∧
      acknowledge writer acknowledgement = writer.send acknowledgement) := by
  unfold acknowledge
  by_cases h : acknowledgement.size ≠ 0
  · rw [if_pos h]
    exact .inr ⟨h, rfl⟩
  · rw [if_neg h]
    exact .inl ⟨Decidable.not_not.mp h, rfl⟩

variable {writer : CanFrameWriter}

/-- An acknowledgement that the writer rejects. -/
theorem acknowledge_of_ne {acknowledgement : CanFrame}
    (h : (acknowledge writer acknowledgement).1 ≠ .ok) :
    acknowledgement.size ≠ 0 ∧ writer.outcome 0 ≠ .ok ∧
      (acknowledge writer acknowledgement).2.accepted = writer.accepted := by
  rcases acknowledge_cases writer acknowledgement with ⟨-, heq⟩ | ⟨hsize, heq⟩
  · rw [heq] at h
    exact absurd rfl h
  · rw [heq] at h ⊢
    exact ⟨hsize, h, CanFrameWriter.accepted_send_of_ne _ h⟩

theorem length_requestPayload (requestId : UInt32) (deadlineNs : UInt64)
    (request : List UInt8) :
    (requestPayload requestId deadlineNs request).length = kRequestHeaderSize + request.length := by
  simp only [requestPayload, List.length_append, length_writeLE, kRequestHeaderSize]
  omega

theorem length_responsePayload (status : Status) (requestId : UInt32)
    (response : List UInt8) :
    (responsePayload status requestId response).length =
      kResponseHeaderSize + response.length := by
  simp only [responsePayload, List.length_cons, List.length_append, length_writeLE,
    kResponseHeaderSize]
  omega

theorem fragmentsOf_le_sixteen {n : Nat} (h : n ≤ 96) : fragmentsOf kFragmentPayload n ≤ 16 := by
  simp only [fragmentsOf, kFragmentPayload]
  omega

/-- Frames with the arbitration id of a route are for that route. -/
theorem isForRoute_of_encode {frame : CanFrame} {priority : CanPriority} {routeId : UInt16}
    (hid : frame.arbitrationId = (CanArbitrationId.encode priority routeId).2)
    (hok : (CanArbitrationId.decode frame.arbitrationId).isSome) :
    isForRoute frame routeId = true := by
  obtain ⟨h0, hmax⟩ := CanArbitrationId.encode_status_ok_iff.mp
    (CanArbitrationId.encode_status_of_decode (hid ▸ hok))
  rw [isForRoute, hid, CanArbitrationId.decode_encode h0 hmax]
  exact decide_eq_true rfl

namespace CanRpcClient

variable {service : RpcService} {κ : Type} {c : CanRpcClient service κ} {request : List UInt8}

/-! ## CallAsync -/

/-- A call that does not pass the checks changes only the counters. -/
theorem checkCall_some {descriptor : ServiceDescriptor} {deadlineNs : UInt64}
    {completion : Option κ} {clock : ClockReading} {rejected : Status × CanRpcClient service κ}
    (h : c.checkCall descriptor request deadlineNs completion clock = some rejected) :
    rejected.1 ≠ .ok ∧ ∃ stats, rejected.2 = { c with stats := stats } := by
  unfold checkCall at h
  split at h
  · rw [← Option.some.inj h]; exact ⟨nofun, _, rfl⟩
  · split at h
    · rw [← Option.some.inj h]; exact ⟨nofun, _, rfl⟩
    · split at h
      · rw [← Option.some.inj h]; exact ⟨nofun, _, rfl⟩
      · split at h
        · rename_i hclock
          rw [← Option.some.inj h]; exact ⟨hclock, _, rfl⟩
        · split at h
          · rw [← Option.some.inj h]; exact ⟨nofun, _, rfl⟩
          · split at h
            · rw [← Option.some.inj h]; exact ⟨nofun, _, rfl⟩
            · cases h

/-- What a call that passed the checks has met. -/
structure Checked (c : CanRpcClient service κ) (descriptor : ServiceDescriptor)
    (request : List UInt8) (deadlineNs : UInt64) (completion : Option κ)
    (clock : ClockReading) : Prop where
  isSealed : c.isSealed = true
  descriptor : sameService descriptor service.descriptor = true
  request_le : request.length ≤ service.requestSize
  completion : completion.isSome
  clockStatus : clock.status = .ok
  deadline : deadlineNs = 0 ∨ clock.nowNs < deadlineNs
  pending : c.pending = false
  notBusy : senderBusy c.requestSender.state = false

theorem checkCall_none {descriptor : ServiceDescriptor} {deadlineNs : UInt64}
    {completion : Option κ} {clock : ClockReading}
    (h : c.checkCall descriptor request deadlineNs completion clock = none) :
    Checked c descriptor request deadlineNs completion clock := by
  unfold checkCall at h
  split at h
  · cases h
  · rename_i hsealed
    split at h
    · cases h
    · rename_i htype
      split at h
      · cases h
      · rename_i hargs
        split at h
        · cases h
        · rename_i hclock
          split at h
          · cases h
          · rename_i hdeadline
            split at h
            · cases h
            · rename_i hbusy
              simp only [not_or, Bool.not_eq_false, Nat.not_lt, Bool.not_eq_true] at *
              refine ⟨hsealed, htype.1, htype.2, ?_, Decidable.not_not.mp hclock, ?_, hbusy.1,
                hbusy.2⟩
              · exact Option.isSome_iff_ne_none.mpr fun hnone => by simp [hnone] at hargs
              · by_cases hzero : deadlineNs = 0
                · exact .inl hzero
                · exact .inr (UInt64.not_le.mp fun hle => hdeadline ⟨hzero, hle⟩)

/-- The three ways a call that passed the checks ends. `c` is the client after `enterCall`,
    `s₀` the sender after `Begin`. -/
inductive Started (c : CanRpcClient service κ) (request : List UInt8) (writer : CanFrameWriter)
    (result : Status × CanRpcClient service κ × CanFrameWriter) : Prop where
  | refused (id : UInt16) (stats : RpcClientTransportStats) (status : result.1 ≠ .ok)
      (client : result.2.1 = { c.clearPending with
        requestSender := { c.requestSender with arbitrationId := id }, stats := stats })
      (accepted : result.2.2.accepted = writer.accepted)
  | cut (s₀ : ReliableSender service.requestPayloadSize) (m : Nat)
      (stats : RpcClientTransportStats) (status : result.1 ≠ .ok)
      (begun : s₀.Begun c.routeId c.priority c.sequence
        (requestPayload c.callInfo.requestId c.callInfo.deadlineNs request))
      (lt : m < s₀.fragmentCount)
      (client : result.2.1 = { c.clearPending with requestSender := {}, stats := stats })
      (accepted : result.2.2.accepted = writer.accepted ++ (List.range m).map s₀.fragmentFrame)
      (rejected : writer.outcome m ≠ .ok)
  | sent (s₀ sender : ReliableSender service.requestPayloadSize)
      (stats : RpcClientTransportStats) (status : result.1 = .ok)
      (begun : s₀.Begun c.routeId c.priority c.sequence
        (requestPayload c.callInfo.requestId c.callInfo.deadlineNs request))
      (client : result.2.1 = { c with requestSender := sender, stats := stats })
      (same : s₀.SameMessage sender) (inv : sender.Inv)
      (state : sender.state = .waitingForAck)
      (accepted : result.2.2.accepted =
        writer.accepted ++ (List.range s₀.fragmentCount).map s₀.fragmentFrame)

/-- What starting a call leaves alone. -/
structure SameCall (c c' : CanRpcClient service κ) : Prop where
  routeId : c'.routeId = c.routeId
  priority : c'.priority = c.priority
  isSealed : c'.isSealed = c.isSealed
  sequence : c'.sequence = c.sequence
  nextSequence : c'.nextSequence = c.nextSequence
  callInfo : c'.callInfo = c.callInfo
  responseReceiver : c'.responseReceiver = c.responseReceiver

theorem Started.same {result : Status × CanRpcClient service κ × CanFrameWriter}
    (h : Started c request writer result) : SameCall c result.2.1 := by
  cases h with
  | refused _ _ _ client => rw [client]; constructor <;> rfl
  | cut _ _ _ _ _ _ client => rw [client]; constructor <;> rfl
  | sent _ _ _ _ _ client => rw [client]; constructor <;> rfl

variable (c : CanRpcClient service κ)

theorem startRequest_cases (request : List UInt8) (nowNs : UInt64) (writer : CanFrameWriter) :
    Started c request writer (c.startRequest request nowNs writer) := by
  unfold startRequest
  dsimp only
  rcases ReliableSender.begin_cases c.requestSender c.routeId c.priority c.sequence
      (requestPayload c.callInfo.requestId c.callInfo.deadlineNs request) nowNs c.retryTimeoutNs
      c.maximumRetries with ⟨hst, id, heq, -⟩ | ⟨hst, -, -, hbegun⟩
  · rw [if_pos hst, heq]
    exact .refused id _ hst rfl rfl
  · rw [if_neg (not_not_intro hst)]
    generalize (c.requestSender.begin c.routeId c.priority c.sequence
      (requestPayload c.callInfo.requestId c.callInfo.deadlineNs request) nowNs c.retryTimeoutNs
      c.maximumRetries).2 = s₀ at hbegun ⊢
    obtain ⟨m, hm⟩ := ReliableSender.pump_spec hbegun.inv hbegun.state_eq writer
    unfold pumpRequest
    dsimp only
    have hacc := hm.accepted
    rw [hbegun.next_eq, Nat.sub_zero, ← List.range_eq_range'] at hacc
    by_cases hlt : m < s₀.fragmentCount
    · obtain ⟨hne, hout, -⟩ := hm.stopped hlt
      rw [hbegun.next_eq, Nat.sub_zero] at hout
      rw [if_pos hne]
      exact .cut s₀ m _ hne hbegun hlt rfl hacc (hout ▸ hne)
    · obtain rfl : m = s₀.fragmentCount := Nat.le_antisymm hm.le_count (Nat.not_lt.mp hlt)
      obtain ⟨hok, hwait⟩ := hm.done rfl
      rw [if_neg (not_not_intro hok)]
      exact .sent s₀ _ _ rfl hbegun rfl hm.same hm.inv hwait hacc

/-- `CallAsync` rejects a call and changes only the counters, or enters and starts it. -/
theorem callAsync_cases (descriptor : ServiceDescriptor) (request : List UInt8)
    (deadlineNs : UInt64) (completion : Option κ) (clock : ClockReading) (writer : CanFrameWriter) :
    (∃ status stats, status ≠ .ok ∧
      (c.checkCall descriptor request deadlineNs completion clock).isSome ∧
      c.callAsync descriptor request deadlineNs completion clock writer =
        (status, { c with stats := stats }, writer)) ∨
    (c.checkCall descriptor request deadlineNs completion clock = none ∧
      Checked c descriptor request deadlineNs completion clock ∧
      Started (c.enterCall deadlineNs completion) request writer
        (c.callAsync descriptor request deadlineNs completion clock writer)) := by
  unfold callAsync
  cases h : c.checkCall descriptor request deadlineNs completion clock with
  | some rejected =>
    obtain ⟨hst, stats, heq⟩ := checkCall_some h
    exact .inl ⟨rejected.1, stats, hst, rfl, by dsimp only; rw [heq]⟩
  | none => exact .inr ⟨rfl, checkCall_none h, startRequest_cases _ _ _ _⟩

/-! ## Accept -/

/-- The three ways a reassembled message ends. -/
inductive Taken (c : CanRpcClient service κ) (received : ReceiveResult)
    (result : Status × CanRpcClient service κ × Option (RpcCompletion κ)) : Prop where
  | ignored (reason : received.status ≠ .ok ∨ c.pending = false) (status : result.1 ≠ .ok)
      (client : result.2.1 = c) (completed : result.2.2 = none)
  | undecoded (received : received.status = .ok) (pending : c.pending = true)
      (status : result.1 ≠ .ok)
      (client : result.2.1 = { c with stats.decodeFailures := c.stats.decodeFailures + 1 })
      (completed : result.2.2 = none)
  | matched (status : Status) (complete : received.status = .ok) (pending : c.pending = true)
      (sequence : received.message.sequence = c.sequence)
      (length : kResponseHeaderSize ≤ received.message.payload.length)
      (requestId : readU32 (received.message.payload.drop 1) = c.callInfo.requestId)
      (decoded : decodeStatus (received.message.payload.headD 0) = some status)
      (returned : result.1 = .ok)
      (client : result.2.1 = { c.clearPending with stats.completed := c.stats.completed + 1 })
      (completed : result.2.2 =
        c.complete status (received.message.payload.drop kResponseHeaderSize))

theorem takeResponse_cases (received : ReceiveResult) :
    Taken c received (c.takeResponse received) := by
  unfold takeResponse
  dsimp only
  by_cases hst : received.status ≠ .ok
  · rw [if_pos hst]
    exact .ignored (.inl hst) hst rfl rfl
  rw [if_neg hst]
  replace hst := Decidable.not_not.mp hst
  by_cases hpend : c.pending = false
  · rw [if_pos hpend]
    exact .ignored (.inr hpend) nofun rfl rfl
  rw [if_neg hpend]
  replace hpend : c.pending = true := Bool.not_eq_false _ ▸ hpend
  by_cases hhead : received.message.sequence ≠ c.sequence ∨
      received.message.payload.length < kResponseHeaderSize ∨
      readU32 (received.message.payload.drop 1) ≠ c.callInfo.requestId
  · rw [if_pos hhead]
    exact .undecoded hst hpend nofun rfl rfl
  rw [if_neg hhead]
  simp only [not_or, Decidable.not_not, Nat.not_lt] at hhead
  cases hdec : decodeStatus (received.message.payload.headD 0) with
  | none => exact .undecoded hst hpend nofun rfl rfl
  | some status =>
    dsimp only
    split
    · exact .undecoded hst hpend nofun rfl rfl
    · exact .matched status hst hpend hhead.1 hhead.2.1 hhead.2.2 hdec rfl rfl rfl

/-- The ways `Accept` ends. `received` is what the response receiver makes of the frame. -/
inductive Accepted (c : CanRpcClient service κ) (frame : CanFrame) (writer : CanFrameWriter)
    (result : RpcClientResult service κ) : Prop where
  | ignored (reason : c.isSealed = false ∨ frame.size = 0 ∨ isForRoute frame c.routeId = false ∨
        getFrameKind frame.header ≠ .reliable) (client : result.client = c)
      (writer : result.writer = writer) (completed : result.completed = none)
  | ack (header : getReliableSubtype frame.header = .ack)
      (status : result.status = (c.requestSender.handleAck frame).1)
      (client : result.client =
        { c with requestSender := (c.requestSender.handleAck frame).2 })
      (writer : result.writer = writer) (completed : result.completed = none)
  | unacknowledged (header : getReliableSubtype frame.header ≠ .ack)
      (stats : RpcClientTransportStats)
      (size : (c.responseReceiver.accept frame).1.acknowledgement.size ≠ 0)
      (rejected : writer.outcome 0 ≠ .ok) (status : result.status ≠ .ok)
      (client : result.client =
        { c with responseReceiver := (c.responseReceiver.accept frame).2, stats := stats })
      (accepted : result.writer.accepted = writer.accepted) (completed : result.completed = none)
  | taken (header : getReliableSubtype frame.header ≠ .ack)
      (acked : (acknowledge writer (c.responseReceiver.accept frame).1.acknowledgement).1 = .ok)
      (writer : result.writer =
        (acknowledge writer (c.responseReceiver.accept frame).1.acknowledgement).2)
      (taken : Taken { c with responseReceiver := (c.responseReceiver.accept frame).2 }
        (c.responseReceiver.accept frame).1 (result.status, result.client, result.completed))

theorem accept_cases (frame : CanFrame) (writer : CanFrameWriter) :
    Accepted c frame writer (c.accept frame writer) := by
  unfold accept
  split
  · rename_i hsealed
    exact .ignored (.inl hsealed) rfl rfl rfl
  split
  · rename_i hframe
    exact .ignored (.inr hframe) rfl rfl rfl
  split
  · rename_i hack
    exact .ack hack rfl rfl rfl rfl
  rename_i hack
  dsimp only
  by_cases hacked : (acknowledge writer
      (c.responseReceiver.accept frame).1.acknowledgement).1 ≠ .ok
  · rw [if_pos hacked]
    obtain ⟨hsize, hwriter, haccepted⟩ := acknowledge_of_ne hacked
    exact .unacknowledged hack _ hsize hwriter hacked rfl haccepted rfl
  · rw [if_neg hacked]
    exact .taken hack (Decidable.not_not.mp hacked) rfl (takeResponse_cases _ _)

/-- What `Accept` leaves alone whatever arrives. -/
structure SameRoute (c c' : CanRpcClient service κ) : Prop where
  routeId : c'.routeId = c.routeId
  priority : c'.priority = c.priority
  isSealed : c'.isSealed = c.isSealed
  nextSequence : c'.nextSequence = c.nextSequence

theorem Taken.same {c : CanRpcClient service κ} {received : ReceiveResult}
    {result : Status × CanRpcClient service κ × Option (RpcCompletion κ)}
    (h : Taken c received result) :
    SameRoute c result.2.1 ∧ result.2.1.requestSender = c.requestSender ∧
      result.2.1.responseReceiver = c.responseReceiver := by
  cases h with
  | ignored _ _ client => rw [client]; exact ⟨⟨rfl, rfl, rfl, rfl⟩, rfl, rfl⟩
  | undecoded _ _ _ client => rw [client]; exact ⟨⟨rfl, rfl, rfl, rfl⟩, rfl, rfl⟩
  | matched _ _ _ _ _ _ _ _ client => rw [client]; exact ⟨⟨rfl, rfl, rfl, rfl⟩, rfl, rfl⟩

/-- `Accept` passes an acknowledgement to the sender and everything else to the receiver. -/
theorem accept_same (frame : CanFrame) (writer : CanFrameWriter) :
    SameRoute c (c.accept frame writer).client ∧
      ((c.accept frame writer).client.requestSender = c.requestSender ∨
        (c.accept frame writer).client.requestSender = (c.requestSender.handleAck frame).2) ∧
      ((c.accept frame writer).client.responseReceiver = c.responseReceiver ∨
        (c.accept frame writer).client.responseReceiver = (c.responseReceiver.accept frame).2) := by
  cases accept_cases c frame writer with
  | ignored _ client => rw [client]; exact ⟨⟨rfl, rfl, rfl, rfl⟩, .inl rfl, .inl rfl⟩
  | ack _ _ client => rw [client]; exact ⟨⟨rfl, rfl, rfl, rfl⟩, .inr rfl, .inl rfl⟩
  | unacknowledged _ _ _ _ _ client =>
    rw [client]
    exact ⟨⟨rfl, rfl, rfl, rfl⟩, .inl rfl, .inr rfl⟩
  | taken _ _ _ taken =>
    obtain ⟨⟨h1, h2, h3, h4⟩, hsender, hreceiver⟩ := taken.same
    exact ⟨⟨h1, h2, h3, h4⟩, .inl hsender, .inr hreceiver⟩

/-- A sender that is busy after `Accept` was busy with the same message before. -/
theorem busy_of_accept {c : CanRpcClient service κ} {frame : CanFrame}
    (h : senderBusy (c.accept frame writer).client.requestSender.state = true) :
    senderBusy c.requestSender.state = true ∧
      c.requestSender.SameMessage (c.accept frame writer).client.requestSender := by
  rcases (c.accept_same frame writer).2.1 with hs | hs <;> rw [hs] at h ⊢
  · exact ⟨h, .refl _⟩
  · refine ⟨?_, ReliableSender.same_handleAck _ frame⟩
    rcases ReliableSender.handleAck_cases c.requestSender frame with
      ⟨-, hstate, -⟩ | ⟨-, -, hstate, -⟩ <;> rw [hstate] at h
    · exact h
    · cases h

/-- `Accept` writes nothing but acknowledgements. -/
theorem accepted_accept {c : CanRpcClient service κ} (h : c.responseReceiver.Inv)
    (frame : CanFrame) (writer : CanFrameWriter) :
    ∀ e ∈ (c.accept frame writer).writer.accepted,
      e ∈ writer.accepted ∨ ∃ frameId sequence, e = ackFrame frameId sequence := by
  intro e he
  cases accept_cases c frame writer with
  | ignored _ _ hwriter => exact .inl (hwriter ▸ he)
  | ack _ _ _ hwriter => exact .inl (hwriter ▸ he)
  | unacknowledged _ _ _ _ _ _ accepted => exact .inl (accepted ▸ he)
  | taken _ _ hwriter =>
    rw [hwriter] at he
    rcases acknowledge_cases writer (c.responseReceiver.accept frame).1.acknowledgement with
      ⟨-, heq⟩ | ⟨hsize, heq⟩
    · rw [heq] at he
      exact .inl he
    · rw [heq] at he
      have hmem : e ∈ writer.accepted ∨
          e = (c.responseReceiver.accept frame).1.acknowledgement := by
        by_cases hok : writer.outcome 0 = .ok
        · rw [CanFrameWriter.accepted_send_of_ok _ hok] at he
          simpa using he
        · rw [CanFrameWriter.accepted_send_of_ne _ hok] at he
          exact .inl he
      refine hmem.imp_right fun heq => ?_
      cases (ReliableReceiver.receive_spec h frame none).1 with
      | quiet _ acknowledgement =>
        rw [show (c.responseReceiver.accept frame).1.acknowledgement = {} from acknowledgement]
          at hsize
        exact absurd rfl hsize
      | duplicate _ acknowledgement => exact ⟨_, _, heq.trans acknowledgement⟩
      | completed _ _ acknowledgement => exact ⟨_, _, heq.trans acknowledgement⟩

/-! ## Poll and ResetPeer -/

/-- The ways `Poll` ends: nothing happens, the call times out, or the request is sent again. -/
inductive Polled (c : CanRpcClient service κ) (nowNs : UInt64) (writer : CanFrameWriter)
    (result : RpcClientResult service κ) : Prop where
  | quiet (status : result.status ≠ .ok) (client : result.client = c)
      (writer : result.writer = writer) (completed : result.completed = none)
  | timedOut (stats : RpcClientTransportStats) (pending : c.pending = true)
      (client : result.client = { c.clearPending with requestSender := {}, stats := stats })
      (writer : result.writer = writer) (completed : result.completed = c.complete .timeout [])
  | resent (stats : RpcClientTransportStats) (pending : c.pending = true)
      (state : c.requestSender.state = .waitingForAck)
      (polled : (c.requestSender.poll nowNs).1 = .ok)
      (client : result.client = { c with
        requestSender := ((c.requestSender.poll nowNs).2.pump writer).2.1, stats := stats })
      (writer : result.writer = ((c.requestSender.poll nowNs).2.pump writer).2.2)
      (completed : result.completed = none)

theorem poll_cases (nowNs : UInt64) (writer : CanFrameWriter) :
    Polled c nowNs writer (c.poll nowNs writer) := by
  unfold poll
  split
  · exact .quiet nofun rfl rfl rfl
  split
  · exact .quiet nofun rfl rfl rfl
  rename_i _ hpend
  replace hpend : c.pending = true := Bool.not_eq_false _ ▸ hpend
  split
  · exact .timedOut _ hpend rfl rfl rfl
  dsimp only
  rcases ReliableSender.poll_cases c.requestSender nowNs with
    ⟨heq, -⟩ | ⟨hwait, hst, -⟩ | ⟨hwait, hst, -⟩
  · rw [heq, if_neg nofun, if_neg nofun]
    exact .quiet nofun rfl rfl rfl
  · rw [hst, if_neg nofun, if_pos rfl]
    exact .timedOut _ hpend rfl rfl rfl
  · rw [if_pos hst]
    exact .resent _ hpend hwait hst rfl rfl rfl

/-- `ResetPeer` drops both halves of the conversation and completes a pending call. -/
theorem resetPeer_cases :
    ∃ stats, c.resetPeer.1 = { c.clearPending with
        requestSender := {}
        responseReceiver := c.responseReceiver.resetPeerHistory
        completion := if c.pending then none else c.completion
        stats := stats } ∧
      c.resetPeer.2 = if c.pending then c.complete .unavailable [] else none := by
  unfold resetPeer
  dsimp only
  cases hpend : c.pending with
  | false => exact ⟨c.stats, by simp [clearPending]⟩
  | true => exact ⟨{ c.stats with completed := c.stats.completed + 1 }, rfl, rfl⟩

end CanRpcClient

end AsterCtrl.Can
