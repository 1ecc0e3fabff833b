import AsterCtrl.Native.Can.RpcServer
import AsterCtrl.Spec.Can.RpcClientSteps

/-!
# What the operations of the RPC server do

Every way `Accept`, `Complete`, `Poll` and `ResetPeer` of `CanRpcServer` can end, said once.
`SendResponse` either refuses, without touching more than the arbitration id of the response
sender, or begins a response for the active request and pumps it.

## Key results

- `sendResponse_cases`, `complete_cases`, `takeRequest_cases`, `accept_cases`, `poll_cases`
- `accept_of_data`: what a data frame does to the request side
-/

namespace AsterCtrl.Can.CanRpcServer

variable {service : RpcService}

/-! ## SendResponse and Complete -/

/-- `SendResponse` for the active request of `s`: refused, or begun and pumped up to fragment
    `m`. The counters are left open, since the callers count on top of it. -/
inductive Responded (s : CanRpcServer service) (status : Status) (response : List UInt8)
    (writer : CanFrameWriter) (result : RpcServerResult service) : Prop where
  | refused (id : UInt16) (stats : RpcServerTransportStats) (returned : result.status ≠ .ok)
      (server : result.server =
        { s with responseSender := { s.responseSender with arbitrationId := id }, stats := stats })
      (writer : result.writer = writer) (begun : result.begun = none)
  | begun (s₀ sender : ReliableSender service.responsePayloadSize) (m : Nat)
      (stats : RpcServerTransportStats)
      (notBusy : senderBusy s.responseSender.state = false)
      (message : s₀.Begun s.routeId s.priority s.activeSequence
        (responsePayload status s.activeRequestId response))
      (pumped : s₀.Pumped writer m (result.status, sender, result.writer))
      (server : result.server = { s with responseSender := sender, stats := stats })
      (begun : result.begun = some ⟨s.activeRequestId, s.activeSequence,
        responsePayload status s.activeRequestId response⟩)

variable {result : RpcServerResult service} {writer : CanFrameWriter}

/-- Counting on top of `SendResponse`. -/
theorem Responded.with_stats {s : CanRpcServer service} {status : Status} {response : List UInt8}
    (h : Responded s status response writer result) (stats : RpcServerTransportStats) :
    Responded s status response writer
      { result with server := { result.server with stats := stats } } := by
  cases h with
  | refused id _ returned server hw begun =>
    exact .refused id stats returned (by dsimp only; rw [server]) hw begun
  | begun s₀ sender m _ notBusy message pumped server begun =>
    exact .begun s₀ sender m stats notBusy message pumped (by dsimp only; rw [server]) begun

variable (s : CanRpcServer service)

theorem sendResponse_cases (status : Status) (response : List UInt8) (clock : ClockReading)
    (writer : CanFrameWriter) :
    Responded s status response writer (s.sendResponse status response clock writer) ∧
      (s.sendResponse status response clock writer).handed = none := by
  unfold sendResponse
  split
  · exact ⟨.refused s.responseSender.arbitrationId s.stats nofun rfl rfl rfl, rfl⟩
  split
  · rename_i hclock
    exact ⟨.refused s.responseSender.arbitrationId s.stats hclock rfl rfl rfl, rfl⟩
  dsimp only
  rcases ReliableSender.begin_cases s.responseSender s.routeId s.priority s.activeSequence
      (responsePayload status s.activeRequestId response) clock.nowNs s.retryTimeoutNs
      s.maximumRetries with ⟨hst, id, heq, -⟩ | ⟨hst, hbusy, -, hbegun⟩
  · rw [if_pos hst, heq]
    exact ⟨.refused id s.stats hst rfl rfl rfl, rfl⟩
  · rw [if_neg (not_not_intro hst)]
    generalize (s.responseSender.begin s.routeId s.priority s.activeSequence
      (responsePayload status s.activeRequestId response) clock.nowNs s.retryTimeoutNs
      s.maximumRetries).2 = s₀ at hbegun ⊢
    obtain ⟨m, hm⟩ := ReliableSender.pump_spec hbegun.inv hbegun.state_eq writer
    exact ⟨.begun s₀ _ m _ hbusy hbegun hm rfl rfl, rfl⟩

/-- `SendResponse` counts only responses and failed writes. -/
theorem timeouts_sendResponse (status : Status) (response : List UInt8) (clock : ClockReading)
    (writer : CanFrameWriter) :
    (s.sendResponse status response clock writer).server.stats.timeouts = s.stats.timeouts := by
  unfold sendResponse
  split
  · rfl
  split
  · rfl
  dsimp only
  split <;> rfl

/-- The three ways `Complete` ends. -/
inductive Completed (s : CanRpcServer service) (completion : BackendCompletion)
    (writer : CanFrameWriter) (result : RpcServerResult service) : Prop where
  | malformed (completion : completion = .malformed) (server : result.server = s)
      (writer : result.writer = writer) (begun : result.begun = none)
  | dropped (status : Status) (response : List UInt8)
      (completion : completion = .answer status response) (drop : s.dropActiveResponse = true)
      (server : result.server = { s with active := false, dropActiveResponse := false })
      (writer : result.writer = writer) (begun : result.begun = none)
  | answered (status : Status) (response : List UInt8)
      (completion : completion = .answer status response) (drop : s.dropActiveResponse = false)
      (responded : Responded { s with active := false } status response writer result)

theorem complete_cases (completion : BackendCompletion) (clock : ClockReading)
    (writer : CanFrameWriter) :
    Completed s completion writer (s.complete completion clock writer) ∧
      (s.complete completion clock writer).handed = none := by
  cases completion with
  | malformed => exact ⟨.malformed rfl rfl rfl rfl, rfl⟩
  | answer status response =>
    unfold complete
    dsimp only
    by_cases hdrop : s.dropActiveResponse = true
    · rw [if_pos hdrop]
      exact ⟨.dropped status response rfl hdrop rfl rfl rfl, rfl⟩
    · rw [if_neg hdrop]
      obtain ⟨hsent, hhanded⟩ :=
        sendResponse_cases { s with active := false } status response clock writer
      refine ⟨.answered status response rfl (Bool.not_eq_true _ ▸ hdrop) ?_, hhanded⟩
      split
      · exact hsent.with_stats _
      · exact hsent

/-! ## Accept -/

/-- The request a payload stands for. -/
def readRequest (payload : List UInt8) : HandedRequest :=
  ⟨readU32 payload, readU64 (payload.drop 4), payload.drop kRequestHeaderSize⟩

/-- The server once it has taken on the request with this payload and sequence. -/
def activate (s : CanRpcServer service) (payload : List UInt8) (sequence : UInt8) :
    CanRpcServer service :=
  { s with activeRequestId := readU32 payload, activeSequence := sequence, active := true }

/-- The ways a reassembled request ends. -/
inductive Taken (s : CanRpcServer service) (received : ReceiveResult) (time : UInt64)
    (backend : BackendOutcome) (clock : ClockReading) (writer : CanFrameWriter)
    (result : RpcServerResult service) : Prop where
  | ignored (status : received.status ≠ .ok) (server : result.server = s)
      (writer : result.writer = writer) (handed : result.handed = none)
      (begun : result.begun = none)
  | busy (status : received.status = .ok)
      (busy : s.active = true ∨ senderBusy s.responseSender.state = true)
      (server : result.server = { s with stats.rejected := s.stats.rejected + 1 })
      (writer : result.writer = writer) (handed : result.handed = none)
      (begun : result.begun = none)
  | undecoded (status : received.status = .ok) (id : UInt32) (notActive : s.active = false)
      (server : result.server =
        { s with activeRequestId := id, stats.decodeFailures := s.stats.decodeFailures + 1 })
      (writer : result.writer = writer) (handed : result.handed = none)
      (begun : result.begun = none)
  | expired (status : received.status = .ok) (notActive : s.active = false)
      (notBusy : senderBusy s.responseSender.state = false)
      (deadline : (readRequest received.message.payload).deadlineNs ≠ 0 ∧
        (readRequest received.message.payload).deadlineNs ≤ time)
      (responded : Responded { s.activate received.message.payload received.message.sequence with
        active := false, stats.timeouts := s.stats.timeouts + 1 } .timeout [] writer result)
      (handed : result.handed = none)
      (counted : result.server.stats.timeouts = s.stats.timeouts + 1)
  | passed (status : received.status = .ok) (notActive : s.active = false)
      (notBusy : senderBusy s.responseSender.state = false)
      (length : kRequestHeaderSize ≤ received.message.payload.length)
      (requestId : readU32 received.message.payload ≠ 0)
      (handed : result.handed = some (readRequest received.message.payload))
      (called : result = (s.activate received.message.payload received.message.sequence).callBackend
        (readRequest received.message.payload) backend clock writer)

theorem takeRequest_cases (received : ReceiveResult) (time : UInt64) (backend : BackendOutcome)
    (clock : ClockReading) (writer : CanFrameWriter) :
    Taken s received time backend clock writer
      (s.takeRequest received time backend clock writer) := by
  unfold takeRequest
  dsimp only
  by_cases hst : received.status ≠ .ok
  · rw [if_pos hst]
    exact .ignored hst rfl rfl rfl rfl
  rw [if_neg hst]
  replace hst := Decidable.not_not.mp hst
  by_cases hbusy : s.active = true ∨ senderBusy s.responseSender.state = true
  · rw [if_pos hbusy]
    exact .busy hst hbusy rfl rfl rfl rfl
  rw [if_neg hbusy]
  obtain ⟨hact, hbusy⟩ : s.active = false ∧ senderBusy s.responseSender.state = false := by
    simpa only [not_or, Bool.not_eq_true] using hbusy
  by_cases hsize : received.message.payload.length < kRequestHeaderSize ∨
      received.message.payload.length - kRequestHeaderSize > service.requestSize
  · rw [if_pos hsize]
    exact .undecoded hst s.activeRequestId hact rfl rfl rfl rfl
  rw [if_neg hsize]
  by_cases hid : readU32 received.message.payload = 0
  · rw [if_pos hid]
    exact .undecoded hst _ hact rfl rfl rfl rfl
  rw [if_neg hid]
  by_cases hdead : readU64 (received.message.payload.drop 4) ≠ 0 ∧
      time ≥ readU64 (received.message.payload.drop 4)
  · rw [if_pos hdead]
    obtain ⟨hsent, hhanded⟩ := sendResponse_cases
      { s.activate received.message.payload received.message.sequence with
        active := false, stats.timeouts := s.stats.timeouts + 1 } .timeout [] clock writer
    exact .expired hst hact hbusy hdead hsent hhanded (timeouts_sendResponse _ _ _ _ _)
  · rw [if_neg hdead]
    refine .passed hst hact hbusy (by omega) hid ?_ rfl
    unfold callBackend
    dsimp only
    split <;> rfl

/-- The ways `Accept` ends. -/
inductive Accepted (s : CanRpcServer service) (frame : CanFrame) (time : UInt64)
    (backend : BackendOutcome) (clock : ClockReading) (writer : CanFrameWriter)
    (result : RpcServerResult service) : Prop where
  | ignored (reason : s.bound = false ∨ frame.size = 0 ∨ isForRoute frame s.routeId = false ∨
        getFrameKind frame.header ≠ .reliable) (server : result.server = s)
      (writer : result.writer = writer) (handed : result.handed = none)
      (begun : result.begun = none)
  | ack (header : getReliableSubtype frame.header = .ack)
      (server : result.server =
        { s with responseSender := (s.responseSender.handleAck frame).2 })
      (writer : result.writer = writer) (handed : result.handed = none)
      (begun : result.begun = none)
  | unacknowledged (header : getReliableSubtype frame.header ≠ .ack)
      (stats : RpcServerTransportStats)
      (size : (s.requestReceiver.accept frame).1.acknowledgement.size ≠ 0)
      (rejected : writer.outcome 0 ≠ .ok)
      (server : result.server =
        { s with requestReceiver := (s.requestReceiver.accept frame).2, stats := stats })
      (accepted : result.writer.accepted = writer.accepted) (handed : result.handed = none)
      (begun : result.begun = none)
  | taken (header : getReliableSubtype frame.header ≠ .ack)
      (acked : (acknowledge writer (s.requestReceiver.accept frame).1.acknowledgement).1 = .ok)
      (taken : Taken { s with requestReceiver := (s.requestReceiver.accept frame).2 }
        (s.requestReceiver.accept frame).1 time backend clock
        (acknowledge writer (s.requestReceiver.accept frame).1.acknowledgement).2 result)

theorem accept_cases (frame : CanFrame) (time : UInt64) (backend : BackendOutcome)
    (clock : ClockReading) (writer : CanFrameWriter) :
    Accepted s frame time backend clock writer
      (s.accept frame time backend clock writer) := by
  unfold accept
  split
  · rename_i hbound
    exact .ignored (.inl hbound) rfl rfl rfl rfl
  split
  · rename_i hframe
    exact .ignored (.inr hframe) rfl rfl rfl rfl
  split
  · rename_i hack
    exact .ack hack rfl rfl rfl rfl
  rename_i hack
  dsimp only
  by_cases hacked : (acknowledge writer
      (s.requestReceiver.accept frame).1.acknowledgement).1 ≠ .ok
  · rw [if_pos hacked]
    obtain ⟨hsize, hwriter, haccepted⟩ := acknowledge_of_ne hacked
    exact .unacknowledged hack _ hsize hwriter rfl haccepted rfl rfl
  · rw [if_neg hacked]
    exact .taken hack (Decidable.not_not.mp hacked) (takeRequest_cases _ _ _ _ _ _)

/-! ## What no operation of the request side touches -/

/-- The two servers have the same configuration and the same request receiver, and only
    `ResetPeer` makes a server drop an answer. -/
structure SameRequests (s s' : CanRpcServer service) : Prop where
  routeId : s'.routeId = s.routeId
  bound : s'.bound = s.bound
  requestReceiver : s'.requestReceiver = s.requestReceiver
  priority : s'.priority = s.priority
  retryTimeoutNs : s'.retryTimeoutNs = s.retryTimeoutNs
  keepsResponse : s.dropActiveResponse = false → s'.dropActiveResponse = false

theorem SameRequests.refl : SameRequests s s :=
  ⟨rfl, rfl, rfl, rfl, rfl, id⟩

theorem SameRequests.trans {s₁ s₂ s₃ : CanRpcServer service} (h : SameRequests s₁ s₂)
    (h' : SameRequests s₂ s₃) : SameRequests s₁ s₃ :=
  ⟨h'.routeId.trans h.routeId, h'.bound.trans h.bound,
    h'.requestReceiver.trans h.requestReceiver, h'.priority.trans h.priority,
    h'.retryTimeoutNs.trans h.retryTimeoutNs, h'.keepsResponse ∘ h.keepsResponse⟩

theorem Responded.same {s : CanRpcServer service} {status : Status} {response : List UInt8}
    (h : Responded s status response writer result) : SameRequests s result.server := by
  cases h with
  | refused _ _ _ server => rw [server]; exact ⟨rfl, rfl, rfl, rfl, rfl, id⟩
  | begun _ _ _ _ _ _ _ server => rw [server]; exact ⟨rfl, rfl, rfl, rfl, rfl, id⟩

theorem same_complete (completion : BackendCompletion) (clock : ClockReading)
    (writer : CanFrameWriter) : SameRequests s (s.complete completion clock writer).server := by
  cases (complete_cases s completion clock writer).1 with
  | malformed _ server => rw [server]; exact .refl s
  | dropped _ _ _ _ server => rw [server]; exact ⟨rfl, rfl, rfl, rfl, rfl, fun _ => rfl⟩
  | answered _ _ _ _ responded => exact { responded.same with }

theorem same_callBackend (request : HandedRequest) (backend : BackendOutcome) (clock : ClockReading)
    (writer : CanFrameWriter) :
    SameRequests s (s.callBackend request backend clock writer).server := by
  have hnow : SameRequests s (s.completeNow backend.completion writer).server := by
    unfold completeNow
    split
    · exact .refl s
    · exact same_complete _ _ _ _
  unfold callBackend
  dsimp only
  split
  · have hsame := (sendResponse_cases
      { (s.completeNow backend.completion writer).server with
        active := false
        stats.rejected := (s.completeNow backend.completion writer).server.stats.rejected + 1 }
      backend.status [] clock (s.completeNow backend.completion writer).writer).1.same
    exact hnow.trans { hsame with }
  · exact hnow.trans ⟨rfl, rfl, rfl, rfl, rfl, id⟩

theorem Taken.same {s : CanRpcServer service} {received : ReceiveResult} {time : UInt64}
    {backend : BackendOutcome} {clock : ClockReading}
    (h : Taken s received time backend clock writer result) : SameRequests s result.server := by
  cases h with
  | ignored _ server => rw [server]; exact .refl s
  | busy _ _ server => rw [server]; exact ⟨rfl, rfl, rfl, rfl, rfl, id⟩
  | undecoded _ _ _ server => rw [server]; exact ⟨rfl, rfl, rfl, rfl, rfl, id⟩
  | expired _ _ _ _ responded => exact { responded.same with }
  | passed _ _ _ _ _ _ called =>
    have hsame := same_callBackend
      (s.activate received.message.payload received.message.sequence)
      (readRequest received.message.payload) backend clock writer
    rw [called]
    exact { hsame with }

/-- An acknowledgement does not reach the request side. -/
theorem accept_of_ack {frame : CanFrame} (hack : getReliableSubtype frame.header = .ack)
    (time : UInt64) (backend : BackendOutcome) (clock : ClockReading) (writer : CanFrameWriter) :
    SameRequests s (s.accept frame time backend clock writer).server ∧
      (s.accept frame time backend clock writer).handed = none := by
  cases accept_cases s frame time backend clock writer with
  | ignored _ server _ handed => rw [server]; exact ⟨.refl s, handed⟩
  | ack _ server _ handed => rw [server]; exact ⟨⟨rfl, rfl, rfl, rfl, rfl, id⟩, handed⟩
  | unacknowledged header => exact absurd hack header
  | taken header => exact absurd hack header

/-- A frame that `Accept` passes to the request receiver. -/
structure IsData (s : CanRpcServer service) (frame : CanFrame) : Prop where
  bound : s.bound = true
  size : frame.size ≠ 0
  route : isForRoute frame s.routeId = true
  kind : getFrameKind frame.header = .reliable
  subtype : getReliableSubtype frame.header = .data

theorem Taken.handed_eq {s : CanRpcServer service} {received : ReceiveResult} {time : UInt64}
    {backend : BackendOutcome} {clock : ClockReading}
    (h : Taken s received time backend clock writer result) {request : HandedRequest}
    (hr : result.handed = some request) :
    received.status = .ok ∧ request = readRequest received.message.payload := by
  cases h with
  | ignored _ _ _ handed => cases handed.symm.trans hr
  | busy _ _ _ _ handed => cases handed.symm.trans hr
  | undecoded _ _ _ _ _ handed => cases handed.symm.trans hr
  | expired _ _ _ _ _ handed => cases handed.symm.trans hr
  | passed status _ _ _ _ handed =>
    exact ⟨status, (Option.some.inj (handed.symm.trans hr)).symm⟩

/-- A data frame goes through the request receiver, and only the message it completes is
    passed on. -/
theorem accept_of_data {s : CanRpcServer service} {frame : CanFrame} (h : IsData s frame)
    (time : UInt64) (backend : BackendOutcome) (clock : ClockReading)
    (writer : CanFrameWriter) :
    SameRequests { s with requestReceiver := (s.requestReceiver.accept frame).2 }
        (s.accept frame time backend clock writer).server ∧
      ∀ request, (s.accept frame time backend clock writer).handed = some request →
        (s.requestReceiver.accept frame).1.status = .ok ∧
        request = readRequest (s.requestReceiver.accept frame).1.message.payload := by
  cases accept_cases s frame time backend clock writer with
  | ignored reason =>
    rcases reason with hbound | hsize | hroute | hkind
    · cases hbound.symm.trans h.bound
    · exact absurd hsize h.size
    · cases hroute.symm.trans h.route
    · exact absurd h.kind hkind
  | ack header => cases header.symm.trans h.subtype
  | unacknowledged _ _ _ _ server _ handed =>
    rw [server]
    exact ⟨⟨rfl, rfl, rfl, rfl, rfl, id⟩, fun request hr => nomatch handed.symm.trans hr⟩
  | taken _ _ taken => exact ⟨taken.same, fun request hr => taken.handed_eq hr⟩

/-! ## Poll -/

/-- `Poll` touches only the response sender and the counters. -/
theorem poll_cases (nowNs : UInt64) (writer : CanFrameWriter) :
    ((s.responseSender.poll nowNs).1 ≠ .ok ∧ (s.poll nowNs writer).server =
        { s with responseSender := (s.responseSender.poll nowNs).2 } ∧
      (s.poll nowNs writer).writer = writer) ∨
    ((s.responseSender.poll nowNs).1 = .ok ∧ ∃ stats, (s.poll nowNs writer).server =
        { s with responseSender := ((s.responseSender.poll nowNs).2.pump writer).2.1,
                 stats := stats } ∧
      (s.poll nowNs writer).writer = ((s.responseSender.poll nowNs).2.pump writer).2.2) := by
  unfold poll
  dsimp only
  by_cases hst : (s.responseSender.poll nowNs).1 = .ok
  · rw [if_pos hst]
    exact .inr ⟨hst, _, rfl, rfl⟩
  · rw [if_neg hst]
    exact .inl ⟨hst, rfl, rfl⟩

theorem same_poll (nowNs : UInt64) (writer : CanFrameWriter) :
    SameRequests s (s.poll nowNs writer).server := by
  rcases poll_cases s nowNs writer with ⟨-, server, -⟩ | ⟨-, stats, server, -⟩
  · rw [server]; exact ⟨rfl, rfl, rfl, rfl, rfl, id⟩
  · rw [server]; exact ⟨rfl, rfl, rfl, rfl, rfl, id⟩

end AsterCtrl.Can.CanRpcServer
