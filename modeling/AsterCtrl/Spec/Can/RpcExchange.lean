import AsterCtrl.Spec.Can.ReliableReception
import AsterCtrl.Spec.Can.RpcServerSteps

/-!
# One undisturbed call at either endpoint

What the client and the server do with the frames of one call when every write is accepted
and the sequence of the call is new to both receivers: nothing happens until the last frame
of the request, then the request is handed to the backend, and the last frame of the response
completes the call.

## Key results

- `CanRpcServer.accept_last`: the last frame of a request hands it to the backend
- `CanRpcServer.complete_answer`: the answer of the backend is written as one response
- `CanRpcClient.accept_last`: the last frame of the response completes the call
-/

namespace AsterCtrl.Can

/-! ## The frames of a message -/

/-- Fragment `k` of the message `p`. -/
def partFrame (frameId : UInt16) (sequence : UInt8) (p : List UInt8) (k : Nat) : CanFrame :=
  dataFrame frameId sequence (fragmentsOf kFragmentPayload p.length) k
    (fragmentAt kFragmentPayload p k)

/-- The frames of the message `p` from fragment `k` on. -/
def framesFrom (frameId : UInt16) (sequence : UInt8) (p : List UInt8) (k : Nat) :
    List CanFrame :=
  (List.range' k (fragmentsOf kFragmentPayload p.length - k)).map
    (partFrame frameId sequence p)

section Frames

variable {frameId : UInt16} {sequence : UInt8} {p : List UInt8} {k : Nat}

theorem framesFrom_of_lt (hk : k < fragmentsOf kFragmentPayload p.length) :
    framesFrom frameId sequence p k =
      partFrame frameId sequence p k :: framesFrom frameId sequence p (k + 1) := by
  have hsub : fragmentsOf kFragmentPayload p.length - k =
      fragmentsOf kFragmentPayload p.length - (k + 1) + 1 := by omega
  rw [framesFrom, hsub, List.range'_succ, List.map_cons]
  rfl

theorem framesFrom_of_ge (hk : fragmentsOf kFragmentPayload p.length ≤ k) :
    framesFrom frameId sequence p k = [] := by
  rw [framesFrom, Nat.sub_eq_zero_of_le hk]
  rfl

theorem length_framesFrom :
    (framesFrom frameId sequence p k).length =
      fragmentsOf kFragmentPayload p.length - k := by
  simp [framesFrom]

@[simp] theorem partFrame_size : (partFrame frameId sequence p k).size ≠ 0 :=
  Nat.succ_ne_zero _

@[simp] theorem partFrame_kind :
    getFrameKind (partFrame frameId sequence p k).header = .reliable := by
  simp only [partFrame, dataFrame, CanFrame.header_frameData, getFrameKind_reliableHeader]

@[simp] theorem partFrame_subtype :
    getReliableSubtype (partFrame frameId sequence p k).header = .data := by
  simp only [partFrame, dataFrame, CanFrame.header_frameData, getReliableSubtype_reliableHeader]

@[simp] theorem ackFrame_subtype :
    getReliableSubtype (ackFrame frameId sequence).header = .ack := by
  simp only [ackFrame, CanFrame.header_frameData, getReliableSubtype_reliableHeader]

end Frames

@[simp] theorem CanFrameWriter.accepted_fresh (outcome : Nat → Status) :
    (⟨outcome, []⟩ : CanFrameWriter).accepted = [] := rfl

/-- A writer that accepts everything takes the acknowledgement. -/
theorem acknowledge_accepting {writer : CanFrameWriter} (hw : ∀ k, writer.outcome k = .ok)
    (frameId : UInt16) (sequence : UInt8) :
    (acknowledge writer (ackFrame frameId sequence)).1 = .ok ∧
      (acknowledge writer (ackFrame frameId sequence)).2.accepted =
        writer.accepted ++ [ackFrame frameId sequence] ∧
      ∀ k, (acknowledge writer (ackFrame frameId sequence)).2.outcome k = .ok := by
  have hsize : (ackFrame frameId sequence).size ≠ 0 := Nat.one_ne_zero
  rw [acknowledge, if_pos hsize]
  exact ⟨hw 0, CanFrameWriter.accepted_send_of_ok _ (hw 0), fun k => hw (k + 1)⟩

/-! ## The server -/

namespace CanRpcServer

variable {service : RpcService} {s : CanRpcServer service} {frame : CanFrame}

/-- `Accept` of a data frame passes it to the receiver and acknowledges what the receiver says. -/
theorem accept_eq_of_isData (h : IsData s frame) (time : UInt64) (backend : BackendOutcome)
    (clock : ClockReading) (writer : CanFrameWriter) :
    let received := s.requestReceiver.accept frame
    let acked := acknowledge writer received.1.acknowledgement
    let s' := { s with requestReceiver := received.2 }
    s.accept frame time backend clock writer =
      if acked.1 ≠ .ok then
        ⟨acked.1, { s' with stats.sendFailures := s'.stats.sendFailures + 1 }, acked.2, none, none⟩
      else s'.takeRequest received.1 time backend clock acked.2 := by
  have hbound : ¬ s.bound = false := by simp [h.bound]
  have hframe : ¬ (frame.size = 0 ∨ isForRoute frame s.routeId = false ∨
      getFrameKind frame.header ≠ .reliable) := by
    simp [h.size, h.route, h.kind]
  have hdata : ¬ getReliableSubtype frame.header = .ack := by simp [h.subtype]
  unfold accept
  rw [if_neg hbound, if_neg hframe, if_neg hdata]

/-- A fragment that does not complete a request is only stored. -/
theorem accept_part (h : IsData s frame) (hst : (s.requestReceiver.accept frame).1.status ≠ .ok)
    (hack : (s.requestReceiver.accept frame).1.acknowledgement = {}) (time : UInt64)
    (backend : BackendOutcome) (clock : ClockReading) (writer : CanFrameWriter) :
    s.accept frame time backend clock writer =
      ⟨(s.requestReceiver.accept frame).1.status,
        { s with requestReceiver := (s.requestReceiver.accept frame).2 }, writer, none, none⟩ := by
  have hquiet : acknowledge writer ({} : CanFrame) = (.ok, writer) := rfl
  rw [accept_eq_of_isData h]
  dsimp only
  rw [hack, hquiet, if_neg (not_not_intro rfl), takeRequest, if_pos hst]

/-- What a server needs to answer: a route, a retry timeout, and no answer to be dropped. -/
structure Operational (s : CanRpcServer service) : Prop where
  route : (CanArbitrationId.encode s.priority s.routeId).1 = .ok
  retryTimeoutNs : s.retryTimeoutNs ≠ 0
  keepsResponse : s.dropActiveResponse = false

/-- The arbitration id of the response frames. -/
def responseArbitrationId (s : CanRpcServer service) : UInt16 :=
  (CanArbitrationId.encode s.priority s.routeId).2

variable {response : List UInt8}

theorem sendable_response (status : Status) (requestId : UInt32)
    (h : response.length ≤ service.responseSize) :
    responsePayload status requestId response ≠ [] ∧
      (responsePayload status requestId response).length ≤ service.responsePayloadSize ∧
      fragmentsOf kFragmentPayload (responsePayload status requestId response).length ≤ 16 := by
  have hlen := length_responsePayload status requestId response
  have hfits := service.response_fits
  refine ⟨List.cons_ne_nil _ _, ?_, fragmentsOf_le_sixteen ?_⟩
  · rw [hlen, RpcService.responsePayloadSize]
    omega
  · rw [hlen]
    omega

variable {writer : CanFrameWriter}

/-- A response that fits is written completely if the writer accepts everything. -/
theorem sendResponse_accepting (h : s.Operational)
    (hbusy : senderBusy s.responseSender.state = false) (hseq : s.activeSequence ≤ 0x0f)
    (hresponse : response.length ≤ service.responseSize) {clock : ClockReading}
    (hclock : clock.status = .ok) (hw : ∀ k, writer.outcome k = .ok) :
    ∃ sender stats, (s.sendResponse .ok response clock writer).status = .ok ∧
      (s.sendResponse .ok response clock writer).server =
        { s with responseSender := sender, stats := stats } ∧
      (s.sendResponse .ok response clock writer).writer.accepted = writer.accepted ++
        framesFrom s.responseArbitrationId s.activeSequence
          (responsePayload .ok s.activeRequestId response) 0 := by
  obtain ⟨hne, hfit, hcount⟩ := sendable_response .ok s.activeRequestId hresponse
  have hbegin := ReliableSender.begin_ok hbusy h.route hseq hne hfit hcount clock.nowNs
    h.retryTimeoutNs s.maximumRetries
  have hargs : ¬ (response.length > service.responseSize ∨
      ((.ok : Status) ≠ .ok ∧ response ≠ [])) := by
    simp only [ne_eq, not_true_eq_false, false_and, or_false]
    omega
  rcases ReliableSender.begin_cases s.responseSender s.routeId s.priority s.activeSequence
      (responsePayload .ok s.activeRequestId response) clock.nowNs s.retryTimeoutNs
      s.maximumRetries with ⟨hst, -⟩ | ⟨-, -, -, hbegun⟩
  · exact absurd hbegin hst
  obtain ⟨hpumped, -, haccepted⟩ :=
    ReliableSender.pump_of_accepting hbegun.inv hbegun.state_eq hbegun.next_eq hw
  unfold sendResponse
  rw [if_neg hargs, if_neg (not_not_intro hclock)]
  dsimp only
  rw [if_neg (not_not_intro hbegin)]
  refine ⟨_, _, hpumped, rfl, ?_⟩
  refine haccepted.trans ?_
  -- The frames of the sender are those of the response payload.
  have harb : (CanArbitrationId.encode s.priority s.routeId).2 = _ := congrArg Prod.snd hbegun.route
  rw [hbegun.count_eq, framesFrom, Nat.sub_zero, ← List.range_eq_range', responseArbitrationId,
    harb]
  congr 1
  refine List.map_congr_left fun k _ => ?_
  rw [ReliableSender.fragmentFrame, partFrame, hbegun.sequence_eq, hbegun.count_eq,
    hbegun.payload_eq]

/-- The backend's answer to the active request goes out as one response. -/
theorem complete_answer (h : s.Operational) (hbusy : senderBusy s.responseSender.state = false)
    (hseq : s.activeSequence ≤ 0x0f) (hresponse : response.length ≤ service.responseSize)
    {clock : ClockReading} (hclock : clock.status = .ok) (hw : ∀ k, writer.outcome k = .ok) :
    ∃ sender stats, (s.complete (.answer .ok response) clock writer).server =
        { s with active := false, responseSender := sender, stats := stats } ∧
      (s.complete (.answer .ok response) clock writer).writer.accepted = writer.accepted ++
        framesFrom s.responseArbitrationId s.activeSequence
          (responsePayload .ok s.activeRequestId response) 0 := by
  have hinactive : ({ s with active := false } : CanRpcServer service).Operational :=
    { h with }
  have hkeep : ¬ s.dropActiveResponse = true := by simp [h.keepsResponse]
  obtain ⟨sender, stats, hst, hserver, haccepted⟩ :=
    sendResponse_accepting hinactive hbusy hseq hresponse hclock hw
  unfold complete
  dsimp only
  rw [if_neg hkeep, if_neg (not_not_intro hst)]
  exact ⟨sender, stats, hserver, haccepted⟩

/-- A request of a client is decoded as the client wrote it. -/
theorem readRequest_requestPayload (requestId : UInt32) (deadlineNs : UInt64)
    (request : List UInt8) :
    readRequest (requestPayload requestId deadlineNs request) =
      ⟨requestId, deadlineNs, request⟩ := by
  have hdrop : (requestPayload requestId deadlineNs request).drop 4 =
      writeLE 8 deadlineNs.toNat ++ request := by
    rw [requestPayload, List.drop_left' (length_writeLE 4 _)]
  have hrest : (requestPayload requestId deadlineNs request).drop kRequestHeaderSize = request := by
    rw [show kRequestHeaderSize = 4 + 8 from rfl, ← List.drop_drop, hdrop,
      List.drop_left' (length_writeLE 8 _)]
  rw [readRequest, hdrop, hrest, requestPayload, readU32_writeLE, readU64_writeLE]

variable {requestId : UInt32}

/-- A complete request of a client reaches the backend unless its deadline has passed. -/
theorem takeRequest_of_call (hact : s.active = false)
    (hbusy : senderBusy s.responseSender.state = false) {received : ReceiveResult}
    (hst : received.status = .ok) (hid : requestId ≠ 0) {deadlineNs : UInt64} {request : List UInt8}
    (hpayload : received.message.payload = requestPayload requestId deadlineNs request)
    (hsize : request.length ≤ service.requestSize) {time : UInt64}
    (hdeadline : deadlineNs = 0 ∨ time < deadlineNs) (backend : BackendOutcome)
    (clock : ClockReading) (writer : CanFrameWriter) :
    s.takeRequest received time backend clock writer =
      ({ s with
          activeRequestId := requestId
          activeSequence := received.message.sequence
          active := true } : CanRpcServer service).callBackend
        ⟨requestId, deadlineNs, request⟩ backend clock writer := by
  have hread := readRequest_requestPayload requestId deadlineNs request
  have hlen := length_requestPayload requestId deadlineNs request
  simp only [readRequest, HandedRequest.mk.injEq] at hread
  obtain ⟨hreadId, hreadDeadline, hreadBytes⟩ := hread
  have hfree : ¬ (s.active = true ∨ senderBusy s.responseSender.state = true) := by
    simp [hact, hbusy]
  have hfits : ¬ ((requestPayload requestId deadlineNs request).length < kRequestHeaderSize ∨
      (requestPayload requestId deadlineNs request).length - kRequestHeaderSize >
        service.requestSize) := by
    omega
  have hearly : ¬ (deadlineNs ≠ 0 ∧ time ≥ deadlineNs) := by
    rintro ⟨hne, hge⟩
    exact hdeadline.elim hne fun hlt => UInt64.not_le.mpr hlt hge
  unfold takeRequest
  dsimp only
  rw [if_neg (not_not_intro hst), if_neg hfree, hpayload, if_neg hfits, hreadId, if_neg hid,
    hreadDeadline, if_neg hearly, hreadBytes]

/-- The backend accepts requests and answers them with `response`, at once or later. -/
structure Answers (backend : BackendOutcome) (response : List UInt8) : Prop where
  status : backend.status = .ok
  completion : backend.completion = none ∨
    ∃ clock : ClockReading, clock.status = .ok ∧
      backend.completion = some (.answer .ok response, clock)

/-- The server works on the request with this id and sequence, and can answer it. -/
structure Serves (s : CanRpcServer service) (requestId : UInt32) (sequence : UInt8) : Prop where
  active : s.active = true
  activeRequestId : s.activeRequestId = requestId
  activeSequence : s.activeSequence = sequence
  notBusy : senderBusy s.responseSender.state = false

/-- Passing on the request that the server has taken: it is handed over, and either it stays
    active or its response is written. -/
theorem callBackend_of_answers (h : s.Operational) {sequence : UInt8}
    (hserves : s.Serves requestId sequence) (hseq : sequence ≤ 0x0f) {backend : BackendOutcome}
    (hanswers : Answers backend response) (hresponse : response.length ≤ service.responseSize)
    (request : HandedRequest) (clock : ClockReading) (hw : ∀ k, writer.outcome k = .ok) :
    let result := s.callBackend request backend clock writer
    result.handed = some request ∧
      ((result.server.Serves requestId sequence ∧ result.writer.accepted = writer.accepted) ∨
        (result.server.active = false ∧ result.writer.accepted = writer.accepted ++
          framesFrom s.responseArbitrationId sequence
            (responsePayload .ok requestId response) 0)) := by
  obtain ⟨hact, hid, hs, hbusy⟩ := hserves
  unfold callBackend
  dsimp only
  rw [if_neg (not_not_intro hanswers.status)]
  refine ⟨rfl, ?_⟩
  rcases hanswers.completion with hnone | ⟨answered, hclock, hsome⟩
  · -- The backend keeps the request.
    rw [hnone]
    exact .inl ⟨⟨hact, hid, hs, hbusy⟩, rfl⟩
  · rw [hsome]
    obtain ⟨sender, stats, hserver, haccepted⟩ :=
      complete_answer h hbusy (hs ▸ hseq) hresponse hclock hw
    rw [hid, hs] at haccepted
    refine .inr ⟨?_, haccepted⟩
    show (s.complete (.answer .ok response) answered writer).server.active = false
    rw [hserver]

/-- The last fragment of a request: it is acknowledged and handed to the backend. -/
theorem accept_last (h : s.Operational) (hdata : IsData s frame) (hact : s.active = false)
    (hbusy : senderBusy s.responseSender.state = false) {frameId : UInt16} {sequence : UInt8}
    (hseq : sequence ≤ 0x0f) (hid : requestId ≠ 0) {deadlineNs : UInt64} {request : List UInt8}
    (hsize : request.length ≤ service.requestSize)
    (hst : (s.requestReceiver.accept frame).1.status = .ok)
    (hsequence : (s.requestReceiver.accept frame).1.message.sequence = sequence)
    (hpayload : (s.requestReceiver.accept frame).1.message.payload = requestPayload requestId
      deadlineNs request)
    (hack : (s.requestReceiver.accept frame).1.acknowledgement = ackFrame frameId sequence)
    {time : UInt64} (hdeadline : deadlineNs = 0 ∨ time < deadlineNs) {backend : BackendOutcome}
    (hanswers : Answers backend response) (hresponse : response.length ≤ service.responseSize)
    (clock : ClockReading) (hw : ∀ k, writer.outcome k = .ok) :
    let result := s.accept frame time backend clock writer
    result.handed = some ⟨requestId, deadlineNs, request⟩ ∧
      ((result.server.Serves requestId sequence ∧ result.writer.accepted =
          writer.accepted ++ [ackFrame frameId sequence]) ∨
        (result.server.active = false ∧ result.writer.accepted =
          writer.accepted ++ [ackFrame frameId sequence] ++
            framesFrom s.responseArbitrationId sequence
              (responsePayload .ok requestId response) 0)) := by
  obtain ⟨hacked, haccepted, hrest⟩ := acknowledge_accepting hw frameId sequence
  have htake := takeRequest_of_call
    (s := { s with requestReceiver := (s.requestReceiver.accept frame).2 }) hact hbusy hst hid
    hpayload hsize hdeadline backend clock (acknowledge writer (ackFrame frameId sequence)).2
  rw [accept_eq_of_isData hdata]
  dsimp only
  rw [hack, if_neg (not_not_intro hacked), htake, ← haccepted]
  refine callBackend_of_answers ?_ ?_ hseq hanswers hresponse _ clock hrest
  · exact { h with }
  · exact ⟨rfl, rfl, hsequence, hbusy⟩

/-- An acknowledgement reaches only the response sender. -/
theorem accept_ack (hack : getReliableSubtype frame.header = .ack) (time : UInt64)
    (backend : BackendOutcome) (clock : ClockReading) (writer : CanFrameWriter) :
    let result := s.accept frame time backend clock writer
    ∃ sender, result.server = { s with responseSender := sender } ∧ result.writer = writer := by
  intro result
  cases accept_cases s frame time backend clock writer with
  | ignored _ server hwriter => exact ⟨s.responseSender, server, hwriter⟩
  | ack _ server hwriter => exact ⟨_, server, hwriter⟩
  | unacknowledged header => exact absurd hack header
  | taken header => exact absurd hack header

end CanRpcServer

/-! ## The client -/

namespace CanRpcClient

variable {service : RpcService} {κ : Type}

/-- A frame that `Accept` passes to the response receiver. -/
structure IsData (c : CanRpcClient service κ) (frame : CanFrame) : Prop where
  isSealed : c.isSealed = true
  size : frame.size ≠ 0
  route : isForRoute frame c.routeId = true
  kind : getFrameKind frame.header = .reliable
  subtype : getReliableSubtype frame.header = .data

variable {c : CanRpcClient service κ} {frame : CanFrame}

theorem accept_eq_of_isData (h : IsData c frame) (writer : CanFrameWriter) :
    let received := c.responseReceiver.accept frame
    let acked := acknowledge writer received.1.acknowledgement
    let c' := { c with responseReceiver := received.2 }
    c.accept frame writer =
      if acked.1 ≠ .ok then
        ⟨acked.1, { c' with stats.sendFailures := c'.stats.sendFailures + 1 }, acked.2, none⟩
      else
        ⟨(c'.takeResponse received.1).1, (c'.takeResponse received.1).2.1, acked.2,
          (c'.takeResponse received.1).2.2⟩ := by
  have hsealed : ¬ c.isSealed = false := by simp [h.isSealed]
  have hframe : ¬ (frame.size = 0 ∨ isForRoute frame c.routeId = false ∨
      getFrameKind frame.header ≠ .reliable) := by
    simp [h.size, h.route, h.kind]
  have hdata : ¬ getReliableSubtype frame.header = .ack := by simp [h.subtype]
  unfold accept
  rw [if_neg hsealed, if_neg hframe, if_neg hdata]

/-- A fragment that does not complete a response is only stored. -/
theorem accept_part (h : IsData c frame) (hst : (c.responseReceiver.accept frame).1.status ≠ .ok)
    (hack : (c.responseReceiver.accept frame).1.acknowledgement = {}) (writer : CanFrameWriter) :
    c.accept frame writer =
      ⟨(c.responseReceiver.accept frame).1.status,
        { c with responseReceiver := (c.responseReceiver.accept frame).2 }, writer, none⟩ := by
  have hquiet : acknowledge writer ({} : CanFrame) = (.ok, writer) := rfl
  rw [accept_eq_of_isData h]
  dsimp only
  rw [hack, hquiet, if_neg (not_not_intro rfl), takeResponse, if_pos hst]

/-- The response to the pending call completes it with the bytes of the response. -/
theorem takeResponse_of_answer (hpending : c.pending = true) {received : ReceiveResult}
    (hst : received.status = .ok) (hsequence : received.message.sequence = c.sequence)
    {response : List UInt8}
    (hpayload : received.message.payload = responsePayload .ok c.callInfo.requestId response)
    (hresponse : response.length ≤ service.responseSize) :
    c.takeResponse received =
      (.ok, { c.clearPending with stats.completed := c.stats.completed + 1 },
        c.complete .ok response) := by
  have hlen := length_responsePayload .ok c.callInfo.requestId response
  have hid : readU32 ((responsePayload .ok c.callInfo.requestId response).drop 1) =
      c.callInfo.requestId := readU32_writeLE _ _
  have hbytes : (responsePayload .ok c.callInfo.requestId response).drop kResponseHeaderSize =
      response := by
    rw [show kResponseHeaderSize = 1 + 4 from rfl, ← List.drop_drop]
    exact List.drop_left' (length_writeLE 4 _)
  have hhead : ¬ (received.message.sequence ≠ c.sequence ∨
      (responsePayload .ok c.callInfo.requestId response).length < kResponseHeaderSize ∨
      readU32 ((responsePayload .ok c.callInfo.requestId response).drop 1) ≠
        c.callInfo.requestId) := by
    simp only [hsequence, hid, ne_eq, not_true_eq_false, or_false, false_or]
    omega
  have hfits : ¬ (((.ok : Status) = .ok ∧
        (responsePayload .ok c.callInfo.requestId response).length - kResponseHeaderSize >
          service.responseSize) ∨
      ((.ok : Status) ≠ .ok ∧
        (responsePayload .ok c.callInfo.requestId response).length ≠ kResponseHeaderSize)) := by
    simp only [ne_eq, not_true_eq_false, true_and, false_and, or_false]
    omega
  have hstatus : decodeStatus ((responsePayload .ok c.callInfo.requestId response).headD 0) =
      some .ok := rfl
  unfold takeResponse
  dsimp only
  rw [if_neg (not_not_intro hst), if_neg (by simp [hpending]), hpayload, if_neg hhead, hstatus]
  dsimp only
  rw [if_neg hfits, hbytes]

/-- The last fragment of the response: it is acknowledged and completes the call. -/
theorem accept_last (h : IsData c frame) (hpending : c.pending = true) {frameId : UInt16}
    {response : List UInt8} (hst : (c.responseReceiver.accept frame).1.status = .ok)
    (hsequence : (c.responseReceiver.accept frame).1.message.sequence = c.sequence)
    (hpayload : (c.responseReceiver.accept frame).1.message.payload = responsePayload .ok
      c.callInfo.requestId response)
    (hack : (c.responseReceiver.accept frame).1.acknowledgement = ackFrame frameId c.sequence)
    (hresponse : response.length ≤ service.responseSize) {writer : CanFrameWriter}
    (hw : ∀ k, writer.outcome k = .ok) :
    (c.accept frame writer).client.pending = false ∧
      (c.accept frame writer).writer.accepted =
        writer.accepted ++ [ackFrame frameId c.sequence] ∧
      (c.accept frame writer).completed = c.complete .ok response := by
  obtain ⟨hacked, haccepted, -⟩ := acknowledge_accepting hw frameId c.sequence
  have htake := takeResponse_of_answer
    (c := { c with responseReceiver := (c.responseReceiver.accept frame).2 }) hpending hst hsequence
    hpayload hresponse
  rw [accept_eq_of_isData h]
  dsimp only
  rw [hack, if_neg (not_not_intro hacked), htake]
  exact ⟨rfl, haccepted, rfl⟩

/-- An acknowledgement reaches only the request sender. -/
theorem accept_of_ack (hack : getReliableSubtype frame.header = .ack) (writer : CanFrameWriter) :
    ∃ sender, (c.accept frame writer).client = { c with requestSender := sender } ∧
      (c.accept frame writer).writer = writer ∧ (c.accept frame writer).completed = none := by
  cases accept_cases c frame writer with
  | ignored _ client hwriter completed => exact ⟨c.requestSender, client, hwriter, completed⟩
  | ack _ _ client hwriter completed => exact ⟨_, client, hwriter, completed⟩
  | unacknowledged header => exact absurd hack header
  | taken header => exact absurd hack header

end CanRpcClient

end AsterCtrl.Can
