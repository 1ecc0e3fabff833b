import AsterCtrl.Spec.Can.RpcExchange
import AsterCtrl.Spec.Can.RpcLinkInvariant

/-!
# Recovery of RPC on a clean link

Whatever happened before, a call is carried out once the link is clean, provided that its
sequence is new to both receivers and no frame of an earlier call is still on its way.  The
link is clean when every write is accepted, every frame is delivered in order and the backend
answers with `kOk`; the schedule of the deliveries, of the backend and of the polls is
arbitrary as long as nothing is put off forever.

The sequence need not be new.  The client uses up a sequence for every call that passes its
checks, also for those that are cut or lost, while the receivers compare a sequence with the
one they completed last.  After seven such calls the next request is dropped as stale.

## Key results

- `onTrack_step`: a clean step keeps the call on track, and idles or makes progress
- `recovers_of_ready`: the call is handed over and completed exactly once
- `not_recovers_after_outage`: seven cut calls, and the next one is lost on a clean link
-/

namespace AsterCtrl.Can

open List CanRpcServer Machine

/-! ## The configuration of the server -/

namespace CanRpcServer

variable {service : RpcService}

/-- The server is configured with this priority and retry timeout and drops no answer. -/
structure Setup (priority : CanPriority) (retryTimeoutNs : UInt64) (s : CanRpcServer service) :
    Prop where
  priority_eq : s.priority = priority
  retryTimeoutNs_eq : s.retryTimeoutNs = retryTimeoutNs
  keepsResponse : s.dropActiveResponse = false

theorem SameRequests.setup {s s' : CanRpcServer service} (h : SameRequests s s')
    {priority : CanPriority} {retryTimeoutNs : UInt64} (hs : Setup priority retryTimeoutNs s) :
    Setup priority retryTimeoutNs s' :=
  ⟨h.priority.trans hs.priority_eq, h.retryTimeoutNs.trans hs.retryTimeoutNs_eq,
    h.keepsResponse hs.keepsResponse⟩

theorem setup_accept {s : CanRpcServer service} {priority : CanPriority}
    {retryTimeoutNs : UInt64} (hs : Setup priority retryTimeoutNs s) (frame : CanFrame)
    (time : UInt64) (backend : BackendOutcome) (clock : ClockReading)
    (writer : CanFrameWriter) :
    Setup priority retryTimeoutNs (s.accept frame time backend clock writer).server := by
  obtain ⟨hpriority, hretry, hkeep⟩ := hs
  cases accept_cases s frame time backend clock writer with
  | ignored _ server => rw [server]; exact ⟨hpriority, hretry, hkeep⟩
  | ack _ server => rw [server]; exact ⟨hpriority, hretry, hkeep⟩
  | unacknowledged _ _ _ _ server => rw [server]; exact ⟨hpriority, hretry, hkeep⟩
  | taken _ _ taken =>
    refine taken.same.setup ?_
    exact ⟨hpriority, hretry, hkeep⟩

end CanRpcServer

namespace RpcLink

variable {service : RpcService}

/-- The server of the link keeps the configuration it was constructed with. -/
def Configured (config : Config) (s : RpcLink service) : Prop :=
  s.server.Setup config.serverPriority config.serverRetryTimeoutNs

variable {s : RpcLink service}

theorem configured_step {config : Config} (h : Configured config s) (action : RpcLinkAction) :
    Configured config (s.step action) := by
  cases action with
  | callAsync descriptor request deadlineNs clock outcome =>
    show Configured config (s.callAsync descriptor request deadlineNs clock outcome)
    unfold callAsync
    dsimp only
    split <;> exact h
  | pollClient | loseToServer | loseToClient => exact h
  | deliverToServer time backend clock outcome =>
    show Configured config (s.deliverToServer time backend clock outcome)
    unfold deliverToServer
    split
    · exact h
    · dsimp only
      split <;> exact setup_accept h _ _ _ _ _
  | completeRequest completion clock outcome => exact (s.server.same_complete _ _ _).setup h
  | pollServer nowNs outcome => exact (s.server.same_poll _ _).setup h
  | deliverToClient outcome =>
    show Configured config (s.deliverToClient outcome)
    unfold deliverToClient
    split <;> exact h

theorem configured_run (config : Config) (actions : List RpcLinkAction) :
    Configured config (run step (init config : RpcLink service) actions) :=
  run_invariant step (I := Configured config) (fun _ action h => configured_step h action)
    ⟨rfl, rfl, rfl⟩ actions

/-! ## Clean steps -/

/-- The arbitration id of the response frames. -/
def Config.responseArbitrationId (config : Config) : UInt16 :=
  (CanArbitrationId.encode config.serverPriority config.routeId).2

/-- A call on a clean link: its index, what it sends, what the backend answers, and what had
    been handed over and completed before. -/
structure Exchange where
  config : Config
  index : Nat
  call : RpcCall
  response : List UInt8
  handed : List (Nat × HandedRequest)
  completions : List (RpcCompletion Nat)

namespace Exchange

variable (x : Exchange)

/-- The sequence of the call. -/
def sequence : UInt8 := messageSequence x.index

/-- What the server sends for the answer. -/
def responseBytes : List UInt8 := responsePayload .ok x.call.requestId x.response

/-- What the backend gets. -/
def handedRequest : Nat × HandedRequest :=
  (x.index, ⟨x.call.requestId, x.call.deadlineNs, x.call.request⟩)

/-- What the client's completion gets. -/
def completion : RpcCompletion Nat :=
  ⟨x.index, .ok, x.response, ⟨x.call.requestId, x.call.deadlineNs⟩⟩

/-- The request frames from fragment `k` on, as they are in flight. -/
def requestFrom (k : Nat) : List (Option Nat × CanFrame) :=
  (framesFrom x.config.requestArbitrationId x.sequence x.call.payload k).map
    fun frame => (some x.index, frame)

/-- The response frames from fragment `k` on. -/
def responseFrom (k : Nat) : List CanFrame :=
  framesFrom x.config.responseArbitrationId x.sequence x.responseBytes k

/-- Request and response fit the service, and the link is set up to carry them. -/
structure Valid (service : RpcService) (x : Exchange) : Prop where
  route_ne : x.config.routeId ≠ 0
  route_le : x.config.routeId ≤ kMaximumRouteId
  retryTimeoutNs : x.config.serverRetryTimeoutNs ≠ 0
  requestId : x.call.requestId ≠ 0
  request_le : x.call.request.length ≤ service.requestSize
  response_le : x.response.length ≤ service.responseSize

end Exchange

/-- A step of a clean link: writes are accepted, the backend answers the request with
    `response`, frames are not lost, and no deadline or retry timeout has passed. -/
def Clean (deadlineNs : UInt64) (response : List UInt8) (s : RpcLink service) :
    RpcLinkAction → Prop
  | .deliverToServer time backend _ outcome =>
    (∀ k, outcome k = .ok) ∧ (deadlineNs = 0 ∨ time < deadlineNs) ∧
      CanRpcServer.Answers backend response
  | .completeRequest completion clock outcome =>
    (∀ k, outcome k = .ok) ∧ s.server.active = true ∧ completion = .answer .ok response ∧
      clock.status = .ok
  | .deliverToClient outcome => ∀ k, outcome k = .ok
  | .pollClient nowNs _ =>
    (s.client.callInfo.deadlineNs = 0 ∨ nowNs < s.client.callInfo.deadlineNs) ∧
      (s.client.requestSender.state = .waitingForAck →
        nowNs < s.client.requestSender.retryDeadlineNs)
  | .pollServer nowNs _ =>
    s.server.responseSender.state = .waitingForAck → nowNs < s.server.responseSender.retryDeadlineNs
  | .callAsync .. | .loseToServer _ | .loseToClient _ => False

/-- Nothing is put off forever: frames in flight are delivered and the backend answers. -/
structure Fair (s : RpcLink service) (acts : ℕ → RpcLinkAction) : Prop where
  toServer : ∀ t, ∃ u ≥ t, ∃ time backend clock outcome,
    acts u = .deliverToServer time backend clock outcome
  toClient : ∀ t, ∃ u ≥ t, ∃ outcome, acts u = .deliverToClient outcome
  answers : ∀ t, (Machine.trace step s acts t).server.active = true →
    ∃ u ≥ t, ∃ status response clock outcome,
      acts u = .completeRequest (.answer status response) clock outcome

/-! ## Steps without effect -/

variable {deadlineNs : UInt64} {response : List UInt8} {outcome : Nat → Status}

/-- A sender that is polled before its retry timeout does nothing. -/
theorem poll_of_early {maxSize : Nat} {sender : ReliableSender maxSize} {nowNs : UInt64}
    (h : sender.state = .waitingForAck → nowNs < sender.retryDeadlineNs) :
    sender.poll nowNs = (.unavailable, sender) := by
  rw [ReliableSender.poll, if_pos]
  exact (Decidable.em (sender.state = .waitingForAck)).elim (fun hwait => .inr (h hwait)) .inl

theorem pollClient_of_clean {nowNs : UInt64}
    (h : Clean deadlineNs response s (.pollClient nowNs outcome)) :
    s.pollClient nowNs outcome = s := by
  obtain ⟨hdeadline, hretry⟩ := h
  have hearly : ¬ (s.client.callInfo.deadlineNs ≠ 0 ∧ nowNs ≥ s.client.callInfo.deadlineNs) := by
    rintro ⟨hne, hge⟩
    exact hdeadline.elim hne fun hlt => UInt64.not_le.mpr hlt hge
  have hpoll : ∃ status, s.client.poll nowNs ⟨outcome, []⟩ =
      ⟨status, s.client, ⟨outcome, []⟩, none⟩ := by
    by_cases hsealed : s.client.isSealed = false
    · exact ⟨_, by rw [CanRpcClient.poll, if_pos hsealed]⟩
    by_cases hpending : s.client.pending = false
    · exact ⟨_, by rw [CanRpcClient.poll, if_neg hsealed, if_pos hpending]⟩
    rw [CanRpcClient.poll, if_neg hsealed, if_neg hpending, if_neg hearly, poll_of_early hretry]
    exact ⟨_, rfl⟩
  obtain ⟨status, hpoll⟩ := hpoll
  rw [pollClient, hpoll]
  simp

theorem pollServer_of_clean {nowNs : UInt64}
    (h : Clean deadlineNs response s (.pollServer nowNs outcome)) :
    s.pollServer nowNs outcome = s := by
  have hpoll : s.server.poll nowNs ⟨outcome, []⟩ =
      ⟨.unavailable, s.server, ⟨outcome, []⟩, none, none⟩ := by
    rw [poll, poll_of_early h]
    rfl
  rw [pollServer, hpoll]
  simp

theorem deliverToServer_nil (h : s.toServer = []) (time : UInt64) (backend : BackendOutcome)
    (clock : ClockReading) (outcome : Nat → Status) :
    s.deliverToServer time backend clock outcome = s := by
  rw [deliverToServer, h]

theorem deliverToClient_nil (h : s.toClient = []) (outcome : Nat → Status) :
    s.deliverToClient outcome = s := by
  rw [deliverToClient, h]

/-- A delivery to the server takes the oldest frame from the bus. -/
theorem toServer_deliverToServer (s : RpcLink service) (time : UInt64)
    (backend : BackendOutcome) (clock : ClockReading) (outcome : Nat → Status) :
    (s.deliverToServer time backend clock outcome).toServer = s.toServer.tail := by
  unfold deliverToServer
  split
  · rename_i h
    rw [h, tail_nil]
  · rename_i h
    split <;> rw [h, tail_cons]

/-- A delivery to the client takes the oldest frame from the bus. -/
theorem toClient_deliverToClient (s : RpcLink service) (outcome : Nat → Status) :
    (s.deliverToClient outcome).toClient = s.toClient.tail := by
  unfold deliverToClient
  split
  · rename_i h
    rw [h, tail_nil]
  · rename_i h
    rw [h, tail_cons]

/-- An answer of the backend ends the active request. -/
theorem active_completeRequest (s : RpcLink service) (status : Status) (response : List UInt8)
    (clock : ClockReading) (outcome : Nat → Status) :
    (s.completeRequest (.answer status response) clock outcome).server.active = false := by
  cases (s.server.complete_cases (.answer status response) clock ⟨outcome, []⟩).1 with
  | malformed completion => cases completion
  | dropped _ _ _ _ server => rw [completeRequest, server]
  | answered _ _ _ _ responded =>
    rw [completeRequest]
    cases responded with
    | refused _ _ _ server => rw [server]
    | begun _ _ _ _ _ _ _ server => rw [server]

/-! ## The call on its way -/

/-- The client waits for the response to the call of the exchange. -/
structure Waiting (x : Exchange) (s : RpcLink service) : Prop where
  pending : s.client.pending = true
  sequence : s.client.sequence = x.sequence
  callInfo : s.client.callInfo = ⟨x.call.requestId, x.call.deadlineNs⟩
  completion : s.client.completion = some x.index
  completions : s.completions = x.completions

/-- How far the call has come. -/
inductive Stage (x : Exchange) (s : RpcLink service) : Prop where
  | requesting (k : Nat) (lt : k < fragmentsOf kFragmentPayload x.call.payload.length)
      (waiting : Waiting x s) (active : s.server.active = false)
      (notBusy : senderBusy s.server.responseSender.state = false)
      (toServer : s.toServer = x.requestFrom k) (toClient : s.toClient = [])
      (receiving : s.server.requestReceiver.Receiving x.config.requestArbitrationId x.sequence
        x.call.payload k)
      (ready : s.client.responseReceiver.Ready x.config.responseArbitrationId x.sequence)
      (handed : s.handed = x.handed)
  | serving (waiting : Waiting x s) (serves : s.server.Serves x.call.requestId x.sequence)
      (toServer : s.toServer = [])
      (toClient : ∀ frame ∈ s.toClient, getReliableSubtype frame.header = .ack)
      (ready : s.client.responseReceiver.Ready x.config.responseArbitrationId x.sequence)
      (handed : s.handed = x.handed ++ [x.handedRequest])
  | responding (acks : List CanFrame) (k : Nat)
      (lt : k < fragmentsOf kFragmentPayload x.responseBytes.length)
      (waiting : Waiting x s) (active : s.server.active = false) (toServer : s.toServer = [])
      (acks_subtype : ∀ frame ∈ acks, getReliableSubtype frame.header = .ack)
      (toClient : s.toClient = acks ++ x.responseFrom k)
      (receiving : s.client.responseReceiver.Receiving x.config.responseArbitrationId x.sequence
        x.responseBytes k)
      (handed : s.handed = x.handed ++ [x.handedRequest])
  | finished (pending : s.client.pending = false) (active : s.server.active = false)
      (toServer : ∀ e ∈ s.toServer, e.1 = none) (toClient : s.toClient = [])
      (handed : s.handed = x.handed ++ [x.handedRequest])
      (completions : s.completions = x.completions ++ [x.completion])

/-- The call is on its way, in a state that the link can reach. -/
structure OnTrack (x : Exchange) (s : RpcLink service) : Prop where
  inv : RpcInv x.config s
  configured : Configured x.config s
  stage : Stage x s

/-- How much is left to do. A request frame may lead to an acknowledgement and all frames of
    the response, and so may the answer of the backend. -/
def remaining (x : Exchange) (s : RpcLink service) : Nat :=
  let count := fragmentsOf kFragmentPayload x.responseBytes.length
  if s.client.pending then
    (count + 4) * s.toServer.length + (if s.server.active then count + 2 else 0) +
      s.toClient.length + 2
  else s.toServer.length

/-- What a clean step does to a call on its way: nothing, or progress. -/
def Advances (x : Exchange) (s s' : RpcLink service) : Prop :=
  s' = s ∨ Stage x s' ∧ remaining x s' < remaining x s

section Stages

variable {x : Exchange} {s : RpcLink service}

theorem Exchange.responseCount_pos (x : Exchange) :
    0 < fragmentsOf kFragmentPayload x.responseBytes.length := by
  rw [Exchange.responseBytes, length_responsePayload]
  exact fragmentsOf_pos (by decide) (Nat.add_pos_left (by decide) _)

theorem Exchange.Valid.decode_request (hv : x.Valid service) :
    (CanArbitrationId.decode x.config.requestArbitrationId).isSome := by
  rw [Config.requestArbitrationId, CanArbitrationId.decode_encode hv.route_ne hv.route_le]
  rfl

theorem Exchange.Valid.decode_response (hv : x.Valid service) :
    (CanArbitrationId.decode x.config.responseArbitrationId).isSome := by
  rw [Config.responseArbitrationId, CanArbitrationId.decode_encode hv.route_ne hv.route_le]
  rfl

theorem operational_server (hv : x.Valid service) (hinv : RpcInv x.config s)
    (hconf : Configured x.config s) : s.server.Operational where
  route := CanArbitrationId.encode_status_ok_iff.mpr (hinv.serverRoute ▸ ⟨hv.route_ne, hv.route_le⟩)
  retryTimeoutNs := by
    rw [hconf.retryTimeoutNs_eq]
    exact hv.retryTimeoutNs
  keepsResponse := hconf.keepsResponse

theorem responseArbitrationId_server (hinv : RpcInv x.config s)
    (hconf : Configured x.config s) :
    s.server.responseArbitrationId = x.config.responseArbitrationId := by
  rw [responseArbitrationId, Config.responseArbitrationId, hconf.priority_eq, hinv.serverRoute]

/-- Frames of the response are data frames for the client. -/
theorem isData_response (hv : x.Valid service) (hinv : RpcInv x.config s) (k : Nat) :
    s.client.IsData (partFrame x.config.responseArbitrationId x.sequence x.responseBytes k) where
  isSealed := hinv.isSealed
  size := partFrame_size
  route := by
    rw [hinv.clientRoute]
    exact isForRoute_of_encode rfl hv.decode_response
  kind := partFrame_kind
  subtype := partFrame_subtype

variable {frame : CanFrame}

theorem deliverToServer_some {i : Nat} {rest : List (Option Nat × CanFrame)}
    (h : s.toServer = (some i, frame) :: rest) (time : UInt64) (backend : BackendOutcome)
    (clock : ClockReading) (outcome : Nat → Status) :
    let received := s.server.requestReceiver.accept frame
    let accepted := s.server.accept frame time backend clock ⟨outcome, []⟩
    s.deliverToServer time backend clock outcome = { s with
      toServer := rest
      toClient := s.toClient ++ accepted.writer.accepted
      server := accepted.server
      lastSeen := i
      delivered := if received.1.status = .ok then
          s.delivered ++ [(i, received.1.message.payload)] else s.delivered
      handed := s.handed ++ (accepted.handed.toList.map fun request => (i, request)) } := by
  rw [deliverToServer, h]

/-- An acknowledgement reaches the server, which only tells its sender. -/
theorem deliverToServer_ack {rest : List (Option Nat × CanFrame)}
    (h : s.toServer = (none, frame) :: rest) (hack : getReliableSubtype frame.header = .ack)
    (time : UInt64) (backend : BackendOutcome) (clock : ClockReading) (outcome : Nat → Status) :
    ∃ sender, s.deliverToServer time backend clock outcome =
      { s with server := { s.server with responseSender := sender }, toServer := rest } := by
  obtain ⟨sender, hserver, hwriter⟩ :=
    accept_ack (s := s.server) hack time backend clock ⟨outcome, []⟩
  refine ⟨sender, ?_⟩
  rw [deliverToServer, h]
  simp [hserver, hwriter]

/-- The next request frame reaches the server. -/
theorem advances_request (hv : x.Valid service) (hinv : RpcInv x.config s)
    (hconf : Configured x.config s) {k : Nat}
    (hk : k < fragmentsOf kFragmentPayload x.call.payload.length) (hwaiting : Waiting x s)
    (hactive : s.server.active = false) (hbusy : senderBusy s.server.responseSender.state = false)
    (htoServer : s.toServer = x.requestFrom k) (htoClient : s.toClient = [])
    (hreceiving : s.server.requestReceiver.Receiving x.config.requestArbitrationId x.sequence
      x.call.payload k)
    (hready : s.client.responseReceiver.Ready x.config.responseArbitrationId x.sequence)
    (hhanded : s.handed = x.handed) {time : UInt64} {backend : BackendOutcome}
    {clock : ClockReading}
    (hclean : Clean x.call.deadlineNs x.response s (.deliverToServer time backend clock outcome)) :
    Advances x s (s.deliverToServer time backend clock outcome) := by
  obtain ⟨hw, hdeadline, hanswers⟩ := hclean
  have hwriter : ∀ k, (⟨outcome, []⟩ : CanFrameWriter).outcome k = .ok := hw
  obtain ⟨-, hfit, hcount⟩ := sendable_payload hv.request_le
  have hcons : s.toServer = (some x.index, partFrame x.config.requestArbitrationId x.sequence
      x.call.payload k) :: x.requestFrom (k + 1) := by
    rw [htoServer, Exchange.requestFrom, framesFrom_of_lt hk, map_cons]
    rfl
  have hflow : (x.index, partFrame x.config.requestArbitrationId x.sequence x.call.payload k) ∈
      s.flow.data := by
    simp [flow, requestFrames, hcons]
  have hdata := hinv.isData hflow
  have hlength : s.toServer.length = (x.requestFrom (k + 1)).length + 1 := by
    rw [hcons, length_cons]
  rw [deliverToServer_some hcons]
  rcases ReliableReceiver.accept_in_order hv.decode_request (messageSequence_le x.index) hfit hcount
      hk hreceiving with ⟨hlt, hst, hack, hnext⟩ | ⟨hlast, hst, hseq, hpayload, hack⟩
  · -- A fragment before the last one is stored.
    rw [accept_part hdata hst hack]
    refine .inr ⟨.requesting (k + 1) hlt { hwaiting with } hactive hbusy rfl ?_ hnext hready ?_, ?_⟩
    · simp [htoClient]
    · simp [hhanded]
    · simp only [remaining, hwaiting.pending, if_true, hactive, hlength, Nat.mul_add]
      simp [htoClient]
  · -- The last one hands the request to the backend.
    have hnil : x.requestFrom (k + 1) = [] := by
      rw [Exchange.requestFrom, framesFrom_of_ge (Nat.le_of_eq hlast.symm), map_nil]
    obtain ⟨hgiven, hrest⟩ := accept_last (operational_server hv hinv hconf) hdata
      hactive hbusy (messageSequence_le x.index) hv.requestId hv.request_le hst hseq hpayload hack
      hdeadline hanswers hv.response_le clock hwriter
    rw [responseArbitrationId_server hinv hconf] at hrest
    generalize s.server.accept (partFrame x.config.requestArbitrationId x.sequence x.call.payload k)
      time backend clock ⟨outcome, []⟩ = result at hgiven hrest ⊢
    have hgone : s.handed ++ result.handed.toList.map (fun request => (x.index, request)) =
        x.handed ++ [x.handedRequest] := by
      rw [hgiven, hhanded]
      rfl
    have hbefore : remaining x s = fragmentsOf kFragmentPayload x.responseBytes.length + 6 := by
      simp only [remaining, hwaiting.pending, hactive, hlength, hnil, htoClient]
      simp
    have hpending := hwaiting.pending
    rcases hrest with ⟨hserves, haccepted⟩ | ⟨hdone, haccepted⟩
    · refine .inr ⟨.serving { hwaiting with } hserves hnil ?_ hready hgone, ?_⟩
      · simp [haccepted, htoClient]
      · rw [hbefore]
        simp only [remaining, hpending, hnil, haccepted, htoClient, hserves.active]
        simp
    · refine .inr ⟨.responding [ackFrame x.config.requestArbitrationId x.sequence] 0 ?_
        { hwaiting with } hdone hnil ?_ ?_ ?_ hgone, ?_⟩
      · exact x.responseCount_pos
      · simp
      · simp only [htoClient, haccepted, CanFrameWriter.accepted_fresh, nil_append]
        rfl
      · exact ReliableReceiver.receiving_of_ready hinv.responses hready _
      · rw [hbefore]
        simp only [remaining, hpending, hnil, haccepted, htoClient, hdone]
        simp [length_framesFrom, Exchange.responseBytes]

/-- The backend answers the request. -/
theorem advances_answer (hv : x.Valid service) (hinv : RpcInv x.config s)
    (hconf : Configured x.config s) (hwaiting : Waiting x s)
    (hserves : s.server.Serves x.call.requestId x.sequence) (htoServer : s.toServer = [])
    (htoClient : ∀ frame ∈ s.toClient, getReliableSubtype frame.header = .ack)
    (hready : s.client.responseReceiver.Ready x.config.responseArbitrationId x.sequence)
    (hhanded : s.handed = x.handed ++ [x.handedRequest]) {completion : BackendCompletion}
    {clock : ClockReading}
    (hclean : Clean x.call.deadlineNs x.response s (.completeRequest completion clock outcome)) :
    Advances x s (s.completeRequest completion clock outcome) := by
  obtain ⟨hw, -, rfl, hclock⟩ := hclean
  have hwriter : ∀ k, (⟨outcome, []⟩ : CanFrameWriter).outcome k = .ok := hw
  obtain ⟨hactive, hid, hseq, hbusy⟩ := hserves
  obtain ⟨sender, stats, hserver, haccepted⟩ :=
    complete_answer (operational_server hv hinv hconf) hbusy
      (hseq ▸ messageSequence_le x.index) hv.response_le hclock hwriter
  rw [responseArbitrationId_server hinv hconf, hid, hseq, CanFrameWriter.accepted_fresh,
    nil_append] at haccepted
  rw [completeRequest, hserver, haccepted]
  refine .inr ⟨.responding s.toClient 0 x.responseCount_pos { hwaiting with } rfl htoServer
    htoClient rfl (ReliableReceiver.receiving_of_ready hinv.responses hready _) hhanded, ?_⟩
  simp only [remaining, hwaiting.pending, hactive, htoServer, length_append, length_framesFrom,
    Exchange.responseBytes]
  simp
  omega

theorem deliverToClient_cons {rest : List CanFrame} (h : s.toClient = frame :: rest)
    (outcome : Nat → Status) :
    let accepted := s.client.accept frame ⟨outcome, []⟩
    s.deliverToClient outcome = { s with
      client := accepted.client
      toClient := rest
      toServer := s.toServer ++ accepted.writer.accepted.map fun frame => (none, frame)
      completions := s.completions ++ accepted.completed.toList } := by
  rw [deliverToClient, h]

/-- An acknowledgement reaches the client, which only tells its sender. -/
theorem deliverToClient_ack {rest : List CanFrame} (hcons : s.toClient = frame :: rest)
    (hack : getReliableSubtype frame.header = .ack) (outcome : Nat → Status) :
    ∃ sender, s.deliverToClient outcome =
      { s with client := { s.client with requestSender := sender }, toClient := rest } := by
  obtain ⟨sender, hclient, hwriter, hnone⟩ :=
    s.client.accept_of_ack hack ⟨outcome, []⟩
  refine ⟨sender, ?_⟩
  rw [deliverToClient_cons hcons]
  simp [hclient, hwriter, hnone]

/-- A response frame reaches the client. -/
theorem advances_response (hv : x.Valid service) (hinv : RpcInv x.config s) {k : Nat}
    (hk : k < fragmentsOf kFragmentPayload x.responseBytes.length) (hwaiting : Waiting x s)
    (hactive : s.server.active = false) (htoServer : s.toServer = [])
    (htoClient : s.toClient = x.responseFrom k)
    (hreceiving : s.client.responseReceiver.Receiving x.config.responseArbitrationId x.sequence
      x.responseBytes k) (hhanded : s.handed = x.handed ++ [x.handedRequest])
    (hclean : Clean x.call.deadlineNs x.response s (.deliverToClient outcome)) :
    Advances x s (s.deliverToClient outcome) := by
  have hwriter : ∀ k, (⟨outcome, []⟩ : CanFrameWriter).outcome k = .ok := hclean
  obtain ⟨-, hfit, hcount⟩ := sendable_response .ok x.call.requestId hv.response_le
  have hcons : s.toClient = partFrame x.config.responseArbitrationId x.sequence x.responseBytes k ::
      x.responseFrom (k + 1) := htoClient.trans (framesFrom_of_lt hk)
  have hlength : s.toClient.length = (x.responseFrom (k + 1)).length + 1 := by
    rw [hcons, length_cons]
  have hdata := isData_response hv hinv k
  obtain ⟨hpending, hsequence, hinfo, hcompletion, hcompletions⟩ := hwaiting
  rw [deliverToClient_cons hcons]
  rcases ReliableReceiver.accept_in_order hv.decode_response (messageSequence_le x.index) hfit
      hcount hk hreceiving with ⟨hlt, hst, hack, hnext⟩ | ⟨hlast, hst, hseq, hpayload, hack⟩
  · rw [CanRpcClient.accept_part hdata hst hack]
    refine .inr ⟨.responding [] (k + 1) hlt ⟨hpending, hsequence, hinfo, hcompletion, ?_⟩ hactive
      ?_ nofun rfl hnext hhanded, ?_⟩
    · simp [hcompletions]
    · simp [htoServer]
    · simp only [remaining, hpending, hactive, hlength, htoServer]
      simp
  · have hnil : x.responseFrom (k + 1) = [] := framesFrom_of_ge (Nat.le_of_eq hlast.symm)
    obtain ⟨hdone, haccepted, hcompleted⟩ := CanRpcClient.accept_last hdata hpending hst
      (hseq.trans hsequence.symm) (by rw [hinfo]; exact hpayload) (by rw [hsequence]; exact hack)
      hv.response_le hwriter
    refine .inr ⟨.finished hdone hactive ?_ hnil hhanded ?_, ?_⟩
    · simp [haccepted, htoServer]
    · rw [hcompleted, hcompletions, CanRpcClient.complete, hcompletion, hinfo]
      rfl
    · simp only [remaining, hpending, hactive, hlength, htoServer, hdone, haccepted, hnil]
      simp

/-- A clean step keeps the call on its way, and does nothing or makes progress. -/
theorem advances_step (hv : x.Valid service) (h : OnTrack x s) {action : RpcLinkAction}
    (hclean : Clean x.call.deadlineNs x.response s action) : Advances x s (s.step action) := by
  obtain ⟨hinv, hconf, hstage⟩ := h
  cases action with
  | callAsync | loseToServer | loseToClient => exact hclean.elim
  | pollClient => exact .inl (pollClient_of_clean hclean)
  | pollServer => exact .inl (pollServer_of_clean hclean)
  | deliverToServer time backend clock outcome =>
    cases hstage with
    | requesting k lt waiting active notBusy toServer toClient receiving ready handed =>
      exact advances_request hv hinv hconf lt waiting active notBusy toServer toClient receiving
        ready handed hclean
    | serving _ _ toServer => exact .inl (deliverToServer_nil toServer _ _ _ _)
    | responding _ _ _ _ _ toServer => exact .inl (deliverToServer_nil toServer _ _ _ _)
    | finished pending active toServer toClient handed completions =>
      cases hcons : s.toServer with
      | nil => exact .inl (deliverToServer_nil hcons _ _ _ _)
      | cons e rest =>
        obtain ⟨tag, frame⟩ := e
        obtain rfl : tag = none := toServer (tag, frame) (by simp [hcons])
        have hack := hinv.acks (none, frame) (by simp [hcons]) rfl
        obtain ⟨sender, heq⟩ := deliverToServer_ack hcons hack time backend clock outcome
        rw [step, heq]
        refine .inr ⟨.finished pending active ?_ toClient handed completions, ?_⟩
        · exact fun e he => toServer e (by simp [hcons, he])
        · simp [remaining, pending, hcons]
  | completeRequest completion clock outcome =>
    cases hstage with
    | requesting _ _ _ active => cases hclean.2.1.symm.trans active
    | serving waiting serves toServer toClient ready handed =>
      exact advances_answer hv hinv hconf waiting serves toServer toClient ready handed hclean
    | responding _ _ _ _ active => cases hclean.2.1.symm.trans active
    | finished _ active => cases hclean.2.1.symm.trans active
  | deliverToClient outcome =>
    cases hstage with
    | requesting _ _ _ _ _ _ toClient => exact .inl (deliverToClient_nil toClient _)
    | serving waiting serves toServer toClient ready handed =>
      cases hcons : s.toClient with
      | nil => exact .inl (deliverToClient_nil hcons _)
      | cons frame rest =>
        obtain ⟨sender, heq⟩ := deliverToClient_ack hcons (toClient frame (by simp [hcons])) outcome
        have hrest : ∀ frame ∈ rest, getReliableSubtype frame.header = .ack :=
          fun frame hframe => toClient frame (by simp [hcons, hframe])
        rw [step, heq]
        refine .inr ⟨.serving { waiting with } serves toServer hrest ready handed, ?_⟩
        simp [remaining, waiting.pending, hcons]
    | responding acks k lt waiting active toServer acks_subtype toClient receiving handed =>
      cases acks with
      | nil =>
        exact advances_response hv hinv lt waiting active toServer toClient receiving handed hclean
      | cons frame acks =>
        obtain ⟨sender, heq⟩ := deliverToClient_ack toClient (acks_subtype frame (by simp)) outcome
        have hrest : ∀ frame ∈ acks, getReliableSubtype frame.header = .ack :=
          fun frame hframe => acks_subtype frame (by simp [hframe])
        rw [step, heq]
        refine .inr ⟨.responding acks k lt { waiting with } active toServer hrest rfl receiving
          handed, ?_⟩
        simp [remaining, waiting.pending, toClient]
    | finished _ _ _ toClient => exact .inl (deliverToClient_nil toClient _)

end Stages

/-! ## The whole call -/

/-- No call is pending, the server is not active and neither sender is busy. -/
structure Quiet (s : RpcLink service) : Prop where
  pending : s.client.pending = false
  active : s.server.active = false
  requestSender : senderBusy s.client.requestSender.state = false
  responseSender : senderBusy s.server.responseSender.state = false

/-- The next call that `CallAsync` accepts is handed to the backend exactly once and completed
    with the answer of the backend, if the link is clean from then on. -/
def Recovers (s : RpcLink service) : Prop :=
  ∀ (descriptor : ServiceDescriptor) (request : List UInt8) (deadlineNs : UInt64)
    (clock : ClockReading) (outcome : Nat → Status) (response : List UInt8)
    (acts : ℕ → RpcLinkAction),
    (s.client.callAsync descriptor request deadlineNs (some s.calls.length) clock
      ⟨outcome, []⟩).1 = .ok →
    response.length ≤ service.responseSize →
    let called := s.callAsync descriptor request deadlineNs clock outcome
    let call := s.newCall request deadlineNs
    (∀ t, Clean deadlineNs response (Machine.trace step called acts t) (acts t)) →
    Fair called acts →
    ∃ T, ∀ t ≥ T,
      (Machine.trace step called acts t).handed =
        s.handed ++ [(s.calls.length, ⟨call.requestId, deadlineNs, request⟩)] ∧
      (Machine.trace step called acts t).completions =
        s.completions ++ [⟨s.calls.length, .ok, response, ⟨call.requestId, deadlineNs⟩⟩]

theorem freshRequestId_ne_zero (id : UInt32) : CanRpcClient.freshRequestId id ≠ 0 := by
  unfold CanRpcClient.freshRequestId
  split
  · decide
  · assumption

/-- The exchange that an accepted call begins. -/
def exchange (config : Config) (s : RpcLink service) (request : List UInt8) (deadlineNs : UInt64)
    (response : List UInt8) : Exchange :=
  ⟨config, s.calls.length, s.newCall request deadlineNs, response, s.handed, s.completions⟩

/-- The call is on track once `CallAsync` has accepted it. -/
theorem onTrack_callAsync {config : Config} (hinv : RpcInv config s) (hconf : Configured config s)
    (hretry : config.serverRetryTimeoutNs ≠ 0) (hquiet : Quiet s) (htoServer : s.toServer = [])
    (htoClient : s.toClient = [])
    (hrequests : s.server.requestReceiver.Ready config.requestArbitrationId s.client.nextSequence)
    (hresponses : s.client.responseReceiver.Ready config.responseArbitrationId
      s.client.nextSequence) {descriptor : ServiceDescriptor} {request : List UInt8}
    {clock : ClockReading}
    (hok : (s.client.callAsync descriptor request deadlineNs (some s.calls.length) clock ⟨outcome,
      []⟩).1 = .ok) (hresponse : response.length ≤ service.responseSize) :
    (s.exchange config request deadlineNs response).Valid service ∧
      OnTrack (s.exchange config request deadlineNs response)
        (s.callAsync descriptor request deadlineNs clock outcome) := by
  rw [hinv.nextSequence] at hrequests hresponses
  rcases CanRpcClient.callAsync_cases s.client descriptor request deadlineNs
      (some s.calls.length) clock ⟨outcome, []⟩ with
    ⟨status, stats, hne, -, heq⟩ | ⟨hcheck, hchecked, hstarted⟩
  · rw [heq] at hok
    exact absurd hok hne
  cases hstarted with
  | refused _ _ status => exact absurd hok status
  | cut _ _ _ status => exact absurd hok status
  | sent s₀ sender stats _ begun client same inv state accepted =>
    have hroute := begun.route
    rw [show (s.client.enterCall deadlineNs (some s.calls.length)).routeId = config.routeId from
      hinv.clientRoute, show (s.client.enterCall deadlineNs (some s.calls.length)).priority =
      config.clientPriority from hinv.clientPriority] at hroute
    obtain ⟨hne, hle⟩ := CanArbitrationId.encode_status_ok_iff.mp (congrArg Prod.fst hroute)
    -- What was written are the frames of the request.
    have hframes : (List.range s₀.fragmentCount).map s₀.fragmentFrame =
        framesFrom config.requestArbitrationId (messageSequence s.calls.length)
          (s.newCall request deadlineNs).payload 0 := by
      have hsequence : s₀.sequence = messageSequence s.calls.length :=
        begun.sequence_eq.trans hinv.nextSequence
      have hpayload : s₀.payload = (s.newCall request deadlineNs).payload := begun.payload_eq
      have hcount : s₀.fragmentCount =
          fragmentsOf kFragmentPayload (s.newCall request deadlineNs).payload.length :=
        begun.count_eq
      rw [framesFrom, Nat.sub_zero, ← range_eq_range', ← hcount]
      refine map_congr_left fun k _ => ?_
      rw [ReliableSender.fragmentFrame, partFrame, hsequence, hpayload, ← hcount,
        Config.requestArbitrationId, hroute]
    have hcall : s.callAsync descriptor request deadlineNs clock outcome = { s with
        client := { s.client.enterCall deadlineNs (some s.calls.length) with
          requestSender := sender, stats := stats }
        calls := s.calls ++ [s.newCall request deadlineNs]
        toServer := (framesFrom config.requestArbitrationId (messageSequence s.calls.length)
          (s.newCall request deadlineNs).payload 0).map fun frame =>
            (some s.calls.length, frame) } := by
      rw [callAsync, hcheck]
      rw [client, accepted, hframes, htoServer, CanFrameWriter.accepted_fresh, nil_append,
        nil_append]
      rfl
    have hinv' := rpcInv_step hinv (.callAsync descriptor request deadlineNs clock outcome)
    have hconf' := configured_step hconf (.callAsync descriptor request deadlineNs clock outcome)
    refine ⟨⟨hne, hle, hretry, freshRequestId_ne_zero _, hchecked.request_le, hresponse⟩, hinv',
      hconf', ?_⟩
    rw [hcall]
    have hsendable : Sendable service.requestPayloadSize
        (s.newCall request deadlineNs).payload := sendable_payload hchecked.request_le
    have hpos : 0 < fragmentsOf kFragmentPayload (s.newCall request deadlineNs).payload.length :=
      fragmentsOf_pos (by decide) (length_pos_of_ne_nil hsendable.nonempty)
    exact .requesting 0 hpos ⟨rfl, hinv.nextSequence, rfl, rfl, rfl⟩ hquiet.active
      hquiet.responseSender rfl htoClient
      (ReliableReceiver.receiving_of_ready hinv.flow.receiver hrequests _) hresponses rfl

variable {x : Exchange}

/-- A clean step keeps the call on track. -/
theorem onTrack_step (hv : x.Valid service) (h : OnTrack x s) {action : RpcLinkAction}
    (hclean : Clean x.call.deadlineNs x.response s action) : OnTrack x (s.step action) := by
  refine ⟨rpcInv_step h.inv action, configured_step h.configured action, ?_⟩
  rcases advances_step hv h hclean with heq | ⟨hstage, -⟩
  · rw [heq]
    exact h.stage
  · exact hstage

/-- While the call is pending, one of the actions that a fair run performs has an effect. -/
theorem moves_of_pending (h : Stage x s) (hpending : s.client.pending = true) :
    (∀ time backend clock outcome,
      s.deliverToServer time backend clock outcome ≠ s) ∨
    (∀ outcome, s.deliverToClient outcome ≠ s) ∨
    (s.server.active = true ∧ ∀ status response clock outcome,
      s.completeRequest (.answer status response) clock outcome ≠ s) := by
  cases h with
  | requesting k lt _ _ _ toServer =>
    refine .inl fun time backend clock outcome heq => ?_
    have htail := s.toServer_deliverToServer time backend clock outcome
    rw [heq, toServer, Exchange.requestFrom, framesFrom_of_lt lt] at htail
    exact absurd (congrArg List.length htail) (by simp)
  | serving _ serves =>
    refine .inr (.inr ⟨serves.active, fun status response clock outcome heq => ?_⟩)
    have hdone := s.active_completeRequest status response clock outcome
    rw [heq, serves.active] at hdone
    cases hdone
  | responding acks k lt _ _ _ _ toClient =>
    refine .inr (.inl fun outcome heq => ?_)
    have htail := s.toClient_deliverToClient outcome
    rw [heq, toClient, Exchange.responseFrom, framesFrom_of_lt lt] at htail
    have hlength := congrArg List.length htail
    simp at hlength
  | finished pending => cases hpending.symm.trans pending

/-- What the stage of a call that is not pending any more says. -/
theorem Stage.of_not_pending (h : Stage x s) (hdone : s.client.pending = false) :
    s.toClient = [] ∧ s.handed = x.handed ++ [x.handedRequest] ∧
      s.completions = x.completions ++ [x.completion] := by
  cases h with
  | requesting _ _ waiting => cases hdone.symm.trans waiting.pending
  | serving waiting => cases hdone.symm.trans waiting.pending
  | responding _ _ _ waiting => cases hdone.symm.trans waiting.pending
  | finished _ _ _ toClient handed completions => exact ⟨toClient, handed, completions⟩

/-- A clean link does not make a finished call pending again. -/
theorem not_pending_step (h : Stage x s) (hdone : s.client.pending = false) {action : RpcLinkAction}
    (hclean : Clean x.call.deadlineNs x.response s action) :
    (s.step action).client.pending = false := by
  cases action with
  | callAsync | loseToServer | loseToClient => exact hclean.elim
  | pollClient => rwa [step, pollClient_of_clean hclean]
  | pollServer | completeRequest => exact hdone
  | deliverToServer time backend clock outcome =>
    rw [step, deliverToServer]
    split
    · exact hdone
    · dsimp only
      split <;> exact hdone
  | deliverToClient outcome => rwa [step, deliverToClient_nil (h.of_not_pending hdone).1]

/-- Recovery: in a quiet state with nothing in flight, the next call is handed over and completed
    exactly once if its sequence is new to both receivers. -/
theorem recovers_of_ready (config : Config) (hretry : config.serverRetryTimeoutNs ≠ 0)
    (actions : List RpcLinkAction)
    (hquiet : Quiet (Machine.run step (init config : RpcLink service) actions))
    (htoServer : (Machine.run step (init config : RpcLink service) actions).toServer = [])
    (htoClient : (Machine.run step (init config : RpcLink service) actions).toClient = [])
    (hrequests : (Machine.run step (init config : RpcLink service)
      actions).server.requestReceiver.Ready config.requestArbitrationId
        (Machine.run step (init config : RpcLink service) actions).client.nextSequence)
    (hresponses : (Machine.run step (init config : RpcLink service)
      actions).client.responseReceiver.Ready config.responseArbitrationId
        (Machine.run step (init config : RpcLink service) actions).client.nextSequence) :
    Recovers (Machine.run step (init config : RpcLink service) actions) := by
  have hinv : RpcInv config (Machine.run step (init config : RpcLink service) actions) :=
    rpcInv_run config actions
  have hconf : Configured config (Machine.run step (init config : RpcLink service) actions) :=
    configured_run config actions
  generalize Machine.run step (init config : RpcLink service) actions = s at *
  intro descriptor request deadlineNs clock outcome response acts hok hresponse called call hclean
    hfair
  obtain ⟨hv, hstart⟩ := onTrack_callAsync hinv hconf hretry hquiet htoServer htoClient hrequests
    hresponses hok hresponse
  generalize hx : s.exchange config request deadlineNs response = x at hv hstart
  have hclean' : ∀ t, Clean x.call.deadlineNs x.response (Machine.trace step called acts t)
      (acts t) := by
    subst hx
    exact hclean
  have htrack : ∀ t, OnTrack x (Machine.trace step called acts t) :=
    Machine.trace_invariant step hstart fun t h => onTrack_step hv h (hclean' t)
  -- The measure goes down until the call is no longer pending.
  have hdown := fun t => (advances_step hv (htrack t) (hclean' t)).imp_right And.right
  let Done : RpcLink service → Prop := fun s => s.client.pending = false
  have hmoves : ∀ t, ¬ Done (Machine.trace step called acts t) →
      ∃ u ≥ t, step (Machine.trace step called acts t) (acts u) ≠
        Machine.trace step called acts t := by
    intro t hnot
    have hpending : (Machine.trace step called acts t).client.pending = true :=
      Bool.eq_true_of_not_eq_false hnot
    rcases moves_of_pending (htrack t).stage hpending with hmoves | hmoves | ⟨hactive, hmoves⟩
    · obtain ⟨u, hu, time, backend, clock, outcome, hact⟩ := hfair.toServer t
      exact ⟨u, hu, by rw [hact]; exact hmoves _ _ _ _⟩
    · obtain ⟨u, hu, outcome, hact⟩ := hfair.toClient t
      exact ⟨u, hu, by rw [hact]; exact hmoves _⟩
    · obtain ⟨u, hu, status, response, clock, outcome, hact⟩ := hfair.answers t hactive
      exact ⟨u, hu, by rw [hact]; exact hmoves _ _ _ _⟩
  obtain ⟨T, hT⟩ : ∃ T, Done (Machine.trace step called acts T) :=
    Machine.trace_reaches step (remaining x) hdown hmoves
  -- From then on it stays finished.
  refine ⟨T, fun t ht => ?_⟩
  have hdone : (Machine.trace step called acts t).client.pending = false := by
    induction ht with
    | refl => exact hT
    | @step t _ ih => exact not_pending_step (htrack t).stage ih (hclean' t)
  obtain ⟨-, hhanded, hcompletions⟩ := (htrack t).stage.of_not_pending hdone
  subst hx
  exact ⟨hhanded, hcompletions⟩

/-! ## An outage of seven calls -/

private def outageService : RpcService where
  descriptor := ⟨"s", Vector.replicate 16 0, ⟨"q", Vector.replicate 16 0, 0⟩,
    ⟨"r", Vector.replicate 16 0, 1⟩, ""⟩
  requestSize := 0
  responseSize := 1
  request_fits := emptyRequest_fits
  response_fits := by decide

/-- A call without deadline; the writer accepts every frame or none. -/
private def emptyCall (status : Status) : RpcLinkAction :=
  .callAsync outageService.descriptor [] 0 ⟨.ok, 0⟩ fun _ => status

/-- Deliveries in turn to the server, whose backend answers at once, and to the client. -/
private def inTurn (t : ℕ) : RpcLinkAction :=
  if t % 2 = 0 then
    .deliverToServer 0 ⟨.ok, some (.answer .ok [9], ⟨.ok, 0⟩)⟩ ⟨.ok, 0⟩ fun _ => .ok
  else .deliverToClient fun _ => .ok

/-- One call is carried out, then the writer rejects `failures` calls. -/
private def outageHistory (failures : Nat) : List RpcLinkAction :=
  emptyCall .ok :: (List.range 8).map inTurn ++ List.replicate failures (emptyCall .unavailable)

private def afterOutage (failures : Nat) : RpcLink outageService :=
  Machine.run step (init controlConfig) (outageHistory failures)

private theorem inTurn_cases (t : ℕ) :
    (∃ time backend clock outcome,
      inTurn t = .deliverToServer time backend clock outcome) ∨
    ∃ outcome, inTurn t = .deliverToClient outcome := by
  unfold inTurn
  split
  · exact .inl ⟨_, _, _, _, rfl⟩
  · exact .inr ⟨_, rfl⟩

private theorem clean_inTurn (s : RpcLink outageService) (t : ℕ) : Clean 0 [9] s (inTurn t) := by
  unfold inTurn
  split
  · exact ⟨fun _ => rfl, .inl rfl, rfl, .inr ⟨_, rfl, rfl⟩⟩
  · exact fun _ => rfl

/-- Once nothing is in flight the deliveries change nothing any more. -/
private theorem trace_inTurn {s : RpcLink outageService} {n t : ℕ}
    (htoServer : (trace step s inTurn n).toServer = [])
    (htoClient : (trace step s inTurn n).toClient = []) (ht : n ≤ t) :
    trace step s inTurn t = trace step s inTurn n := by
  refine trace_eq_of_fixed step (fun u => ?_) ht
  rcases inTurn_cases u with ⟨time, backend, clock, outcome, hact⟩ | ⟨outcome, hact⟩
  · rw [hact]
    exact deliverToServer_nil htoServer _ _ _ _
  · rw [hact]
    exact deliverToClient_nil htoClient _

private theorem fair_inTurn {s : RpcLink outageService} {n : ℕ}
    (htoServer : (trace step s inTurn n).toServer = [])
    (htoClient : (trace step s inTurn n).toClient = [])
    (hidle : ∀ t < n + 1, (trace step s inTurn t).server.active = false) : Fair s inTurn where
  toServer t := ⟨2 * t, by omega, _, _, _, _, if_pos (by omega)⟩
  toClient t := ⟨2 * t + 1, by omega, _, if_neg (by omega)⟩
  answers t hactive := by
    -- The backend answers at once, so the server is never active between two steps.
    refine absurd hactive (Bool.eq_false_iff.mp ?_)
    rcases Nat.lt_or_ge t (n + 1) with hlt | hge
    · exact hidle t hlt
    · rw [trace_inTurn htoServer htoClient (Nat.le_of_lt hge)]
      exact hidle n (Nat.lt_succ_self n)

/-- The call after an outage of six calls is carried out. -/
theorem recovers_of_ready_six :
    ∃ T, ∀ t ≥ T, (Machine.trace step ((afterOutage 6).step (emptyCall .ok)) inTurn t).handed =
        [(0, ⟨1, 0, []⟩), (7, ⟨8, 0, []⟩)] ∧
      (Machine.trace step ((afterOutage 6).step (emptyCall .ok)) inTurn t).completions =
        [⟨0, .ok, [9], ⟨1, 0⟩⟩, ⟨7, .ok, [9], ⟨8, 0⟩⟩] := by
  have hquiet : Quiet (afterOutage 6) :=
    ⟨by decide +kernel, by decide +kernel, by decide +kernel, by decide +kernel⟩
  have hfair : Fair ((afterOutage 6).step (emptyCall .ok)) inTurn :=
    fair_inTurn (n := 8) (by decide +kernel) (by decide +kernel) (by decide +kernel)
  exact recovers_of_ready controlConfig (by decide) (outageHistory 6) hquiet (by decide +kernel)
    (by decide +kernel) (by decide +kernel) (by decide +kernel) outageService.descriptor [] 0
    ⟨.ok, 0⟩ (fun _ => .ok) [9] inTurn (by decide +kernel) (by decide)
    (fun t => clean_inTurn _ t) hfair

/-- After seven calls that the writer rejected the link is quiet and nothing is in flight, and
    the server drops the next request although the link is clean. -/
theorem not_recovers_after_outage :
    ∃ s : RpcLink outageService, s = Machine.run step (init controlConfig) (outageHistory 7) ∧
      Quiet s ∧ s.toServer = [] ∧ s.toClient = [] ∧ ¬ Recovers s := by
  refine ⟨_, rfl, ⟨by decide +kernel, by decide +kernel, by decide +kernel, by decide +kernel⟩,
    by decide +kernel, by decide +kernel, fun hrecovers => ?_⟩
  have htoServer : (Machine.trace step ((afterOutage 7).step (emptyCall .ok)) inTurn 8).toServer =
      [] := by decide +kernel
  have htoClient : (Machine.trace step ((afterOutage 7).step (emptyCall .ok)) inTurn 8).toClient =
      [] := by decide +kernel
  obtain ⟨T, hT⟩ := hrecovers outageService.descriptor [] 0 ⟨.ok, 0⟩ (fun _ => .ok) [9] inTurn
    (by decide +kernel) (by decide) (fun t => clean_inTurn _ t)
    (fair_inTurn htoServer htoClient (by decide +kernel))
  have hhanded := (hT (max T 8) (Nat.le_max_left T 8)).1
  have hlost : (Machine.trace step ((afterOutage 7).step (emptyCall .ok)) inTurn 8).handed.length =
      (afterOutage 7).handed.length := by decide +kernel
  have hstay := trace_inTurn htoServer htoClient (Nat.le_max_right T 8)
  rw [← hstay] at hlost
  have hlength := congrArg List.length hhanded
  rw [List.length_append, List.length_singleton] at hlength
  exact absurd (hlost.symm.trans hlength) (Nat.ne_of_lt (Nat.lt_succ_self _))

end RpcLink

end AsterCtrl.Can
