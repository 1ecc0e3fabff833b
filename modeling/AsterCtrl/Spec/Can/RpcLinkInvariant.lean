import AsterCtrl.Native.Can.RpcLink
import AsterCtrl.Spec.Can.RpcServerSteps
import AsterCtrl.Spec.Can.ReliableFlow

/-!
# Invariant of the RPC link

`RpcInv` holds in every state of every run of an `RpcLink`, with any losses, rejected writes,
abandoned calls and backend behaviour.  The request direction is a `ReliableFlow` in which the
messages are the calls; the invariant ties the client's sender and sequence counter to it.

## Key results

- `rpcInv_run`: the invariant of all runs
- `deliverToServer_request`: what the arrival of a request frame does to the flow
-/

namespace AsterCtrl.Can

open List ReliableSender

namespace RpcLink

variable {service : RpcService}

/-- The request frames in flight, with the index of their call. -/
def requestFrames (frames : List (Option Nat × CanFrame)) : List (Nat × CanFrame) :=
  frames.filterMap fun e => e.1.map fun i => (i, e.2)

/-- The request direction of the link. -/
def flow (s : RpcLink service) : ReliableFlow service.requestPayloadSize :=
  ⟨s.calls.map RpcCall.payload, requestFrames s.toServer, s.server.requestReceiver, s.lastSeen,
    s.delivered⟩

theorem requestFrames_append (xs ys : List (Option Nat × CanFrame)) :
    requestFrames (xs ++ ys) = requestFrames xs ++ requestFrames ys :=
  filterMap_append

@[simp] theorem requestFrames_none (frames : List CanFrame) :
    requestFrames (frames.map fun frame => (none, frame)) = [] := by
  simp [requestFrames, filterMap_map]

@[simp] theorem requestFrames_some (i : Nat) (frames : List CanFrame) :
    requestFrames (frames.map fun frame => (some i, frame)) = frames.map fun frame => (i, frame) := by
  simp [requestFrames, filterMap_map]

/-- The sender carries call number `i`, on a route that `Encode` accepts. -/
structure Carries (config : Config) (sender : ReliableSender service.requestPayloadSize)
    (i : Nat) (call : RpcCall) : Prop where
  route : CanArbitrationId.encode config.clientPriority config.routeId =
    (.ok, sender.arbitrationId)
  sequence : sender.sequence = messageSequence i
  payload : sender.payload = call.payload

variable {config : Config} {i : Nat} {call : RpcCall}

theorem Carries.of_same {s s' : ReliableSender service.requestPayloadSize}
    (h : Carries config s i call) (hs : s.SameMessage s') :
    Carries config s' i call :=
  ⟨hs.arbitrationId ▸ h.route, hs.sequence.trans h.sequence, hs.payload.trans h.payload⟩

structure RpcInv (config : Config) (s : RpcLink service) : Prop where
  clientRoute : s.client.routeId = config.routeId
  clientPriority : s.client.priority = config.clientPriority
  isSealed : s.client.isSealed = true
  serverRoute : s.server.routeId = config.routeId
  bound : s.server.bound = true
  sender : s.client.requestSender.Inv
  responses : s.client.responseReceiver.Inv
  nextSequence : s.client.nextSequence = messageSequence s.calls.length
  carries : senderBusy s.client.requestSender.state = true →
    ∃ call, s.calls[s.calls.length - 1]? = some call ∧
      Carries config s.client.requestSender (s.calls.length - 1) call
  sizes : ∀ call ∈ s.calls, call.request.length ≤ service.requestSize
  flow : FlowInv config.requestArbitrationId s.flow
  acks : ∀ e ∈ s.toServer, e.1 = none → getReliableSubtype e.2.header = .ack

theorem rpcInv_init (config : Config) : RpcInv config (init config : RpcLink service) where
  clientRoute := rfl
  clientPriority := rfl
  isSealed := rfl
  serverRoute := rfl
  bound := rfl
  sender := inv_default
  responses := ReliableReceiver.inv_default 0
  nextSequence := rfl
  carries h := nomatch h
  sizes := by simp [init]
  flow := FlowInv.initial 0
  acks := by simp [init]

/-! ## Frames of a call -/

theorem sendable_payload (h : call.request.length ≤ service.requestSize) :
    Sendable service.requestPayloadSize call.payload := by
  have hfits := service.request_fits
  have hlen := length_requestPayload call.requestId call.deadlineNs call.request
  have hpos : kRequestHeaderSize = 12 := rfl
  refine ⟨fun hnil => ?_, ?_, fragmentsOf_le_sixteen ?_⟩
  · rw [RpcCall.payload] at hnil
    rw [hnil, length_nil] at hlen
    omega
  · rw [RpcCall.payload, hlen, RpcService.requestPayloadSize]
    omega
  · rw [RpcCall.payload, hlen]
    omega

/-- The frames of a sender that carries call `i` are the frames of message `i`. -/
theorem Carries.fragmentFrame {sender : ReliableSender service.requestPayloadSize}
    (h : Carries config sender i call) (hinv : sender.Inv) (k : Nat) :
    sender.fragmentFrame k = messageFrame config.requestArbitrationId i call.payload k := by
  have hid : sender.arbitrationId = config.requestArbitrationId := by
    rw [Config.requestArbitrationId, h.route]
  rw [ReliableSender.fragmentFrame, messageFrame, hid, h.sequence, hinv.count, h.payload]

theorem Carries.decode_isSome {sender : ReliableSender service.requestPayloadSize}
    (h : Carries config sender i call) :
    (CanArbitrationId.decode config.requestArbitrationId).isSome := by
  have hst : (CanArbitrationId.encode config.clientPriority config.routeId).1 = .ok := by
    rw [h.route]
  obtain ⟨h0, hmax⟩ := CanArbitrationId.encode_status_ok_iff.mp hst
  rw [Config.requestArbitrationId, CanArbitrationId.decode_encode h0 hmax]
  rfl

theorem senderBusy_iff {state : ReliableSenderState} :
    senderBusy state = true ↔ state = .sending ∨ state = .waitingForAck := by
  cases state <;> simp [senderBusy]

/-! ## CallAsync -/

/-- The sequence that follows that of message `i`. -/
theorem messageSequence_succ (i : Nat) :
    (messageSequence i + 1) &&& 0x0f = messageSequence (i + 1) := by
  have key : ∀ n : Fin 16, (UInt8.ofNat n + 1) &&& 0x0f = UInt8.ofNat ((n + 1) % 16) := by
    decide +kernel
  have := key ⟨i % 16, Nat.mod_lt _ (by decide)⟩
  rw [messageSequence, messageSequence, this]
  congr 1
  dsimp only
  omega

/-- The call that `CallAsync` makes of its arguments. -/
def newCall (s : RpcLink service) (request : List UInt8) (deadlineNs : UInt64) : RpcCall :=
  ⟨CanRpcClient.freshRequestId s.client.nextRequestId, deadlineNs, request⟩

/-- The client `c'` after a call that passed the checks, of which the first `m` fragments were
    written: the sender carries the call or is free. -/
structure Called (config : Config) (s : RpcLink service) (call : RpcCall)
    (c' : CanRpcClient service Nat) (m : Nat) : Prop where
  routeId : c'.routeId = s.client.routeId
  priority : c'.priority = s.client.priority
  isSealed : c'.isSealed = s.client.isSealed
  responseReceiver : c'.responseReceiver = s.client.responseReceiver
  nextSequence : c'.nextSequence = messageSequence (s.calls.length + 1)
  sender : c'.requestSender.Inv
  carries : senderBusy c'.requestSender.state = true →
    Carries config c'.requestSender s.calls.length call
  le : m ≤ fragmentsOf kFragmentPayload call.payload.length
  routed : 0 < m → (CanArbitrationId.decode config.requestArbitrationId).isSome

/-- The link after a call of which the first `m` fragments were written. -/
def called (config : Config) (s : RpcLink service) (call : RpcCall)
    (c' : CanRpcClient service Nat) (m : Nat) : RpcLink service :=
  { s with
    client := c'
    calls := s.calls ++ [call]
    toServer := s.toServer ++ (List.range m).map fun k => (some s.calls.length,
      messageFrame config.requestArbitrationId s.calls.length call.payload k) }

variable {s : RpcLink service}

private theorem carries_of_begun (h : RpcInv config s) {request : List UInt8} {deadlineNs : UInt64}
    {s₀ : ReliableSender service.requestPayloadSize}
    (hbegun : s₀.Begun s.client.routeId s.client.priority s.client.nextSequence (s.newCall request
      deadlineNs).payload) : Carries config s₀ s.calls.length (s.newCall request deadlineNs) where
  route := by
    have := hbegun.route
    rwa [h.clientRoute, h.clientPriority] at this
  sequence := hbegun.sequence_eq.trans h.nextSequence
  payload := hbegun.payload_eq

private theorem map_fragmentFrame {s₀ : ReliableSender service.requestPayloadSize}
    (hc : Carries config s₀ i call) (hinv : s₀.Inv) (tag : Option Nat) (ks : List Nat) :
    (ks.map s₀.fragmentFrame).map (fun frame => (tag, frame)) =
      ks.map fun k => (tag, messageFrame config.requestArbitrationId i call.payload k) := by
  rw [map_map]
  exact map_congr_left fun k _ => congrArg (Prod.mk tag) (hc.fragmentFrame hinv k)

/-- `CallAsync` on the link: the call is refused by the checks and only counted, or it is a new
    call of which some fragments are written. -/
theorem callAsync_spec (h : RpcInv config s) (descriptor : ServiceDescriptor) (request : List UInt8)
    (deadlineNs : UInt64) (clock : ClockReading) (outcome : Nat → Status) :
    (∃ stats, s.callAsync descriptor request deadlineNs clock outcome =
      { s with client := { s.client with stats := stats } }) ∨
    ((s.client.checkCall descriptor request deadlineNs (some s.calls.length) clock).isNone = true ∧
      senderBusy s.client.requestSender.state = false ∧
      request.length ≤ service.requestSize ∧
      ∃ c' m, Called config s (s.newCall request deadlineNs) c' m ∧
        s.callAsync descriptor request deadlineNs clock outcome =
          s.called config (s.newCall request deadlineNs) c' m) := by
  rcases CanRpcClient.callAsync_cases s.client descriptor request deadlineNs
      (some s.calls.length) clock ⟨outcome, []⟩ with
    ⟨status, stats, -, hcheck, heq⟩ | ⟨hcheck, hchecked, hstarted⟩
  · obtain ⟨rejected, hrej⟩ := Option.isSome_iff_exists.mp hcheck
    refine .inl ⟨stats, ?_⟩
    rw [callAsync, heq, hrej]
  · refine .inr ⟨by rw [hcheck]; rfl, hchecked.notBusy, hchecked.request_le, ?_⟩
    have hnext : (s.client.nextSequence + 1) &&& 0x0f = messageSequence (s.calls.length + 1) := by
      rw [h.nextSequence, messageSequence_succ]
    -- the client after the call, and the frames that were written
    obtain ⟨c', frames, hc', hframes⟩ : ∃ c' frames,
        (s.client.callAsync descriptor request deadlineNs (some s.calls.length) clock
          ⟨outcome, []⟩).2.1 = c' ∧
        (s.client.callAsync descriptor request deadlineNs (some s.calls.length) clock
          ⟨outcome, []⟩).2.2.accepted = frames := ⟨_, _, rfl, rfl⟩
    have heq : s.callAsync descriptor request deadlineNs clock outcome =
        { s with
          client := c'
          calls := s.calls ++ [s.newCall request deadlineNs]
          toServer := s.toServer ++ frames.map fun frame => (some s.calls.length, frame) } := by
      rw [callAsync, hcheck, hc', hframes]
      rfl
    obtain ⟨hroute, hprio, hseal, -, hseq, -, hresp⟩ := hstarted.same
    rw [hc'] at hroute hprio hseal hseq hresp
    have hcalled : ∀ m, c'.requestSender.Inv → (senderBusy c'.requestSender.state = true →
          Carries config c'.requestSender s.calls.length (s.newCall request deadlineNs)) →
        m ≤ fragmentsOf kFragmentPayload (s.newCall request deadlineNs).payload.length →
        (0 < m → (CanArbitrationId.decode config.requestArbitrationId).isSome) →
        frames.map (fun frame => (some s.calls.length, frame)) = (List.range m).map (fun k =>
          (some s.calls.length, messageFrame config.requestArbitrationId s.calls.length
            (s.newCall request deadlineNs).payload k)) →
        ∃ c' m, Called config s (s.newCall request deadlineNs) c' m ∧
          s.callAsync descriptor request deadlineNs clock outcome =
            s.called config (s.newCall request deadlineNs) c' m := by
      intro m hinv hcarries hle hrouted hmap
      refine ⟨c', m, ⟨hroute, hprio, hseal, hresp, hseq.trans hnext, hinv, hcarries, hle, hrouted⟩, ?_⟩
      rw [heq, hmap]
      rfl
    cases hstarted with
    | refused id stats _ client accepted =>
      rw [hc'] at client
      rw [hframes] at accepted
      have hsender := h.sender
      refine hcalled 0 ?_ ?_ (Nat.zero_le _) nofun (by rw [accepted]; rfl)
      · rw [client]
        exact ⟨hsender.count, hsender.count_le, hsender.sequence, hsender.sending, hsender.waiting,
          hsender.pending⟩
      · rw [client]
        exact fun hbusy => nomatch hbusy.symm.trans hchecked.notBusy
    | cut s₀ m stats _ begun lt client accepted _ =>
      rw [hc'] at client
      rw [hframes] at accepted
      have hcarries := carries_of_begun h begun
      have hle := Nat.le_of_lt (begun.count_eq ▸ lt)
      refine hcalled m ?_ ?_ hle (fun _ => hcarries.decode_isSome) ?_
      · rw [client]
        exact inv_default
      · rw [client]
        exact fun hbusy => nomatch hbusy
      · rw [accepted]
        exact map_fragmentFrame hcarries begun.inv _ _
    | sent s₀ sender stats _ begun client same inv state accepted =>
      rw [hc'] at client
      rw [hframes] at accepted
      have hcarries := carries_of_begun h begun
      have hle := Nat.le_of_eq begun.count_eq
      refine hcalled s₀.fragmentCount ?_ ?_ hle (fun _ => hcarries.decode_isSome) ?_
      · rw [client]
        exact inv
      · rw [client]
        exact fun _ => hcarries.of_same same
      · rw [accepted]
        exact map_fragmentFrame hcarries begun.inv _ _

/-- Writing fragments of the last call keeps the invariant of the request direction. -/
private theorem flow_emitted {frameId : UInt16} (h : FlowInv frameId s.flow)
    (hcall : s.calls[s.calls.length - 1]? = some call) {m : Nat}
    (hid : 0 < m → (CanArbitrationId.decode frameId).isSome)
    (hm : m ≤ fragmentsOf kFragmentPayload call.payload.length) :
    FlowInv frameId { s with toServer := s.toServer ++ (List.range m).map fun k =>
      (some (s.calls.length - 1),
        messageFrame frameId (s.calls.length - 1) call.payload k) }.flow := by
  rcases Nat.eq_zero_or_pos m with rfl | hpos
  · simpa using h
  · have hemit := h.emitted (hid hpos) (p := call.payload) (by simp [flow, hcall]) (List.range m)
      fun k hk => Nat.lt_of_lt_of_le (mem_range.mp hk) hm
    have hdata : requestFrames (s.toServer ++ (List.range m).map fun k =>
        (some (s.calls.length - 1),
          messageFrame frameId (s.calls.length - 1) call.payload k)) =
        requestFrames s.toServer ++ (List.range m).map fun k => (s.calls.length - 1,
          messageFrame frameId (s.calls.length - 1) call.payload k) := by
      rw [requestFrames_append]
      simp [requestFrames, filterMap_map]
    rw [flow, hdata]
    simpa [flow] using hemit

theorem rpcInv_called (h : RpcInv config s) {c' : CanRpcClient service Nat} {m : Nat}
    (hc : Called config s call c' m) (hsize : call.request.length ≤ service.requestSize) :
    RpcInv config (s.called config call c' m) where
  clientRoute := hc.routeId.trans h.clientRoute
  clientPriority := hc.priority.trans h.clientPriority
  isSealed := hc.isSealed.trans h.isSealed
  serverRoute := h.serverRoute
  bound := h.bound
  sender := hc.sender
  responses := hc.responseReceiver ▸ h.responses
  nextSequence := by
    rw [called]
    simpa using hc.nextSequence
  carries hbusy := by
    simp only [called, length_append, length_singleton, Nat.add_sub_cancel,
      List.getElem?_concat_length, Option.some.injEq, exists_eq_left']
    exact hc.carries hbusy
  sizes call' hcall := by
    rcases mem_append.mp hcall with hcall | hcall
    · exact h.sizes call' hcall
    · rw [mem_singleton.mp hcall]
      exact hsize
  flow := by
    have hbegun : FlowInv config.requestArbitrationId
        { s with client := c', calls := s.calls ++ [call] }.flow := by
      simpa [RpcLink.flow] using h.flow.begun (sendable_payload hsize)
    have hlast : (s.calls ++ [call])[(s.calls ++ [call]).length - 1]? = some call := by simp
    have hemit := flow_emitted hbegun hlast hc.routed hc.le
    simpa [called] using hemit
  acks e he hnone := by
    rcases mem_append.mp he with he | he
    · exact h.acks e he hnone
    · obtain ⟨k, -, rfl⟩ := mem_map.mp he
      cases hnone

/-! ## Poll of the client -/

/-- `Poll` of the client writes the first fragments of the last call again, or nothing. -/
theorem pollClient_spec (h : RpcInv config s) (nowNs : UInt64) (writer : CanFrameWriter) :
    CanRpcClient.SameCall s.client (s.client.poll nowNs writer).client ∧
      (s.client.poll nowNs writer).client.requestSender.Inv ∧
      (senderBusy (s.client.poll nowNs writer).client.requestSender.state = true →
        senderBusy s.client.requestSender.state = true ∧
        s.client.requestSender.SameMessage (s.client.poll nowNs writer).client.requestSender) ∧
      ((s.client.poll nowNs writer).writer.accepted = writer.accepted ∨
        senderBusy s.client.requestSender.state = true ∧
        ∃ m call, s.calls[s.calls.length - 1]? = some call ∧
          Carries config s.client.requestSender (s.calls.length - 1) call ∧
          m ≤ fragmentsOf kFragmentPayload call.payload.length ∧
          (s.client.poll nowNs writer).writer.accepted = writer.accepted ++ (List.range m).map
            (messageFrame config.requestArbitrationId (s.calls.length - 1) call.payload)) := by
  cases CanRpcClient.poll_cases s.client nowNs writer with
  | quiet _ client hwriter _ =>
    rw [client, hwriter]
    exact ⟨⟨rfl, rfl, rfl, rfl, rfl, rfl, rfl⟩, h.sender, fun hb => ⟨hb, .refl _⟩, .inl rfl⟩
  | timedOut stats _ client hwriter _ =>
    rw [client, hwriter]
    refine ⟨⟨rfl, rfl, rfl, rfl, rfl, rfl, rfl⟩, inv_default, ?_, .inl rfl⟩
    exact fun hb => nomatch hb
  | resent stats _ state polled client hwriter _ =>
    rw [client, hwriter]
    have hbusy : senderBusy s.client.requestSender.state = true :=
      senderBusy_iff.mpr (.inr state)
    have hinv := inv_poll h.sender nowNs
    have hsame := same_poll s.client.requestSender nowNs
    obtain ⟨hsend, hzero⟩ : (s.client.requestSender.poll nowNs).2.state = .sending ∧
        (s.client.requestSender.poll nowNs).2.nextFragment = 0 := by
      rcases poll_cases s.client.requestSender nowNs with
        ⟨heq, -⟩ | ⟨-, hst, -⟩ | ⟨-, -, hst, hnext, -⟩
      · rw [heq] at polled; cases polled
      · rw [hst] at polled; cases polled
      · exact ⟨hst, hnext⟩
    obtain ⟨m, hm⟩ := pump_spec hinv hsend writer
    obtain ⟨call, hcall, hcarries⟩ := h.carries hbusy
    refine ⟨⟨rfl, rfl, rfl, rfl, rfl, rfl, rfl⟩, hm.inv, fun _ => ⟨hbusy, hsame.trans hm.same⟩,
      .inr ⟨hbusy, m, call, hcall, hcarries, ?_, ?_⟩⟩
    · have := hm.le_count
      rwa [hinv.count, hsame.payload, hcarries.payload] at this
    · rw [hm.accepted, hzero, Nat.sub_zero, ← range_eq_range']
      congr 1
      exact map_congr_left fun k _ => (hcarries.of_same hsame).fragmentFrame hinv k

theorem rpcInv_pollClient (h : RpcInv config s) (nowNs : UInt64) (outcome : Nat → Status) :
    RpcInv config (s.pollClient nowNs outcome) := by
  obtain ⟨hsame, hinv, hbusy, hframes⟩ := pollClient_spec h nowNs ⟨outcome, []⟩
  have hcarries : senderBusy (s.client.poll nowNs ⟨outcome, []⟩).client.requestSender.state = true →
      ∃ call, s.calls[s.calls.length - 1]? = some call ∧
        Carries config (s.client.poll nowNs ⟨outcome, []⟩).client.requestSender
          (s.calls.length - 1) call := by
    intro hb
    obtain ⟨hb, hm⟩ := hbusy hb
    obtain ⟨call, hcall, hc⟩ := h.carries hb
    exact ⟨call, hcall, hc.of_same hm⟩
  have hflow : FlowInv config.requestArbitrationId { s with toServer := s.toServer ++
      (s.client.poll nowNs ⟨outcome, []⟩).writer.accepted.map fun frame =>
        (some (s.calls.length - 1), frame) }.flow := by
    rcases hframes with hnone | ⟨_, m, call, hcall, hc, hm, hsome⟩
    · rw [hnone]
      simpa [CanFrameWriter.accepted] using h.flow
    · rw [hsome]
      simpa [CanFrameWriter.accepted, Function.comp_def] using
        flow_emitted h.flow hcall (fun _ => hc.decode_isSome) hm
  refine ⟨hsame.routeId.trans h.clientRoute, hsame.priority.trans h.clientPriority,
    hsame.isSealed.trans h.isSealed, h.serverRoute, h.bound, hinv, ?_,
    hsame.nextSequence.trans h.nextSequence, hcarries, h.sizes, hflow, fun e he hnone => ?_⟩
  · exact hsame.responseReceiver ▸ h.responses
  · rcases mem_append.mp he with he | he
    · exact h.acks e he hnone
    · obtain ⟨frame, -, rfl⟩ := mem_map.mp he
      cases hnone

/-! ## The server -/

/-- Steps of the server that leave its request side alone. -/
theorem RpcInv.with_server (h : RpcInv config s) {server : CanRpcServer service}
    (hs : CanRpcServer.SameRequests s.server server) (toClient : List CanFrame) :
    RpcInv config { s with server := server, toClient := toClient } := by
  obtain ⟨hroute, hbound, hreceiver, -⟩ := hs
  have hflow := h.flow
  rw [RpcLink.flow, ← hreceiver] at hflow
  exact { h with
    serverRoute := hroute.trans h.serverRoute, bound := hbound.trans h.bound, flow := hflow }

/-- The frames of a call are data frames for the server. -/
theorem RpcInv.isData (h : RpcInv config s) {frame : CanFrame} (hmem : (i, frame) ∈ s.flow.data) :
    s.server.IsData frame := by
  obtain ⟨-, p, k, -, hk, hframe⟩ := h.flow.frames _ hmem
  dsimp only at hframe
  have hid := h.flow.routed (ne_nil_of_mem hmem)
  subst hframe
  refine ⟨h.bound, ?_, ?_, messageFrame_kind _ i p k, messageFrame_subtype _ i p k⟩
  · exact Nat.succ_ne_zero _
  · rw [h.serverRoute]
    exact isForRoute_of_encode rfl hid

/-- The arrival of a request frame is one step of the request direction. -/
theorem deliverToServer_request (h : RpcInv config s) {frame : CanFrame}
    {rest : List (Option Nat × CanFrame)} (hd : s.toServer = (some i, frame) :: rest)
    (time : UInt64) (backend : BackendOutcome) (clock : ClockReading) (outcome : Nat → Status) :
    (s.deliverToServer time backend clock outcome).flow =
      s.flow.received i (requestFrames rest) (s.flow.receiver.receive frame none) := by
  have hmem : (i, frame) ∈ s.flow.data := by simp [RpcLink.flow, requestFrames, hd]
  obtain ⟨⟨-, -, hreceiver, -⟩, -⟩ := CanRpcServer.accept_of_data (h.isData hmem) time
    backend clock ⟨outcome, []⟩
  unfold deliverToServer
  rw [hd]
  rw [RpcLink.flow, ReliableFlow.received]
  dsimp only
  rw [hreceiver]
  rfl

private theorem rpcInv_deliverToServer (h : RpcInv config s) (time : UInt64)
    (backend : BackendOutcome) (clock : ClockReading) (outcome : Nat → Status) :
    RpcInv config (s.deliverToServer time backend clock outcome) := by
  cases hd : s.toServer with
  | nil => simpa only [deliverToServer, hd] using h
  | cons e rest =>
    obtain ⟨tag, frame⟩ := e
    have hacks : ∀ e ∈ rest, e.1 = none → getReliableSubtype e.2.header = .ack :=
      fun e he => h.acks e (by simp [hd, he])
    cases tag with
    | none =>
      have hack := h.acks (none, frame) (by simp [hd]) rfl
      obtain ⟨hsame, -⟩ := CanRpcServer.accept_of_ack s.server hack time backend clock
        ⟨outcome, []⟩
      have hs := h.with_server hsame (s.toClient ++
        (s.server.accept frame time backend clock ⟨outcome, []⟩).writer.accepted)
      have hflow := hs.flow
      rw [RpcLink.flow] at hflow
      unfold deliverToServer
      rw [hd] at hflow ⊢
      exact { hs with flow := hflow, acks := hacks }
    | some i =>
      have hdata : s.flow.data = (i, frame) :: requestFrames rest := by
        simp [RpcLink.flow, requestFrames, hd]
      have hflow := h.flow.received hdata none
      rw [← deliverToServer_request h hd time backend clock outcome] at hflow
      obtain ⟨⟨hroute, hbound, -⟩, -⟩ := CanRpcServer.accept_of_data
        (h.isData (hdata ▸ mem_cons_self)) time backend clock ⟨outcome, []⟩
      unfold deliverToServer at hflow ⊢
      rw [hd] at hflow ⊢
      exact { h with
        serverRoute := hroute.trans h.serverRoute, bound := hbound.trans h.bound
        flow := hflow, acks := hacks }

/-! ## The client -/

private theorem rpcInv_deliverToClient (h : RpcInv config s) (outcome : Nat → Status) :
    RpcInv config (s.deliverToClient outcome) := by
  cases hd : s.toClient with
  | nil => simpa only [deliverToClient, hd] using h
  | cons frame rest =>
    obtain ⟨hsame, hsender, hreceiver⟩ := s.client.accept_same frame ⟨outcome, []⟩
    have hacks := CanRpcClient.accepted_accept h.responses frame ⟨outcome, []⟩
    have hinv : (s.client.accept frame ⟨outcome, []⟩).client.requestSender.Inv := by
      rcases hsender with hs | hs <;> rw [hs]
      · exact h.sender
      · exact inv_handleAck h.sender frame
    have hresponses : (s.client.accept frame ⟨outcome, []⟩).client.responseReceiver.Inv := by
      rcases hreceiver with hr | hr <;> rw [hr]
      · exact h.responses
      · exact (ReliableReceiver.receive_spec h.responses frame none).2
    have hcarries : senderBusy (s.client.accept frame ⟨outcome, []⟩).client.requestSender.state =
        true → ∃ call, s.calls[s.calls.length - 1]? = some call ∧
          Carries config (s.client.accept frame ⟨outcome, []⟩).client.requestSender
            (s.calls.length - 1) call := by
      intro hbusy
      obtain ⟨hbusy, hm⟩ := CanRpcClient.busy_of_accept hbusy
      obtain ⟨call, hcall, hc⟩ := h.carries hbusy
      exact ⟨call, hcall, hc.of_same hm⟩
    unfold deliverToClient
    rw [hd]
    refine ⟨hsame.routeId.trans h.clientRoute, hsame.priority.trans h.clientPriority,
      hsame.isSealed.trans h.isSealed, h.serverRoute, h.bound, hinv, hresponses,
      hsame.nextSequence.trans h.nextSequence, hcarries, h.sizes, ?_, fun e he hnone => ?_⟩
    · rw [RpcLink.flow]
      dsimp only
      rw [requestFrames_append, requestFrames_none, append_nil]
      exact h.flow
    · rcases mem_append.mp he with he | he
      · exact h.acks e he hnone
      · obtain ⟨ack, hack, rfl⟩ := mem_map.mp he
        rcases hacks ack hack with hold | ⟨frameId, sequence, rfl⟩
        · cases hold
        · exact getReliableSubtype_reliableHeader .ack sequence

/-! ## All runs -/

theorem requestFrames_sublist {xs ys : List (Option Nat × CanFrame)} (h : xs.Sublist ys) :
    (requestFrames xs).Sublist (requestFrames ys) :=
  h.filterMap _

theorem rpcInv_step (h : RpcInv config s) (action : RpcLinkAction) :
    RpcInv config (s.step action) := by
  cases action with
  | callAsync descriptor request deadlineNs clock outcome =>
    rcases callAsync_spec h descriptor request deadlineNs clock outcome with
      ⟨stats, heq⟩ | ⟨-, -, hsize, c', m, hcalled, heq⟩
    · rw [step, heq]
      exact { h with }
    · rw [step, heq]
      exact rpcInv_called h hcalled hsize
  | pollClient nowNs outcome => exact rpcInv_pollClient h nowNs outcome
  | deliverToServer time backend clock outcome =>
    exact rpcInv_deliverToServer h time backend clock outcome
  | completeRequest completion clock outcome =>
    exact h.with_server (s.server.same_complete completion clock ⟨outcome, []⟩) _
  | pollServer nowNs outcome =>
    exact h.with_server (s.server.same_poll nowNs ⟨outcome, []⟩) _
  | deliverToClient outcome => exact rpcInv_deliverToClient h outcome
  | loseToServer position =>
    have hsub := s.toServer.eraseIdx_sublist position
    exact { h with
      flow := h.flow.lost (requestFrames_sublist hsub)
      acks := fun e he => h.acks e (hsub.subset he) }
  | loseToClient position => exact { h with }

theorem rpcInv_run (config : Config) (actions : List RpcLinkAction) :
    RpcInv config (Machine.run step (init config : RpcLink service) actions) :=
  Machine.run_invariant step (I := RpcInv config) (fun _ action h => rpcInv_step h action)
    (rpcInv_init config) actions

end RpcLink

end AsterCtrl.Can
