import AsterCtrl.ForStd.List
import AsterCtrl.Spec.Can.RpcLinkInvariant
import Mathlib.Data.List.Perm.Subperm

/-!
# Integrity of RPC requests

Every request that the server passes to its backend should be one client call, and no call
should be passed on twice.  That no call is passed on twice holds in every run.  That a request
is a single call does not: a call of which some fragments arrived and which was then abandoned
stays in the server's receiver, since the server never lets it time out, and sixteen calls
later a call with the same sequence is filled into it.

The requests are intact in every run in which each new call finds its sequence unused: no frame
of an earlier call with that sequence is in flight, and the server is not reassembling one.

## Key results

- `handed_increasing_run`: no call is passed on twice, and the order is kept
- `intact_of_freshSequence`: the requests are intact if every call has a fresh sequence
- `not_intact_of_reused_sequence`: otherwise the server can pass on a request nobody made
-/

namespace AsterCtrl.Can

open List

/-- The call as the backend should see it. -/
def RpcCall.handed (call : RpcCall) : HandedRequest :=
  ⟨call.requestId, call.deadlineNs, call.request⟩

theorem readRequest_payload (call : RpcCall) :
    CanRpcServer.readRequest call.payload = call.handed := by
  have hdrop : (requestPayload call.requestId call.deadlineNs call.request).drop 4 =
      writeLE 8 call.deadlineNs.toNat ++ call.request :=
    drop_left' (length_writeLE 4 _)
  have hrest : (requestPayload call.requestId call.deadlineNs call.request).drop
      kRequestHeaderSize = call.request := by
    rw [show kRequestHeaderSize = 4 + 8 from rfl, ← drop_drop, hdrop]
    exact drop_left' (length_writeLE 8 _)
  rw [CanRpcServer.readRequest, RpcCall.handed, RpcCall.payload, hdrop, hrest, requestPayload,
    readU32_writeLE, readU64_writeLE]

namespace RpcLink

variable {service : RpcService}

/-- The requests passed to the backend are calls of the client, none of them twice. -/
def Intact (s : RpcLink service) : Prop :=
  (s.handed.map Prod.snd).Subperm (s.calls.map RpcCall.handed)

/-- A call that passes the checks has a sequence that no request frame in flight has and that
    the server is not reassembling a message with. -/
def FreshSequence (config : Config) (s : RpcLink service) : RpcLinkAction → Prop
  | .callAsync descriptor request deadlineNs clock _ =>
    (s.client.checkCall descriptor request deadlineNs (some s.calls.length) clock).isNone = true →
      (∀ e ∈ s.flow.data, e.1 % 16 ≠ s.calls.length % 16) ∧
      ¬ s.server.requestReceiver.Continues config.requestArbitrationId s.client.nextSequence
  | _ => True

instance (config : Config) (s : RpcLink service) (action : RpcLinkAction) :
    Decidable (FreshSequence config s action) :=
  match action with
  | .callAsync .. => inferInstanceAs (Decidable (_ → _ ∧ ¬ _))
  | .pollClient .. | .deliverToServer .. | .completeRequest .. | .pollServer ..
  | .deliverToClient .. | .loseToServer .. | .loseToClient .. => isTrue trivial

/-! ## What is handed on was delivered -/

/-- The requests passed on are some of the messages that the receiver completed. -/
def HandedInv (s : RpcLink service) : Prop :=
  s.handed.Sublist (s.delivered.map fun e => (e.1, CanRpcServer.readRequest e.2))

variable {s : RpcLink service} {config : Config}

private theorem handedInv_deliverToServer (h : RpcInv config s) (hs : HandedInv s) (timeNs : UInt64)
    (backend : BackendOutcome) (clock : ClockReading) (outcome : Nat → Status) :
    HandedInv (s.deliverToServer timeNs backend clock outcome) := by
  unfold deliverToServer
  split
  · exact hs
  · rename_i tag frame rest hd
    cases tag with
    | none => exact hs
    | some i =>
      have hmem : (i, frame) ∈ s.flow.data := by simp [flow, requestFrames, hd]
      obtain ⟨-, hhanded⟩ := CanRpcServer.accept_of_data (h.isData hmem) timeNs backend
        clock ⟨outcome, []⟩
      dsimp only [HandedInv]
      cases hr : (s.server.accept frame timeNs backend clock ⟨outcome, []⟩).handed with
      | none =>
        simp only [Option.toList_none, map_nil, append_nil]
        split
        · rw [map_append]
          exact hs.trans (sublist_append_left _ _)
        · exact hs
      | some request =>
        obtain ⟨hok, rfl⟩ := hhanded request hr
        rw [if_pos hok, map_append]
        exact hs.append (List.Sublist.refl _)

theorem handedInv_step (h : RpcInv config s) (hs : HandedInv s) (action : RpcLinkAction) :
    HandedInv (s.step action) := by
  cases action with
  | callAsync descriptor request deadlineNs clock outcome =>
    rcases callAsync_spec h descriptor request deadlineNs clock outcome with
      ⟨stats, heq⟩ | ⟨-, -, -, c', m, -, heq⟩ <;> rw [step, heq] <;> exact hs
  | deliverToServer timeNs backend clock outcome =>
    exact handedInv_deliverToServer h hs timeNs backend clock outcome
  | deliverToClient outcome =>
    dsimp only [step]
    unfold deliverToClient
    split <;> exact hs
  | pollClient | completeRequest | pollServer | loseToServer | loseToClient => exact hs

/-! ## The calls that may still have frames to come -/

/-- The calls with a frame in flight, and the one that the client may send again. -/
def live (s : RpcLink service) : List Nat :=
  s.flow.data.map Prod.fst ++
    if senderBusy s.client.requestSender.state then [s.calls.length - 1] else []

private theorem mem_live_of_sublist {s' : RpcLink service}
    (hdata : s'.flow.data.Sublist s.flow.data) (hcalls : s'.calls = s.calls)
    (hbusy : senderBusy s'.client.requestSender.state = true → senderBusy
      s.client.requestSender.state = true) : ∀ i ∈ s'.live, i ∈ s.live := by
  intro i hi
  rcases mem_append.mp hi with hi | hi
  · exact mem_append_left _ ((hdata.map _).subset hi)
  · split at hi
    · rename_i hb
      refine mem_append_right _ ?_
      rwa [if_pos (hbusy hb), ← hcalls]
    · cases hi

private theorem mem_live_pollClient (h : RpcInv config s) (nowNs : UInt64) (outcome : Nat → Status) :
    ∀ i ∈ (s.pollClient nowNs outcome).live, i ∈ s.live := by
  obtain ⟨-, -, hbusy, hframes⟩ := pollClient_spec h nowNs ⟨outcome, []⟩
  have hlast : senderBusy s.client.requestSender.state = true → s.calls.length - 1 ∈ s.live :=
    fun hb => mem_append_right _ (by rw [if_pos hb]; exact mem_singleton.mpr rfl)
  intro i hi
  rcases mem_append.mp hi with hi | hi
  · rw [pollClient, flow] at hi
    dsimp only at hi
    rw [requestFrames_append, requestFrames_some, map_append] at hi
    rcases mem_append.mp hi with hi | hi
    · exact mem_append_left _ hi
    · obtain ⟨e, he, rfl⟩ := mem_map.mp hi
      obtain ⟨frame, hframe, rfl⟩ := mem_map.mp he
      rcases hframes with hnone | ⟨hb, -⟩
      · rw [hnone] at hframe
        cases hframe
      · exact hlast hb
  · split at hi
    · rename_i hb
      rw [mem_singleton.mp hi]
      exact hlast (hbusy hb).1
    · cases hi

private theorem mem_live_called {call : RpcCall} {c' : CanRpcClient service Nat} {m : Nat} :
    ∀ i ∈ (s.called config call c' m).live,
      i ∈ s.flow.data.map Prod.fst ++ [s.calls.length] := by
  intro i hi
  rcases mem_append.mp hi with hi | hi
  · obtain ⟨e, he, rfl⟩ := mem_map.mp hi
    rw [called, flow] at he
    dsimp only at he
    rw [requestFrames_append] at he
    rcases mem_append.mp he with he | he
    · exact mem_append_left _ (mem_map_of_mem he)
    · simp only [requestFrames, filterMap_map, mem_filterMap, mem_range,
        Function.comp_apply, Option.map_some, Option.some.injEq] at he
      obtain ⟨k, -, rfl⟩ := he
      simp
  · split at hi
    · rw [mem_singleton.mp hi]
      simp [called]
    · cases hi

/-! ## All runs -/

private theorem unmixed_init (config : Config) :
    Unmixed config.requestArbitrationId (init config : RpcLink service).flow
      (init config : RpcLink service).live where
  distinct _ hi := nomatch hi
  active hact := nomatch hact
  delivered _ he := nomatch he

private theorem unmixed_callAsync (h : RpcInv config s)
    (hu : Unmixed config.requestArbitrationId s.flow s.live) (descriptor : ServiceDescriptor)
    (request : List UInt8) (deadlineNs : UInt64) (clock : ClockReading) (outcome : Nat → Status)
    (hfresh : FreshSequence config s (.callAsync descriptor request deadlineNs clock outcome)) :
    Unmixed config.requestArbitrationId
      (s.callAsync descriptor request deadlineNs clock outcome).flow
      (s.callAsync descriptor request deadlineNs clock outcome).live := by
  rcases callAsync_spec h descriptor request deadlineNs clock outcome with
    ⟨stats, heq⟩ | ⟨hcheck, hbusy, -, c', m, -, heq⟩
  · rw [heq]
    exact hu
  · rw [heq]
    obtain ⟨hdata, hcont⟩ := hfresh hcheck
    rw [h.nextSequence] at hcont
    have hlive : s.live = s.flow.data.map Prod.fst := by
      rw [live, hbusy]
      exact append_nil _
    have hlen : s.flow.sent.length = s.calls.length := length_map _
    have hbegun := hu.begun (s.newCall request deadlineNs).payload (fun i hi => by
      rw [hlive] at hi
      obtain ⟨e, he, rfl⟩ := mem_map.mp hi
      rw [hlen]
      exact hdata e he) (by rw [hlen]; exact hcont)
    rw [hlive, hlen] at hbegun
    exact hbegun.of_subset mem_live_called (by simp [called, flow]) rfl rfl

private theorem unmixed_deliverToServer (h : RpcInv config s)
    (hu : Unmixed config.requestArbitrationId s.flow s.live) (timeNs : UInt64)
    (backend : BackendOutcome) (clock : ClockReading) (outcome : Nat → Status) :
    Unmixed config.requestArbitrationId
      (s.deliverToServer timeNs backend clock outcome).flow
      (s.deliverToServer timeNs backend clock outcome).live := by
  cases hd : s.toServer with
  | nil =>
    rw [show s.deliverToServer timeNs backend clock outcome = s by rw [deliverToServer, hd]]
    exact hu
  | cons e rest =>
    obtain ⟨tag, frame⟩ := e
    cases tag with
    | none =>
      have hack := h.acks (none, frame) (by simp [hd]) rfl
      have hreceiver := (CanRpcServer.accept_of_ack s.server hack timeNs backend clock
        ⟨outcome, []⟩).1.requestReceiver
      unfold deliverToServer
      rw [hd]
      refine hu.of_subset (mem_live_of_sublist ?_ rfl id) rfl hreceiver rfl
      simp [flow, requestFrames, hd]
    | some i =>
      have hdata : s.flow.data = (i, frame) :: requestFrames rest := by
        simp [flow, requestFrames, hd]
      have hi : i ∈ s.live := mem_append_left _ (by rw [hdata]; simp)
      rw [deliverToServer_request h hd timeNs backend clock outcome]
      refine (hu.received h.flow hdata hi none).of_subset (mem_live_of_sublist ?_ ?_ ?_) rfl rfl rfl
      · rw [deliverToServer_request h hd timeNs backend clock outcome, hdata]
        exact sublist_cons_self _ _
      · rw [deliverToServer, hd]
      · rw [deliverToServer, hd]
        exact id

private theorem unmixed_step (h : RpcInv config s)
    (hu : Unmixed config.requestArbitrationId s.flow s.live) (action : RpcLinkAction)
    (hfresh : FreshSequence config s action) :
    Unmixed config.requestArbitrationId (s.step action).flow (s.step action).live := by
  cases action with
  | callAsync descriptor request deadlineNs clock outcome =>
    exact unmixed_callAsync h hu descriptor request deadlineNs clock outcome hfresh
  | pollClient nowNs outcome =>
    exact hu.of_subset (mem_live_pollClient h nowNs outcome) rfl rfl rfl
  | deliverToServer timeNs backend clock outcome =>
    exact unmixed_deliverToServer h hu timeNs backend clock outcome
  | completeRequest completion clock outcome =>
    exact hu.of_subset (fun _ hi => hi) rfl
      (s.server.same_complete completion clock ⟨outcome, []⟩).requestReceiver rfl
  | pollServer nowNs outcome =>
    exact hu.of_subset (fun _ hi => hi) rfl
      (s.server.same_poll nowNs ⟨outcome, []⟩).requestReceiver rfl
  | deliverToClient outcome =>
    dsimp only [step]
    unfold deliverToClient
    split
    · exact hu
    · refine hu.of_subset (mem_live_of_sublist ?_ rfl fun hb =>
        (CanRpcClient.busy_of_accept hb).1) rfl rfl rfl
      simp only [flow, requestFrames_append, requestFrames_none, append_nil]
      exact List.Sublist.refl _
  | loseToServer position =>
    exact hu.of_subset (mem_live_of_sublist
      (requestFrames_sublist (s.toServer.eraseIdx_sublist position)) rfl id) rfl rfl rfl
  | loseToClient position => exact hu

theorem handed_lt (h : RpcInv config s) (hs : HandedInv s) :
    (s.handed.map Prod.fst).Pairwise (· < ·) := by
  refine h.flow.delivered_lt.sublist ?_
  have := hs.map Prod.fst
  rwa [map_map] at this

/-- In every run, whatever frames are lost or sent again, the requests are passed to the backend in
    the order of the calls, and the frames of a call never complete two of them. -/
theorem handed_increasing_run (config : Config) (actions : List RpcLinkAction) :
    ((Machine.run step (init config : RpcLink service) actions).handed.map Prod.fst).Pairwise
      (· < ·) := by
  obtain ⟨h, hs⟩ := Machine.run_invariant step
    (I := fun s : RpcLink service => RpcInv config s ∧ HandedInv s)
    (fun _ action h => ⟨rpcInv_step h.1 action, handedInv_step h.1 h.2 action⟩)
    ⟨rpcInv_init config, List.Sublist.refl _⟩ actions
  exact handed_lt h hs

/-- Requests that came out of the receiver intact are intact. -/
theorem intact_of_unmixed (h : RpcInv config s) (hs : HandedInv s)
    (hu : Unmixed config.requestArbitrationId s.flow s.live) : Intact s := by
  refine (map_snd_sublist (handed_lt h hs) fun e he => ?_).subperm
  obtain ⟨d, hd, rfl⟩ := mem_map.mp (hs.subset he)
  have hsent : (s.calls.map RpcCall.payload)[d.1]? = some d.2 := hu.delivered d hd
  rw [List.getElem?_map] at hsent
  obtain ⟨call, hcall, hpayload⟩ := Option.map_eq_some_iff.mp hsent
  rw [List.getElem?_map, hcall, ← hpayload, readRequest_payload]
  rfl

/-- Integrity: in every run in which each call finds its sequence fresh, every request passed
    to the backend is a call of the client, and no call is passed on twice. -/
theorem intact_of_freshSequence (config : Config) (actions : List RpcLinkAction)
    (hfresh : Machine.Along step (FreshSequence config) (init config : RpcLink service) actions) :
    Intact (Machine.run step (init config : RpcLink service) actions) := by
  have hrun := Machine.run_invariant_along step (P := FreshSequence config)
    (I := fun s : RpcLink service => RpcInv config s ∧ HandedInv s ∧
      Unmixed config.requestArbitrationId s.flow s.live)
    (fun s action ⟨h, hs, hu⟩ hf =>
      ⟨rpcInv_step h action, handedInv_step h hs action, unmixed_step h hu action hf⟩)
    ⟨rpcInv_init config, List.Sublist.refl _, unmixed_init config⟩ hfresh
  exact intact_of_unmixed hrun.1 hrun.2.1 hrun.2.2

private def mixedService : RpcService where
  descriptor := ⟨"s", Vector.replicate 16 0, ⟨"q", Vector.replicate 16 0, 6⟩,
    ⟨"r", Vector.replicate 16 0, 0⟩, ""⟩
  requestSize := 6
  responseSize := 0
  request_fits := by decide
  response_fits := emptyResponse_fits

/-- A call with six equal bytes of which the first `written` frames are accepted. -/
private def cutCall (byte : UInt8) (written : Nat) : RpcLinkAction :=
  .callAsync mixedService.descriptor (List.replicate 6 byte) 0 ⟨.ok, 0⟩ fun k =>
    if k < written then .ok else .unavailable

/-- The next frame reaches the server, whose backend takes every request. -/
private def arrive : RpcLinkAction := .deliverToServer 0 {} ⟨.ok, 0⟩ fun _ => .ok

/-- A call is cut after its first fragment, which arrives; `failures` calls are rejected by
    the writer; the call after them is sent and arrives. -/
private def mixedRun (failures : Nat) : List RpcLinkAction :=
  [cutCall 1 1, arrive] ++ List.replicate failures (cutCall 2 0) ++
    [cutCall 3 3, arrive, arrive, arrive]

/-- The last call of the run has a fresh sequence, and its request is passed on. -/
theorem intact_of_freshSequence_short :
    (Machine.run step (init controlConfig : RpcLink mixedService) (mixedRun 3)).handed ≠ [] ∧
      Intact (Machine.run step (init controlConfig : RpcLink mixedService) (mixedRun 3)) :=
  ⟨by decide +kernel, intact_of_freshSequence controlConfig (mixedRun 3) (by decide +kernel)⟩

/-- The server passes on a request with the id of the first call and the bytes of the last. -/
theorem not_intact_of_reused_sequence :
    (Machine.run step (init controlConfig : RpcLink mixedService) (mixedRun 15)).handed.map Prod.snd =
        [⟨1, 0, List.replicate 6 3⟩] ∧
      ¬ Intact (Machine.run step (init controlConfig : RpcLink mixedService) (mixedRun 15)) := by
  have hhanded : (Machine.run step (init controlConfig : RpcLink mixedService)
      (mixedRun 15)).handed.map Prod.snd = [⟨1, 0, List.replicate 6 3⟩] := by decide +kernel
  refine ⟨hhanded, fun h => ?_⟩
  have hmem := h.subset (hhanded ▸ List.mem_singleton.mpr rfl)
  revert hmem
  decide +kernel

end RpcLink

end AsterCtrl.Can
