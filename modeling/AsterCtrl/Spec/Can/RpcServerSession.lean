import AsterCtrl.ForStd.List
import AsterCtrl.ForStd.Run
import AsterCtrl.Spec.Can.RpcServerSteps

/-!
# The server answers each request once and within its session

A bound `CanRpcServer` under any order of `Accept`, completions by the backend, `Poll` and
`ResetPeer`, with arbitrary frames.  The backend is trusted with one thing only, which its type
says: it completes a request it accepted at most once and never one it rejected.

A session is the time between two `ResetPeer`.  Requests are numbered in the order in which
they are passed to the backend, and a completion names the request it belongs to; the server
sees neither.

## Key results

- `answered_run`: at most one response per request, with its id and sequence, in its session
-/

namespace AsterCtrl.Can

/-- What `rpc_.CallAsync` does with a request: a rejected request is not completed. -/
structure BackendReply extends BackendOutcome where
  lawful : status ≠ .ok → completion = none

/-- A request passed to the backend, and the session in which it was. -/
structure ServedRequest where
  requestId : UInt32
  sequence : UInt8
  session : Nat
deriving DecidableEq, Repr

/-- A response that was begun: the request it answers, if that was passed to the backend, and
    the session in which it was begun. -/
structure ServedResponse where
  request : Option Nat
  session : Nat
  response : BegunResponse
deriving DecidableEq, Repr

structure RpcServerHistory (service : RpcService) where
  server : CanRpcServer service
  session : Nat := 0
  requests : List ServedRequest := []
  /-- The requests that the backend may still complete. -/
  outstanding : List Nat := []
  responses : List ServedResponse := []

inductive RpcServerAction where
  | accept (frame : CanFrame) (timeNs : UInt64) (backend : BackendReply)
      (clock : ClockReading) (outcome : Nat → Status)
  | complete (request : Nat) (completion : BackendCompletion) (clock : ClockReading)
      (outcome : Nat → Status)
  | poll (nowNs : UInt64) (outcome : Nat → Status)
  | resetPeer

namespace CanRpcServer

variable {service : RpcService}

/-! ## The active request -/

/-- The two servers work on the same request. -/
structure SameService (s s' : CanRpcServer service) : Prop where
  active : s'.active = s.active
  activeRequestId : s'.activeRequestId = s.activeRequestId
  activeSequence : s'.activeSequence = s.activeSequence
  dropActiveResponse : s'.dropActiveResponse = s.dropActiveResponse

/-- The response carries the id and the sequence of the active request. -/
def IsAnswer (s : CanRpcServer service) (response : BegunResponse) : Prop :=
  response.sequence = s.activeSequence ∧ readU32 (response.payload.drop 1) = s.activeRequestId

variable {s : CanRpcServer service} {writer : CanFrameWriter}

theorem Responded.isAnswer {status : Status} {response : List UInt8}
    {result : RpcServerResult service} (h : Responded s status response writer result)
    {begun : BegunResponse} (hb : result.begun = some begun) : s.IsAnswer begun := by
  cases h with
  | refused _ _ _ _ _ none => cases none.symm.trans hb
  | begun _ _ _ _ _ _ _ _ some =>
    rw [← Option.some.inj (some.symm.trans hb)]
    exact ⟨rfl, readU32_writeLE _ _⟩

theorem complete_isAnswer {completion : BackendCompletion} {clock : ClockReading}
    {begun : BegunResponse} (hb : (s.complete completion clock writer).begun = some begun) :
    s.IsAnswer begun ∧ s.dropActiveResponse = false := by
  cases (complete_cases s completion clock writer).1 with
  | malformed _ _ _ none => cases none.symm.trans hb
  | dropped _ _ _ _ _ _ none => cases none.symm.trans hb
  | answered _ _ _ drop responded => exact ⟨responded.isAnswer hb, drop⟩

/-- Passing the active request to the backend: what is begun is its answer, and a request that
    the backend keeps stays active. -/
theorem callBackend_cases (s : CanRpcServer service) (request : HandedRequest)
    (backend : BackendReply) (clock : ClockReading) (writer : CanFrameWriter) :
    (∀ begun, (s.callBackend request backend.toBackendOutcome clock writer).begun = some begun →
      s.IsAnswer begun) ∧
    (backend.status = .ok ∧ backend.completion = none →
      (s.callBackend request backend.toBackendOutcome clock writer).begun = none ∧
      SameService s (s.callBackend request backend.toBackendOutcome clock writer).server) := by
  unfold callBackend
  dsimp only
  by_cases hok : backend.status = .ok
  · rw [if_neg (not_not_intro hok)]
    cases hc : backend.completion with
    | none => exact ⟨fun _ hb => (nomatch hb), fun _ => ⟨rfl, ⟨rfl, rfl, rfl, rfl⟩⟩⟩
    | some completion =>
      exact ⟨fun begun hb => (complete_isAnswer hb).1, fun h => nomatch h.2⟩
  · rw [if_pos hok, backend.lawful hok]
    refine ⟨fun begun hb => ?_, fun h => absurd h.1 hok⟩
    have hsent := (sendResponse_cases { s with
      active := false, stats.rejected := s.stats.rejected + 1 } backend.status [] clock writer).1
    exact hsent.isAnswer hb

/-- While a request is active no other one is taken. -/
theorem accept_of_active (h : s.active = true) (frame : CanFrame) (timeNs : UInt64)
    (backend : BackendOutcome) (clock : ClockReading) (writer : CanFrameWriter) :
    (s.accept frame timeNs backend clock writer).handed = none ∧
      (s.accept frame timeNs backend clock writer).begun = none ∧
      SameService s (s.accept frame timeNs backend clock writer).server := by
  cases accept_cases s frame timeNs backend clock writer with
  | ignored _ server _ handed begun => rw [server]; exact ⟨handed, begun, ⟨rfl, rfl, rfl, rfl⟩⟩
  | ack _ server _ handed begun => rw [server]; exact ⟨handed, begun, ⟨rfl, rfl, rfl, rfl⟩⟩
  | unacknowledged _ _ _ _ server _ handed begun =>
    rw [server]
    exact ⟨handed, begun, ⟨rfl, rfl, rfl, rfl⟩⟩
  | taken _ _ taken =>
    cases taken with
    | ignored _ server _ handed begun => rw [server]; exact ⟨handed, begun, ⟨rfl, rfl, rfl, rfl⟩⟩
    | busy _ _ server _ handed begun => rw [server]; exact ⟨handed, begun, ⟨rfl, rfl, rfl, rfl⟩⟩
    | undecoded _ _ notActive => cases notActive.symm.trans h
    | expired _ notActive => cases notActive.symm.trans h
    | passed _ notActive => cases notActive.symm.trans h

/-- A request that is passed on becomes the active one. -/
theorem accept_handed {frame : CanFrame} {timeNs : UInt64} {backend : BackendOutcome}
    {clock : ClockReading} {request : HandedRequest}
    (h : (s.accept frame timeNs backend clock writer).handed = some request) :
    ∃ (s₁ : CanRpcServer service) (writer' : CanFrameWriter), s₁.active = true ∧ s₁.activeRequestId = request.requestId ∧
      s₁.activeSequence = (s.requestReceiver.accept frame).1.message.sequence ∧
      s.accept frame timeNs backend clock writer =
        s₁.callBackend request backend clock writer' := by
  cases accept_cases s frame timeNs backend clock writer with
  | ignored _ _ _ handed => cases handed.symm.trans h
  | ack _ _ _ handed => cases handed.symm.trans h
  | unacknowledged _ _ _ _ _ _ handed => cases handed.symm.trans h
  | taken _ _ taken =>
    cases taken with
    | ignored _ _ _ handed => cases handed.symm.trans h
    | busy _ _ _ _ handed => cases handed.symm.trans h
    | undecoded _ _ _ _ _ handed => cases handed.symm.trans h
    | expired _ _ _ _ _ handed => cases handed.symm.trans h
    | passed _ _ _ _ _ handed called =>
      obtain rfl := Option.some.inj (handed.symm.trans h)
      exact ⟨_, _, rfl, rfl, rfl, called⟩

end CanRpcServer

namespace RpcServerHistory

variable {service : RpcService} (s : RpcServerHistory service)

/-- The responses after an operation that may have begun one. -/
def begin (request : Option Nat) (begun : Option BegunResponse) : List ServedResponse :=
  s.responses ++ begun.toList.map fun response => ⟨request, s.session, response⟩

def accept (frame : CanFrame) (timeNs : UInt64) (backend : BackendReply) (clock : ClockReading)
    (outcome : Nat → Status) : RpcServerHistory service :=
  let accepted := s.server.accept frame timeNs backend.toBackendOutcome clock ⟨outcome, []⟩
  match accepted.handed with
  | none => { s with server := accepted.server, responses := s.begin none accepted.begun }
  | some request =>
    { s with
      server := accepted.server
      requests := s.requests ++ [⟨request.requestId,
        (s.server.requestReceiver.accept frame).1.message.sequence, s.session⟩]
      outstanding := if backend.status = .ok ∧ backend.completion = none then
        s.outstanding ++ [s.requests.length] else s.outstanding
      responses := s.begin (some s.requests.length) accepted.begun }

/-- The backend completes a request after `rpc_.CallAsync` returned. -/
def complete (request : Nat) (completion : BackendCompletion) (clock : ClockReading)
    (outcome : Nat → Status) : RpcServerHistory service :=
  if request ∈ s.outstanding then
    let completed := s.server.complete completion clock ⟨outcome, []⟩
    { s with
      server := completed.server
      outstanding := s.outstanding.erase request
      responses := s.begin (some request) completed.begun }
  else s

def step : RpcServerAction → RpcServerHistory service
  | .accept frame timeNs backend clock outcome =>
    s.accept frame timeNs backend clock outcome
  | .complete request completion clock outcome => s.complete request completion clock outcome
  | .poll nowNs outcome => { s with server := (s.server.poll nowNs ⟨outcome, []⟩).server }
  | .resetPeer => { s with server := s.server.resetPeer, session := s.session + 1 }

/-- A bound server that has not been used yet. -/
def init (routeId : UInt16) (priority : CanPriority) (retryTimeoutNs : UInt64)
    (maximumRetries : UInt8) : RpcServerHistory service where
  server := { routeId, priority, retryTimeoutNs, maximumRetries, bound := true }

/-- The response answers the request: it has its sequence and its id, and it was begun in its
    session. -/
structure Answers (request : ServedRequest) (response : ServedResponse) : Prop where
  sequence : response.response.sequence = request.sequence
  requestId : readU32 (response.response.payload.drop 1) = request.requestId
  session : response.session = request.session

/-- Each request has at most one response, and each response answers its request. -/
structure Answered (requests : List ServedRequest) (responses : List ServedResponse) : Prop where
  once : ∀ i, responses.countP (fun r => r.request = some i) ≤ 1
  answers : ∀ r ∈ responses, ∀ i, r.request = some i →
    ∃ request, requests[i]? = some request ∧ Answers request r

/-! ## Requests and responses -/

namespace Answered

variable {requests : List ServedRequest} {responses : List ServedResponse}

theorem unanswered (h : Answered requests responses) {i : Nat} (hi : requests.length ≤ i) :
    responses.countP (fun r => r.request = some i) = 0 := by
  refine List.countP_eq_zero.mpr fun r hr hnum => ?_
  obtain ⟨request, hrequest, -⟩ := h.answers r hr i (of_decide_eq_true hnum)
  rw [List.getElem?_eq_none hi] at hrequest
  cases hrequest

theorem request (h : Answered requests responses) (request : ServedRequest) :
    Answered (requests ++ [request]) responses where
  once := h.once
  answers r hr i hi := by
    obtain ⟨request, hrequest, hanswers⟩ := h.answers r hr i hi
    exact ⟨request, List.getElem?_append_left (List.getElem?_eq_some_iff.mp hrequest).1 ▸ hrequest,
      hanswers⟩

/-- A response to a request that was not passed to the backend. -/
theorem unnumbered (h : Answered requests responses) (session : Nat)
    (begun : Option BegunResponse) :
    Answered requests (responses ++
      begun.toList.map fun response => ⟨none, session, response⟩) where
  once i := by
    have hnone : (begun.toList.map fun response : BegunResponse =>
        (⟨none, session, response⟩ : ServedResponse)).countP (fun r => r.request = some i) = 0 := by
      cases begun <;> rfl
    rw [List.countP_append, hnone]
    exact h.once i
  answers r hr i hi := by
    rcases List.mem_append.mp hr with hr | hr
    · exact h.answers r hr i hi
    · obtain ⟨response, -, rfl⟩ := List.mem_map.mp hr
      cases hi

/-- The first response to request `i`. -/
theorem respond (h : Answered requests responses) {i : Nat} {request : ServedRequest}
    (hrequest : requests[i]? = some request)
    (hzero : responses.countP (fun r => r.request = some i) = 0) {session : Nat}
    {begun : Option BegunResponse}
    (hbegun : ∀ response, begun = some response → Answers request ⟨some i, session, response⟩) :
    Answered requests (responses ++
      begun.toList.map fun response => ⟨some i, session, response⟩) where
  once j := by
    cases begun with
    | none => simpa using h.once j
    | some response =>
      rw [List.countP_append, Option.toList_some, List.map_singleton, List.countP_singleton]
      by_cases hij : i = j
      · subst hij
        rw [hzero]
        split <;> omega
      · rw [if_neg fun heq => hij (Option.some.inj (of_decide_eq_true heq))]
        exact h.once j
  answers r hr j hj := by
    rcases List.mem_append.mp hr with hr | hr
    · exact h.answers r hr j hj
    · obtain ⟨response, hresponse, rfl⟩ := List.mem_map.mp hr
      obtain rfl := Option.some.inj hj
      exact ⟨request, hrequest, hbegun response (Option.mem_toList.mp hresponse)⟩

end Answered

/-! ## The invariant -/

/-- Request `i` is the active one, and its response is dropped if its session is over. -/
structure Serving (s : RpcServerHistory service) (i : Nat) (request : ServedRequest) : Prop where
  passed : s.requests[i]? = some request
  unanswered : s.responses.countP (fun r => r.request = some i) = 0
  active : s.server.active = true
  requestId : s.server.activeRequestId = request.requestId
  sequence : s.server.activeSequence = request.sequence
  session : s.server.dropActiveResponse = false → request.session = s.session

structure ServerInv (s : RpcServerHistory service) : Prop where
  answered : Answered s.requests s.responses
  serving : s.outstanding = [] ∨ ∃ i request, s.outstanding = [i] ∧ Serving s i request

theorem serverInv_init (routeId : UInt16) (priority : CanPriority) (retryTimeoutNs : UInt64)
    (maximumRetries : UInt8) :
    ServerInv (init routeId priority retryTimeoutNs maximumRetries : RpcServerHistory service) where
  answered := ⟨fun _ => Nat.zero_le _, fun _ hr => nomatch hr⟩
  serving := .inl rfl

variable {s : RpcServerHistory service}

theorem Serving.of_same {i : Nat} {request : ServedRequest} (h : Serving s i request)
    {server : CanRpcServer service} (hs : CanRpcServer.SameService s.server server) :
    Serving { s with server := server } i request :=
  ⟨h.passed, h.unanswered, hs.active.trans h.active, hs.activeRequestId.trans h.requestId,
    hs.activeSequence.trans h.sequence, fun hd => h.session (hs.dropActiveResponse.symm.trans hd)⟩

/-- What the server begins while it serves the request answers it. -/
theorem Serving.answers {i : Nat} {request : ServedRequest} (h : Serving s i request)
    {begun : BegunResponse} (hb : s.server.IsAnswer begun)
    (hdrop : s.server.dropActiveResponse = false) :
    Answers request ⟨some i, s.session, begun⟩ :=
  ⟨hb.1.trans h.sequence, hb.2.trans h.requestId, (h.session hdrop).symm⟩

private theorem serverInv_accept (h : ServerInv s) (frame : CanFrame) (timeNs : UInt64)
    (backend : BackendReply) (clock : ClockReading) (outcome : Nat → Status) :
    ServerInv (s.accept frame timeNs backend clock outcome) := by
  unfold accept
  dsimp only
  cases hhanded : (s.server.accept frame timeNs backend.toBackendOutcome clock
      ⟨outcome, []⟩).handed with
  | none =>
    refine ⟨h.answered.unnumbered _ _, ?_⟩
    rcases h.serving with hnone | ⟨i, request, hi, hserving⟩
    · exact .inl hnone
    · obtain ⟨-, hbegun, hsame⟩ := CanRpcServer.accept_of_active hserving.active frame
        timeNs backend.toBackendOutcome clock ⟨outcome, []⟩
      refine .inr ⟨i, request, hi, ?_⟩
      have := hserving.of_same hsame
      exact ⟨this.passed, by simpa [begin, hbegun] using this.unanswered, this.active,
        this.requestId, this.sequence, this.session⟩
  | some handed =>
    obtain ⟨s₁, writer, hactive, hid, hseq, heq⟩ := CanRpcServer.accept_handed hhanded
    -- the server is free for it, since an outstanding request would be active
    have hnone : s.outstanding = [] := by
      rcases h.serving with hnone | ⟨i, request, -, hserving⟩
      · exact hnone
      · have := (CanRpcServer.accept_of_active hserving.active frame timeNs
          backend.toBackendOutcome clock ⟨outcome, []⟩).1
        cases this.symm.trans hhanded
    obtain ⟨hanswer, hkept⟩ := s₁.callBackend_cases handed backend clock writer
    rw [heq, hnone]
    refine ⟨(h.answered.request _).respond List.getElem?_concat_length
      (h.answered.unanswered (Nat.le_refl _)) fun begun hb => ?_, ?_⟩
    · obtain ⟨h1, h2⟩ := hanswer begun hb
      exact ⟨h1.trans hseq, h2.trans hid, rfl⟩
    · dsimp only
      split
      · rename_i hkeep
        obtain ⟨hbegun, hsame⟩ := hkept hkeep
        refine .inr ⟨_, _, rfl, ⟨List.getElem?_concat_length, ?_, hsame.active.trans hactive,
          hsame.activeRequestId.trans hid, hsame.activeSequence.trans hseq, fun _ => rfl⟩⟩
        simpa [begin, hbegun] using h.answered.unanswered (Nat.le_refl _)
      · exact .inl rfl

private theorem serverInv_complete (h : ServerInv s) (i : Nat) (completion : BackendCompletion)
    (clock : ClockReading) (outcome : Nat → Status) :
    ServerInv (s.complete i completion clock outcome) := by
  unfold complete
  split
  · rename_i hmem
    rcases h.serving with hnone | ⟨j, request, hj, hserving⟩
    · rw [hnone] at hmem
      cases hmem
    · obtain rfl : i = j := List.mem_singleton.mp (hj ▸ hmem)
      refine ⟨h.answered.respond hserving.passed hserving.unanswered fun begun hb => ?_, .inl ?_⟩
      · obtain ⟨hanswer, hdrop⟩ := CanRpcServer.complete_isAnswer hb
        exact hserving.answers hanswer hdrop
      · dsimp only
        rw [hj]
        simp
  · exact h

/-- Any order of `Accept`, completions, `Poll` and `ResetPeer`: at most one response is begun
    for each request passed to the backend, it carries the id and the sequence of the request,
    and it is begun in the session in which the request was passed on. -/
theorem answered_run (routeId : UInt16) (priority : CanPriority) (retryTimeoutNs : UInt64)
    (maximumRetries : UInt8) (actions : List RpcServerAction) :
    Answered
      (Machine.run step (init routeId priority retryTimeoutNs maximumRetries :
        RpcServerHistory service) actions).requests
      (Machine.run step (init routeId priority retryTimeoutNs maximumRetries :
        RpcServerHistory service) actions).responses := by
  refine (Machine.run_invariant step (I := ServerInv) (fun s action h => ?_)
    (serverInv_init routeId priority retryTimeoutNs maximumRetries) actions).answered
  cases action with
  | accept frame timeNs backend clock outcome =>
    exact serverInv_accept h frame timeNs backend clock outcome
  | complete i completion clock outcome => exact serverInv_complete h i completion clock outcome
  | poll nowNs outcome =>
    refine ⟨h.answered, h.serving.imp_right fun ⟨i, request, hi, hserving⟩ =>
      ⟨i, request, hi, hserving.of_same ?_⟩⟩
    rcases CanRpcServer.poll_cases s.server nowNs ⟨outcome, []⟩ with
      ⟨-, server, -⟩ | ⟨-, stats, server, -⟩ <;> rw [server] <;> exact ⟨rfl, rfl, rfl, rfl⟩
  | resetPeer =>
    -- the active request is now one of an old session, and its response will be dropped
    refine ⟨h.answered, h.serving.imp_right fun ⟨i, request, hi, hserving⟩ => ⟨i, request, hi,
      { hserving with session := fun hdrop => ?_ }⟩⟩
    cases hserving.active.symm.trans hdrop

end RpcServerHistory

end AsterCtrl.Can
