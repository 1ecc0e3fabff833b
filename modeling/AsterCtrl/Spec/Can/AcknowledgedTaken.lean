import AsterCtrl.Spec.Can.LinkGate
import AsterCtrl.Spec.Can.RpcServerSteps

/-!
# What an accepted acknowledgement stands for

Three endpoints answer a reassembled message with an acknowledgement before they look at it:
the RPC server, the RPC client and the handshake of the link control plane.  When the writer
rejects that acknowledgement they return, but the receiver has already recorded the message as
completed.  The retransmission is then a duplicate: it is acknowledged and dropped.

An `AckingEndpoint` is what the three have in common.  Its report of a call says which message
the call reassembled, whether the receiver took it for a new one, whether the writer accepted
an acknowledgement, and whether the endpoint did with the message what it is for.

## Key results

- `AckingEndpoint.ackTaken_of_ackKept`: if no acknowledgement of a new message is rejected and
  duplicates are retransmissions, an accepted acknowledgement means that the message was taken
- `ackTaken_of_ackKept_endpoints`: the same for the three endpoints
- `not_ackTaken_after_rejection`: a rejected acknowledgement loses a request
-/

namespace AsterCtrl.Can

/-! ## The message a frame completes -/

namespace ReliableReceiver

variable {maxSize : Nat}

/-- The message whose last missing fragment the frame brings, as a receiver reports it that
    has completed nothing before; a duplicate is reassembled like any other message. -/
def reassembled (r : ReliableReceiver maxSize) (frame : CanFrame)
    (time : Option UInt64) : Option ReassembledMessage :=
  if (r.receive frame time).1.acknowledgement.size = 0 then none
  else some ({ r with hasCompleted := false }.receive frame time).1.message

/-- Two receivers that reassemble the same message, the second without a history. -/
structure Forgetful (r r₀ : ReliableReceiver maxSize) : Prop where
  active : SameActive r r₀
  hasCompleted : r₀.hasCompleted = false

variable {r : ReliableReceiver maxSize}

theorem completeMessage_forgetful {r₀ : ReliableReceiver maxSize} (h : Forgetful r r₀)
    {frameId : UInt16} {count : Nat} (hok : (r.completeMessage frameId count).1.status = .ok) :
    (r.completeMessage frameId count).1.acknowledgement.size ≠ 0 ∧
      (r₀.completeMessage frameId count).1.message =
        (r.completeMessage frameId count).1.message := by
  unfold completeMessage at hok ⊢
  dsimp only at hok ⊢
  rw [if_neg (show ¬(r₀.hasCompleted = true ∧ r₀.lastCompletedArbitrationId = r₀.arbitrationId ∧
    r₀.lastCompletedSequence = r₀.sequence) from fun hc => nomatch h.hasCompleted.symm.trans hc.1)]
  split at hok
  · cases hok
  · rename_i hnew
    rw [if_neg hnew, h.active.routeId, h.active.sequence, h.active.buffer]
    exact ⟨nofun, rfl⟩

theorem storeFragment_forgetful {r₀ : ReliableReceiver maxSize} (h : Forgetful r r₀)
    {f : ReliableFragment maxSize} (hok : (r.storeFragment f).1.status = .ok) :
    (r.storeFragment f).1.acknowledgement.size ≠ 0 ∧
      (r₀.storeFragment f).1.message = (r.storeFragment f).1.message := by
  unfold storeFragment at hok ⊢
  dsimp only at hok ⊢
  rw [h.active.buffer]
  split at hok
  · cases hok
  · rename_i hhas
    rw [if_neg hhas, if_neg hhas]
    split at hok
    · cases hok
    · rename_i hfull
      rw [if_neg hfull, if_neg hfull]
      refine completeMessage_forgetful ?_ hok
      obtain ⟨h1, h2, h3, h4, h5, -⟩ := h.active
      exact ⟨⟨h1, h2, h3, h4, h5, rfl⟩, h.hasCompleted⟩

/-- Making room for a message depends on the history only in that it may refuse. -/
theorem prepareMessage_forgetful {frameId : UInt16} {sequence : UInt8}
    (hok : (r.prepareMessage frameId sequence).1 = .ok) :
    ({ r with hasCompleted := false }.prepareMessage frameId sequence).1 = .ok ∧
      ({ r with hasCompleted := false }.prepareMessage frameId sequence).2.buffer =
        (r.prepareMessage frameId sequence).2.buffer ∧
      ({ r with hasCompleted := false }.prepareMessage frameId sequence).2.hasCompleted =
        false := by
  have hafter : ∀ r₁ r₂ : ReliableReceiver maxSize, r₂.hasCompleted = false →
      r₂.buffer = r₁.buffer →
      (r₂.prepareAfterCompleted frameId sequence).1 = .ok ∧
      (r₂.prepareAfterCompleted frameId sequence).2.buffer =
        (r₁.prepareAfterCompleted frameId sequence).2.buffer ∧
      (r₂.prepareAfterCompleted frameId sequence).2.hasCompleted = false := by
    intro r₁ r₂ hnone hbuffer
    have hkeep : (r₁.prepareAfterCompleted frameId sequence).2.buffer = r₁.buffer := by
      unfold prepareAfterCompleted
      dsimp only
      repeat' split
      all_goals rfl
    rw [hkeep, prepareAfterCompleted, if_pos (.inl hnone)]
    exact ⟨rfl, hbuffer, hnone⟩
  unfold prepareMessage at hok ⊢
  dsimp only at hok ⊢
  by_cases hact : r.active = true
  · rw [if_pos hact] at hok
    rw [if_pos hact, if_pos hact]
    by_cases harb : r.arbitrationId ≠ frameId
    · rw [if_pos harb, if_pos harb]
      exact hafter _ _ rfl rfl
    · rw [if_neg harb] at hok
      rw [if_neg harb, if_neg harb]
      by_cases hzero : sequenceDistance r.sequence sequence = 0
      · rw [if_pos hzero, if_pos hzero]
        exact ⟨rfl, rfl, rfl⟩
      · rw [if_neg hzero] at hok
        rw [if_neg hzero, if_neg hzero]
        by_cases hfar : sequenceDistance r.sequence sequence > 7
        · rw [if_pos hfar] at hok
          cases hok
        · rw [if_neg hfar, if_neg hfar]
          exact hafter _ _ rfl rfl
  · rw [if_neg hact, if_neg hact]
    exact hafter _ _ rfl rfl

theorem acceptImpl_forgetful {frame : CanFrame} {time : Option UInt64}
    (hok : (r.acceptImpl frame time).1.status = .ok) :
    (r.acceptImpl frame time).1.acknowledgement.size ≠ 0 ∧
      ({ r with hasCompleted := false }.acceptImpl frame time).1.message =
        (r.acceptImpl frame time).1.message := by
  unfold acceptImpl at hok ⊢
  cases hf : parseFragment maxSize frame with
  | none =>
    rw [hf] at hok
    cases hok
  | some f =>
    rw [hf] at hok
    unfold acceptFragment at hok ⊢
    dsimp only at hok ⊢
    by_cases hnew : r.active = false ∨ r.arbitrationId ≠ f.arbitrationId ∨ r.sequence ≠ f.sequence
    · rw [if_pos hnew] at hok
      rw [if_pos hnew, if_pos hnew]
      by_cases hprep : (r.prepareMessage f.arbitrationId f.sequence).1 ≠ .ok
      · rw [if_pos hprep] at hok
        exact absurd hok hprep
      · rw [if_neg hprep] at hok
        obtain ⟨hprep₀, hbuffer, hnone⟩ := prepareMessage_forgetful (not_not.mp hprep)
        rw [if_neg hprep, if_neg (not_not_intro hprep₀)]
        refine storeFragment_forgetful ?_ hok
        exact ⟨⟨rfl, rfl, rfl, rfl, rfl, hbuffer⟩, hnone⟩
    · rw [if_neg hnew] at hok
      rw [if_neg hnew, if_neg hnew]
      by_cases hcount : r.fragmentCount ≠ f.count
      · rw [if_pos hcount] at hok
        cases hok
      · rw [if_neg hcount] at hok
        rw [if_neg hcount, if_neg hcount]
        refine storeFragment_forgetful ?_ hok
        exact ⟨⟨rfl, rfl, rfl, rfl, rfl, rfl⟩, rfl⟩

/-- A new message is acknowledged, and it is the one that was reassembled. -/
theorem reassembled_of_ok {frame : CanFrame} {time : Option UInt64}
    (hok : (r.receive frame time).1.status = .ok) :
    (r.receive frame time).1.acknowledgement.size ≠ 0 ∧
      r.reassembled frame time = some (r.receive frame time).1.message := by
  have key : (r.receive frame time).1.acknowledgement.size ≠ 0 ∧
      ({ r with hasCompleted := false }.receive frame time).1.message =
        (r.receive frame time).1.message := by
    cases time with
    | none => exact acceptImpl_forgetful hok
    | some t =>
      unfold receive acceptAt at hok ⊢
      dsimp only at hok ⊢
      split at hok
      · cases hok
      · rename_i hback
        rw [if_neg hback, if_neg hback]
        have h := acceptImpl_forgetful hok
        unfold expireIfDue at h ⊢
        dsimp only at h ⊢
        split
        · rename_i hdue
          rw [if_pos hdue] at h
          exact h
        · rename_i hdue
          rw [if_neg hdue] at h
          exact h
  rw [reassembled, if_neg key.1, key.2]
  exact ⟨key.1, rfl⟩

end ReliableReceiver

/-! ## Endpoints that acknowledge -/

/-- What one call of an endpoint did with a message. -/
structure AckReport where
  /-- The message the receiver completed as a new one. -/
  completed : Option ReassembledMessage := none
  /-- The message that was reassembled, new or not. -/
  reassembled : Option ReassembledMessage := none
  /-- The writer accepted an acknowledgement. -/
  acked : Bool := false
  /-- The endpoint did with the message what it is for. -/
  taken : Bool := false

/-- An acknowledgement is for a reassembled message, and a new message that is acknowledged is
    taken in the same call. -/
structure AckReport.Lawful (report : AckReport) : Prop where
  reassembled_of_completed : ∀ message, report.completed = some message →
    report.reassembled = some message
  reassembled_of_acked : report.acked = true → report.reassembled.isSome
  taken_of_acked : report.completed.isSome → report.acked = true → report.taken = true

/-- An endpoint with its report of every call. -/
structure AckingEndpoint (σ α : Type) where
  step : σ → α → σ
  report : σ → α → AckReport
  lawful : ∀ s a, (report s a).Lawful

/-- An endpoint with the message it completed last, and whether it took that one. -/
structure Tracked (σ : Type) where
  endpoint : σ
  last : Option (ReassembledMessage × Bool) := none

namespace AckingEndpoint

variable {σ α : Type} (E : AckingEndpoint σ α)

def next (s : Tracked σ) (a : α) : Tracked σ where
  endpoint := E.step s.endpoint a
  last :=
    match (E.report s.endpoint a).completed with
    | none => s.last
    | some message => some (message, (E.report s.endpoint a).taken)

/-- If the writer accepts an acknowledgement in this call, the message it is for has been
    taken by the end of the call. -/
def AckTaken (s : Tracked σ) (a : α) : Prop :=
  (E.report s.endpoint a).acked = true →
    ∃ message, (E.report s.endpoint a).reassembled = some message ∧
      (E.next s a).last = some (message, true)

/-- The acknowledgement of a new message is not rejected, and a message that is acknowledged as
    a duplicate is the one completed last. -/
structure AckKept (s : Tracked σ) (a : α) : Prop where
  new : (E.report s.endpoint a).completed.isSome → (E.report s.endpoint a).acked = true
  duplicate : (E.report s.endpoint a).acked = true → (E.report s.endpoint a).completed = none →
    (E.report s.endpoint a).reassembled = s.last.map Prod.fst

instance (s : Tracked σ) (a : α) : Decidable (E.AckKept s a) :=
  decidable_of_iff (_ ∧ _) ⟨fun h => ⟨h.1, h.2⟩, fun h => ⟨h.new, h.duplicate⟩⟩

/-- The message completed last was taken. -/
def LastTaken (s : Tracked σ) : Prop :=
  ∀ message taken, s.last = some (message, taken) → taken = true

variable {E}

theorem lastTaken_next {s : Tracked σ} {a : α} (h : LastTaken s) (hkept : E.AckKept s a) :
    LastTaken (E.next s a) := by
  intro message taken hlast
  unfold next at hlast
  cases hc : (E.report s.endpoint a).completed with
  | none =>
    rw [hc] at hlast
    exact h message taken hlast
  | some completed =>
    rw [hc] at hlast
    have hsome : (E.report s.endpoint a).completed.isSome := by rw [hc]; rfl
    have htaken := (E.lawful s.endpoint a).taken_of_acked hsome (hkept.new hsome)
    exact (Prod.mk.inj (Option.some.inj hlast)).2.symm.trans htaken

theorem ackTaken_of_lastTaken {s : Tracked σ} {a : α} (h : LastTaken s)
    (hkept : E.AckKept s a) : E.AckTaken s a := by
  intro hacked
  unfold next
  cases hc : (E.report s.endpoint a).completed with
  | some message =>
    refine ⟨message, (E.lawful s.endpoint a).reassembled_of_completed message hc, ?_⟩
    dsimp only
    rw [(E.lawful s.endpoint a).taken_of_acked (by rw [hc]; rfl) hacked]
  | none =>
    -- A duplicate: what was reassembled is the message completed last.
    obtain ⟨message, hmessage⟩ :=
      Option.isSome_iff_exists.mp ((E.lawful s.endpoint a).reassembled_of_acked hacked)
    refine ⟨message, hmessage, ?_⟩
    have hlast := hmessage.symm.trans (hkept.duplicate hacked hc)
    obtain ⟨⟨message', taken⟩, hs, rfl⟩ := Option.map_eq_some_iff.mp hlast.symm
    rw [← h message' taken hs]
    exact hs

/-- In a run that loses no acknowledgement of a new message and in which duplicates are
    retransmissions, every accepted acknowledgement means that the message was taken. -/
theorem ackTaken_of_ackKept {s : σ} {actions : List α}
    (hkept : Machine.Along E.next E.AckKept { endpoint := s } actions) :
    Machine.Along E.next E.AckTaken { endpoint := s } actions := by
  have hinit : LastTaken ({ endpoint := s } : Tracked σ) := fun _ _ hlast => nomatch hlast
  exact Machine.along_of_invariant E.next (I := LastTaken)
    (fun _ _ h hk => ⟨ackTaken_of_lastTaken h hk, lastTaken_next h hk⟩) hinit hkept

end AckingEndpoint

/-! ## Reports of calls that pass a frame to a receiver -/

/-- A frame of the size and header of an acknowledgement. -/
def isAck (frame : CanFrame) : Bool :=
  frame.size = 1 ∧ getFrameKind frame.header = .reliable ∧ getReliableSubtype frame.header = .ack

/-- The writer of a call accepted an acknowledgement. -/
def CanFrameWriter.acceptedAck (writer : CanFrameWriter) : Bool := writer.accepted.any isAck

theorem accepted_ne_nil_of_acceptedAck {writer : CanFrameWriter} (h : writer.acceptedAck = true) :
    writer.accepted ≠ [] := by
  intro hnil
  rw [CanFrameWriter.acceptedAck, hnil] at h
  cases h

/-- The report of a call that passes `frame` to the receiver `r` if `reaches` says so, and that
    leaves `writer` behind. -/
def AckReport.ofReceive {maxSize : Nat} (reaches : Bool)
    (r : ReliableReceiver maxSize) (frame : CanFrame) (time : Option UInt64)
    (writer : CanFrameWriter) (taken : Bool) : AckReport where
  completed :=
    if reaches = true ∧ (r.receive frame time).1.status = .ok then
      some (r.receive frame time).1.message
    else none
  reassembled := if reaches then r.reassembled frame time else none
  acked := writer.acceptedAck
  taken := taken

/-- The report is lawful if the call writes nothing unless the receiver has an acknowledgement to
    write, and takes a new message when it has written. -/
theorem AckReport.lawful_ofReceive {maxSize : Nat} {reaches : Bool}
    {r : ReliableReceiver maxSize} {frame : CanFrame} {time : Option UInt64}
    {writer : CanFrameWriter} {taken : Bool}
    (hreach : writer.accepted ≠ [] → reaches = true)
    (hsize : (r.receive frame time).1.acknowledgement.size = 0 → writer.accepted = [])
    (htaken : writer.accepted ≠ [] → (r.receive frame time).1.status = .ok → taken = true) :
    (AckReport.ofReceive reaches r frame time writer taken).Lawful where
  reassembled_of_completed message h := by
    unfold ofReceive at h ⊢
    dsimp only at h ⊢
    split at h
    · rename_i hreach
      rw [if_pos hreach.1, (ReliableReceiver.reassembled_of_ok hreach.2).2]
      exact h
    · cases h
  reassembled_of_acked h := by
    have hwritten := accepted_ne_nil_of_acceptedAck h
    unfold ofReceive
    dsimp only
    rw [if_pos (hreach hwritten), ReliableReceiver.reassembled, if_neg (mt hsize hwritten)]
    rfl
  taken_of_acked hc h := by
    refine htaken (accepted_ne_nil_of_acceptedAck h) ?_
    unfold ofReceive at hc
    dsimp only at hc
    split at hc
    · rename_i hreach
      exact hreach.2
    · cases hc

/-- A call that does not receive reports nothing. -/
theorem AckReport.lawful_default : ({} : AckReport).Lawful :=
  ⟨nofun, nofun, nofun⟩

/-! ## The RPC server -/

/-- The checks that the RPC endpoints make before they pass a frame to their receiver. -/
def reachesReceiver (isOpen : Bool) (routeId : UInt16) (frame : CanFrame) : Bool :=
  isOpen = true ∧ frame.size ≠ 0 ∧ isForRoute frame routeId = true ∧
    getFrameKind frame.header = .reliable ∧ getReliableSubtype frame.header ≠ .ack

inductive RpcServerCall where
  | accept (frame : CanFrame) (time : UInt64) (backend : BackendOutcome)
      (clock : ClockReading) (outcome : Nat → Status)
  | complete (completion : BackendCompletion) (clock : ClockReading) (outcome : Nat → Status)
  | poll (nowNs : UInt64) (outcome : Nat → Status)
  | resetPeer

namespace CanRpcServer

variable {service : RpcService} (s : CanRpcServer service)

/-- The state after a call. -/
def call : RpcServerCall → CanRpcServer service
  | .accept frame time backend clock outcome =>
    (s.accept frame time backend clock { outcome := outcome }).server
  | .complete completion clock outcome =>
    (s.complete completion clock { outcome := outcome }).server
  | .poll nowNs outcome => (s.poll nowNs { outcome := outcome }).server
  | .resetPeer => s.resetPeer

/-- The request was handed to the backend, answered, or counted as rejected, as too late or as
    undecodable. -/
def tookRequest (result : RpcServerResult service) : Bool :=
  result.handed.isSome ∨ result.begun.isSome ∨
    result.server.stats.rejected = s.stats.rejected + 1 ∨
    result.server.stats.timeouts = s.stats.timeouts + 1 ∨
    result.server.stats.decodeFailures = s.stats.decodeFailures + 1

def ackReport : RpcServerCall → AckReport
  | .accept frame time backend clock outcome =>
    let result := s.accept frame time backend clock { outcome := outcome }
    .ofReceive (reachesReceiver s.bound s.routeId frame) s.requestReceiver frame none
      result.writer (s.tookRequest result)
  | _ => {}

/-- A frame that does not reach the receiver makes the server write nothing. -/
theorem writer_of_not_reaches {s : CanRpcServer service} {frame : CanFrame}
    (h : reachesReceiver s.bound s.routeId frame = false) (time : UInt64)
    (backend : BackendOutcome) (clock : ClockReading) (writer : CanFrameWriter) :
    (s.accept frame time backend clock writer).writer = writer := by
  unfold accept
  split
  · rfl
  · split
    · rfl
    · split
      · rfl
      · rename_i hbound hframe hack
        simp only [not_or, Decidable.not_not] at hframe
        refine absurd h ?_
        simp [reachesReceiver, hbound, hframe.1, hframe.2.1, hframe.2.2, hack]

theorem lawful_ackReport (call : RpcServerCall) : (s.ackReport call).Lawful := by
  cases call with
  | complete | poll | resetPeer => exact AckReport.lawful_default
  | accept frame time backend clock outcome =>
    refine AckReport.lawful_ofReceive (fun hwritten => ?_) (fun hsize => ?_) fun hwritten hok => ?_
    · by_contra hreach
      rw [writer_of_not_reaches (Bool.not_eq_true _ ▸ hreach)] at hwritten
      exact hwritten rfl
    · -- Without an acknowledgement nothing was completed, so nothing is written at all.
      have hst : (s.requestReceiver.receive frame none).1.status ≠ .ok := fun hok =>
        (ReliableReceiver.reassembled_of_ok hok).1 hsize
      have hquiet : acknowledge { outcome := outcome }
          (s.requestReceiver.accept frame).1.acknowledgement = (.ok, { outcome := outcome }) :=
        if_neg (not_not_intro hsize)
      cases accept_cases s frame time backend clock { outcome := outcome } with
      | ignored _ _ writer => rw [writer]; rfl
      | ack _ _ writer => rw [writer]; rfl
      | unacknowledged _ _ size => exact absurd hsize size
      | taken _ _ taken =>
        cases taken with
        | ignored _ _ writer => rw [writer, hquiet]; rfl
        | busy status => exact absurd status hst
        | undecoded status => exact absurd status hst
        | expired status => exact absurd status hst
        | passed status => exact absurd status hst
    · unfold tookRequest
      rw [decide_eq_true_iff]
      cases accept_cases s frame time backend clock { outcome := outcome } with
      | ignored _ _ writer => exact absurd (by rw [writer]; rfl) hwritten
      | ack _ _ writer => exact absurd (by rw [writer]; rfl) hwritten
      | unacknowledged _ _ _ _ _ accepted => exact absurd accepted hwritten
      | taken _ _ taken =>
        cases taken with
        | ignored status => exact absurd hok status
        | busy _ _ server => rw [server]; exact .inr (.inr (.inl rfl))
        | undecoded _ _ _ server => rw [server]; exact .inr (.inr (.inr (.inr rfl)))
        | expired _ _ _ _ _ _ counted => exact .inr (.inr (.inr (.inl counted)))
        | passed _ _ _ _ _ handed => rw [handed]; exact .inl rfl

end CanRpcServer

/-- The RPC server as an endpoint that acknowledges requests. -/
def rpcServerEndpoint (service : RpcService) :
    AckingEndpoint (CanRpcServer service) RpcServerCall where
  step := CanRpcServer.call
  report := CanRpcServer.ackReport
  lawful := CanRpcServer.lawful_ackReport

/-! ## The RPC client -/

inductive RpcClientCall (κ : Type) where
  | accept (frame : CanFrame) (outcome : Nat → Status)
  | callAsync (descriptor : ServiceDescriptor) (request : List UInt8) (deadlineNs : UInt64)
      (completion : Option κ) (clock : ClockReading) (outcome : Nat → Status)
  | poll (nowNs : UInt64) (outcome : Nat → Status)
  | resetPeer

namespace CanRpcClient

variable {service : RpcService} {κ : Type} (c : CanRpcClient service κ)

/-- The state after a call. -/
def call : RpcClientCall κ → CanRpcClient service κ
  | .accept frame outcome => (c.accept frame { outcome := outcome }).client
  | .callAsync descriptor request deadlineNs completion clock outcome =>
    (c.callAsync descriptor request deadlineNs completion clock { outcome := outcome }).2.1
  | .poll nowNs outcome => (c.poll nowNs { outcome := outcome }).client
  | .resetPeer => c.resetPeer.1

/-- The response was matched against the pending call, if there is one: it completed the call or
    was counted as not belonging to it. -/
def matchedResponse (result : RpcClientResult service κ) : Bool :=
  c.pending = false ∨ result.client.stats.completed = c.stats.completed + 1 ∨
    result.client.stats.decodeFailures = c.stats.decodeFailures + 1

def ackReport : RpcClientCall κ → AckReport
  | .accept frame outcome =>
    let result := c.accept frame { outcome := outcome }
    .ofReceive (reachesReceiver c.isSealed c.routeId frame) c.responseReceiver frame none
      result.writer (c.matchedResponse result)
  | _ => {}

theorem writer_of_not_reaches {c : CanRpcClient service κ} {frame : CanFrame}
    (h : reachesReceiver c.isSealed c.routeId frame = false) (writer : CanFrameWriter) :
    (c.accept frame writer).writer = writer := by
  unfold accept
  split
  · rfl
  · split
    · rfl
    · split
      · rfl
      · rename_i hsealed hframe hack
        simp only [not_or, Decidable.not_not] at hframe
        refine absurd h ?_
        simp [reachesReceiver, hsealed, hframe.1, hframe.2.1, hframe.2.2, hack]

theorem lawful_ackReport (call : RpcClientCall κ) : (c.ackReport call).Lawful := by
  cases call with
  | callAsync | poll | resetPeer => exact AckReport.lawful_default
  | accept frame outcome =>
    refine AckReport.lawful_ofReceive (fun hwritten => ?_) (fun hsize => ?_) fun hwritten hok => ?_
    · by_contra hreach
      rw [writer_of_not_reaches (Bool.not_eq_true _ ▸ hreach)] at hwritten
      exact hwritten rfl
    · have hquiet : acknowledge { outcome := outcome }
          (c.responseReceiver.accept frame).1.acknowledgement = (.ok, { outcome := outcome }) :=
        if_neg (not_not_intro hsize)
      cases accept_cases c frame { outcome := outcome } with
      | ignored _ _ writer => rw [writer]; rfl
      | ack _ _ _ writer => rw [writer]; rfl
      | unacknowledged _ _ size => exact absurd hsize size
      | taken _ _ writer => rw [writer, hquiet]; rfl
    · unfold matchedResponse
      rw [decide_eq_true_iff]
      cases accept_cases c frame { outcome := outcome } with
      | ignored _ _ writer => exact absurd (by rw [writer]; rfl) hwritten
      | ack _ _ _ writer => exact absurd (by rw [writer]; rfl) hwritten
      | unacknowledged _ _ _ _ _ _ accepted => exact absurd accepted hwritten
      | taken _ _ _ taken =>
        cases taken with
        | ignored reason => exact .inl (reason.resolve_left (not_not_intro hok))
        | undecoded _ _ _ client =>
          dsimp only at client
          rw [client]
          exact .inr (.inr rfl)
        | matched _ _ _ _ _ _ _ _ client =>
          dsimp only at client
          rw [client]
          exact .inr (.inl rfl)

end CanRpcClient

/-- The RPC client as an endpoint that acknowledges responses. -/
def rpcClientEndpoint (service : RpcService) (κ : Type) :
    AckingEndpoint (CanRpcClient service κ) (RpcClientCall κ) where
  step := CanRpcClient.call
  report := CanRpcClient.ackReport
  lawful := CanRpcClient.lawful_ackReport

/-! ## The handshake -/

namespace CanLinkControlPlane

variable (s : CanLinkControlPlane)

/-- The state after a call. -/
def call : LinkAction → CanLinkControlPlane
  | .poll nowNs interrupt outcome => (s.poll nowNs interrupt { outcome := outcome }).2.1
  | .accept frame localNs outcome =>
    (s.accept frame localNs { outcome := outcome }).plane
  | .writeApplication frame outcome => (s.writeApplication frame { outcome := outcome }).2.1

/-- The checks that a frame passes on its way to the handshake receiver. -/
def reachesHandshake (frame : CanFrame) : Bool :=
  match CanArbitrationId.decode frame.arbitrationId with
  | none => false
  | some id => s.valid = true ∧ id.priority = .critical ∧ id.routeId = kHandshakeRouteId ∧
      frame.size ≠ 0 ∧ getFrameKind frame.header = .reliable ∧
      getReliableSubtype frame.header ≠ .ack

/-- The handshake of the configured peer that a payload stands for. -/
def peerHandshake (payload : List UInt8) : Option Handshake :=
  match HandshakeCodec.decode payload with
  | .error _ => none
  | .ok remote => if remote.nodeId = s.config.peerNodeId then some remote else none

/-- The handshake was decoded and set the compatibility; a message that is no handshake of the
    configured peer was refused as such. -/
def tookHandshake (payload : List UInt8) (result : LinkControlResult) : Bool :=
  match s.peerHandshake payload with
  | none => result.status = .typeMismatch
  | some remote => result.decoded = some remote ∧ result.plane.handshakeReceived = true ∧
      result.plane.compatibility = CompatibilityGuard.check s.config.localHandshake remote

def ackReport : LinkAction → AckReport
  | .accept frame localNs outcome =>
    let result := s.accept frame localNs { outcome := outcome }
    let received := s.handshakeReceiver.acceptAt frame localNs
    .ofReceive (s.reachesHandshake frame) s.handshakeReceiver frame (some localNs)
      result.writer (s.tookHandshake received.1.message.payload result)
  | _ => {}

variable (s : CanLinkControlPlane)

theorem reachesHandshake_iff (frame : CanFrame) : s.reachesHandshake frame = true ↔
    s.valid = true ∧ isHandshakeData frame = true := by
  unfold reachesHandshake isHandshakeData
  cases CanArbitrationId.decode frame.arbitrationId <;> simp

theorem lawful_ackReport (call : LinkAction) : (s.ackReport call).Lawful := by
  cases call with
  | poll | writeApplication => exact AckReport.lawful_default
  | accept frame localNs outcome =>
    have hcases := s.accept_cases frame localNs { outcome := outcome }
    refine AckReport.lawful_ofReceive (fun hwritten => ?_) (fun hsize => ?_) fun hwritten hok => ?_
    · rw [reachesHandshake_iff]
      cases hcases with
      | refused _ _ _ _ _ writer | ignored _ _ _ _ _ writer | restart _ _ _ _ _ _ _ _ _ writer
      | heartbeat _ _ _ _ _ _ _ _ _ writer | timeSync _ _ _ _ _ _ _ _ writer =>
        exact absurd (by rw [writer]; rfl) hwritten
      | handshakePart data valid | handshake _ data valid => exact ⟨valid, data⟩
    · have hquiet : acknowledge { outcome := outcome }
          (s.handshakeReceiver.acceptAt frame localNs).1.acknowledgement =
            (.ok, { outcome := outcome }) := if_neg (not_not_intro hsize)
      cases hcases with
      | refused _ _ _ _ _ writer | ignored _ _ _ _ _ writer | restart _ _ _ _ _ _ _ _ _ writer
      | heartbeat _ _ _ _ _ _ _ _ _ writer | timeSync _ _ _ _ _ _ _ _ writer => rw [writer]; rfl
      | handshakePart _ _ _ _ _ _ writer | handshake _ _ _ _ _ _ _ _ _ writer =>
        rw [writer, hquiet]
        rfl
    · unfold tookHandshake peerHandshake
      cases hcases with
      | refused _ _ _ _ _ writer | ignored _ _ _ _ _ writer | restart _ _ _ _ _ _ _ _ _ writer
      | heartbeat _ _ _ _ _ _ _ _ _ writer | timeSync _ _ _ _ _ _ _ _ writer =>
        exact absurd (by rw [writer]; rfl) hwritten
      | handshakePart _ _ _ _ _ _ writer untaken =>
        rcases untaken with hack | hst | ⟨hmismatch, hother⟩
        · rw [writer] at hwritten
          exact absurd (acknowledge_of_ne hack).2.2 hwritten
        · exact absurd hok hst
        · cases hdecode : HandshakeCodec.decode
              (s.handshakeReceiver.acceptAt frame localNs).1.message.payload with
          | error => simp [hmismatch]
          | ok remote => simp [hmismatch, hother remote hdecode]
      | handshake remote _ _ _ node plane decoded _ _ _ payload =>
        have hplane := congrArg (fun side => (side.handshakeReceived, side.compatibility)) plane
        rw [payload]
        simp only [if_pos node, decoded]
        exact decide_eq_true ⟨trivial, congrArg Prod.fst hplane, congrArg Prod.snd hplane⟩

end CanLinkControlPlane

/-- The link control plane as an endpoint that acknowledges handshakes. -/
def linkControlEndpoint : AckingEndpoint CanLinkControlPlane LinkAction where
  step := CanLinkControlPlane.call
  report := CanLinkControlPlane.ackReport
  lawful := CanLinkControlPlane.lawful_ackReport

/-! ## All three endpoints -/

/-- In every run of each endpoint that loses no acknowledgement of a new message and in which
    duplicates are retransmissions, a message whose acknowledgement is accepted was taken. -/
theorem ackTaken_of_ackKept_endpoints (service : RpcService) (κ : Type)
    (server : CanRpcServer service) (serverCalls : List RpcServerCall)
    (client : CanRpcClient service κ) (clientCalls : List (RpcClientCall κ))
    (plane : CanLinkControlPlane) (linkCalls : List LinkAction) :
    (Machine.Along (rpcServerEndpoint service).next (rpcServerEndpoint service).AckKept
          { endpoint := server } serverCalls →
        Machine.Along (rpcServerEndpoint service).next (rpcServerEndpoint service).AckTaken
          { endpoint := server } serverCalls) ∧
    (Machine.Along (rpcClientEndpoint service κ).next (rpcClientEndpoint service κ).AckKept
          { endpoint := client } clientCalls →
        Machine.Along (rpcClientEndpoint service κ).next (rpcClientEndpoint service κ).AckTaken
          { endpoint := client } clientCalls) ∧
    (Machine.Along linkControlEndpoint.next linkControlEndpoint.AckKept
          { endpoint := plane } linkCalls →
        Machine.Along linkControlEndpoint.next linkControlEndpoint.AckTaken
          { endpoint := plane } linkCalls) :=
  ⟨AckingEndpoint.ackTaken_of_ackKept, AckingEndpoint.ackTaken_of_ackKept,
    AckingEndpoint.ackTaken_of_ackKept⟩

private def pingService : RpcService where
  descriptor := ⟨"s", Vector.replicate 16 0, ⟨"q", Vector.replicate 16 0, 0⟩,
    ⟨"r", Vector.replicate 16 0, 0⟩, ""⟩
  requestSize := 0
  responseSize := 0
  request_fits := emptyRequest_fits
  response_fits := emptyResponse_fits

private def pingServer : CanRpcServer pingService := { routeId := 100, bound := true }

private def pingClient : CanRpcClient pingService Unit :=
  { routeId := 100, isSealed := true, pending := true, callInfo := ⟨1, 0⟩ }

private def ownHandshake : Handshake := { protocolVersion := 1, nodeId := 1 }

private def handshakePlane : CanLinkControlPlane :=
  .construct { localHandshake := ownHandshake, peerNodeId := 2 } true true

/-- The frames of a message on the route, sent with sequence 0. -/
private def framesOf (priority : CanPriority) (routeId : UInt16) (payload : List UInt8) :
    List CanFrame :=
  (List.range (fragmentsOf kFragmentPayload payload.length)).map fun i =>
    dataFrame (CanArbitrationId.encode priority routeId).2 0
      (fragmentsOf kFragmentPayload payload.length) i (fragmentAt kFragmentPayload payload i)

/-- The request arrives, and the writer gives this answer to every write. -/
private def requestArrives (answer : Status) : List RpcServerCall :=
  (framesOf .control 100 (requestPayload 1 0 [])).map fun frame =>
    .accept frame 0 {} ⟨.ok, 0⟩ fun _ => answer

private def responseArrives : List (RpcClientCall Unit) :=
  (framesOf .control 100 (responsePayload .ok 1 [])).map fun frame =>
    .accept frame fun _ => .ok

private def handshakeArrives : List LinkAction :=
  (framesOf .critical kHandshakeRouteId (1 :: 2 :: List.replicate 32 0)).map fun frame =>
    .accept frame 0 fun _ => .ok

/-- Each endpoint receives one message, acknowledges it and takes it. -/
theorem ackTaken_of_ackKept_arrivals :
    ((Machine.run (rpcServerEndpoint pingService).next { endpoint := pingServer }
        (requestArrives .ok)).last.map Prod.snd = some true ∧
      Machine.Along (rpcServerEndpoint pingService).next (rpcServerEndpoint pingService).AckTaken
        { endpoint := pingServer } (requestArrives .ok)) ∧
    ((Machine.run (rpcClientEndpoint pingService Unit).next { endpoint := pingClient }
        responseArrives).last.map Prod.snd = some true ∧
      Machine.Along (rpcClientEndpoint pingService Unit).next
        (rpcClientEndpoint pingService Unit).AckTaken { endpoint := pingClient }
        responseArrives) ∧
    ((Machine.run linkControlEndpoint.next { endpoint := handshakePlane }
        handshakeArrives).last.map Prod.snd = some true ∧
      Machine.Along linkControlEndpoint.next linkControlEndpoint.AckTaken
        { endpoint := handshakePlane } handshakeArrives) :=
  have hendpoints := ackTaken_of_ackKept_endpoints pingService Unit pingServer (requestArrives .ok)
    pingClient responseArrives handshakePlane handshakeArrives
  ⟨⟨by decide +kernel, hendpoints.1 (by decide +kernel)⟩,
    ⟨by decide +kernel, hendpoints.2.1 (by decide +kernel)⟩,
    ⟨by decide +kernel, hendpoints.2.2 (by decide +kernel)⟩⟩

/-- The writer rejects the acknowledgement of a request and accepts that of its retransmission:
    the request was neither handed over nor answered nor counted. -/
theorem not_ackTaken_after_rejection :
    ¬ Machine.Along (rpcServerEndpoint pingService).next (rpcServerEndpoint pingService).AckTaken
      { endpoint := pingServer } (requestArrives .unavailable ++ requestArrives .ok) := by
  intro hal
  obtain ⟨-, htaken, -⟩ := ((Machine.along_append _ _ _ _ _).mp hal).2
  have hretransmitted := htaken (by decide +kernel)
  revert hretransmitted
  decide +kernel

end AsterCtrl.Can
