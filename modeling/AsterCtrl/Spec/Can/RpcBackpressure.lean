import AsterCtrl.Spec.Can.RpcLinkInvariant

/-!
# RPC transmission after a rejected write

A rejected write leaves the `ReliableSender` of the client (during a retransmission) or of the
server (at any time) in `kSending`, with the remaining fragments still to be sent.  `Poll` of
both endpoints first asks `ReliableSender::Poll`, which answers `kUnavailable` unless the
sender waits for an acknowledgement, and pumps only if that answers `kOk`.  So no `Poll`
resumes the transmission, whatever the writer does.

## Key results

- `not_resumes`: `Poll` never resumes the transmission
- `client_stays_sending`, `server_stays_sending`: it leaves everything as it was
-/

namespace AsterCtrl.Can

/-- A writer that accepts every frame. -/
def acceptingWriter : CanFrameWriter := ⟨fun _ => .ok, []⟩

/-- The frames of the fragments that have not been accepted yet. -/
def ReliableSender.remaining {maxSize : Nat} (s : ReliableSender maxSize) :
    List CanFrame :=
  (List.range' s.nextFragment (s.fragmentCount - s.nextFragment)).map s.fragmentFrame

namespace CanRpcClient

variable {service : RpcService} {κ : Type}

/-- `Poll` with a writer that accepts everything sends the rest of the request. -/
def Resumes (c : CanRpcClient service κ) (nowNs : UInt64) : Prop :=
  (c.poll nowNs acceptingWriter).writer.accepted = c.requestSender.remaining ∧
    (c.poll nowNs acceptingWriter).client.requestSender.state = .waitingForAck

/-- A client with a half-sent request whose deadline has not been reached. -/
structure Blocked (c : CanRpcClient service κ) (nowNs : UInt64) : Prop where
  pending : c.pending = true
  deadline : c.callInfo.deadlineNs = 0 ∨ nowNs < c.callInfo.deadlineNs
  state : c.requestSender.state = .sending

instance (c : CanRpcClient service κ) (nowNs : UInt64) : Decidable (c.Blocked nowNs) :=
  decidable_of_iff (c.pending = true ∧ (c.callInfo.deadlineNs = 0 ∨
      nowNs < c.callInfo.deadlineNs) ∧ c.requestSender.state = .sending)
    ⟨fun h => ⟨h.1, h.2.1, h.2.2⟩, fun h => ⟨h.pending, h.deadline, h.state⟩⟩

theorem client_stays_sending {c : CanRpcClient service κ} {nowNs : UInt64}
    (h : c.Blocked nowNs) (writer : CanFrameWriter) :
    (c.poll nowNs writer).client = c ∧ (c.poll nowNs writer).writer = writer := by
  have hdead : ¬ (c.callInfo.deadlineNs ≠ 0 ∧ nowNs ≥ c.callInfo.deadlineNs) := by
    rintro ⟨hne, hge⟩
    rcases h.deadline with hz | hlt
    · exact hne hz
    · exact absurd hge (UInt64.not_le.mpr hlt)
  have hpoll : c.requestSender.poll nowNs = (.unavailable, c.requestSender) := by
    rw [ReliableSender.poll, if_pos (.inl (by rw [h.state]; exact nofun))]
  have hpending : ¬ c.pending = false := by rw [h.pending]; exact nofun
  by_cases hsealed : c.isSealed = false
  · rw [poll, if_pos hsealed]
    exact ⟨rfl, rfl⟩
  · rw [poll, if_neg hsealed, if_neg hpending, if_neg hdead, hpoll]
    exact ⟨rfl, rfl⟩

end CanRpcClient

namespace CanRpcServer

variable {service : RpcService}

/-- `Poll` with a writer that accepts everything sends the rest of the response. -/
def Resumes (s : CanRpcServer service) (nowNs : UInt64) : Prop :=
  (s.poll nowNs acceptingWriter).writer.accepted = s.responseSender.remaining ∧
    (s.poll nowNs acceptingWriter).server.responseSender.state = .waitingForAck

theorem server_stays_sending {s : CanRpcServer service}
    (h : s.responseSender.state = .sending) (nowNs : UInt64) (writer : CanFrameWriter) :
    (s.poll nowNs writer).server = s ∧ (s.poll nowNs writer).writer = writer := by
  have hpoll : s.responseSender.poll nowNs = (.unavailable, s.responseSender) := by
    rw [ReliableSender.poll, if_pos (.inl (by rw [h]; exact nofun))]
  rw [poll, hpoll]
  exact ⟨rfl, rfl⟩

end CanRpcServer

/-- Whatever happened before, the next `Poll` does not resume a transmission that a rejected
    write stopped: neither that of a request nor that of a response. -/
theorem not_resumes {service : RpcService} {κ : Type} (client : CanRpcClient service κ)
    (server : CanRpcServer service) (nowNs : UInt64) :
    (client.Blocked nowNs → ¬ client.Resumes nowNs) ∧
      (server.responseSender.state = .sending → ¬ server.Resumes nowNs) := by
  constructor
  · rintro hblocked ⟨-, hwaiting⟩
    rw [(CanRpcClient.client_stays_sending hblocked acceptingWriter).1, hblocked.state] at hwaiting
    cases hwaiting
  · rintro hsending ⟨-, hwaiting⟩
    rw [(CanRpcServer.server_stays_sending hsending nowNs acceptingWriter).1, hsending] at hwaiting
    cases hwaiting

namespace RpcLink

private def blockedService : RpcService where
  descriptor := ⟨"s", Vector.replicate 16 0, ⟨"q", Vector.replicate 16 0, 0⟩,
    ⟨"r", Vector.replicate 16 0, 4⟩, ""⟩
  requestSize := 0
  responseSize := 4
  request_fits := emptyRequest_fits
  response_fits := by decide

/-- The request arrives; the writer of the server takes the acknowledgement and the first
    frame of the response, and that of the client the first frame of the retransmission. -/
private def blockedRun : List RpcLinkAction :=
  [.callAsync blockedService.descriptor [] 0 ⟨.ok, 0⟩ fun _ => .ok,
    .deliverToServer 0 {} ⟨.ok, 0⟩ fun _ => .ok,
    .deliverToServer 0 ⟨.ok, some (.answer .ok [1, 2, 3, 4], ⟨.ok, 0⟩)⟩ ⟨.ok, 0⟩
      fun k => if k < 2 then .ok else .unavailable,
    .pollClient 5000000 fun k => if k < 1 then .ok else .unavailable]

/-- Both senders of the run are stopped, and neither `Poll` resumes. -/
theorem not_resumes_blockedRun :
    ¬ (Machine.run step (init controlConfig : RpcLink blockedService)
        blockedRun).client.Resumes 6000000 ∧
      ¬ (Machine.run step (init controlConfig : RpcLink blockedService)
        blockedRun).server.Resumes 6000000 :=
  have h := not_resumes (Machine.run step (init controlConfig : RpcLink blockedService)
    blockedRun).client (Machine.run step (init controlConfig) blockedRun).server 6000000
  ⟨h.1 (by decide +kernel), h.2 (by decide +kernel)⟩

/-- One fragment of the request and one of the response are left, `Poll` with a writer that
    accepts everything writes nothing, and both senders stay in `kSending`. -/
theorem poll_writes_nothing :
    ∃ s : RpcLink blockedService, s = Machine.run step (init controlConfig) blockedRun ∧
      s.client.Blocked 6000000 ∧ s.client.requestSender.remaining.length = 1 ∧
      (s.client.poll 6000000 acceptingWriter).writer.accepted = [] ∧
      (s.client.poll 6000000 acceptingWriter).client.requestSender.state = .sending ∧
      s.server.responseSender.state = .sending ∧ s.server.responseSender.remaining.length = 1 ∧
      (s.server.poll 6000000 acceptingWriter).writer.accepted = [] ∧
      (s.server.poll 6000000 acceptingWriter).server.responseSender.state = .sending :=
  ⟨_, rfl, by decide +kernel⟩

end RpcLink

end AsterCtrl.Can
