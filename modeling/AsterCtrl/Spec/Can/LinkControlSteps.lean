import AsterCtrl.Native.Can.LinkControl
import AsterCtrl.Spec.Can.ReliableReceiverCorrect
import AsterCtrl.Spec.Can.ReliableSenderInvariant

/-!
# What the operations of the link control plane do

The plane has two sides that hardly meet: what it sends (handshakes, heartbeats, the time) and
what it has learnt of the peer (`PeerSide`, with the gate that follows from it).  `Poll` works on
the first and touches the second only at its beginning; `Accept` works on the second.  The
heartbeats that a call offers are read off the frames that it offers to the writer.

## Key results

- `pollPart_pollHandshake`: the parts of `Poll` before the heartbeat
- `peerSide_poll`: what `Poll` does to the view of the peer
- `accept_cases`: every way `Accept` can end
-/

namespace AsterCtrl.Can

open ControlFrameCodec

/-- What a control plane knows of its peer. -/
structure PeerSide where
  config : CanLinkControlConfig
  valid : Bool
  heartbeat : HeartbeatMonitor
  timeSync : TimeSyncFollower
  handshakeReceiver : ReliableReceiver HandshakeCodec.kEncodedSize
  hasLastPoll : Bool
  lastPollNs : UInt64
  compatibility : Compatibility
  handshakeReceived : Bool
  applicationEnabled : Bool
  hasPeerHeartbeat : Bool
  peerHeartbeatSequence : UInt8
  peerUptimeMs : UInt32
  peerRestarts : UInt32

namespace CanLinkControlPlane

def peerSide (s : CanLinkControlPlane) : PeerSide where
  config := s.config
  valid := s.valid
  heartbeat := s.heartbeat
  timeSync := s.timeSync
  handshakeReceiver := s.handshakeReceiver
  hasLastPoll := s.hasLastPoll
  lastPollNs := s.lastPollNs
  compatibility := s.compatibility
  handshakeReceived := s.handshakeReceived
  applicationEnabled := s.applicationEnabled
  hasPeerHeartbeat := s.hasPeerHeartbeat
  peerHeartbeatSequence := s.peerHeartbeatSequence
  peerUptimeMs := s.peerUptimeMs
  peerRestarts := s.stats.peerRestarts

end CanLinkControlPlane

/-! ## Heartbeats among the frames -/

/-- A heartbeat that was offered to the writer. -/
structure HeartbeatAttempt where
  heartbeat : Heartbeat
  accepted : Bool
deriving DecidableEq

/-- The heartbeats among the frames that were offered. -/
def CanFrameWriter.heartbeatAttempts (w : CanFrameWriter) : List HeartbeatAttempt :=
  w.offered.filterMap fun entry =>
    (ControlFrameCodec.decodeHeartbeat entry.1).toOption.map fun heartbeat =>
      ⟨heartbeat, entry.2 = .ok⟩

namespace ControlFrameCodec

/-- A control frame is recognised by its arbitration id, its size and its header. -/
theorem isControlFrame_iff {frame : CanFrame} {routeId : UInt16} {header : UInt8} :
    isControlFrame frame routeId header = true ↔
      ∃ id, CanArbitrationId.decode frame.arbitrationId = some id ∧ id.priority = .critical ∧
        id.routeId = routeId ∧ frame.size = 8 ∧ frame.header = header := by
  unfold isControlFrame
  cases CanArbitrationId.decode frame.arbitrationId with
  | none => simp
  | some id => simp

theorem decodeHeartbeat_eq_none {frame : CanFrame}
    (h : ∀ id, CanArbitrationId.decode frame.arbitrationId = some id →
      id.routeId = kHeartbeatRouteId → frame.header ≠ 0xc0) :
    (decodeHeartbeat frame).toOption = none := by
  have hframe : isControlFrame frame kHeartbeatRouteId 0xc0 = false := by
    rw [← Bool.not_eq_true, isControlFrame_iff]
    rintro ⟨id, hid, -, hroute, -, hheader⟩
    exact h id hid hroute hheader
  rw [decodeHeartbeat, if_pos hframe]
  rfl

/-- A frame with a reliable header is no heartbeat. -/
theorem decodeHeartbeat_reliable {frame : CanFrame} (h : getFrameKind frame.header = .reliable) :
    (decodeHeartbeat frame).toOption = none := by
  refine decodeHeartbeat_eq_none fun _ _ _ hheader => ?_
  rw [hheader] at h
  exact absurd h (by decide)

end ControlFrameCodec

namespace CanFrameWriter

theorem heartbeatAttempts_send (w : CanFrameWriter) (frame : CanFrame) :
    (w.send frame).2.heartbeatAttempts = w.heartbeatAttempts ++
      ((decodeHeartbeat frame).toOption.map fun heartbeat =>
        ⟨heartbeat, w.outcome 0 = .ok⟩).toList := by
  rw [heartbeatAttempts, send_offered, List.filterMap_append]
  cases h : (decodeHeartbeat frame).toOption <;>
    simp [heartbeatAttempts, h]

theorem heartbeatAttempts_send_of_none {frame : CanFrame}
    (h : (decodeHeartbeat frame).toOption = none) (w : CanFrameWriter) :
    (w.send frame).2.heartbeatAttempts = w.heartbeatAttempts := by
  rw [heartbeatAttempts_send, h, Option.map_none, Option.toList_none, List.append_nil]

end CanFrameWriter

theorem heartbeatAttempts_acknowledge (w : CanFrameWriter) {acknowledgement : CanFrame}
    (h : acknowledgement.size ≠ 0 → getFrameKind acknowledgement.header = .reliable) :
    (acknowledge w acknowledgement).2.heartbeatAttempts = w.heartbeatAttempts := by
  unfold acknowledge
  split
  · rename_i hsize
    exact CanFrameWriter.heartbeatAttempts_send_of_none
      (decodeHeartbeat_reliable (h hsize)) w
  · rfl

theorem ReliableSender.heartbeatAttempts_pumpLoop {maxSize : Nat} (fuel : Nat)
    (s : ReliableSender maxSize) (w : CanFrameWriter) :
    (pumpLoop fuel s w).2.2.heartbeatAttempts = w.heartbeatAttempts := by
  induction fuel generalizing s w with
  | zero => rfl
  | succ fuel ih =>
    rw [pumpLoop]
    by_cases hst : s.state = .sending
    · rw [nextFrame_of_sending hst]
      have hframe : (w.send s.currentFrame).2.heartbeatAttempts = w.heartbeatAttempts := by
        refine CanFrameWriter.heartbeatAttempts_send_of_none
          (decodeHeartbeat_reliable ?_) w
        rw [currentFrame, dataFrame, CanFrame.header_frameData]
        exact getFrameKind_reliableHeader _ _
      dsimp only [sendFrame]
      split
      · exact hframe
      · exact (ih _ _).trans hframe
    · rw [nextFrame_of_ne hst]

namespace CanLinkControlPlane

/-! ## Poll -/

/-- No heartbeat was offered and no number was used. -/
structure KeepsNumber (s : CanLinkControlPlane) (w : CanFrameWriter) (s' : CanLinkControlPlane)
    (w' : CanFrameWriter) : Prop where
  config : s'.config = s.config
  sequence : s'.heartbeatSequence = s.heartbeatSequence
  attempts : w'.heartbeatAttempts = w.heartbeatAttempts

/-- What a part of `Poll` does that sends no heartbeat. -/
structure PollPart (s : CanLinkControlPlane) (w : CanFrameWriter) (s' : CanLinkControlPlane)
    (w' : CanFrameWriter) : Prop extends KeepsNumber s w s' w' where
  peerSide : s'.peerSide = s.peerSide

variable {s s' s'' : CanLinkControlPlane} {w w' w'' : CanFrameWriter}

theorem KeepsNumber.trans (h : KeepsNumber s w s' w') (h' : KeepsNumber s' w' s'' w'') :
    KeepsNumber s w s'' w'' :=
  ⟨h'.config.trans h.config, h'.sequence.trans h.sequence, h'.attempts.trans h.attempts⟩

theorem PollPart.trans (h : PollPart s w s' w') (h' : PollPart s' w' s'' w'') :
    PollPart s w s'' w'' :=
  ⟨h.toKeepsNumber.trans h'.toKeepsNumber, h'.peerSide.trans h.peerSide⟩

variable (s : CanLinkControlPlane) (nowNs : UInt64) (w : CanFrameWriter)

theorem PollPart.refl : PollPart s w s w :=
  ⟨⟨rfl, rfl, rfl⟩, rfl⟩

theorem pollPart_pumpHandshake :
    PollPart s w (s.pumpHandshake nowNs w).2.1 (s.pumpHandshake nowNs w).2.2 := by
  have hpump := s.handshakeSender.heartbeatAttempts_pumpLoop 256 w
  unfold pumpHandshake
  dsimp only
  split
  · exact ⟨⟨rfl, rfl, hpump⟩, rfl⟩
  · split <;> exact ⟨⟨rfl, rfl, hpump⟩, rfl⟩

/-- The receiver of handshakes is polled, and its state is all that changes. -/
theorem pollPart_pollReceiver :
    PollPart { s with handshakeReceiver := (s.handshakeReceiver.poll nowNs).2 } w
      (s.pollReceiver nowNs w).2.1 (s.pollReceiver nowNs w).2.2 := by
  unfold pollReceiver
  dsimp only
  split
  · exact ⟨⟨rfl, rfl, rfl⟩, rfl⟩
  · split <;> exact .refl _ w

theorem pollPart_resumeHandshake :
    PollPart s w (s.resumeHandshake nowNs w).2.1 (s.resumeHandshake nowNs w).2.2 := by
  unfold resumeHandshake
  split
  · exact pollPart_pumpHandshake s nowNs w
  · exact .refl s w

theorem pollPart_retryHandshake :
    PollPart s w (s.retryHandshake nowNs w).2.1 (s.retryHandshake nowNs w).2.2 := by
  unfold retryHandshake
  dsimp only
  split
  · split
    · refine PollPart.trans ?_ (pollPart_pumpHandshake _ nowNs w)
      exact ⟨⟨rfl, rfl, rfl⟩, rfl⟩
    · split
      · exact ⟨⟨rfl, rfl, rfl⟩, rfl⟩
      · split <;> exact ⟨⟨rfl, rfl, rfl⟩, rfl⟩
  · exact .refl s w

/-- Beginning a handshake and pumping it, whatever the writer answers. -/
theorem pollPart_scheduleHandshake :
    PollPart s w (s.scheduleHandshake nowNs w).2.1 (s.scheduleHandshake nowNs w).2.2 := by
  unfold scheduleHandshake
  dsimp only
  split
  · generalize hstarted : (if senderBusy s.handshakeSender.state = true then _ else _ :
      Status × CanLinkControlPlane × CanFrameWriter) = started
    have hpart : PollPart s w started.2.1 started.2.2 := by
      rw [← hstarted]
      split
      · exact .refl s w
      · split
        · exact ⟨⟨rfl, rfl, rfl⟩, rfl⟩
        · generalize hbegun : ({ s with handshakeSender := _, handshakeSequence := _ } :
            CanLinkControlPlane) = begun
          have hpumped : PollPart s w (begun.pumpHandshake nowNs w).2.1
              (begun.pumpHandshake nowNs w).2.2 := by
            refine PollPart.trans ?_ (pollPart_pumpHandshake begun nowNs w)
            rw [← hbegun]
            exact ⟨⟨rfl, rfl, rfl⟩, rfl⟩
          split
          · exact hpumped
          · exact hpumped.trans ⟨⟨rfl, rfl, rfl⟩, rfl⟩
    split
    · exact hpart
    · exact hpart.trans ⟨⟨rfl, rfl, rfl⟩, rfl⟩
  · exact .refl s w

theorem pollPart_sendTimeSync :
    PollPart s w (s.sendTimeSync nowNs w).2.1 (s.sendTimeSync nowNs w).2.2 := by
  unfold sendTimeSync
  dsimp only
  split
  · cases hencode : encodeTimeSync _ with
    | error status => exact ⟨⟨rfl, rfl, rfl⟩, rfl⟩
    | ok frame =>
      have hheader : (decodeHeartbeat frame).toOption = none := by
        unfold encodeTimeSync at hencode
        split at hencode
        · cases hencode
        · dsimp only at hencode
          split at hencode
          · cases hencode
          · obtain rfl := Except.ok.inj hencode
            refine decodeHeartbeat_eq_none fun _ _ _ => ?_
            rw [CanFrame.header_frameData]
            decide
      have hsend := CanFrameWriter.heartbeatAttempts_send_of_none hheader w
      dsimp only
      split <;> exact ⟨⟨rfl, rfl, hsend⟩, rfl⟩
  · exact .refl s w

theorem peerSide_sendHeartbeat : (s.sendHeartbeat nowNs w).2.1.peerSide = s.peerSide := by
  unfold sendHeartbeat
  dsimp only
  split
  · split
    · rfl
    · split <;> rfl
  · rfl

/-- A part of `Poll` runs unless the one before has failed. -/
theorem andThen_induct {P Q : CanLinkControlPlane → CanFrameWriter → Prop}
    {result : Status × CanLinkControlPlane × CanFrameWriter}
    {next : CanLinkControlPlane → CanFrameWriter → Status × CanLinkControlPlane × CanFrameWriter}
    (h : P result.2.1 result.2.2) (hstop : ∀ s w, P s w → Q s w)
    (hnext : ∀ s w, P s w → Q (next s w).2.1 (next s w).2.2) :
    Q (andThen result next).2.1 (andThen result next).2.2 := by
  unfold andThen
  split
  · exact hstop _ _ h
  · exact hnext _ _ h

/-- The parts of `Poll` before the heartbeat. -/
def pollHandshake (s : CanLinkControlPlane) (nowNs : UInt64) (w : CanFrameWriter) :
    Status × CanLinkControlPlane × CanFrameWriter :=
  andThen (andThen (andThen (s.pollReceiver nowNs w) fun s w => s.resumeHandshake nowNs w)
    fun s w => s.retryHandshake nowNs w) fun s w => s.scheduleHandshake nowNs w

theorem pollPart_pollHandshake :
    PollPart { s with handshakeReceiver := (s.handshakeReceiver.poll nowNs).2 } w
      (s.pollHandshake nowNs w).2.1 (s.pollHandshake nowNs w).2.2 := by
  refine andThen_induct (andThen_induct (andThen_induct (pollPart_pollReceiver s nowNs w)
    (fun _ _ => id) ?_) (fun _ _ => id) ?_) (fun _ _ => id) ?_
  · exact fun s w h => h.trans (pollPart_resumeHandshake s nowNs w)
  · exact fun s w h => h.trans (pollPart_retryHandshake s nowNs w)
  · exact fun s w h => h.trans (pollPart_scheduleHandshake s nowNs w)

/-- The plane once `Poll` has asked the heartbeat monitor and refreshed the gate. -/
def noticePoll (s : CanLinkControlPlane) (nowNs : UInt64) : CanLinkControlPlane :=
  refreshApplicationGate { s with
    hasLastPoll := true, lastPollNs := nowNs, heartbeat := s.heartbeat.poll nowNs }

theorem poll_eq {s : CanLinkControlPlane} {nowNs : UInt64} {interrupt : Bool}
    (hpoll : s.pollRejected nowNs interrupt = false) (w : CanFrameWriter) :
    s.poll nowNs interrupt w =
      andThen (andThen ((s.noticePoll nowNs).pollHandshake nowNs w)
        fun s w => s.sendHeartbeat nowNs w) fun s w => s.sendTimeSync nowNs w := by
  unfold poll
  rw [hpoll, if_neg Bool.false_ne_true]
  rfl

/-- After the heartbeat monitor and the receiver of handshakes no part of `Poll` changes the view
    of the peer, and no early return leaves them out. -/
theorem peerSide_poll {s : CanLinkControlPlane} {nowNs : UInt64} {interrupt : Bool}
    (hpoll : s.pollRejected nowNs interrupt = false) (writer : CanFrameWriter) :
    (s.poll nowNs interrupt writer).2.1.peerSide =
      { (s.noticePoll nowNs).peerSide with
        handshakeReceiver := (s.handshakeReceiver.poll nowNs).2 } := by
  rw [poll_eq hpoll]
  have hpart := pollPart_pollHandshake (s.noticePoll nowNs) nowNs writer
  refine andThen_induct (P := fun s' _ => s'.peerSide = _) (Q := fun s' _ => s'.peerSide = _)
    (andThen_induct (P := fun s' _ => s'.peerSide = _) (Q := fun s' _ => s'.peerSide = _)
      hpart.peerSide (fun _ _ => id) ?_) (fun _ _ => id) ?_
  · exact fun s w h => (peerSide_sendHeartbeat s nowNs w).trans h
  · exact fun s w h => (pollPart_sendTimeSync s nowNs w).peerSide.trans h

/-- A rejected `Poll` does nothing. -/
theorem poll_rejected {s : CanLinkControlPlane} {nowNs : UInt64} {interrupt : Bool}
    (hpoll : s.pollRejected nowNs interrupt = true) (writer : CanFrameWriter) :
    s.poll nowNs interrupt writer = (.invalidArgument, s, writer) := by
  rw [poll, if_pos hpoll]

/-! ## WriteApplication -/

theorem peerSide_writeApplication (frame : CanFrame) (writer : CanFrameWriter) :
    (s.writeApplication frame writer).2.1.peerSide = s.peerSide := by
  unfold writeApplication
  dsimp only
  split
  · rfl
  · split
    · rfl
    · split <;> rfl

/-- A constructed plane knows nothing of its peer. -/
theorem peerSide_construct (config : CanLinkControlConfig) (writerSet clockSet : Bool) :
    ∃ valid, (construct config writerSet clockSet).peerSide =
      peerSide {
        config := config
        valid := valid
        heartbeat := { timeoutNs := config.heartbeatTimeoutNs
                       recoverySamples := config.recoverySamples }
        handshakeReceiver := { reassemblyTimeoutNs := config.reassemblyTimeoutNs } } := by
  unfold construct
  dsimp only
  split_ifs
  · exact ⟨_, rfl⟩
  · split <;> exact ⟨_, rfl⟩

/-! ## Accept -/

/-- A data frame of the handshake route, which `AcceptHandshake` gives to its receiver. -/
def isHandshakeData (frame : CanFrame) : Bool :=
  match CanArbitrationId.decode frame.arbitrationId with
  | none => false
  | some id => id.priority = .critical ∧ id.routeId = kHandshakeRouteId ∧ frame.size ≠ 0 ∧
      getFrameKind frame.header = .reliable ∧ getReliableSubtype frame.header ≠ .ack

/-- The ways `Accept` ends, by what it does to the view of the peer.  The gate is refreshed
    except where the frame is refused at once. -/
inductive Accepted (s : CanLinkControlPlane) (frame : CanFrame) (localNs : UInt64)
    (w : CanFrameWriter) (result : LinkControlResult) : Prop where
  | refused (data : s.valid = false ∨ isHandshakeData frame = false)
      (plane : result.plane.peerSide = s.peerSide) (decoded : result.decoded = none)
      (observed : result.observed = none) (restarted : result.restarted = false)
      (writer : result.writer = w)
  | ignored (data : isHandshakeData frame = false)
      (plane : result.plane.peerSide = s.refreshApplicationGate.peerSide)
      (decoded : result.decoded = none) (observed : result.observed = none)
      (restarted : result.restarted = false) (writer : result.writer = w)
  | handshakePart (data : isHandshakeData frame = true) (valid : s.valid = true)
      (plane : result.plane.peerSide = (refreshApplicationGate { s with
        handshakeReceiver :=
          (s.handshakeReceiver.acceptAt frame localNs).2 }).peerSide)
      (decoded : result.decoded = none) (observed : result.observed = none)
      (restarted : result.restarted = false)
      (writer : result.writer = (acknowledge w
        (s.handshakeReceiver.acceptAt frame localNs).1.acknowledgement).2)
      (untaken : (acknowledge w
          (s.handshakeReceiver.acceptAt frame localNs).1.acknowledgement).1 ≠ .ok ∨
        (s.handshakeReceiver.acceptAt frame localNs).1.status ≠ .ok ∨
        result.status = .typeMismatch ∧ ∀ remote, HandshakeCodec.decode
          (s.handshakeReceiver.acceptAt frame localNs).1.message.payload = .ok remote →
            remote.nodeId ≠ s.config.peerNodeId)
  | handshake (remote : Handshake) (data : isHandshakeData frame = true) (valid : s.valid = true)
      (complete : (s.handshakeReceiver.acceptAt frame localNs).1.status = .ok)
      (node : remote.nodeId = s.config.peerNodeId)
      (plane : result.plane.peerSide = (refreshApplicationGate { s with
        handshakeReceiver := (s.handshakeReceiver.acceptAt frame localNs).2
        handshakeReceived := true
        compatibility := CompatibilityGuard.check s.config.localHandshake remote }).peerSide)
      (decoded : result.decoded = some remote) (observed : result.observed = none)
      (restarted : result.restarted = false)
      (writer : result.writer = (acknowledge w
        (s.handshakeReceiver.acceptAt frame localNs).1.acknowledgement).2)
      (payload : HandshakeCodec.decode
        (s.handshakeReceiver.acceptAt frame localNs).1.message.payload = .ok remote)
  | restart (heartbeat : Heartbeat) (valid : s.valid = true)
      (decode : ControlFrameCodec.decodeHeartbeat frame = .ok heartbeat)
      (node : heartbeat.nodeId = s.config.peerNodeId)
      (verdict : s.judgeHeartbeat heartbeat = .restart)
      (plane : result.plane.peerSide = (s.handlePeerRestart.observeHeartbeat heartbeat
        localNs).refreshApplicationGate.peerSide)
      (decoded : result.decoded = none) (observed : result.observed = some heartbeat.sequence)
      (restarted : result.restarted = true) (writer : result.writer = w)
  | heartbeat (heartbeat : Heartbeat) (valid : s.valid = true)
      (decode : ControlFrameCodec.decodeHeartbeat frame = .ok heartbeat)
      (node : heartbeat.nodeId = s.config.peerNodeId)
      (verdict : s.judgeHeartbeat heartbeat = .fresh)
      (plane : result.plane.peerSide =
        (s.observeHeartbeat heartbeat localNs).refreshApplicationGate.peerSide)
      (decoded : result.decoded = none) (observed : result.observed = some heartbeat.sequence)
      (restarted : result.restarted = false) (writer : result.writer = w)
  | timeSync (sync : TimeSync) (valid : s.valid = true) (follower : s.config.timeAuthority = false)
      (decode : ControlFrameCodec.decodeTimeSync frame = .ok sync)
      (plane : result.plane.peerSide = (refreshApplicationGate { s with
        timeSync := s.timeSync.observe (sync.masterTimeUs * 1000) localNs }).peerSide)
      (decoded : result.decoded = none) (observed : result.observed = none)
      (restarted : result.restarted = false) (writer : result.writer = w)

variable {frame : CanFrame} {id : DecodedArbitrationId}

theorem isHandshakeData_of_decode (h : CanArbitrationId.decode frame.arbitrationId = some id) :
    isHandshakeData frame = true ↔ id.priority = .critical ∧ id.routeId = kHandshakeRouteId ∧
      frame.size ≠ 0 ∧ getFrameKind frame.header = .reliable ∧
      getReliableSubtype frame.header ≠ .ack := by
  simp [isHandshakeData, h]

/-- A frame of another control route is no data of a handshake. -/
theorem isHandshakeData_of_route (h : CanArbitrationId.decode frame.arbitrationId = some id)
    (hroute : id.routeId ≠ kHandshakeRouteId) : isHandshakeData frame = false := by
  rw [← Bool.not_eq_true, isHandshakeData_of_decode h]
  exact fun hdata => hroute hdata.2.1

theorem acceptHandshake_cases {s : CanLinkControlPlane}
    (hid : CanArbitrationId.decode frame.arbitrationId = some id) (hvalid : s.valid = true)
    (hpriority : id.priority = .critical) (hroute : id.routeId = kHandshakeRouteId)
    (localNs : UInt64) (writer : CanFrameWriter) :
    Accepted s frame localNs writer
      (finishAccept (s.acceptHandshake frame localNs writer)) := by
  unfold acceptHandshake
  by_cases hkind : frame.size = 0 ∨ getFrameKind frame.header ≠ .reliable
  · rw [if_pos hkind]
    refine .ignored ?_ rfl rfl rfl rfl rfl
    rw [← Bool.not_eq_true, isHandshakeData_of_decode hid]
    rintro ⟨-, -, hsize, hreliable, -⟩
    exact hkind.elim hsize (not_not_intro hreliable)
  rw [if_neg hkind]
  by_cases hack : getReliableSubtype frame.header = .ack
  · rw [if_pos hack]
    refine .ignored ?_ rfl rfl rfl rfl rfl
    rw [← Bool.not_eq_true, isHandshakeData_of_decode hid]
    exact fun hdata => hdata.2.2.2.2 hack
  rw [if_neg hack]
  have hdata : isHandshakeData frame = true := by
    rw [isHandshakeData_of_decode hid]
    simp only [not_or, Decidable.not_not] at hkind
    exact ⟨hpriority, hroute, hkind.1, hkind.2, hack⟩
  dsimp only
  by_cases hacked : (acknowledge writer
      (s.handshakeReceiver.acceptAt frame localNs).1.acknowledgement).1 ≠ .ok
  · rw [if_pos hacked]
    exact .handshakePart hdata hvalid rfl rfl rfl rfl rfl (.inl hacked)
  rw [if_neg hacked]
  unfold takeHandshake
  by_cases hst : (s.handshakeReceiver.acceptAt frame localNs).1.status ≠ .ok
  · rw [if_pos hst]
    exact .handshakePart hdata hvalid rfl rfl rfl rfl rfl (.inr (.inl hst))
  rw [if_neg hst]
  cases hdecode : HandshakeCodec.decode
      (s.handshakeReceiver.acceptAt frame localNs).1.message.payload with
  | error =>
    refine .handshakePart hdata hvalid rfl rfl rfl rfl rfl (.inr (.inr ⟨rfl, ?_⟩))
    exact fun remote hok => by cases hdecode.symm.trans hok
  | ok remote =>
    dsimp only
    by_cases hnode : remote.nodeId ≠ s.config.peerNodeId
    · rw [if_pos hnode]
      refine .handshakePart hdata hvalid rfl rfl rfl rfl rfl (.inr (.inr ⟨rfl, ?_⟩))
      exact fun remote' hok => Except.ok.inj (hdecode.symm.trans hok) ▸ hnode
    · rw [if_neg hnode]
      exact .handshake remote hdata hvalid (Decidable.not_not.mp hst) (Decidable.not_not.mp hnode)
        rfl rfl rfl rfl rfl hdecode

theorem acceptHeartbeat_cases {s : CanLinkControlPlane} (hvalid : s.valid = true)
    (hdata : isHandshakeData frame = false) (localNs : UInt64) (writer : CanFrameWriter) :
    Accepted s frame localNs writer
      (finishAccept (s.acceptHeartbeat frame localNs writer)) := by
  unfold acceptHeartbeat
  cases hdecode : decodeHeartbeat frame with
  | error => exact .ignored hdata rfl rfl rfl rfl rfl
  | ok heartbeat =>
    dsimp only
    by_cases hnode : heartbeat.nodeId ≠ s.config.peerNodeId
    · rw [if_pos hnode]
      exact .ignored hdata rfl rfl rfl rfl rfl
    rw [if_neg hnode]
    replace hnode := Decidable.not_not.mp hnode
    cases hverdict : s.judgeHeartbeat heartbeat with
    | restart => exact .restart heartbeat hvalid hdecode hnode hverdict rfl rfl rfl rfl rfl
    | stale => exact .ignored hdata rfl rfl rfl rfl rfl
    | duplicate => exact .ignored hdata rfl rfl rfl rfl rfl
    | fresh => exact .heartbeat heartbeat hvalid hdecode hnode hverdict rfl rfl rfl rfl rfl

theorem acceptTimeSync_cases {s : CanLinkControlPlane} (hvalid : s.valid = true)
    (hdata : isHandshakeData frame = false) (localNs : UInt64) (writer : CanFrameWriter) :
    Accepted s frame localNs writer
      (finishAccept (s.acceptTimeSync frame localNs writer)) := by
  unfold acceptTimeSync
  by_cases hauthority : s.config.timeAuthority = true
  · rw [if_pos hauthority]
    exact .ignored hdata rfl rfl rfl rfl rfl
  rw [if_neg hauthority]
  cases hdecode : decodeTimeSync frame with
  | error => exact .ignored hdata rfl rfl rfl rfl rfl
  | ok sync =>
    exact .timeSync sync hvalid (Bool.not_eq_true _ ▸ hauthority) hdecode rfl rfl rfl rfl rfl

theorem accept_cases (frame : CanFrame) (localNs : UInt64) (writer : CanFrameWriter) :
    Accepted s frame localNs writer (s.accept frame localNs writer) := by
  unfold accept
  by_cases hvalid : s.valid = false
  · rw [if_pos hvalid]
    exact .refused (.inl hvalid) rfl rfl rfl rfl rfl
  rw [if_neg hvalid]
  replace hvalid : s.valid = true := Bool.not_eq_false _ ▸ hvalid
  cases hid : CanArbitrationId.decode frame.arbitrationId with
  | none => exact .refused (.inr (by simp [isHandshakeData, hid])) rfl rfl rfl rfl rfl
  | some id =>
    dsimp only
    by_cases hpriority : id.priority ≠ .critical
    · rw [if_pos hpriority]
      refine .refused (.inr ?_) rfl rfl rfl rfl rfl
      rw [← Bool.not_eq_true, isHandshakeData_of_decode hid]
      exact fun hdata => hpriority hdata.1
    rw [if_neg hpriority]
    by_cases hhandshake : id.routeId = kHandshakeRouteId
    · rw [if_pos hhandshake]
      exact acceptHandshake_cases hid hvalid (Decidable.not_not.mp hpriority) hhandshake _ _
    rw [if_neg hhandshake]
    have hdata := isHandshakeData_of_route hid hhandshake
    by_cases hheartbeat : id.routeId = kHeartbeatRouteId
    · rw [if_pos hheartbeat]
      exact acceptHeartbeat_cases hvalid hdata _ _
    rw [if_neg hheartbeat]
    by_cases hsync : id.routeId = kTimeSyncRouteId
    · rw [if_pos hsync]
      exact acceptTimeSync_cases hvalid hdata _ _
    · rw [if_neg hsync]
      exact .refused (.inr hdata) rfl rfl rfl rfl rfl

end CanLinkControlPlane

end AsterCtrl.Can
