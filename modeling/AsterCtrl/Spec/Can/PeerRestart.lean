import Mathlib.Data.List.Induction
import Mathlib.Order.Monotone.Defs
import AsterCtrl.Spec.Can.LinkGate

/-!
# Restarts of the peer

A peer numbers the heartbeats of a session from 0 and stamps them with the milliseconds since
its start.  The control plane keeps the last heartbeat it took and calls a heartbeat a restart
when the uptime went back, modulo 2^32, while the sequence either did not go back or is 0 or 1.

The theorem says for every history of the old session exactly which heartbeat of the new session
shows the restart.  Most do: what is missing are the ones that come after a silence longer than
the old session had lasted, and the third and later ones of a session whose number is still
below that of the old one.

## Key results

- `judgeHeartbeat_eq_restart_iff`: the comparison in terms of uptimes and counts
- `noticed_iff_restartVisible`: which restarts are noticed
-/

namespace AsterCtrl.Can

open ControlFrameCodec

/-! ## Sessions -/

/-- One session of the peer: the milliseconds from its start to each of its heartbeats, and the
    state flags they carry. -/
structure PeerSession where
  uptimeMs : ℕ → ℕ
  stateFlags : ℕ → UInt8 := fun _ => 0
  monotone : Monotone uptimeMs

/-- Heartbeat number `k` of the session. -/
def PeerSession.heartbeat (session : PeerSession) (nodeId : UInt8) (k : ℕ) : Heartbeat :=
  ⟨nodeId, UInt8.ofNat k, session.stateFlags k, UInt32.ofNat (session.uptimeMs k)⟩

/-- The heartbeat of the peer that the action brings, if any. -/
def peerHeartbeat (config : CanLinkControlConfig) : LinkAction → Option Heartbeat
  | .accept frame _ _ =>
    match ControlFrameCodec.decodeHeartbeat frame with
    | .error _ => none
    | .ok heartbeat => if heartbeat.nodeId = config.peerNodeId then some heartbeat else none
  | _ => none

theorem peerHeartbeat_eq_some {config : CanLinkControlConfig} {action : LinkAction}
    {heartbeat : Heartbeat} (h : peerHeartbeat config action = some heartbeat) :
    ∃ frame localNs outcome, action = .accept frame localNs outcome ∧
      decodeHeartbeat frame = .ok heartbeat ∧
      heartbeat.nodeId = config.peerNodeId := by
  cases action with
  | poll nowNs interrupt outcome => cases h
  | writeApplication frame outcome => cases h
  | accept frame localNs outcome =>
    dsimp only [peerHeartbeat] at h
    split at h
    · cases h
    · rename_i decoded hdecode
      split at h
      · rename_i hnode
        obtain rfl := Option.some.inj h
        exact ⟨frame, localNs, outcome, rfl, hdecode, hnode⟩
      · cases h

/-- The heartbeat that shows a restart, in terms of what was really counted: relative to the
    heartbeat of the old session that was taken last, the uptime is behind by at most half the
    range of the counter, and the number is 0, 1, or at most 127 ahead. -/
def RestartVisible (oldUptimeMs oldIndex newUptimeMs newIndex : ℕ) : Prop :=
  2 ^ 31 ≤ (newUptimeMs + 2 ^ 32 - oldUptimeMs % 2 ^ 32) % 2 ^ 32 ∧
    ((newIndex + 256 - oldIndex % 256) % 256 ≤ 127 ∨ newIndex % 256 ≤ 1)

instance (oldUptimeMs oldIndex newUptimeMs newIndex : ℕ) :
    Decidable (RestartVisible oldUptimeMs oldIndex newUptimeMs newIndex) :=
  inferInstanceAs (Decidable (_ ∧ _))

namespace CanLinkControlPlane

/-- The plane took the heartbeat last. -/
structure Remembers (s : CanLinkControlPlane) (heartbeat : Heartbeat) : Prop where
  has : s.hasPeerHeartbeat = true
  sequence : s.peerHeartbeatSequence = heartbeat.sequence
  uptimeMs : s.peerUptimeMs = heartbeat.uptimeMs

/-- The plane `s'` has counted a restart since `s` and has discarded the handshake, the
    heartbeats and the time of the old session; it has seen one heartbeat of the new one. -/
structure Noticed (s s' : CanLinkControlPlane) (heartbeat : Heartbeat)
    (localNs : UInt64) : Prop where
  counted : s'.stats.peerRestarts = s.stats.peerRestarts + 1
  handshake : s'.handshakeReceived = false
  monitor : s'.heartbeat = ({ timeoutNs := s.config.heartbeatTimeoutNs
                              recoverySamples := s.config.recoverySamples } :
    HeartbeatMonitor).observe heartbeat.sequence localNs
  timeSync : s'.timeSync = {}
  gate : s'.applicationEnabled = false

/-- The comparison of `AcceptHeartbeat` in terms of what the two sessions really counted. -/
theorem judgeHeartbeat_eq_restart_iff {s : CanLinkControlPlane} {old new : PeerSession}
    {nodeId : UInt8} {n : ℕ} (h : s.Remembers (old.heartbeat nodeId n)) (m : ℕ) :
    s.judgeHeartbeat (new.heartbeat nodeId m) = .restart ↔
      RestartVisible (old.uptimeMs n) n (new.uptimeMs m) m := by
  have hhas : ¬ s.hasPeerHeartbeat = false := by simp [h.has]
  have huptime : (new.heartbeat nodeId m).uptimeMs - s.peerUptimeMs > 0x7fffffff ↔
      2 ^ 31 ≤ (new.uptimeMs m + 2 ^ 32 - old.uptimeMs n % 2 ^ 32) % 2 ^ 32 := by
    rw [h.uptimeMs, gt_iff_lt, UInt32.lt_iff_toNat_lt, UInt32.toNat_sub]
    simp only [PeerSession.heartbeat, UInt32.toNat_ofNat']
    have : (0x7fffffff : UInt32).toNat = 2 ^ 31 - 1 := rfl
    omega
  have hsequence : (new.heartbeat nodeId m).sequence - s.peerHeartbeatSequence ≤ 127 ↔
      (m + 256 - n % 256) % 256 ≤ 127 := by
    rw [h.sequence, UInt8.le_iff_toNat_le, UInt8.toNat_sub]
    simp only [PeerSession.heartbeat, UInt8.toNat_ofNat']
    have : (127 : UInt8).toNat = 127 := rfl
    omega
  have hfirst : (new.heartbeat nodeId m).sequence ≤ 1 ↔ m % 256 ≤ 1 := by
    rw [UInt8.le_iff_toNat_le]
    simp only [PeerSession.heartbeat, UInt8.toNat_ofNat']
    exact Iff.rfl
  unfold judgeHeartbeat RestartVisible
  dsimp only
  rw [if_neg hhas, ← huptime, ← hsequence, ← hfirst]
  by_cases hback : (new.heartbeat nodeId m).uptimeMs - s.peerUptimeMs > 0x7fffffff ∧
      ((new.heartbeat nodeId m).sequence - s.peerHeartbeatSequence ≤ 127 ∨
        (new.heartbeat nodeId m).sequence ≤ 1)
  · rw [if_pos hback]
    exact iff_of_true rfl hback
  · rw [if_neg hback]
    refine iff_of_false ?_ hback
    split
    · exact nofun
    · split
      · exact nofun
      · split <;> exact nofun

/-- `Accept` of a heartbeat of the peer, by the verdict of the comparison. -/
theorem accept_heartbeat {s : CanLinkControlPlane} (hvalid : s.valid = true) {frame : CanFrame}
    {heartbeat : Heartbeat} (hdecode : decodeHeartbeat frame = .ok heartbeat)
    (hnode : heartbeat.nodeId = s.config.peerNodeId) (localNs : UInt64)
    (writer : CanFrameWriter) :
    (s.accept frame localNs writer).plane.peerSide =
      match s.judgeHeartbeat heartbeat with
      | .restart => (s.handlePeerRestart.observeHeartbeat heartbeat
          localNs).refreshApplicationGate.peerSide
      | .fresh => (s.observeHeartbeat heartbeat localNs).refreshApplicationGate.peerSide
      | .stale | .duplicate => s.refreshApplicationGate.peerSide := by
  have hframe : isControlFrame frame kHeartbeatRouteId 0xc0 = true := by
    by_contra hnot
    rw [decodeHeartbeat, if_pos (Bool.not_eq_true _ ▸ hnot)] at hdecode
    cases hdecode
  obtain ⟨id, hid, hpriority, hroute, -⟩ := isControlFrame_iff.mp hframe
  unfold accept
  rw [if_neg (by simp [hvalid]), hid]
  dsimp only
  rw [if_neg (not_not_intro hpriority), hroute, if_neg (by decide), if_pos rfl, acceptHeartbeat,
    hdecode]
  dsimp only
  rw [if_neg (not_not_intro hnode)]
  cases s.judgeHeartbeat heartbeat <;> rfl

end CanLinkControlPlane

/-- The monitor after the call when the call brings no heartbeat of the peer. -/
def CanLinkControlPlane.monitorAfter (s : CanLinkControlPlane) : LinkAction → HeartbeatMonitor
  | .poll nowNs interrupt _ =>
    if s.pollRejected nowNs interrupt then s.heartbeat else s.heartbeat.poll nowNs
  | _ => s.heartbeat

/-- Nothing but the monitor has changed of what the plane knows of the peer's heartbeats. -/
structure CanLinkControlPlane.SameHeartbeat (s s' : CanLinkControlPlane) : Prop where
  valid : s'.valid = s.valid
  config : s'.config = s.config
  has : s'.hasPeerHeartbeat = s.hasPeerHeartbeat
  sequence : s'.peerHeartbeatSequence = s.peerHeartbeatSequence
  uptimeMs : s'.peerUptimeMs = s.peerUptimeMs
  restarts : s'.stats.peerRestarts = s.stats.peerRestarts

theorem CanLinkControlPlane.SameHeartbeat.of_peerSide {s s₀ s' : CanLinkControlPlane}
    (h₀ : SameHeartbeat s s₀) (hside : s'.peerSide = s₀.peerSide) : SameHeartbeat s s' where
  valid := (congrArg PeerSide.valid hside).trans h₀.valid
  config := (congrArg PeerSide.config hside).trans h₀.config
  has := (congrArg PeerSide.hasPeerHeartbeat hside).trans h₀.has
  sequence := (congrArg PeerSide.peerHeartbeatSequence hside).trans h₀.sequence
  uptimeMs := (congrArg PeerSide.peerUptimeMs hside).trans h₀.uptimeMs
  restarts := (congrArg PeerSide.peerRestarts hside).trans h₀.restarts

theorem CanLinkControlPlane.SameHeartbeat.refl (s : CanLinkControlPlane) : SameHeartbeat s s :=
  ⟨rfl, rfl, rfl, rfl, rfl, rfl⟩

theorem CanLinkControlPlane.sameHeartbeat_refreshApplicationGate (s : CanLinkControlPlane) :
    SameHeartbeat s s.refreshApplicationGate := ⟨rfl, rfl, rfl, rfl, rfl, rfl⟩

namespace LinkHistory

open CanLinkControlPlane

/-- A call that brings no heartbeat of the peer. -/
theorem sameHeartbeat_step {h : LinkHistory} {action : LinkAction}
    (hquiet : peerHeartbeat h.plane.config action = none) :
    SameHeartbeat h.plane (h.step action).plane ∧
      (h.step action).plane.heartbeat = h.plane.monitorAfter action := by
  cases action with
  | poll nowNs interrupt outcome =>
    change SameHeartbeat h.plane (h.plane.poll nowNs interrupt { outcome := outcome }).2.1 ∧
      (h.plane.poll nowNs interrupt { outcome := outcome }).2.1.heartbeat = _
    rw [monitorAfter]
    cases hrejected : h.plane.pollRejected nowNs interrupt with
    | true =>
      rw [poll_rejected hrejected]
      exact ⟨.refl _, rfl⟩
    | false =>
      have hpoll := peerSide_poll hrejected { outcome := outcome }
      exact ⟨⟨congrArg PeerSide.valid hpoll, congrArg PeerSide.config hpoll,
        congrArg PeerSide.hasPeerHeartbeat hpoll, congrArg PeerSide.peerHeartbeatSequence hpoll,
        congrArg PeerSide.peerUptimeMs hpoll, congrArg PeerSide.peerRestarts hpoll⟩,
        congrArg PeerSide.heartbeat hpoll⟩
  | writeApplication frame outcome =>
    have hwrite := peerSide_writeApplication h.plane frame { outcome := outcome }
    exact ⟨(SameHeartbeat.refl _).of_peerSide hwrite, congrArg PeerSide.heartbeat hwrite⟩
  | accept frame localNs outcome =>
    have hpeer : ∀ heartbeat, decodeHeartbeat frame = .ok heartbeat →
        heartbeat.nodeId ≠ h.plane.config.peerNodeId := by
      intro heartbeat hdecode hnode
      rw [peerHeartbeat, hdecode] at hquiet
      exact absurd hquiet (by simp [hnode])
    change SameHeartbeat h.plane (h.plane.accept frame localNs
      { outcome := outcome }).plane ∧ (h.plane.accept frame localNs
        { outcome := outcome }).plane.heartbeat = h.plane.heartbeat
    cases accept_cases h.plane frame localNs { outcome := outcome } with
    | refused _ plane =>
      exact ⟨(SameHeartbeat.refl _).of_peerSide plane, congrArg PeerSide.heartbeat plane⟩
    | ignored _ plane | handshakePart _ _ plane | handshake _ _ _ _ _ plane
    | timeSync _ _ _ _ plane =>
      refine ⟨SameHeartbeat.of_peerSide ?_ plane, congrArg PeerSide.heartbeat plane⟩
      exact ⟨rfl, rfl, rfl, rfl, rfl, rfl⟩
    | restart heartbeat _ decode node => exact absurd node (hpeer heartbeat decode)
    | heartbeat heartbeat _ decode node => exact absurd node (hpeer heartbeat decode)

/-! ## What the plane remembers -/

/-- The plane is set up as configured, and has taken one of the heartbeats it received. -/
structure MemoryInv (config : CanLinkControlConfig) (s : CanLinkControlPlane)
    (received : List Heartbeat) : Prop where
  valid : s.valid = true
  config_eq : s.config = config
  fresh : received = [] → s.hasPeerHeartbeat = false
  remembers : received ≠ [] → ∃ heartbeat ∈ received, s.Remembers heartbeat

variable {config : CanLinkControlConfig} {s : CanLinkControlPlane} {received : List Heartbeat}

theorem MemoryInv.same {s' : CanLinkControlPlane} (h : MemoryInv config s received)
    (hsame : SameHeartbeat s s') : MemoryInv config s' received where
  valid := hsame.valid.trans h.valid
  config_eq := hsame.config.trans h.config_eq
  fresh hnil := hsame.has.trans (h.fresh hnil)
  remembers hne := by
    obtain ⟨heartbeat, hmem, hr⟩ := h.remembers hne
    exact ⟨heartbeat, hmem, hsame.has.trans hr.has, hsame.sequence.trans hr.sequence,
      hsame.uptimeMs.trans hr.uptimeMs⟩

/-- A verdict other than "new" needs a heartbeat to compare with. -/
theorem hasPeerHeartbeat_of_not_fresh {heartbeat : Heartbeat}
    (h : s.judgeHeartbeat heartbeat ≠ .fresh) : s.hasPeerHeartbeat = true := by
  by_contra hnot
  exact h (if_pos (Bool.not_eq_true _ ▸ hnot))

/-- A heartbeat of the peer is taken, or compared with one that was. -/
theorem MemoryInv.heartbeat (h : MemoryInv config s received) {frame : CanFrame}
    {heartbeat : Heartbeat} (hdecode : decodeHeartbeat frame = .ok heartbeat)
    (hnode : heartbeat.nodeId = config.peerNodeId) (localNs : UInt64) (writer : CanFrameWriter) :
    MemoryInv config (s.accept frame localNs writer).plane
      (received ++ [heartbeat]) := by
  have hside := accept_heartbeat h.valid hdecode (h.config_eq.symm ▸ hnode) localNs writer
  generalize (s.accept frame localNs writer).plane = s' at hside ⊢
  have hkept : s'.peerSide = s.refreshApplicationGate.peerSide → s.hasPeerHeartbeat = true →
      MemoryInv config s' (received ++ [heartbeat]) := by
    intro hside hhas
    have hne : received ≠ [] := fun hnil => nomatch hhas.symm.trans (h.fresh hnil)
    obtain ⟨old, hmem, hr⟩ := h.remembers hne
    have hinv : MemoryInv config s' received :=
      h.same ((sameHeartbeat_refreshApplicationGate s).of_peerSide hside)
    refine ⟨hinv.valid, hinv.config_eq, fun hnil => ?_, fun _ => ?_⟩
    · exact absurd hnil (by simp)
    · obtain ⟨old, hmem, hr⟩ := hinv.remembers hne
      exact ⟨old, List.mem_append_left _ hmem, hr⟩
  have htaken : ∀ s₀ : CanLinkControlPlane, s₀.valid = true → s₀.config = config →
      s'.peerSide = (s₀.observeHeartbeat heartbeat localNs).refreshApplicationGate.peerSide →
      MemoryInv config s' (received ++ [heartbeat]) := by
    intro s₀ hvalid hconfig hside
    refine ⟨(congrArg PeerSide.valid hside).trans hvalid,
      (congrArg PeerSide.config hside).trans hconfig, fun hnil => absurd hnil (by simp),
      fun _ => ⟨heartbeat, by simp, congrArg PeerSide.hasPeerHeartbeat hside,
        congrArg PeerSide.peerHeartbeatSequence hside, congrArg PeerSide.peerUptimeMs hside⟩⟩
  cases hverdict : s.judgeHeartbeat heartbeat with
  | restart =>
    rw [hverdict] at hside
    exact htaken s.handlePeerRestart h.valid h.config_eq hside
  | fresh =>
    rw [hverdict] at hside
    exact htaken s h.valid h.config_eq hside
  | stale =>
    rw [hverdict] at hside
    exact hkept hside (hasPeerHeartbeat_of_not_fresh (by rw [hverdict]; exact nofun))
  | duplicate =>
    rw [hverdict] at hside
    exact hkept hside (hasPeerHeartbeat_of_not_fresh (by rw [hverdict]; exact nofun))

/-- Every call keeps what the plane remembers justified by what it received. -/
theorem memoryInv_step {h : LinkHistory} (hinv : MemoryInv config h.plane received)
    (action : LinkAction) :
    MemoryInv config (h.step action).plane
      (received ++ (peerHeartbeat config action).toList) := by
  cases hpeer : peerHeartbeat config action with
  | none =>
    rw [Option.toList_none, List.append_nil]
    exact hinv.same (sameHeartbeat_step (hinv.config_eq.symm ▸ hpeer)).1
  | some heartbeat =>
    obtain ⟨frame, localNs, outcome, rfl, hdecode, hnode⟩ := peerHeartbeat_eq_some hpeer
    exact hinv.heartbeat hdecode hnode localNs _

theorem memoryInv_init (hconfig : config.isValid true true = true) :
    MemoryInv config (init config true true).plane [] := by
  have hencode : HandshakeCodec.encode config.localHandshake HandshakeCodec.kEncodedSize =
      .ok (config.localHandshake.protocolVersion :: config.localHandshake.nodeId ::
        (config.localHandshake.deploymentHash.toList ++
          config.localHandshake.schemaHash.toList)) := by
    simp only [CanLinkControlConfig.isValid, decide_eq_true_eq] at hconfig
    rw [HandshakeCodec.encode, if_neg]
    simp [hconfig.1, hconfig.2.1]
  rw [init, construct, if_neg (by simp [hconfig]), hencode]
  exact ⟨by simp [HandshakeCodec.kEncodedSize], rfl, fun _ => rfl, fun hne => absurd rfl hne⟩

theorem memoryInv_run (hconfig : config.isValid true true = true) (actions : List LinkAction) :
    MemoryInv config (Machine.run step (init config true true) actions).plane
      (actions.filterMap (peerHeartbeat config)) := by
  induction actions using List.reverseRecOn with
  | nil => exact memoryInv_init hconfig
  | append_singleton actions action ih =>
    rw [Machine.run_append, List.filterMap_append]
    have := memoryInv_step ih action
    cases hpeer : peerHeartbeat config action <;> simpa [hpeer] using this

/-! ## Which restarts are noticed -/

/-- After any history in which the heartbeats of the peer came from its old session, a heartbeat
    of the new session makes the plane count a restart and discard the old session exactly when
    it is visible in relation to the heartbeat of the old session that was taken last. -/
theorem noticed_iff_restartVisible (config : CanLinkControlConfig)
    (hconfig : config.isValid true true = true) (old new : PeerSession)
    (actions : List LinkAction) (indices : List ℕ) (hindices : indices ≠ [])
    (hold : actions.filterMap (peerHeartbeat config) =
      indices.map (old.heartbeat config.peerNodeId))
    (m : ℕ) (frame : CanFrame)
    (hframe : ControlFrameCodec.decodeHeartbeat frame =
      .ok (new.heartbeat config.peerNodeId m))
    (localNs : UInt64) (writer : CanFrameWriter) :
    ∃ n ∈ indices, (Machine.run step (init config true true) actions).plane.Remembers
        (old.heartbeat config.peerNodeId n) ∧
      (Noticed (Machine.run step (init config true true) actions).plane
          ((Machine.run step (init config true true) actions).plane.accept frame
            localNs writer).plane (new.heartbeat config.peerNodeId m)
          localNs ↔
        RestartVisible (old.uptimeMs n) n (new.uptimeMs m) m) := by
  have hinv := memoryInv_run hconfig actions
  generalize (Machine.run step (init config true true) actions).plane = s at hinv ⊢
  obtain ⟨heartbeat, hmem, hremembers⟩ := hinv.remembers (by rw [hold]; simpa using hindices)
  rw [hold] at hmem
  obtain ⟨n, hn, rfl⟩ := List.mem_map.mp hmem
  refine ⟨n, hn, hremembers, ?_⟩
  have hside := accept_heartbeat hinv.valid hframe
    (show config.peerNodeId = s.config.peerNodeId by rw [hinv.config_eq]) localNs writer
  generalize (s.accept frame localNs writer).plane = s' at hside ⊢
  rw [← judgeHeartbeat_eq_restart_iff hremembers m]
  constructor
  · -- Without a restart the count stays.
    intro hnoticed
    have hcounted := hnoticed.counted
    by_contra hverdict
    have hsame : s'.peerSide.peerRestarts = s.stats.peerRestarts := by
      cases hjudge : s.judgeHeartbeat (new.heartbeat config.peerNodeId m) with
      | restart => exact absurd hjudge hverdict
      | fresh | stale | duplicate =>
        rw [hjudge] at hside
        rw [hside]
        rfl
    rw [show s'.stats.peerRestarts = s.stats.peerRestarts from hsame] at hcounted
    exact absurd hcounted (by simp)
  · intro hverdict
    rw [hverdict] at hside
    refine ⟨congrArg PeerSide.peerRestarts hside, congrArg PeerSide.handshakeReceived hside,
      congrArg PeerSide.heartbeat hside, congrArg PeerSide.timeSync hside, ?_⟩
    refine (congrArg PeerSide.applicationEnabled hside).trans ?_
    simp [peerSide, refreshApplicationGate, compatible, observeHeartbeat, handlePeerRestart]

/-- Node 1, whose peer is node 2. -/
def restartConfig : CanLinkControlConfig where
  localHandshake := { protocolVersion := 1, nodeId := 1 }
  peerNodeId := 2

/-- A heartbeat every 100 ms. -/
def steadySession : PeerSession where
  uptimeMs k := 100 * k
  monotone _ _ h := Nat.mul_le_mul_left 100 h

def steadyFrame (k : ℕ) : CanFrame :=
  match ControlFrameCodec.encodeHeartbeat (steadySession.heartbeat 2 k) with
  | .ok frame => frame
  | .error _ => {}

/-- The control plane after heartbeat `k` of the old session. -/
private def afterHeartbeat (k : ℕ) : CanLinkControlPlane :=
  (Machine.run step (init restartConfig true true)
    [.accept (steadyFrame k) 0 fun _ => .ok]).plane

/-- After heartbeat 10 of the old session the first one of the new session shows the restart. -/
theorem noticed_iff_restartVisible_first :
    RestartVisible (steadySession.uptimeMs 10) 10 (steadySession.uptimeMs 0) 0 ∧
      Noticed (afterHeartbeat 10)
        ((afterHeartbeat 10).accept (steadyFrame 0) 0 { outcome := fun _ => .ok }).plane
        (steadySession.heartbeat 2 0) 0 := by
  have hvisible : RestartVisible (steadySession.uptimeMs 10) 10 (steadySession.uptimeMs 0) 0 := by
    decide
  obtain ⟨n, hn, -, hiff⟩ := noticed_iff_restartVisible restartConfig (by decide) steadySession
    steadySession [.accept (steadyFrame 10) 0 fun _ => .ok] [10] (by decide) (by decide +kernel) 0
    (steadyFrame 0) (by decide +kernel) 0 { outcome := fun _ => .ok }
  obtain rfl : n = 10 := by simpa using hn
  exact ⟨hvisible, hiff.mpr hvisible⟩

/-- Two restarts that are not noticed: the old session had lasted 200 ms and the new one is first
    heard after 500 ms, so the heartbeat looks like the next one; and the old session had lasted
    a second and the first two heartbeats of the new one are lost, so the third looks late. -/
theorem not_noticed_after_restart :
    (¬ Noticed (afterHeartbeat 2)
        ((afterHeartbeat 2).accept (steadyFrame 5) 0 { outcome := fun _ => .ok }).plane
        (steadySession.heartbeat 2 5) 0) ∧
      ¬ Noticed (afterHeartbeat 10)
        ((afterHeartbeat 10).accept (steadyFrame 2) 0 { outcome := fun _ => .ok }).plane
        (steadySession.heartbeat 2 2) 0 :=
  ⟨fun h => absurd h.counted (by decide +kernel), fun h => absurd h.counted (by decide +kernel)⟩

end LinkHistory

end AsterCtrl.Can
