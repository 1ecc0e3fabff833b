import Mathlib.Data.List.Chain
import AsterCtrl.ForStd.Run
import AsterCtrl.Spec.Can.LinkControlSteps

/-!
# The gate of the link control plane

A `CanLinkControlPlane` under any order of `Poll`, `Accept` and `WriteApplication`, with
arbitrary frames, times and outcomes of writes.  Beside the plane runs a log of what it saw of
the peer: heartbeats observed, the link declared lost, restarts, handshakes decoded.  The plane
itself does not keep this log, so the two summaries it does keep (the count of consecutive
heartbeats and the compatibility) are justified by it.

## Key results

- `monitorInv_observe`, `monitorInv_poll`: the heartbeat monitor's count is a streak of the log
- `LinkHistory.inv_step`: what every call keeps
- `LinkHistory.linkGate_run`: the gate after every call
-/

namespace AsterCtrl.Can

open List

/-- What the control plane saw of its peer. -/
inductive LinkEvent where
  /-- A heartbeat was passed to the monitor. -/
  | observed (sequence : UInt8)
  /-- `Poll` declared the link lost. -/
  | timedOut
  /-- A restart of the peer was detected. -/
  | restarted
  /-- A handshake with the peer's node id was decoded. -/
  | decoded (remote : Handshake)
deriving DecidableEq

namespace LinkEvent

/-- The events that concern the heartbeat monitor. -/
def isMonitored : LinkEvent → Bool
  | decoded _ => false
  | _ => true

/-- The latest handshake since the last restart, in a log with the newest event first. -/
def latestHandshake : List LinkEvent → Option Handshake
  | [] => none
  | restarted :: _ => none
  | decoded remote :: _ => some remote
  | observed _ :: events => latestHandshake events
  | timedOut :: events => latestHandshake events

/-- The newest monitored events are heartbeats with the consecutive sequences `sequences`
    (newest first), so nothing came between them. -/
structure Streak (sequences : List UInt8) (events : List LinkEvent) : Prop where
  newest : sequences.map observed <+: events.filter isMonitored
  consecutive : sequences.IsChain fun newer older => newer = older + 1

theorem Streak.nil (events : List LinkEvent) : Streak [] events :=
  ⟨ nil_prefix, .nil⟩

variable {sequences : List UInt8} {events : List LinkEvent}

theorem Streak.take (h : Streak sequences events) (n : Nat) : Streak (sequences.take n) events where
  newest := by
    rw [map_take]
    exact ( take_prefix _ _).trans h.newest
  consecutive := h.consecutive.take n

/-- A heartbeat that follows the newest one makes the streak longer. -/
theorem Streak.cons (h : Streak sequences events) {sequence : UInt8}
    (hnext : ∀ older ∈ sequences.head?, sequence = older + 1) :
    Streak (sequence :: sequences) (observed sequence :: events) where
  newest := by
    simp only [map_cons, filter_cons, isMonitored, if_true]
    exact (prefix_cons_inj _).mpr h.newest
  consecutive := isChain_cons.mpr ⟨hnext, h.consecutive⟩

theorem Streak.decoded (h : Streak sequences events) (remote : Handshake) :
    Streak sequences (.decoded remote :: events) where
  newest := by simpa [isMonitored] using h.newest
  consecutive := h.consecutive

end LinkEvent

open LinkEvent

/-! ## The heartbeat monitor -/

/-- The monitor counts a streak of the log that ends with its last sequence. -/
structure MonitorInv (m : HeartbeatMonitor) (events : List LinkEvent) : Prop where
  counted : ∃ sequences, Streak sequences events ∧
    sequences.length = m.consecutiveSamples.toNat ∧
    ∀ newest ∈ sequences.head?, newest = m.lastSequence
  online : m.state = .online → m.recoverySamples ≤ m.consecutiveSamples

variable {m : HeartbeatMonitor}

/-- A monitor that has counted nothing agrees with every log. -/
theorem monitorInv_of_lost (hstate : m.state = .lost) (hcount : m.consecutiveSamples = 0)
    (events : List LinkEvent) : MonitorInv m events where
  counted := ⟨[], .nil _, by rw [hcount]; rfl, fun _ h => nomatch h⟩
  online h := nomatch hstate.symm.trans h

variable {events : List LinkEvent}

theorem monitorInv_decoded (h : MonitorInv m events) (remote : Handshake) :
    MonitorInv m (.decoded remote :: events) where
  counted := by
    obtain ⟨sequences, streak, length, newest⟩ := h.counted
    exact ⟨sequences, streak.decoded remote, length, newest⟩
  online := h.online

/-- The count after `Observe` is the length of a streak that ends with the new heartbeat. -/
theorem streak_observe (h : MonitorInv m events) (sequence : UInt8) (nowNs : UInt64) :
    ∃ sequences, Streak sequences (.observed sequence :: events) ∧
      sequences.length = (m.observe sequence nowNs).consecutiveSamples.toNat ∧
      ∀ newest ∈ sequences.head?, newest = sequence := by
  obtain ⟨sequences, streak, length, newest⟩ := h.counted
  have hhead : ∀ n, ∀ q ∈ ((sequence :: sequences).take n).head?, q = sequence := by
    intro n q hq
    cases n with
    | zero => cases hq
    | succ n => exact (Option.some.inj hq).symm
  unfold HeartbeatMonitor.observe
  dsimp only
  by_cases hreset : m.hasObservation = false ∨ m.state = .lost ∨ sequence ≠ m.lastSequence + 1
  · -- The count starts again with this heartbeat.
    rw [if_pos hreset]
    exact ⟨[sequence], (Streak.nil events).cons (fun _ h => nomatch h), rfl, hhead 1⟩
  rw [if_neg hreset]
  have hnext : sequence = m.lastSequence + 1 := by
    by_contra hne
    exact hreset (.inr (.inr hne))
  have longer : Streak (sequence :: sequences) (.observed sequence :: events) :=
    streak.cons fun older holder => by rw [newest older holder, hnext]
  by_cases hlt : m.consecutiveSamples < m.recoverySamples
  · rw [if_pos hlt]
    refine ⟨sequence :: sequences, longer, ?_, fun q hq => (Option.some.inj hq).symm⟩
    have hle : m.recoverySamples.toNat < 256 := m.recoverySamples.toNat_lt
    have hlt' : m.consecutiveSamples.toNat < m.recoverySamples.toNat := UInt8.lt_iff_toNat_lt.mp hlt
    rw [UInt8.toNat_add, length_cons, length]
    have hone : (1 : UInt8).toNat = 1 := rfl
    omega
  · -- The count stays, so the oldest heartbeat of the streak drops out.
    rw [if_neg hlt]
    refine ⟨(sequence :: sequences).take m.consecutiveSamples.toNat, longer.take _, ?_, hhead _⟩
    rw [length_take, length_cons, length]
    omega

theorem monitorInv_observe (h : MonitorInv m events) (sequence : UInt8) (nowNs : UInt64) :
    MonitorInv (m.observe sequence nowNs) (.observed sequence :: events) where
  counted := streak_observe h sequence nowNs
  online hstate := by
    by_contra hlt
    have hrecovering : (m.observe sequence nowNs).state = .recovering := if_neg hlt
    cases hrecovering.symm.trans hstate

/-- `Poll` keeps the count unless it declares the link lost. -/
theorem monitorInv_poll (h : MonitorInv m events) (nowNs : UInt64) :
    MonitorInv (m.poll nowNs) (if m.timedOut nowNs then .timedOut :: events else events) := by
  unfold HeartbeatMonitor.poll
  by_cases ht : m.timedOut nowNs = true
  · rw [if_pos ht, if_pos ht]
    exact monitorInv_of_lost rfl rfl _
  · rw [if_neg ht, if_neg ht]
    exact h

@[simp] theorem poll_recoverySamples (m : HeartbeatMonitor) (nowNs : UInt64) :
    (m.poll nowNs).recoverySamples = m.recoverySamples := by
  unfold HeartbeatMonitor.poll
  split <;> rfl

/-! ## What the gate depends on -/

namespace CanLinkControlPlane

/-- The two planes agree on everything the gate depends on, and on the gate. -/
structure SameGate (s s' : CanLinkControlPlane) : Prop where
  config : s'.config = s.config
  heartbeat : s'.heartbeat = s.heartbeat
  timeSync : s'.timeSync = s.timeSync
  compatibility : s'.compatibility = s.compatibility
  handshakeReceived : s'.handshakeReceived = s.handshakeReceived
  applicationEnabled : s'.applicationEnabled = s.applicationEnabled

/-- All of it belongs to the view of the peer. -/
theorem SameGate.of_peerSide {s s' : CanLinkControlPlane} (h : s'.peerSide = s.peerSide) :
    SameGate s s' where
  config := congrArg PeerSide.config h
  heartbeat := congrArg PeerSide.heartbeat h
  timeSync := congrArg PeerSide.timeSync h
  compatibility := congrArg PeerSide.compatibility h
  handshakeReceived := congrArg PeerSide.handshakeReceived h
  applicationEnabled := congrArg PeerSide.applicationEnabled h

end CanLinkControlPlane

/-! ## Histories of a control plane -/

/-- The log after `Accept`: a restart is handled before the heartbeat that shows it is observed. -/
def LinkControlResult.log (result : LinkControlResult) (events : List LinkEvent) :
    List LinkEvent :=
  let events := if result.restarted then .restarted :: events else events
  let events := match result.observed with
    | none => events
    | some sequence => .observed sequence :: events
  match result.decoded with
  | none => events
  | some remote => .decoded remote :: events

/-- A control plane with the log of what it saw, newest event first. -/
structure LinkHistory where
  plane : CanLinkControlPlane
  events : List LinkEvent := []

inductive LinkAction where
  | poll (nowNs : UInt64) (interrupt : Bool) (outcome : Nat → Status)
  | accept (frame : CanFrame) (localNs : UInt64) (outcome : Nat → Status)
  | writeApplication (frame : CanFrame) (outcome : Nat → Status)

namespace LinkHistory

def poll (h : LinkHistory) (nowNs : UInt64) (interrupt : Bool) (outcome : Nat → Status) :
    LinkHistory where
  plane := (h.plane.poll nowNs interrupt { outcome := outcome }).2.1
  events :=
    if h.plane.pollRejected nowNs interrupt = false ∧ h.plane.heartbeat.timedOut nowNs = true then
      .timedOut :: h.events
    else h.events

def accept (h : LinkHistory) (frame : CanFrame) (localNs : UInt64)
    (outcome : Nat → Status) : LinkHistory :=
  let result := h.plane.accept frame localNs { outcome := outcome }
  { plane := result.plane, events := result.log h.events }

def step (h : LinkHistory) : LinkAction → LinkHistory
  | .poll nowNs interrupt outcome => h.poll nowNs interrupt outcome
  | .accept frame localNs outcome => h.accept frame localNs outcome
  | .writeApplication frame outcome =>
    { h with plane := (h.plane.writeApplication frame { outcome := outcome }).2.1 }

/-- A control plane as it is constructed. -/
def init (config : CanLinkControlConfig) (writerSet clockSet : Bool) : LinkHistory where
  plane := .construct config writerSet clockSet

end LinkHistory

/-! ## The invariant -/

namespace CanLinkControlPlane

/-- The plane's view of its peer is justified by the log. -/
structure PeerInv (config : CanLinkControlConfig) (s : CanLinkControlPlane)
    (events : List LinkEvent) : Prop where
  config_eq : s.config = config
  samples : s.heartbeat.recoverySamples = config.recoverySamples
  monitor : MonitorInv s.heartbeat events
  handshake : s.handshakeReceived = true → ∃ remote, latestHandshake events = some remote ∧
    remote.nodeId = config.peerNodeId ∧
    s.compatibility = CompatibilityGuard.check config.localHandshake remote

/-- The gate is as `RefreshApplicationGate` would set it. -/
def Gated (s : CanLinkControlPlane) : Prop :=
  s.applicationEnabled = s.refreshApplicationGate.applicationEnabled

theorem gated_refreshApplicationGate (s : CanLinkControlPlane) : s.refreshApplicationGate.Gated :=
  rfl

variable {config : CanLinkControlConfig} {s s' : CanLinkControlPlane} {events : List LinkEvent}

theorem SameGate.gated (h : SameGate s s') (hs : s.Gated) : s'.Gated := by
  unfold Gated refreshApplicationGate compatible timeSynchronized at *
  rw [h.applicationEnabled, h.handshakeReceived, h.compatibility, h.heartbeat, h.config, h.timeSync]
  exact hs

/-- The peer's part does not depend on the gate or on anything else. -/
theorem PeerInv.of_eq (h : PeerInv config s events) (hconfig : s'.config = s.config)
    (hheartbeat : s'.heartbeat = s.heartbeat) (hcompatibility : s'.compatibility = s.compatibility)
    (hreceived : s'.handshakeReceived = s.handshakeReceived) : PeerInv config s' events where
  config_eq := hconfig.trans h.config_eq
  samples := by rw [hheartbeat, h.samples]
  monitor := by rw [hheartbeat]; exact h.monitor
  handshake := by rw [hreceived, hcompatibility]; exact h.handshake

theorem PeerInv.same (h : PeerInv config s events) (same : SameGate s s') :
    PeerInv config s' events :=
  h.of_eq same.config same.heartbeat same.compatibility same.handshakeReceived

/-- A heartbeat that is observed extends the log. -/
theorem PeerInv.observeHeartbeat (h : PeerInv config s events) (heartbeat : Heartbeat)
    (localNs : UInt64) :
    PeerInv config (s.observeHeartbeat heartbeat localNs)
      (.observed heartbeat.sequence :: events) where
  config_eq := h.config_eq
  samples := h.samples
  monitor := monitorInv_observe h.monitor _ _
  handshake := h.handshake

/-- After a restart nothing is known of the peer. -/
theorem PeerInv.handlePeerRestart (h : PeerInv config s events) :
    PeerInv config s.handlePeerRestart (.restarted :: events) where
  config_eq := h.config_eq
  samples := by rw [← h.config_eq]; rfl
  monitor := monitorInv_of_lost rfl rfl _
  handshake hreceived := nomatch hreceived

/-- A handshake with the peer's node id is the latest one. -/
theorem PeerInv.decoded (h : PeerInv config s events) {remote : Handshake}
    (hnode : remote.nodeId = s.config.peerNodeId)
    (receiver : ReliableReceiver HandshakeCodec.kEncodedSize) :
    PeerInv config
      { s with
        handshakeReceiver := receiver
        handshakeReceived := true
        compatibility := CompatibilityGuard.check s.config.localHandshake remote }
      (.decoded remote :: events) where
  config_eq := h.config_eq
  samples := h.samples
  monitor := monitorInv_decoded h.monitor remote
  handshake _ := ⟨remote, rfl, by rw [← h.config_eq]; exact hnode, by rw [← h.config_eq]⟩

/-- What holds of the plane and the log after every call. -/
structure LinkInv (config : CanLinkControlConfig) (s : CanLinkControlPlane)
    (events : List LinkEvent) : Prop where
  peer : PeerInv config s events
  gated : s.Gated

theorem LinkInv.same (h : LinkInv config s events) (same : SameGate s s') :
    LinkInv config s' events :=
  ⟨h.peer.same same, same.gated h.gated⟩

/-- A refreshed gate fits what is known of the peer. -/
theorem PeerInv.refresh (h : PeerInv config s events) :
    LinkInv config s.refreshApplicationGate events where
  peer := h.of_eq rfl rfl rfl rfl
  gated := gated_refreshApplicationGate _

theorem LinkInv.accept (h : LinkInv config s events) (frame : CanFrame)
    (localNs : UInt64) (writer : CanFrameWriter) :
    LinkInv config (s.accept frame localNs writer).plane
      ((s.accept frame localNs writer).log events) := by
  have hcases := s.accept_cases frame localNs writer
  generalize s.accept frame localNs writer = result at hcases
  unfold LinkControlResult.log
  cases hcases with
  | refused _ plane decoded observed restarted =>
    rw [decoded, observed, restarted]
    exact h.same (.of_peerSide plane)
  | ignored _ plane decoded observed restarted =>
    rw [decoded, observed, restarted]
    exact h.peer.refresh.same (.of_peerSide plane)
  | handshakePart _ _ plane decoded observed restarted =>
    rw [decoded, observed, restarted]
    refine LinkInv.same (PeerInv.refresh ?_) (.of_peerSide plane)
    exact h.peer.of_eq rfl rfl rfl rfl
  | handshake remote _ _ _ node plane decoded observed restarted =>
    rw [decoded, observed, restarted]
    exact (h.peer.decoded node _).refresh.same (.of_peerSide plane)
  | restart heartbeat _ _ _ _ plane decoded observed restarted =>
    rw [decoded, observed, restarted]
    exact (h.peer.handlePeerRestart.observeHeartbeat heartbeat _).refresh.same (.of_peerSide plane)
  | heartbeat heartbeat _ _ _ _ plane decoded observed restarted =>
    rw [decoded, observed, restarted]
    exact (h.peer.observeHeartbeat heartbeat _).refresh.same (.of_peerSide plane)
  | timeSync sync _ _ _ plane decoded observed restarted =>
    rw [decoded, observed, restarted]
    refine LinkInv.same (PeerInv.refresh ?_) (.of_peerSide plane)
    exact h.peer.of_eq rfl rfl rfl rfl

/-- Declaring the link lost says nothing about the peer's handshake. -/
theorem latestHandshake_timedOut (p : Prop) [Decidable p] (events : List LinkEvent) :
    latestHandshake (if p then .timedOut :: events else events) = latestHandshake events := by
  split <;> rfl

/-- `WriteApplication` passes a frame on only through an open gate and on an application
    route. -/
theorem enabled_of_forwarded {frame : CanFrame} {writer : CanFrameWriter}
    (h : (s.writeApplication frame writer).2.2.offered ≠ writer.offered) :
    s.applicationEnabled = true ∧ ∃ id, CanArbitrationId.decode frame.arbitrationId = some id ∧
      8 ≤ id.routeId := by
  unfold writeApplication at h
  cases hid : CanArbitrationId.decode frame.arbitrationId with
  | none => simp only [hid] at h; exact absurd rfl h
  | some id =>
    simp only [hid] at h
    by_cases hroute : id.routeId < kFirstApplicationRouteId
    · rw [if_pos hroute] at h
      exact absurd rfl h
    · rw [if_neg hroute] at h
      by_cases hgate : s.applicationEnabled = false
      · rw [if_pos hgate] at h
        exact absurd rfl h
      · exact ⟨Bool.not_eq_false _ ▸ hgate, id, rfl, UInt16.not_lt.mp hroute⟩

end CanLinkControlPlane

namespace LinkHistory

open CanLinkControlPlane

variable {config : CanLinkControlConfig} {h : LinkHistory}

/-- What holds after every call. -/
def Inv (config : CanLinkControlConfig) (h : LinkHistory) : Prop := LinkInv config h.plane h.events

theorem inv_init (config : CanLinkControlConfig) (writerSet clockSet : Bool) :
    Inv config (init config writerSet clockSet) := by
  obtain ⟨valid, hside⟩ := peerSide_construct config writerSet clockSet
  refine LinkInv.same ⟨?_, ?_⟩ (.of_peerSide hside)
  · exact ⟨rfl, rfl, monitorInv_of_lost rfl rfl _, nofun⟩
  · simp [Gated, refreshApplicationGate, compatible]

theorem inv_poll (hinv : Inv config h) (nowNs : UInt64) (interrupt : Bool)
    (outcome : Nat → Status) : Inv config (h.poll nowNs interrupt outcome) := by
  unfold Inv poll
  dsimp only
  cases hrejected : h.plane.pollRejected nowNs interrupt with
  | true =>
    rw [if_neg (fun hc => nomatch hc.1), poll_rejected hrejected]
    exact hinv
  | false =>
    simp only [true_and]
    refine LinkInv.same (s := { h.plane.noticePoll nowNs with
      handshakeReceiver := (h.plane.handshakeReceiver.poll nowNs).2 }) ⟨?_, rfl⟩
      (.of_peerSide (peerSide_poll hrejected _))
    exact {
      config_eq := hinv.peer.config_eq
      samples := (poll_recoverySamples _ _).trans hinv.peer.samples
      monitor := monitorInv_poll hinv.peer.monitor nowNs
      handshake := by
        rw [latestHandshake_timedOut]
        exact hinv.peer.handshake }

theorem inv_step (h : LinkHistory) (action : LinkAction) (hinv : Inv config h) :
    Inv config (h.step action) := by
  cases action with
  | poll nowNs interrupt outcome => exact inv_poll hinv nowNs interrupt outcome
  | accept frame localNs outcome => exact LinkInv.accept hinv frame localNs _
  | writeApplication frame outcome =>
    exact LinkInv.same hinv (.of_peerSide (peerSide_writeApplication _ frame _))

/-! ## The gate -/

/-- What the gate means, in a state of the plane and the log that led to it. -/
structure GateSound (config : CanLinkControlConfig) (h : LinkHistory) : Prop where
  enabled : h.plane.applicationEnabled = true ↔
    h.plane.compatible = true ∧ h.plane.heartbeat.state = .online ∧
      (config.timeAuthority = true ∨ h.plane.timeSync.synchronized = true)
  forwarded : ∀ frame writer,
    (h.plane.writeApplication frame writer).2.2.offered ≠ writer.offered →
      h.plane.applicationEnabled = true ∧
        ∃ id, CanArbitrationId.decode frame.arbitrationId = some id ∧ 8 ≤ id.routeId
  online : h.plane.heartbeat.state = .online →
    ∃ sequences, sequences.length = config.recoverySamples.toNat ∧ Streak sequences h.events
  compatible : h.plane.compatible = true →
    ∃ remote, latestHandshake h.events = some remote ∧ remote.nodeId = config.peerNodeId ∧
      remote.protocolVersion = config.localHandshake.protocolVersion ∧
      remote.deploymentHash = config.localHandshake.deploymentHash ∧
      remote.schemaHash = config.localHandshake.schemaHash

/-- Only equal versions and hashes are compatible. -/
theorem eq_of_check {own remote : Handshake}
    (h : CompatibilityGuard.check own remote = .compatible) :
    remote.protocolVersion = own.protocolVersion ∧ remote.deploymentHash = own.deploymentHash ∧
      remote.schemaHash = own.schemaHash := by
  unfold CompatibilityGuard.check at h
  split at h
  · cases h
  · split at h
    · cases h
    · split at h
      · cases h
      · rename_i hversion hdeployment hschema
        exact ⟨(not_not.mp hversion).symm, (not_not.mp hdeployment).symm,
          (not_not.mp hschema).symm⟩

theorem gateSound_of_inv (hinv : Inv config h) : GateSound config h where
  enabled := by
    have hgate : h.plane.applicationEnabled = _ := hinv.gated
    rw [hgate]
    simp [refreshApplicationGate, timeSynchronized, hinv.peer.config_eq]
  forwarded _ _ := enabled_of_forwarded
  online hstate := by
    obtain ⟨sequences, streak, length, _⟩ := hinv.peer.monitor.counted
    refine ⟨sequences.take config.recoverySamples.toNat, ?_, streak.take _⟩
    have hle := UInt8.le_iff_toNat_le.mp (hinv.peer.monitor.online hstate)
    rw [hinv.peer.samples, ← length] at hle
    exact length_take_of_le hle
  compatible hcompatible := by
    obtain ⟨hreceived, hcheck⟩ : h.plane.handshakeReceived = true ∧
        h.plane.compatibility = .compatible := by
      simpa [CanLinkControlPlane.compatible] using hcompatible
    obtain ⟨remote, latest, node, check⟩ := hinv.peer.handshake hreceived
    exact ⟨remote, latest, node, eq_of_check (check.symm.trans hcheck)⟩

/-- After any calls the gate is open exactly when the peer is compatible, alive and
    synchronised, only an open gate lets application frames through, and the log justifies
    that the peer counts as alive and as compatible. -/
theorem linkGate_run (config : CanLinkControlConfig) (writerSet clockSet : Bool)
    (actions : List LinkAction) :
    GateSound config (Machine.run step (init config writerSet clockSet) actions) :=
  gateSound_of_inv
    (Machine.run_invariant step (I := Inv config) inv_step (inv_init config writerSet clockSet)
      actions)

end LinkHistory

end AsterCtrl.Can
