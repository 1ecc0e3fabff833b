import AsterCtrl.Spec.Can.LinkGate
import AsterCtrl.Spec.Can.TransportSteps

/-!
# Resetting the routes after a restart of the peer

A restart of the peer is counted inside `Accept` of the control plane, while the adapter is still
handing over frames; the routes are reset only at the end of that `PollOnce`.  In between the gate
is closed, but the frames of the same drain can open it again: a handshake, as many heartbeats as
the monitor wants, and a time stamp if the node is no time authority.  The application frames
after them reach routes that still hold the state of the old session.

Beside the module runs a log of the restarts, the resets and the frames that were passed to a
route, newest first.

## Key results

- `resetInv_step`: what every call keeps as long as no handshake completes before the reset
- `resetFirst_of_noHandshake`: then no frame is passed on before the reset
- `not_resetFirst_in_one_drain`: a drain that opens the gate again
-/

namespace AsterCtrl.Can

open PeerSide

/-- What matters of the module for the order of resets. -/
inductive TransportEvent where
  /-- The control plane counted a restart of the peer. -/
  | restarted
  /-- `ResetPeerRoutes` ran. -/
  | reset
  /-- An application frame was passed to a route of the table. -/
  | passed (table : RouteTable)
deriving DecidableEq, Repr

namespace TransportEvent

/-- The restarts since the last reset. -/
def outstanding : List TransportEvent → ℕ
  | [] => 0
  | restarted :: events => outstanding events + 1
  | reset :: _ => 0
  | passed _ :: events => outstanding events

/-- Whenever a frame was passed on, no restart was outstanding. -/
def ResetFirst (events : List TransportEvent) : Prop :=
  ∀ newer table older, events = newer ++ passed table :: older → outstanding older = 0

theorem ResetFirst.nil : ResetFirst [] := by
  intro newer table older heq
  exact absurd heq.symm (List.append_ne_nil_of_right_ne_nil _ (List.cons_ne_nil _ _))

theorem ResetFirst.cons {event : TransportEvent} {events : List TransportEvent}
    (h : ResetFirst events) (hevent : ∀ table, event = passed table → outstanding events = 0) :
    ResetFirst (event :: events) := by
  intro newer table older heq
  cases newer with
  | nil =>
    obtain ⟨rfl, rfl⟩ := List.cons.inj heq
    exact hevent table rfl
  | cons first newer => exact h newer table older (List.cons.inj heq).2

end TransportEvent

open TransportEvent

/-- A transport module with the log of what happened, newest event first. -/
structure TransportHistory (maxSize : Nat) where
  transport : CanChannelTransportModule maxSize
  events : List TransportEvent := []

namespace TransportHistory

variable {maxSize : Nat} {h : TransportHistory maxSize}

/-- The log after the arrival of a frame. -/
def logArrival (result : TransportAcceptResult maxSize) (events : List TransportEvent) :
    List TransportEvent :=
  let events := if result.restarted then .restarted :: events else events
  match result.passed with
  | none => events
  | some table => .passed table :: events

/-- The log after a call. -/
def log (m : CanChannelTransportModule maxSize) (events : List TransportEvent) :
    TransportAction → List TransportEvent
  | .arrive frame timeNs env outcome =>
    logArrival (m.arrive frame timeNs env outcome) events
  | .finishPoll env => if m.resets env then .reset :: events else events
  | _ => events

def step (h : TransportHistory maxSize) (action : TransportAction) :
    TransportHistory maxSize :=
  ⟨h.transport.step action, log h.transport h.events action⟩

/-- A module as it is constructed. -/
def init (name : String) (capacities : RouteCapacities) (control : CanLinkControlConfig)
    (writerSet : Bool) (pollIntervalNs retryTimeoutNs reassemblyTimeoutNs : UInt64)
    (maximumRetries : UInt8) : TransportHistory maxSize where
  transport := .construct name capacities control writerSet pollIntervalNs retryTimeoutNs
    reassemblyTimeoutNs maximumRetries

/-- Between a restart and the reset no handshake of the peer is completed, and fewer restarts are
    counted than the counter can hold. -/
def NoHandshake (h : TransportHistory maxSize) : TransportAction → Prop
  | .arrive frame timeNs _ outcome =>
    outstanding h.events ≠ 0 →
      (h.transport.control.accept frame timeNs { outcome := outcome }).decoded = none
  | .finishPoll _ => outstanding h.events < 2 ^ 32
  | _ => True

instance (h : TransportHistory maxSize) :
    (action : TransportAction) → Decidable (NoHandshake h action)
  | .arrive _ _ _ _ => inferInstanceAs (Decidable (_ → _))
  | .finishPoll _ => inferInstanceAs (Decidable (_ < _))
  | .addEgress _ | .addIngress _ | .addRpcClient _ | .addRpcServer _ | .initializeModule _
  | .start _ | .shutdown _ => inferInstanceAs (Decidable True)

/-! ## The invariant -/

/-- The restarts counted but not observed are those of the log, and until they are observed the
    plane has no handshake, so the gate is closed. -/
structure ResetInv (h : TransportHistory maxSize) : Prop where
  counted : h.transport.control.stats.peerRestarts =
    h.transport.observedPeerRestarts + UInt32.ofNat (outstanding h.events)
  gate : h.transport.control.applicationEnabled = true →
    h.transport.control.handshakeReceived = true
  closed : outstanding h.events ≠ 0 → h.transport.control.handshakeReceived = false
  resetFirst : ResetFirst h.events

/-- The invariant depends on the view of the peer and on what the module has observed. -/
theorem ResetInv.of_same (hinv : ResetInv h) {m : CanChannelTransportModule maxSize}
    (hside : m.control.peerSide = h.transport.control.peerSide)
    (hobserved : m.observedPeerRestarts = h.transport.observedPeerRestarts) :
    ResetInv { h with transport := m } where
  counted := (congrArg peerRestarts hside).trans (hobserved ▸ hinv.counted)
  gate hgate := (congrArg handshakeReceived hside).trans
    (hinv.gate ((congrArg applicationEnabled hside).symm.trans hgate))
  closed hne := (congrArg handshakeReceived hside).trans (hinv.closed hne)
  resetFirst := hinv.resetFirst

/-- A refreshed gate is open only after a handshake. -/
theorem handshakeReceived_of_enabled {s : CanLinkControlPlane}
    (h : s.refreshApplicationGate.applicationEnabled = true) : s.handshakeReceived = true := by
  simp only [CanLinkControlPlane.refreshApplicationGate, CanLinkControlPlane.compatible,
    decide_eq_true_eq] at h
  exact h.1.1

/-- A control frame that neither shows a restart nor completes a handshake while one is
    outstanding. -/
theorem ResetInv.control (hinv : ResetInv h) {s : CanLinkControlPlane} (s₀ : CanLinkControlPlane)
    (hside : s.peerSide = s₀.refreshApplicationGate.peerSide)
    (hrestarts : s₀.stats.peerRestarts = h.transport.control.stats.peerRestarts)
    (hclosed : outstanding h.events ≠ 0 → s₀.handshakeReceived = false) :
    ResetInv { h with transport := { h.transport with control := s } } where
  counted := ((congrArg peerRestarts hside).trans hrestarts).trans hinv.counted
  gate hgate := (congrArg handshakeReceived hside).trans
    (handshakeReceived_of_enabled ((congrArg applicationEnabled hside).symm.trans hgate))
  closed hne := (congrArg handshakeReceived hside).trans (hclosed hne)
  resetFirst := hinv.resetFirst

theorem resetInv_arrive (hinv : ResetInv h) (frame : CanFrame) (timeNs : UInt64) (env : ArrivalEnv)
    (outcome : Nat → Status) (hhandshake : NoHandshake h (.arrive frame timeNs env outcome)) :
    ResetInv (h.step (.arrive frame timeNs env outcome)) := by
  show ResetInv ⟨(h.transport.arrive frame timeNs env outcome).transport,
    logArrival (h.transport.arrive frame timeNs env outcome) h.events⟩
  cases h.transport.arrive_cases frame timeNs env outcome with
  | ignored transport passed restarted =>
    rw [logArrival, restarted, passed, transport]
    exact hinv
  | application table _ enabled passed restarted side observed =>
    rw [logArrival, restarted, passed]
    have hsame := hinv.of_same side observed
    -- The gate is open, so nothing is outstanding.
    have hnone : outstanding h.events = 0 := by
      by_contra hne
      exact nomatch (hinv.closed hne).symm.trans (hinv.gate enabled)
    exact ⟨hsame.counted, hsame.gate, hsame.closed, hinv.resetFirst.cons fun _ _ => hnone⟩
  | control _ transport passed restarted =>
    rw [logArrival, restarted, passed, transport]
    dsimp only
    cases CanLinkControlPlane.accept_cases h.transport.control frame timeNs
        { outcome := outcome } with
    | refused _ plane _ _ restarted =>
      rw [restarted]
      exact hinv.of_same plane rfl
    | ignored _ plane _ _ restarted =>
      rw [restarted]
      exact hinv.control _ plane rfl hinv.closed
    | handshakePart _ _ plane _ _ restarted =>
      rw [restarted]
      exact hinv.control _ plane rfl hinv.closed
    | handshake remote _ _ _ _ plane decoded _ restarted =>
      rw [restarted]
      refine hinv.control _ plane rfl fun hne => ?_
      exact nomatch decoded.symm.trans (hhandshake hne)
    | heartbeat heartbeat _ _ _ _ plane _ _ restarted =>
      rw [restarted]
      exact hinv.control _ plane rfl hinv.closed
    | timeSync _ _ _ _ plane _ _ restarted =>
      rw [restarted]
      exact hinv.control _ plane rfl hinv.closed
    | restart heartbeat _ _ _ _ plane _ _ restarted =>
      -- One more restart is outstanding, and the handshake of the old session is gone.
      rw [restarted]
      refine ⟨?_, fun hgate => ?_, fun _ => congrArg handshakeReceived plane,
        hinv.resetFirst.cons fun _ heq => nomatch heq⟩
      · refine (congrArg peerRestarts plane).trans ?_
        show h.transport.control.stats.peerRestarts + 1 = h.transport.observedPeerRestarts +
          UInt32.ofNat (outstanding h.events + 1)
        rw [hinv.counted, UInt32.ofNat_add, UInt32.add_assoc]
        rfl
      · exact (congrArg handshakeReceived plane).trans (handshakeReceived_of_enabled
          ((congrArg applicationEnabled plane).symm.trans hgate))

/-- `Poll` of the plane neither counts a restart nor changes what is known of the handshake, and
    leaves the gate open only if there was one. -/
theorem peer_poll (s : CanLinkControlPlane) (nowNs : UInt64) (interrupt : Bool)
    (writer : CanFrameWriter)
    (hgate : s.applicationEnabled = true → s.handshakeReceived = true) :
    let s' := (s.poll nowNs interrupt writer).2.1
    s'.stats.peerRestarts = s.stats.peerRestarts ∧ s'.handshakeReceived = s.handshakeReceived ∧
      (s'.applicationEnabled = true → s.handshakeReceived = true) := by
  dsimp only
  cases hrejected : s.pollRejected nowNs interrupt with
  | true =>
    rw [CanLinkControlPlane.poll_rejected hrejected]
    exact ⟨rfl, rfl, hgate⟩
  | false =>
    have hside := CanLinkControlPlane.peerSide_poll hrejected writer
    refine ⟨congrArg peerRestarts hside, congrArg handshakeReceived hside, ?_⟩
    intro henabled
    have hopen : (s.noticePoll nowNs).applicationEnabled = true :=
      (congrArg applicationEnabled hside).symm.trans henabled
    exact handshakeReceived_of_enabled (s := { s with
      hasLastPoll := true, lastPollNs := nowNs, heartbeat := s.heartbeat.poll nowNs }) hopen

/-- After `PollOnce` has looked at them, all restarts are observed. -/
theorem observed_polled (m : CanChannelTransportModule maxSize) (env : PollEnv) :
    (m.polled env).observedPeerRestarts = (m.control.poll env.clock.nowNs env.interrupt
      { outcome := env.outcome }).2.1.stats.peerRestarts := by
  unfold CanChannelTransportModule.polled CanChannelTransportModule.observeRestarts
  split
  · rfl
  · rename_i heq
    exact (Decidable.not_not.mp heq).symm

theorem resetInv_finishPoll (hinv : ResetInv h) (env : PollEnv)
    (hfew : outstanding h.events < 2 ^ 32) : ResetInv (h.step (.finishPoll env)) := by
  show ResetInv ⟨h.transport.finishPoll env,
    if h.transport.resets env then .reset :: h.events else h.events⟩
  cases h.transport.finishPoll_cases env with
  | stopped failed control observed =>
    have hresets : h.transport.resets env = false := by
      rw [CanChannelTransportModule.resets, decide_eq_false_iff_not]
      rintro ⟨hrunning, hclock, -⟩
      exact failed.elim (fun hstopped => nomatch hrunning.symm.trans hstopped) fun hne => hne hclock
    rw [hresets]
    exact hinv.of_same (by rw [control]) observed
  | polled running clock side observed =>
    obtain ⟨hrestarts, hreceived, henabled⟩ := peer_poll h.transport.control env.clock.nowNs
      env.interrupt { outcome := env.outcome } hinv.gate
    have hobserved := observed.trans (observed_polled h.transport env)
    have hside := (congrArg peerRestarts side).trans hobserved.symm
    have hgate : (h.transport.finishPoll env).control.applicationEnabled = true →
        (h.transport.finishPoll env).control.handshakeReceived = true := fun hopen =>
      ((congrArg handshakeReceived side).trans hreceived).trans
        (henabled ((congrArg applicationEnabled side).symm.trans hopen))
    -- Either the routes are reset, or the counter shows nothing new.
    have hnone : outstanding (if h.transport.resets env then .reset :: h.events else h.events)
        = 0 := by
      cases hresets : h.transport.resets env with
      | true => rfl
      | false =>
        rw [CanChannelTransportModule.resets, decide_eq_false_iff_not] at hresets
        have hsame : h.transport.control.stats.peerRestarts = h.transport.observedPeerRestarts := by
          by_contra hne
          exact hresets ⟨running, clock, hrestarts ▸ hne⟩
        have hzero : UInt32.ofNat (outstanding h.events) = UInt32.ofNat 0 := by
          have := hinv.counted
          rw [hsame] at this
          exact (UInt32.left_eq_add.mp this).trans rfl
        show outstanding h.events = 0
        have := congrArg UInt32.toNat hzero
        rwa [UInt32.toNat_ofNat_of_lt' hfew, UInt32.toNat_ofNat_of_lt' (by decide)] at this
    refine ⟨?_, hgate, fun hne => absurd hnone hne, ?_⟩
    · rw [hnone]
      exact hside.trans (UInt32.add_zero _).symm
    · cases h.transport.resets env with
      | false => exact hinv.resetFirst
      | true => exact hinv.resetFirst.cons fun _ heq => nomatch heq

/-! ## Runs -/

theorem resetInv_step (h : TransportHistory maxSize) (action : TransportAction)
    (hinv : ResetInv h) (hcond : NoHandshake h action) : ResetInv (h.step action) := by
  have hsame : ∀ m, h.transport.SameControl m → ResetInv { h with transport := m } :=
    fun m hsame => hinv.of_same (congrArg _ hsame.control) hsame.observed
  cases action with
  | addEgress config => exact hsame _ (h.transport.sameReception_addEgress config).toSameControl
  | addIngress config => exact hsame _ (h.transport.sameControl_addIngress config)
  | addRpcClient route => exact hsame _ (h.transport.sameReception_addRpcClient route).toSameControl
  | addRpcServer route => exact hsame _ (h.transport.sameReception_addRpcServer route).toSameControl
  | initializeModule env => exact hsame _ (h.transport.sameControl_initializeModule env)
  | start env => exact hsame _ (h.transport.sameReception_start env).toSameControl
  | shutdown stop => exact hsame _ (h.transport.sameReception_shutdown stop).toSameControl
  | arrive frame timeNs env outcome =>
    exact resetInv_arrive hinv frame timeNs env outcome hcond
  | finishPoll env => exact resetInv_finishPoll hinv env hcond

theorem resetInv_init (name : String) (capacities : RouteCapacities)
    (control : CanLinkControlConfig) (writerSet : Bool)
    (pollIntervalNs retryTimeoutNs reassemblyTimeoutNs : UInt64) (maximumRetries : UInt8) :
    ResetInv (init name capacities control writerSet pollIntervalNs retryTimeoutNs
      reassemblyTimeoutNs maximumRetries : TransportHistory maxSize) where
  counted := by
    obtain ⟨valid, hside⟩ := CanLinkControlPlane.peerSide_construct control writerSet true
    exact congrArg peerRestarts hside
  gate hopen := by
    obtain ⟨valid, hside⟩ := CanLinkControlPlane.peerSide_construct control writerSet true
    exact nomatch hopen.symm.trans (congrArg applicationEnabled hside)
  closed hne := absurd rfl hne
  resetFirst := .nil

/-- In every run of the module in which no handshake of the peer is completed between a restart
    and the reset of the routes, and the counter of restarts does not wrap around in between, the
    routes are reset before the next application frame is passed to one of them. -/
theorem resetFirst_of_noHandshake (name : String) (capacities : RouteCapacities)
    (control : CanLinkControlConfig) (writerSet : Bool)
    (pollIntervalNs retryTimeoutNs reassemblyTimeoutNs : UInt64) (maximumRetries : UInt8)
    (actions : List TransportAction)
    (hcond : Machine.Along step NoHandshake (init name capacities control writerSet pollIntervalNs
      retryTimeoutNs reassemblyTimeoutNs maximumRetries : TransportHistory maxSize)
      actions) :
    ResetFirst (Machine.run step (init name capacities control writerSet pollIntervalNs
      retryTimeoutNs reassemblyTimeoutNs maximumRetries : TransportHistory maxSize)
      actions).events :=
  (Machine.run_invariant_along step resetInv_step
    (resetInv_init name capacities control writerSet pollIntervalNs retryTimeoutNs
      reassemblyTimeoutNs maximumRetries) hcond).resetFirst

/-! ## A drain that opens the gate again -/

private def ownConfig : CanLinkControlConfig where
  localHandshake := { protocolVersion := 1, nodeId := 1 }
  peerNodeId := 2
  timeAuthority := true
  recoverySamples := 1

/-- The peer, as it is constructed at each of its starts. -/
private def peerPlane : CanLinkControlPlane :=
  .construct { localHandshake := { protocolVersion := 1, nodeId := 2 }, peerNodeId := 1 } true true

/-- The frames of a `Poll` of the peer: the six parts of its handshake and a heartbeat. -/
private def framesOf (s : CanLinkControlPlane) (nowNs : UInt64) : List CanFrame :=
  (s.poll nowNs false { outcome := fun _ => .ok }).2.2.accepted

private def arrival (frame : CanFrame) : TransportAction :=
  .arrive frame 600000000 {} fun _ => .ok

/-- The calls that start a module with one route for received messages. -/
private def setUp : List TransportAction :=
  [.addIngress { routeId := 32, descriptor := {
      name := "topic"
      messageType := { name := "type", schemaHash := .replicate 16 0, maxSerializedSize := 8 } } },
    .initializeModule {}, .start { clock := { status := .ok, nowNs := 0 } }]

private def pollEnd : TransportAction :=
  .finishPoll { clock := { status := .ok, nowNs := 600000000 } }

/-- The peer's old session has been running for half a second when its frames arrive. -/
private def oldSession : List TransportAction :=
  (framesOf peerPlane 500000000).map arrival ++ [pollEnd]

/-- The first heartbeat of the new session. -/
private def newHeartbeat : List TransportAction := ((framesOf peerPlane 0).drop 6).map arrival

/-- The handshake of the new session, sent again, and a message. -/
private def newTraffic : List TransportAction :=
  ((framesOf peerPlane 0).take 6).map arrival ++ [arrival { arbitrationId := 32, size := 8 }]

private def ownModule : TransportHistory 8 :=
  init "can" ⟨0, 1, 0, 0⟩ ownConfig true 1000000 20000000 100000000 2

private def inTwoPolls : List TransportAction :=
  setUp ++ oldSession ++ newHeartbeat ++ [pollEnd] ++ newTraffic

private def inOneDrain : List TransportAction :=
  setUp ++ oldSession ++ newHeartbeat ++ newTraffic ++ [pollEnd]

/-- When `PollOnce` ends between the heartbeat and the handshake, the routes are reset before the
    message reaches one. -/
theorem resetFirst_of_noHandshake_two_polls :
    (Machine.run step ownModule inTwoPolls).events = [.passed .ingress, .reset, .restarted] ∧
      ResetFirst (Machine.run step ownModule inTwoPolls).events := by
  have hcond : Machine.Along step NoHandshake ownModule inTwoPolls := by decide +kernel
  exact ⟨by decide +kernel, resetFirst_of_noHandshake "can" ⟨0, 1, 0, 0⟩ ownConfig true 1000000
    20000000 100000000 2 inTwoPolls hcond⟩

/-- When one drain hands over the first heartbeat of the new session, its handshake and a message,
    the message is passed to the route of the old session. -/
theorem not_resetFirst_in_one_drain :
    (Machine.run step ownModule inOneDrain).events = [.reset, .passed .ingress, .restarted] ∧
      ¬ ResetFirst (Machine.run step ownModule inOneDrain).events := by
  have hevents : (Machine.run step ownModule inOneDrain).events =
      [.reset, .passed .ingress, .restarted] := by decide +kernel
  exact ⟨hevents, fun h => absurd (h [.reset] .ingress [.restarted] hevents) (by decide)⟩

end TransportHistory

end AsterCtrl.Can
