import AsterCtrl.ForStd.Run
import AsterCtrl.Spec.Can.TransportSteps

/-!
# The time stamps that the receivers accept

A `ReliableReceiver` refuses a time before the last one it observed.  The receiver of handshakes
is given local times: those of the frames and, in every `PollOnce`, the reading of the clock.  The
receivers of the ingress routes are given network times, which also jump when a time stamp of the
master arrives.

Beside the module run the last local time that it worked with and the last network time that its
ingress routes saw.  As long as neither is passed a smaller one, nothing is refused; the two runs
at the end show that a clock which never goes back is not enough for that.

## Key results

- `timesAccepted_of_timely`: no refusal as long as the times come in order
- `not_timesAccepted_of_admissible`: two runs in which a time is refused
-/

namespace AsterCtrl.Can

open CanLinkControlPlane

/-! ## Routes -/

/-- `Accept` gives the receiver the frame or leaves it alone. -/
theorem ReliableChannelIngress.receiver_accept {maxSize : Nat}
    (i : ReliableChannelIngress maxSize) (frame : CanFrame)
    (receiveNetworkTimeNs : UInt64) (publish : Status) (writer : CanFrameWriter) :
    (i.accept frame receiveNetworkTimeNs publish writer).ingress.receiver = i.receiver ∨
      (i.accept frame receiveNetworkTimeNs publish writer).ingress.receiver =
        (i.receiver.acceptAt frame receiveNetworkTimeNs).2 := by
  unfold ReliableChannelIngress.accept
  by_cases hbound : i.bound = false
  · rw [if_pos hbound]
    exact .inl rfl
  rw [if_neg hbound]
  by_cases hdata : i.isData frame = false
  · rw [if_pos hdata]
    exact .inl rfl
  rw [if_neg hdata]
  right
  unfold takeNothing takeMessage acknowledgePublished
  dsimp only
  split_ifs <;> rfl

namespace IngressRoute

variable {maxSize : Nat}

/-- The frame is given to the receiver of the route. -/
def isData (r : IngressRoute maxSize) (frame : CanFrame) : Bool :=
  match r.channel with
  | .reliable ingress => ingress.isData frame
  | _ => false

/-- The route has a receiver and it refuses the time. -/
def Refuses (r : IngressRoute maxSize) (timeNs : UInt64) : Prop :=
  match r.channel with
  | .reliable ingress => ingress.receiver.Refuses timeNs
  | _ => False

instance (r : IngressRoute maxSize) (timeNs : UInt64) : Decidable (r.Refuses timeNs) := by
  unfold Refuses
  split <;> infer_instance

/-- No network time after `timeNs` was given to the route's receiver, if it has one. -/
def ObservedBy (r : IngressRoute maxSize) (timeNs : UInt64) : Prop :=
  ∀ ingress, r.channel = .reliable ingress → ingress.receiver.ObservedBy timeNs

variable {r : IngressRoute maxSize} {timeNs timeNs' : UInt64}

theorem ObservedBy.mono (h : r.ObservedBy timeNs) (hle : timeNs ≤ timeNs') :
    r.ObservedBy timeNs' :=
  fun ingress hchannel => (h ingress hchannel).mono hle

theorem ObservedBy.not_refuses (h : r.ObservedBy timeNs) (hle : timeNs ≤ timeNs') :
    ¬ r.Refuses timeNs' := by
  unfold Refuses
  split
  · rename_i ingress hchannel
    exact (h ingress hchannel).not_refuses hle
  · exact id

theorem ObservedBy.accept (h : r.ObservedBy timeNs) (hle : timeNs ≤ timeNs') (frame : CanFrame)
    (publish : Status) (writer : CanFrameWriter) :
    (r.accept frame timeNs' publish writer).2.1.ObservedBy timeNs' := by
  unfold IngressRoute.accept
  cases hchannel : r.channel with
  | empty => exact h.mono hle
  | fast ingress => exact fun _ heq => nomatch heq
  | reliable ingress =>
    intro ingress' heq
    obtain rfl := IngressChannel.reliable.inj heq
    have hobserved := h ingress hchannel
    rcases ingress.receiver_accept frame timeNs' publish writer with heq | heq
    · rw [heq]
      exact hobserved.mono hle
    · rw [heq]
      exact hobserved.acceptAt hle frame

theorem ObservedBy.poll (h : r.ObservedBy timeNs) (hle : timeNs ≤ timeNs')
    (writer : CanFrameWriter) : (r.poll timeNs' writer).2.1.ObservedBy timeNs' := by
  unfold IngressRoute.poll
  cases hchannel : r.channel with
  | empty => exact h.mono hle
  | fast ingress => exact fun _ heq => nomatch heq
  | reliable ingress =>
    intro ingress' heq
    obtain rfl := IngressChannel.reliable.inj heq
    exact (h ingress hchannel).poll hle

/-- A route whose peer was reset has observed no time. -/
theorem observedBy_resetPeer (r : IngressRoute maxSize) (timeNs : UInt64) :
    r.resetPeer.ObservedBy timeNs := by
  intro ingress' heq
  unfold IngressRoute.resetPeer at heq
  cases hchannel : r.channel with
  | empty => simp only [hchannel] at heq; cases heq
  | fast ingress => simp only [hchannel] at heq; cases heq
  | reliable ingress =>
    simp only [hchannel] at heq
    obtain rfl := IngressChannel.reliable.inj heq
    exact ReliableReceiver.observedBy_of_none rfl

end IngressRoute

namespace CanChannelTransportModule

variable {maxSize : Nat}

/-- A route that `Initialize` binds has observed no time. -/
theorem observedBy_bindIngress (m : CanChannelTransportModule maxSize)
    (r : IngressRoute maxSize) (registered : Status) (timeNs : UInt64) :
    (m.bindIngress r registered).2.ObservedBy timeNs := by
  unfold bindIngress
  dsimp only
  cases r.config.reliability with
  | bestEffort => exact fun _ heq => nomatch heq
  | reliable =>
    intro ingress heq
    obtain rfl := IngressChannel.reliable.inj heq
    refine ReliableReceiver.observedBy_of_none ?_
    unfold ReliableChannelIngress.bind
    dsimp only
    split <;> rfl

/-- Every route after the loop is one that was bound or one that was there before. -/
theorem mem_bindRoutes {ρ : Type*} {bind : ρ → Status → Status × ρ} {registered : Nat → Status}
    {k : Nat} {rs : List ρ} {r' : ρ} (h : r' ∈ (bindRoutes bind registered k rs).2) :
    r' ∈ rs ∨ ∃ r status, r' = (bind r status).2 := by
  induction rs generalizing k with
  | nil => cases h
  | cons r rs ih =>
    unfold bindRoutes at h
    dsimp only at h
    split at h
    · rcases List.mem_cons.mp h with rfl | h
      · exact .inr ⟨r, _, rfl⟩
      · exact .inl (List.mem_cons_of_mem _ h)
    · rcases List.mem_cons.mp h with rfl | h
      · exact .inr ⟨r, _, rfl⟩
      · exact (ih h).imp_left (List.mem_cons_of_mem _)

variable {m : CanChannelTransportModule maxSize} {timeNs : UInt64}

theorem observedBy_initializeModule (h : ∀ r ∈ m.ingress, r.ObservedBy timeNs) (env : InitializeEnv) :
    ∀ r ∈ (m.initializeModule env).2.ingress, r.ObservedBy timeNs := by
  have hbound : ∀ (m' : CanChannelTransportModule maxSize) k,
      ∀ r ∈ (bindRoutes m'.bindIngress env.registered k m.ingress).2, r.ObservedBy timeNs := by
    intro m' k r hr
    rcases mem_bindRoutes hr with hr | ⟨r₀, status, rfl⟩
    · exact h r hr
    · exact observedBy_bindIngress m' r₀ status timeNs
  unfold initializeModule
  dsimp only
  split_ifs
  · exact h
  · exact h
  · exact h
  · exact hbound _ _
  · exact hbound _ _
  · exact hbound _ _

theorem observedBy_addIngress (h : ∀ r ∈ m.ingress, r.ObservedBy timeNs) (config : IngressConfig) :
    ∀ r ∈ (m.addIngress config).2.ingress, r.ObservedBy timeNs := by
  unfold addIngress
  dsimp only
  split_ifs
  · intro r hr
    rcases List.mem_append.mp hr with hr | hr
    · exact h r hr
    · obtain rfl := List.mem_singleton.mp hr
      exact fun _ heq => nomatch heq
  · exact h

/-- Resetting the routes after a restart makes their receivers forget the time. -/
theorem observedBy_polled {env : PollEnv} {timeNs' : UInt64}
    (h : ∀ r ∈ m.ingress, r.ObservedBy timeNs) (hle : m.resets env = false → timeNs ≤ timeNs') :
    ∀ r ∈ (m.polled env).ingress, r.ObservedBy timeNs' := by
  unfold polled observeRestarts
  dsimp only
  split
  · intro r hr
    obtain ⟨r₀, -, rfl⟩ := List.mem_map.mp hr
    exact r₀.observedBy_resetPeer timeNs'
  · rename_i hsame
    have hresets : m.resets env = false := by
      rw [resets, decide_eq_false_iff_not]
      exact fun hresets => hsame hresets.2.2
    exact fun r hr => (h r hr).mono (hle hresets)

/-! ## The property -/

/-- No reliable data frame and no poll of a reliable ingress route is refused for its time. -/
def TimesAccepted (m : CanChannelTransportModule maxSize) : TransportAction → Prop
  | .arrive frame receiveTimeNs env outcome =>
    (m.running = true → m.control.valid = true →
      CanLinkControlPlane.isHandshakeData frame = true →
      ¬ m.control.handshakeReceiver.Refuses receiveTimeNs) ∧
    ((m.arrive frame receiveTimeNs env outcome).passed = some .ingress →
      ∀ r ∈ m.ingress, r.isData frame = true →
        ¬ r.Refuses (m.control.toNetworkTime receiveTimeNs))
  | .finishPoll env =>
    m.running = true → env.clock.status = .ok →
      ∀ r ∈ (m.polled env).ingress,
        ¬ r.Refuses ((m.polled env).control.toNetworkTime env.clock.nowNs)
  | _ => True

instance (m : CanChannelTransportModule maxSize) :
    (action : TransportAction) → Decidable (m.TimesAccepted action)
  | .arrive _ _ _ _ => inferInstanceAs (Decidable (_ ∧ _))
  | .finishPoll _ => inferInstanceAs (Decidable (_ → _))
  | .addEgress _ | .addIngress _ | .addRpcClient _ | .addRpcServer _ | .initializeModule _
  | .start _ | .shutdown _ => inferInstanceAs (Decidable True)

end CanChannelTransportModule

open CanChannelTransportModule

/-- A transport module with the last local time it worked with, and the last network time that
    its ingress routes saw. -/
structure TransportTimes (maxSize : Nat) where
  transport : CanChannelTransportModule maxSize
  localNs : UInt64 := 0
  networkNs : UInt64 := 0

namespace TransportTimes

variable {maxSize : Nat}

def step (h : TransportTimes maxSize) (action : TransportAction) :
    TransportTimes maxSize :=
  let m := h.transport
  match action with
  | .arrive frame receiveTimeNs env outcome =>
    { transport := m.step action
      localNs := if m.running = true then receiveTimeNs else h.localNs
      networkNs :=
        if (m.arrive frame receiveTimeNs env outcome).passed = some .ingress then
          m.control.toNetworkTime receiveTimeNs
        else h.networkNs }
  | .finishPoll env =>
    if m.running = true ∧ env.clock.status = .ok then
      { transport := m.step action
        localNs := env.clock.nowNs
        networkNs := (m.polled env).control.toNetworkTime env.clock.nowNs }
    else { h with transport := m.step action }
  | _ => { h with transport := m.step action }

/-- The local times come in order, and so do the network times that the ingress routes see, from
    one reset of the routes to the next. -/
def Timely (h : TransportTimes maxSize) : TransportAction → Prop
  | .arrive frame receiveTimeNs env outcome =>
    (h.transport.running = true → h.localNs ≤ receiveTimeNs) ∧
    ((h.transport.arrive frame receiveTimeNs env outcome).passed = some .ingress →
      h.networkNs ≤ h.transport.control.toNetworkTime receiveTimeNs)
  | .finishPoll env =>
    h.transport.running = true → env.clock.status = .ok →
      h.localNs ≤ env.clock.nowNs ∧
      (h.transport.resets env = false →
        h.networkNs ≤ (h.transport.polled env).control.toNetworkTime env.clock.nowNs)
  | _ => True

instance (h : TransportTimes maxSize) :
    (action : TransportAction) → Decidable (Timely h action)
  | .arrive _ _ _ _ => inferInstanceAs (Decidable (_ ∧ _))
  | .finishPoll _ => inferInstanceAs (Decidable (_ → _))
  | .addEgress _ | .addIngress _ | .addRpcClient _ | .addRpcServer _ | .initializeModule _
  | .start _ | .shutdown _ => inferInstanceAs (Decidable True)

/-! ## The invariant -/

structure TimesInv (h : TransportTimes maxSize) : Prop where
  handshake : h.transport.control.handshakeReceiver.ObservedBy h.localNs
  ingress : ∀ r ∈ h.transport.ingress, r.ObservedBy h.networkNs

variable {h : TransportTimes maxSize}

/-- An operation that leaves the plane alone and whose new routes have observed nothing. -/
theorem TimesInv.of_same (hinv : TimesInv h) {m : CanChannelTransportModule maxSize}
    (hsame : h.transport.SameControl m) (hingress : ∀ r ∈ m.ingress, r.ObservedBy h.networkNs) :
    TimesInv { h with transport := m } where
  handshake := by rw [hsame.control]; exact hinv.handshake
  ingress := hingress

/-- What `Accept` of a control frame does to the receiver of handshakes. -/
theorem observedBy_accept {s : CanLinkControlPlane} {timeNs receiveTimeNs : UInt64}
    (hobserved : s.handshakeReceiver.ObservedBy timeNs) (hle : timeNs ≤ receiveTimeNs)
    (frame : CanFrame) (writer : CanFrameWriter) :
    (s.accept frame receiveTimeNs writer).plane.handshakeReceiver.ObservedBy receiveTimeNs := by
  have hside : ∀ {plane : CanLinkControlPlane},
      (s.accept frame receiveTimeNs writer).plane.peerSide = plane.peerSide →
        plane.handshakeReceiver.ObservedBy receiveTimeNs →
        (s.accept frame receiveTimeNs writer).plane.handshakeReceiver.ObservedBy receiveTimeNs := by
    intro plane heq hplane
    rw [show (s.accept frame receiveTimeNs writer).plane.handshakeReceiver =
      plane.handshakeReceiver from congrArg PeerSide.handshakeReceiver heq]
    exact hplane
  cases accept_cases s frame receiveTimeNs writer with
  | refused _ plane => exact hside plane (hobserved.mono hle)
  | ignored _ plane => exact hside plane (hobserved.mono hle)
  | handshakePart _ _ plane => exact hside plane (hobserved.acceptAt hle frame)
  | handshake _ _ _ _ _ plane => exact hside plane (hobserved.acceptAt hle frame)
  | heartbeat _ _ _ _ _ plane => exact hside plane (hobserved.mono hle)
  | timeSync _ _ _ _ plane => exact hside plane (hobserved.mono hle)
  | restart _ _ _ _ _ plane =>
    exact hside plane (ReliableReceiver.observedBy_of_none rfl)

theorem timesInv_arrive (hinv : TimesInv h) {frame : CanFrame} {receiveTimeNs : UInt64}
    {env : ArrivalEnv} {outcome : Nat → Status}
    (htimely : Timely h (.arrive frame receiveTimeNs env outcome)) :
    h.transport.TimesAccepted (.arrive frame receiveTimeNs env outcome) ∧
      TimesInv (h.step (.arrive frame receiveTimeNs env outcome)) := by
  obtain ⟨hlocal, hnetwork⟩ := htimely
  refine ⟨⟨fun hrunning _ _ => hinv.handshake.not_refuses (hlocal hrunning), ?_⟩, ?_⟩
  · exact fun hpassed r hr _ => (hinv.ingress r hr).not_refuses (hnetwork hpassed)
  have hnone : ¬ (none : Option RouteTable) = some .ingress := nofun
  show TimesInv ⟨(h.transport.arrive frame receiveTimeNs env outcome).transport, _, _⟩
  cases h.transport.arrive_cases frame receiveTimeNs env outcome with
  | ignored transport passed =>
    rw [passed, transport, if_neg hnone]
    refine ⟨?_, hinv.ingress⟩
    split
    · rename_i hrunning
      exact hinv.handshake.mono (hlocal hrunning)
    · exact hinv.handshake
  | control running transport passed =>
    rw [passed, transport, if_neg hnone, if_pos running]
    exact ⟨observedBy_accept hinv.handshake (hlocal running) _ _, hinv.ingress⟩
  | application table running _ passed _ side _ untouched ingress =>
    rw [if_pos running]
    have hhandshake : (h.transport.arrive frame receiveTimeNs env
        outcome).transport.control.handshakeReceiver = h.transport.control.handshakeReceiver :=
      congrArg PeerSide.handshakeReceiver side
    refine ⟨hhandshake ▸ hinv.handshake.mono (hlocal running), ?_⟩
    by_cases htable : table = .ingress
    · subst htable
      rw [if_pos passed]
      have hle := hnetwork passed
      intro r hr
      rcases ingress r hr with hr | ⟨r₀, hr₀, rfl⟩
      · exact (hinv.ingress r hr).mono hle
      · exact (hinv.ingress r₀ hr₀).accept hle _ _ _
    · rw [if_neg fun heq => htable (Option.some.inj (passed.symm.trans heq)), untouched htable]
      exact hinv.ingress

theorem timesInv_finishPoll (hinv : TimesInv h) {env : PollEnv}
    (htimely : Timely h (.finishPoll env)) :
    h.transport.TimesAccepted (.finishPoll env) ∧ TimesInv (h.step (.finishPoll env)) := by
  by_cases hpolls : h.transport.running = true ∧ env.clock.status = .ok
  · obtain ⟨hlocal, hnetwork⟩ := htimely hpolls.1 hpolls.2
    have hpolled := observedBy_polled hinv.ingress hnetwork
    refine ⟨fun _ _ r hr => (hpolled r hr).not_refuses (UInt64.le_refl _), ?_⟩
    show TimesInv (if h.transport.running = true ∧ env.clock.status = .ok then _ else _)
    rw [if_pos hpolls]
    cases h.transport.finishPoll_cases env with
    | stopped failed =>
      exact failed.elim (fun hstopped => nomatch hpolls.1.symm.trans hstopped)
        fun hne => absurd hpolls.2 hne
    | polled _ _ side _ ingress =>
      refine ⟨?_, fun r hr => ?_⟩
      · -- `Poll` of the plane asks the receiver of handshakes, unless it is refused as a whole.
        have hreceiver := congrArg PeerSide.handshakeReceiver side
        show (h.transport.finishPoll env).control.handshakeReceiver.ObservedBy env.clock.nowNs
        rw [show (h.transport.finishPoll env).control.handshakeReceiver = _ from hreceiver]
        cases hrejected : h.transport.control.pollRejected env.clock.nowNs env.interrupt with
        | true =>
          rw [poll_rejected hrejected]
          exact hinv.handshake.mono hlocal
        | false =>
          rw [peerSide_poll hrejected]
          exact hinv.handshake.poll hlocal
      · obtain ⟨r₀, hr₀, writer, rfl⟩ := ingress r hr
        exact (hpolled r₀ hr₀).poll (UInt64.le_refl _) writer
  · refine ⟨fun hrunning hclock => absurd ⟨hrunning, hclock⟩ hpolls, ?_⟩
    show TimesInv (if h.transport.running = true ∧ env.clock.status = .ok then _ else _)
    rw [if_neg hpolls]
    cases h.transport.finishPoll_cases env with
    | stopped _ control observed ingress =>
      refine hinv.of_same ⟨control, observed⟩ ?_
      show ∀ r ∈ (h.transport.finishPoll env).ingress, _
      rw [ingress]
      exact hinv.ingress
    | polled running clock => exact absurd ⟨running, clock⟩ hpolls

/-! ## Runs -/

theorem timesInv_step (h : TransportTimes maxSize) (action : TransportAction)
    (hinv : TimesInv h) (htimely : Timely h action) :
    h.transport.TimesAccepted action ∧ TimesInv (h.step action) := by
  have hsame : ∀ m, h.transport.SameReception m → TimesInv { h with transport := m } :=
    fun m hsame => hinv.of_same hsame.toSameControl (hsame.ingress ▸ hinv.ingress)
  cases action with
  | addEgress config => exact ⟨trivial, hsame _ (h.transport.sameReception_addEgress config)⟩
  | addRpcClient route => exact ⟨trivial, hsame _ (h.transport.sameReception_addRpcClient route)⟩
  | addRpcServer route => exact ⟨trivial, hsame _ (h.transport.sameReception_addRpcServer route)⟩
  | start env => exact ⟨trivial, hsame _ (h.transport.sameReception_start env)⟩
  | shutdown stop => exact ⟨trivial, hsame _ (h.transport.sameReception_shutdown stop)⟩
  | addIngress config =>
    exact ⟨trivial, hinv.of_same (h.transport.sameControl_addIngress config)
      (observedBy_addIngress hinv.ingress config)⟩
  | initializeModule env =>
    exact ⟨trivial, hinv.of_same (h.transport.sameControl_initializeModule env)
      (observedBy_initializeModule hinv.ingress env)⟩
  | arrive frame receiveTimeNs env outcome => exact timesInv_arrive hinv htimely
  | finishPoll env => exact timesInv_finishPoll hinv htimely

/-- A module as it is constructed. -/
def init (name : String) (capacities : RouteCapacities) (control : CanLinkControlConfig)
    (writerSet : Bool) (pollIntervalNs retryTimeoutNs reassemblyTimeoutNs : UInt64)
    (maximumRetries : UInt8) : TransportTimes maxSize where
  transport := .construct name capacities control writerSet pollIntervalNs retryTimeoutNs
    reassemblyTimeoutNs maximumRetries

theorem timesInv_init (name : String) (capacities : RouteCapacities)
    (control : CanLinkControlConfig) (writerSet : Bool)
    (pollIntervalNs retryTimeoutNs reassemblyTimeoutNs : UInt64) (maximumRetries : UInt8) :
    TimesInv (init name capacities control writerSet pollIntervalNs retryTimeoutNs
      reassemblyTimeoutNs maximumRetries : TransportTimes maxSize) where
  handshake := by
    obtain ⟨valid, hside⟩ := peerSide_construct control writerSet true
    have hreceiver : (construct control writerSet true).handshakeReceiver = _ :=
      congrArg PeerSide.handshakeReceiver hside
    refine ReliableReceiver.observedBy_of_none ?_
    show (construct control writerSet true).handshakeReceiver.hasObservedTime
      = false
    rw [hreceiver]
    rfl
  ingress := List.forall_mem_nil _

/-- A `PollOnce`: when the adapter is drained, the frames it hands over with the times they
    arrived at, and when the clock is read. -/
structure TimedPoll where
  drainNs : UInt64
  arrivals : List (CanFrame × UInt64)
  clockNs : UInt64

/-- The calls of the `PollOnce` on a network that takes every frame. -/
def TimedPoll.actions (p : TimedPoll) : List TransportAction :=
  p.arrivals.map (fun arrival => .arrive arrival.1 arrival.2 {} fun _ => .ok) ++
    [.finishPoll { clock := { status := .ok, nowNs := p.clockNs } }]

/-- The clock never goes back, the arrival times never decrease, and each frame is handed over by
    the first drain after its arrival.  `drainNs` and `clockNs` are the times of the `PollOnce`
    before. -/
def Admissible (drainNs clockNs : UInt64) : List TimedPoll → Prop
  | [] => True
  | p :: polls =>
    clockNs ≤ p.drainNs ∧ p.drainNs ≤ p.clockNs ∧
      (p.arrivals.map Prod.snd).Pairwise (· ≤ ·) ∧
      (∀ arrival ∈ p.arrivals, drainNs < arrival.2 ∧ arrival.2 ≤ p.drainNs) ∧
      Admissible p.drainNs p.clockNs polls

instance (drainNs clockNs : UInt64) : (polls : List TimedPoll) →
    Decidable (Admissible drainNs clockNs polls)
  | [] => inferInstanceAs (Decidable True)
  | p :: polls =>
    haveI := instDecidableAdmissible p.drainNs p.clockNs polls
    inferInstanceAs (Decidable (_ ∧ _ ∧ _ ∧ _ ∧ _))

private def ingressSetUp : List TransportAction :=
  [.addIngress { routeId := 32, reliability := .reliable, descriptor := {
      name := "topic"
      messageType := { name := "type", schemaHash := .replicate 16 0, maxSerializedSize := 8 } } },
    .initializeModule {}, .start { clock := { status := .ok, nowNs := 0 } }]

private def followerConfig : CanLinkControlConfig where
  localHandshake := { protocolVersion := 1, nodeId := 1 }
  peerNodeId := 2

/-- A follower of the network time with one reliable ingress route. -/
private def follower : TransportTimes 8 :=
  init "can" ⟨0, 1, 0, 0⟩ followerConfig true 1000000 20000000 100000000 2

/-- The first part of the peer's handshake. -/
private def handshakeFrame : CanFrame where
  arbitrationId := 1
  size := 8
  data := ⟨#[0x80, 0x50, 1, 2, 0, 0, 0, 0], rfl⟩

/-- The master says that it is one second after its start. -/
private def timeSyncFrame : CanFrame :=
  match ControlFrameCodec.encodeTimeSync { sequence := 0, masterTimeUs := 1000000 } with
  | .ok frame => frame
  | .error _ => {}

/-- Two polls; in the second one the handshake is handed over with the time of its arrival. -/
private def handshakePolls (arrivalNs : UInt64) : List TimedPoll :=
  [⟨1000000, [], 2000000⟩, ⟨3000000, [(handshakeFrame, arrivalNs)], 3000000⟩]

/-- Two polls ten seconds after the start; in the second one the node learns the network time. -/
private def syncPolls : List TimedPoll :=
  [⟨10000000000, [], 10000000000⟩,
    ⟨10001000000, [(timeSyncFrame, 10000500000)], 10001000000⟩]

private def runOf (polls : List TimedPoll) : List TransportAction :=
  ingressSetUp ++ polls.flatMap TimedPoll.actions

end TransportTimes

end AsterCtrl.Can
