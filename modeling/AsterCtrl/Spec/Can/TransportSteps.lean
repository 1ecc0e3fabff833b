import AsterCtrl.Native.Can.ChannelTransport
import AsterCtrl.Spec.Can.LinkControlSteps

/-!
# What the operations of the transport module do

The control plane sees the frames of its own routes and nothing else of an `Accept`; the routes
leave it alone except for two counters.  So every operation of the module is, for the plane, one
of the operations of the plane or nothing, and for the routes one operation of one route.

The module is a machine of its calls, `CanChannelTransportModule.step`.

## Key results

- `writeApplication_eq_send`: the routes' writer is `WriteApplication` of the plane
- `arrive_cases`: every way the arrival of a frame can end
- `finishPoll_cases`: every way the rest of `PollOnce` can end
-/

namespace AsterCtrl.Can

open List CanLinkControlPlane

namespace CanLinkControlPlane

/-! ## The writer of the routes -/

theorem peerSide_afterApplication (s : CanLinkControlPlane) (writer used : CanFrameWriter) :
    (s.afterApplication writer used).1.peerSide = s.peerSide := by
  unfold afterApplication
  split <;> rfl

/-- A frame that a route writes is a `WriteApplication` of the plane, which starts from what the
    route has written before. The hypothesis holds of `applicationWriter` and is kept by `Send`. -/
theorem writeApplication_eq_send (s : CanLinkControlPlane) (writer used : CanFrameWriter)
    (hused : s.applicationEnabled = false → ∀ k, used.outcome k = .unavailable)
    {frame : CanFrame} {id : DecodedArbitrationId}
    (hid : CanArbitrationId.decode frame.arbitrationId = some id)
    (hroute : kFirstApplicationRouteId ≤ id.routeId) :
    (s.afterApplication writer used).1.writeApplication frame (s.afterApplication writer used).2 =
      ((used.send frame).1, (s.afterApplication writer (used.send frame).2).1,
        (s.afterApplication writer (used.send frame).2).2) := by
  have happlication : ¬ id.routeId < kFirstApplicationRouteId := UInt16.not_lt.mpr hroute
  unfold writeApplication
  rw [hid]
  dsimp only
  rw [if_neg happlication]
  cases hgate : s.applicationEnabled with
  | false =>
    -- The gate is closed: the frame is counted and refused.
    have hout : used.outcome 0 = .unavailable := hused hgate 0
    have hcount : UInt32.ofNat used.offered.length + 1 =
        UInt32.ofNat (used.offered.length + 1) := by
      rw [UInt32.ofNat_add]
      rfl
    simp only [afterApplication, hgate, Bool.false_eq_true, if_false, if_true, CanFrameWriter.send,
      hout, length_append, length_singleton, ← hcount, UInt32.add_assoc]
  | true =>
    simp only [afterApplication, hgate, if_true, Bool.true_eq_false, if_false,
      CanFrameWriter.send, append_assoc]
    by_cases hok : used.outcome 0 = .ok
    · have hcount : UInt32.ofNat used.accepted.length + 1 =
          UInt32.ofNat (used.accepted ++ [frame]).length := by
        rw [length_append, UInt32.ofNat_add]
        rfl
      have haccepted : (⟨fun k => used.outcome (k + 1),
          used.offered ++ [(frame, used.outcome 0)]⟩ : CanFrameWriter).accepted =
          used.accepted ++ [frame] := CanFrameWriter.accepted_send_of_ok frame hok
      simp only [haccepted, ← hcount, if_pos hok, UInt32.add_assoc]
    · have haccepted : (⟨fun k => used.outcome (k + 1),
          used.offered ++ [(frame, used.outcome 0)]⟩ : CanFrameWriter).accepted =
          used.accepted := CanFrameWriter.accepted_send_of_ne frame hok
      simp only [haccepted, if_neg hok]

end CanLinkControlPlane

/-! ## Searching a table -/

/-- The element that `updateFirst` changes is in the table and meets the condition. -/
theorem mem_of_updateFirst {ρ β : Type*} {p : ρ → Bool} {f : ρ → β × ρ} {rs rs' : List ρ} {b : β}
    (h : updateFirst p f rs = some (b, rs')) :
    ∃ r ∈ rs, p r = true ∧ b = (f r).1 ∧ ∀ r' ∈ rs', r' ∈ rs ∨ r' = (f r).2 := by
  induction rs generalizing rs' with
  | nil => cases h
  | cons r rs ih =>
    unfold updateFirst at h
    split at h
    · rename_i hp
      obtain ⟨rfl, rfl⟩ := Prod.mk.inj (Option.some.inj h)
      refine ⟨r, by simp, hp, rfl, fun r' hr' => ?_⟩
      rcases mem_cons.mp hr' with rfl | hr'
      · exact .inr rfl
      · exact .inl (mem_cons_of_mem _ hr')
    · obtain ⟨⟨b', rest⟩, hrest, heq⟩ := Option.map_eq_some_iff.mp h
      obtain ⟨rfl, rfl⟩ := Prod.mk.inj heq
      obtain ⟨r₀, hr₀, hp, hb, hmem⟩ := ih hrest
      refine ⟨r₀, mem_cons_of_mem _ hr₀, hp, hb, fun r' hr' => ?_⟩
      rcases mem_cons.mp hr' with rfl | hr'
      · exact .inl (by simp)
      · exact (hmem r' hr').imp_left (mem_cons_of_mem _)

/-- The calls of the module; a `PollOnce` is any number of `arrive`s and one `finishPoll`. -/
inductive TransportAction where
  | addEgress (config : EgressConfig)
  | addIngress (config : IngressConfig)
  | addRpcClient (route : RpcClientRoute)
  | addRpcServer (route : RpcServerRoute)
  | initializeModule (env : InitializeEnv)
  | start (env : StartEnv)
  | arrive (frame : CanFrame) (time : UInt64) (env : ArrivalEnv)
      (outcome : Nat → Status)
  | finishPoll (env : PollEnv)
  | shutdown (stop : Status)

namespace CanChannelTransportModule

variable {maxSize : Nat} (m : CanChannelTransportModule maxSize)

def step : TransportAction → CanChannelTransportModule maxSize
  | .addEgress config => (m.addEgress config).2
  | .addIngress config => (m.addIngress config).2
  | .addRpcClient route => (m.addRpcClient route).2
  | .addRpcServer route => (m.addRpcServer route).2
  | .initializeModule env => (m.initializeModule env).2
  | .start env => (m.start env).2
  | .arrive frame time env outcome => (m.arrive frame time env outcome).transport
  | .finishPoll env => m.finishPoll env
  | .shutdown stop => m.shutdown stop

/-! ## Set-up and end -/

/-- The plane and what was observed of it are left alone. -/
structure SameControl (m m' : CanChannelTransportModule maxSize) : Prop where
  control : m'.control = m.control
  observed : m'.observedPeerRestarts = m.observedPeerRestarts

/-- So are the ingress routes. -/
structure SameReception (m m' : CanChannelTransportModule maxSize) : Prop
    extends SameControl m m' where
  ingress : m'.ingress = m.ingress

variable (m : CanChannelTransportModule maxSize)

theorem sameReception_addEgress (config : EgressConfig) :
    m.SameReception (m.addEgress config).2 := by
  unfold addEgress
  dsimp only
  split <;> exact ⟨⟨rfl, rfl⟩, rfl⟩

theorem sameControl_addIngress (config : IngressConfig) :
    m.SameControl (m.addIngress config).2 := by
  unfold addIngress
  dsimp only
  split <;> exact ⟨rfl, rfl⟩

theorem sameReception_addRpcClient (route : RpcClientRoute) :
    m.SameReception (m.addRpcClient route).2 := by
  unfold addRpcClient
  dsimp only
  split <;> exact ⟨⟨rfl, rfl⟩, rfl⟩

theorem sameReception_addRpcServer (route : RpcServerRoute) :
    m.SameReception (m.addRpcServer route).2 := by
  unfold addRpcServer
  dsimp only
  split <;> exact ⟨⟨rfl, rfl⟩, rfl⟩

theorem sameControl_initializeModule (env : InitializeEnv) :
    m.SameControl (m.initializeModule env).2 := by
  unfold initializeModule
  dsimp only
  split_ifs <;> exact ⟨rfl, rfl⟩

theorem sameReception_start (env : StartEnv) : m.SameReception (m.start env).2 := by
  unfold start
  dsimp only
  split_ifs <;> exact ⟨⟨rfl, rfl⟩, rfl⟩

theorem sameReception_shutdown (stop : Status) : m.SameReception (m.shutdown stop) := by
  unfold shutdown
  dsimp only
  split_ifs <;> exact ⟨⟨rfl, rfl⟩, rfl⟩

/-! ## Arrival of a frame -/

/-- What an application frame does to the reliable ingress of a route. -/
def IngressUpdate (before after : List (IngressRoute maxSize)) (frame : CanFrame)
    (networkNs : UInt64) (publish : Status) (writer : CanFrameWriter) : Prop :=
  ∀ r' ∈ after, r' ∈ before ∨ ∃ r ∈ before,
    r' = (r.accept frame networkNs publish writer).2.1

/-- The ways the arrival of a frame ends. -/
inductive Arrived (m : CanChannelTransportModule maxSize) (frame : CanFrame)
    (time : UInt64) (env : ArrivalEnv) (outcome : Nat → Status)
    (result : TransportAcceptResult maxSize) : Prop where
  | ignored (transport : result.transport = m) (passed : result.passed = none)
      (restarted : result.restarted = false)
  | control (running : m.running = true)
      (transport : result.transport = { m with
        control := (m.control.accept frame time { outcome := outcome }).plane })
      (passed : result.passed = none)
      (restarted : result.restarted =
        (m.control.accept frame time { outcome := outcome }).restarted)
  | application (table : RouteTable) (running : m.running = true)
      (enabled : m.control.applicationEnabled = true)
      (passed : result.passed = some table) (restarted : result.restarted = false)
      (side : result.transport.control.peerSide = m.control.peerSide)
      (observed : result.transport.observedPeerRestarts = m.observedPeerRestarts)
      (untouched : table ≠ .ingress → result.transport.ingress = m.ingress)
      (ingress : IngressUpdate m.ingress result.transport.ingress frame
        (m.control.toNetworkTime time) env.publish
        (m.control.applicationWriter { outcome := outcome }))

theorem acceptApplication_cases (hrunning : m.running = true)
    (henabled : m.control.applicationEnabled = true) (routeId : UInt16) (frame : CanFrame)
    (time : UInt64) (env : ArrivalEnv) (outcome : Nat → Status) :
    Arrived m frame time env outcome
      (m.acceptApplication routeId frame time env { outcome := outcome }) := by
  unfold acceptApplication
  dsimp only
  split
  · exact .application .egress hrunning henabled rfl rfl
      (peerSide_afterApplication _ _ _) rfl (fun _ => rfl)
      fun r' hr' => .inl hr'
  split
  · rename_i result ingress hfound
    refine .application .ingress hrunning henabled rfl rfl
      (peerSide_afterApplication _ _ _) rfl (fun hne => absurd rfl hne)
      fun r' hr' => ?_
    obtain ⟨r, hr, -, -, hmem⟩ := mem_of_updateFirst hfound
    exact (hmem r' hr').imp_right fun heq => ⟨r, hr, heq⟩
  split
  · exact .application .rpcClient hrunning henabled rfl rfl
      (peerSide_afterApplication _ _ _) rfl (fun _ => rfl)
      fun r' hr' => .inl hr'
  split
  · exact .application .rpcServer hrunning henabled rfl rfl
      (peerSide_afterApplication _ _ _) rfl (fun _ => rfl)
      fun r' hr' => .inl hr'
  · exact .ignored rfl rfl rfl

theorem arrive_cases (frame : CanFrame) (time : UInt64) (env : ArrivalEnv) (outcome : Nat → Status) :
    Arrived m frame time env outcome (m.arrive frame time env outcome) := by
  unfold arrive
  by_cases hrunning : m.running = true
  · rw [if_pos hrunning, accept]
    split
    · exact .ignored rfl rfl rfl
    · split
      · exact .ignored rfl rfl rfl
      · split
        · exact .control hrunning rfl rfl rfl
        · split
          · exact .ignored rfl rfl rfl
          · rename_i hgate
            exact acceptApplication_cases m hrunning (Bool.not_eq_false _ ▸ hgate) _ _ _ _ _
  · rw [if_neg hrunning]
    exact .ignored rfl rfl rfl

/-! ## PollOnce after the adapter -/

theorem Polling.peerSide_visitAll {ρ : Type*}
    (poll : ρ → CanFrameWriter → Status × ρ × CanFrameWriter) (p : Polling) (rs : List ρ) :
    (Polling.visitAll poll p rs).1.control.peerSide = p.control.peerSide := by
  induction rs generalizing p with
  | nil => rfl
  | cons r rs ih =>
    rw [Polling.visitAll]
    exact (ih _).trans (peerSide_afterApplication _ _ _)

/-- Every route of a polled table is the poll of a route of the table. -/
theorem Polling.mem_visitAll {ρ : Type*}
    {poll : ρ → CanFrameWriter → Status × ρ × CanFrameWriter} {p : Polling} {rs : List ρ} {r' : ρ}
    (h : r' ∈ (Polling.visitAll poll p rs).2) : ∃ r ∈ rs, ∃ writer, r' = (poll r writer).2.1 := by
  induction rs generalizing p with
  | nil => cases h
  | cons r rs ih =>
    rw [Polling.visitAll] at h
    rcases mem_cons.mp h with rfl | h
    · exact ⟨r, by simp, _, rfl⟩
    · obtain ⟨r₀, hr₀, writer, heq⟩ := ih h
      exact ⟨r₀, mem_cons_of_mem _ hr₀, writer, heq⟩

/-- The module once `PollOnce` has polled the control plane and looked at the restarts. -/
def polled (env : PollEnv) : CanChannelTransportModule maxSize :=
  ({ m with stats := m.stats.recordPoll env.adapterStatus }.pollControl env.clock.nowNs
    env.interrupt { outcome := env.outcome }).1.observeRestarts

/-- The rest of `PollOnce` runs `ResetPeerRoutes`. -/
def resets (env : PollEnv) : Bool :=
  m.running = true ∧ env.clock.status = .ok ∧
    (m.control.poll env.clock.nowNs env.interrupt { outcome := env.outcome }).2.1.stats.peerRestarts
      ≠ m.observedPeerRestarts

/-- The ways the rest of `PollOnce` ends. -/
inductive FinishedPoll (m : CanChannelTransportModule maxSize) (env : PollEnv)
    (m' : CanChannelTransportModule maxSize) : Prop where
  | stopped (failed : m.running = false ∨ env.clock.status ≠ .ok)
      (control : m'.control = m.control) (observed : m'.observedPeerRestarts = m.observedPeerRestarts)
      (ingress : m'.ingress = m.ingress)
  | polled (running : m.running = true) (clock : env.clock.status = .ok)
      (side : m'.control.peerSide = (m.control.poll env.clock.nowNs env.interrupt
        { outcome := env.outcome }).2.1.peerSide)
      (observed : m'.observedPeerRestarts = (m.polled env).observedPeerRestarts)
      (ingress : ∀ r' ∈ m'.ingress, ∃ r ∈ (m.polled env).ingress, ∃ writer,
        r' = (r.poll ((m.polled env).control.toNetworkTime env.clock.nowNs) writer).2.1)

@[simp] theorem control_observeRestarts : m.observeRestarts.control = m.control := by
  unfold observeRestarts
  split <;> rfl

theorem control_polled (env : PollEnv) :
    (m.polled env).control = (m.control.poll env.clock.nowNs env.interrupt
      { outcome := env.outcome }).2.1 := control_observeRestarts _

theorem finishPoll_cases (env : PollEnv) : FinishedPoll m env (m.finishPoll env) := by
  unfold finishPoll
  by_cases hrunning : m.running = false
  · rw [if_pos hrunning]
    exact .stopped (.inl hrunning) rfl rfl rfl
  rw [if_neg hrunning]
  dsimp only
  by_cases hclock : env.clock.status ≠ .ok
  · rw [if_pos hclock]
    exact .stopped (.inr hclock) rfl rfl rfl
  rw [if_neg hclock]
  have hpost : ∀ m₀ : CanChannelTransportModule maxSize,
      (m₀.postPoll env.post).control = m₀.control ∧
        (m₀.postPoll env.post).observedPeerRestarts = m₀.observedPeerRestarts ∧
        (m₀.postPoll env.post).ingress = m₀.ingress := by
    intro m₀
    unfold postPoll
    dsimp only
    split <;> exact ⟨rfl, rfl, rfl⟩
  refine .polled (Bool.not_eq_false _ ▸ hrunning) (Decidable.not_not.mp hclock) ?_ ?_ ?_
  · rw [(hpost _).1, ← control_polled]
    exact (Polling.peerSide_visitAll _ _ _).trans ((Polling.peerSide_visitAll _ _ _).trans
      ((Polling.peerSide_visitAll _ _ _).trans (Polling.peerSide_visitAll _ _ _)))
  · rw [(hpost _).2.1]
    rfl
  · rw [(hpost _).2.2]
    exact fun r' hr' => Polling.mem_visitAll hr'

end CanChannelTransportModule

end AsterCtrl.Can
