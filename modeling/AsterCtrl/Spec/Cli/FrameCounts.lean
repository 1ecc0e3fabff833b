import AsterCtrl.Native.Cli.Emitters
import AsterCtrl.Spec.Can.FastChannelIntegrity
import AsterCtrl.Spec.Can.ReliableSenderInvariant
import AsterCtrl.Spec.Cli.Resolution

/-!
# Frames of CAN routes

The resolver counts the data frames of a CAN route from its maximum size, for the utilization of
the link and for the transmit queue of a Zephyr node.  The bridges cut messages into frames on
their own.  Both agree, except that the resolver takes a payload of seven bytes for one frame on
every channel, while the reliable path has six bytes in a frame.

## Key results

- `frames_le_of_writes`: no bridge writes more frames than were counted, unless a reliable channel
  has a message of five bytes
- `Resolution.frameCount_le_canTxQueueDepth`: the transmit queue of a Zephyr node takes what was
  counted for its routes
- `frames_counted_iff`: when the counts of an accepted deployment are enough
-/

namespace AsterCtrl

open Can

/-! ## Bridges -/

namespace Can

open List

theorem FastCodec.length_encode {routeId : UInt16} {priority : CanPriority} {sequence : UInt8}
    {payload : List UInt8} {outputSize : Nat} {frames : List CanFrame}
    (h : FastCodec.encode routeId priority sequence payload outputSize = .ok frames) :
    frames.length =
      if payload.length ≤ 7 then 1 else fragmentsOf kFragmentPayload payload.length := by
  unfold FastCodec.encode at h
  dsimp only at h
  split_ifs at h with _ _ hshort
  · cases h
    rw [if_pos hshort, length_singleton]
  · cases h
    rw [if_neg hshort, length_map, length_range]
    rfl

variable {sizeLimit : Nat}

/-- A message is written with as many frames as its payload is encoded to at most. -/
theorem FastChannelEgress.length_accepted_send_le (e : FastChannelEgress sizeLimit)
    (message : List UInt8) (sourceTimestampNs : UInt64) (toNetworkTime : UInt64 → UInt64)
    (outcome : Nat → Status) :
    (e.send message sourceTimestampNs toNetworkTime ⟨outcome, []⟩).2.2.accepted.length ≤
      if message.length + 2 ≤ 7 then 1 else fragmentsOf kFragmentPayload (message.length + 2) := by
  unfold send
  dsimp only
  by_cases hsize : message.length > e.maxSerializedSize ∨ message.length > sizeLimit
  · rw [if_pos hsize]
    exact Nat.zero_le _
  rw [if_neg hsize]
  by_cases hrate : e.rateLimited (toNetworkTime sourceTimestampNs) = true
  · rw [if_pos hrate]
    exact Nat.zero_le _
  rw [if_neg hrate]
  cases hencode : e.encodeMessage message (toNetworkTime sourceTimestampNs) with
  | error status => exact Nat.zero_le _
  | ok frames =>
    obtain ⟨k, hk⟩ := e.accepted_sendFrames frames ⟨outcome, []⟩
    have hsent : (e.sendFrames ⟨outcome, []⟩ frames).2.2.accepted.length ≤ frames.length := by
      rw [hk]
      exact length_take_le' k frames
    have hlength := FastCodec.length_encode hencode
    rw [channelPayload, length_cons, length_cons] at hlength
    rw [← hlength]
    dsimp only
    split <;> exact hsent

namespace ReliableSender

variable {maxSize : Nat}

/-- A message that was just begun is written with one frame for each fragment at most. -/
theorem length_accepted_pump_begin_le {s : ReliableSender maxSize} {routeId : UInt16}
    {priority : CanPriority} {sequence : UInt8} {payload : List UInt8}
    {nowNs retryTimeoutNs : UInt64} {maximumRetries : UInt8}
    (h : (s.begin routeId priority sequence payload nowNs retryTimeoutNs maximumRetries).1 = .ok)
    (outcome : Nat → Status) :
    ((s.begin routeId priority sequence payload nowNs retryTimeoutNs maximumRetries).2.pump
      ⟨outcome, []⟩).2.2.accepted.length ≤ fragmentsOf kFragmentPayload payload.length := by
  rcases begin_cases s routeId priority sequence payload nowNs retryTimeoutNs maximumRetries with
    ⟨hfailed, -⟩ | ⟨-, -, -, hbegun⟩
  · exact absurd h hfailed
  obtain ⟨m, hm⟩ := pump_spec hbegun.inv hbegun.state_eq ⟨outcome, []⟩
  have hle := hm.le_count
  rw [hbegun.count_eq] at hle
  have hnone : (⟨outcome, []⟩ : CanFrameWriter).accepted.length = 0 := rfl
  rw [hm.accepted, length_append, length_map, length_range', hbegun.next_eq]
  omega

end ReliableSender

theorem ReliableChannelEgress.length_accepted_send_le (e : ReliableChannelEgress sizeLimit)
    (message : List UInt8) (sourceTimestampNs : UInt64) (toNetworkTime : UInt64 → UInt64)
    (outcome : Nat → Status) :
    (e.send message sourceTimestampNs toNetworkTime ⟨outcome, []⟩).2.2.accepted.length ≤
      if message.length > e.maxSerializedSize then 0
      else fragmentsOf kFragmentPayload (message.length + 2) := by
  unfold send
  dsimp only
  by_cases hsize : message.length > e.maxSerializedSize
  · rw [if_pos (.inl hsize)]
    exact Nat.zero_le _
  rw [if_neg hsize]
  split_ifs with _ _ _ hfailed
  · exact Nat.zero_le _
  · exact Nat.zero_le _
  · exact Nat.zero_le _
  · exact Nat.zero_le _
  · exact ReliableSender.length_accepted_pump_begin_le (not_not.mp hfailed) outcome

theorem CanRpcClient.length_accepted_callAsync_le {service : RpcService} {κ : Type}
    (c : CanRpcClient service κ) (descriptor : ServiceDescriptor) (request : List UInt8)
    (deadlineNs : UInt64) (completion : Option κ) (clock : ClockReading)
    (outcome : Nat → Status) :
    (c.callAsync descriptor request deadlineNs completion clock ⟨outcome, []⟩).2.2.accepted.length ≤
      fragmentsOf kFragmentPayload (request.length + 12) := by
  unfold callAsync
  split
  · exact Nat.zero_le _
  unfold startRequest
  dsimp only
  split_ifs with hfailed
  · exact Nat.zero_le _
  all_goals
    refine (ReliableSender.length_accepted_pump_begin_le (not_not.mp hfailed) outcome).trans ?_
    rw [requestPayload, length_append, length_append, length_writeLE, length_writeLE]
    exact Nat.le_of_eq (congrArg _ (by omega))

theorem CanRpcServer.length_accepted_sendResponse_le {service : RpcService}
    (s : CanRpcServer service) (status : Status) (response : List UInt8) (clock : ClockReading)
    (outcome : Nat → Status) :
    (s.sendResponse status response clock ⟨outcome, []⟩).writer.accepted.length ≤
      fragmentsOf kFragmentPayload (response.length + 5) := by
  unfold sendResponse
  dsimp only
  split_ifs with _ _ hfailed
  · exact Nat.zero_le _
  · exact Nat.zero_le _
  · exact Nat.zero_le _
  all_goals
    refine (ReliableSender.length_accepted_pump_begin_le (not_not.mp hfailed) outcome).trans ?_
    rw [responsePayload, length_cons, length_append, length_writeLE]
    exact Nat.le_of_eq (congrArg _ (by omega))

/-- A reliable channel that is idle writes a frame for each fragment, if no write is rejected. -/
theorem ReliableChannelEgress.length_accepted_send_eq (e : ReliableChannelEgress sizeLimit)
    (hroute : (CanArbitrationId.encode e.priority e.routeId).1 = .ok) (hsequence : e.sequence = 0)
    (hidle : e.sender = {}) (hlast : e.hasLastSend = false) (htimeout : e.retryTimeoutNs ≠ 0)
    {message : List UInt8} (hsize : message.length ≤ e.maxSerializedSize)
    (hfits : message.length ≤ sizeLimit) (hcount : message.length + 2 ≤ 96)
    (sourceTimestampNs : UInt64) :
    (e.send message sourceTimestampNs id ⟨fun _ => .ok, []⟩).2.2.accepted.length =
      fragmentsOf kFragmentPayload (message.length + 2) := by
  have hpayload : (FastChannelEgress.channelPayload sourceTimestampNs message).length =
      message.length + 2 := rfl
  have hnonempty : FastChannelEgress.channelPayload sourceTimestampNs message ≠ [] := nofun
  have hbegin := ReliableSender.begin_ok
    (s := ({} : ReliableSender (FastChannelEgress.kMaximumPayloadSize sizeLimit))) rfl
    hroute (show e.sequence ≤ 15 by rw [hsequence]; decide) hnonempty
    (by rw [hpayload]; exact Nat.add_le_add_right hfits 2)
    (by rw [hpayload, fragmentsOf, kFragmentPayload]; omega)
    sourceTimestampNs htimeout e.maximumRetries
  unfold send
  dsimp only [id_eq]
  rw [if_neg (by omega), hidle, if_neg (by simp [senderBusy]), if_neg (by simp [rateLimited, hlast]),
    if_neg (not_not_intro hbegin)]
  rcases ReliableSender.begin_cases {} e.routeId e.priority e.sequence
    (FastChannelEgress.channelPayload sourceTimestampNs message) sourceTimestampNs e.retryTimeoutNs
    e.maximumRetries with ⟨hfailed, -⟩ | ⟨-, -, -, hbegun⟩
  · exact absurd hbegin hfailed
  obtain ⟨-, -, haccepted⟩ := ReliableSender.pump_of_accepting hbegun.inv hbegun.state_eq
    hbegun.next_eq (w := ⟨fun _ => .ok, []⟩) fun _ => rfl
  refine (congrArg List.length haccepted).trans ?_
  rw [length_append, length_map, length_range, hbegun.count_eq, hpayload]
  exact Nat.zero_add _

end Can

/-! ## Routes -/

namespace Cli

open Deployment Except

/-- The bridge of a CAN route at a node writes this many data frames for a message of at most
    `max_size` bytes, each fragment once.  The bridges are those that the emitter selects, in any
    state, and the writer may reject any of the frames. -/
inductive Writes (schemaHash : Deployment.Route → Vector UInt8 16)
    (routes : List Deployment.Route) (route : Deployment.Route) :
    (node : String) → (frames : Nat) → Prop
  | bestEffort {transport : Transport} (hcarrier : route.carrier = some transport)
      (hkind : route.kind = .channel)
      (hreliability : (canEgress schemaHash route).reliability = .bestEffort)
      (e : FastChannelEgress
        (canMaximumMessageSize (nodeRoutes routes route.sourceNode) transport))
      (hroute : e.routeId = (canEgress schemaHash route).routeId)
      (hsize : e.maxSerializedSize =
        (canEgress schemaHash route).descriptor.messageType.maxSerializedSize)
      (message : List UInt8) (hmessage : message.length ≤ route.maxSize)
      (sourceTimestampNs : UInt64) (toNetworkTime : UInt64 → UInt64) (outcome : Nat → Status) :
      Writes schemaHash routes route route.sourceNode
        (e.send message sourceTimestampNs toNetworkTime ⟨outcome, []⟩).2.2.accepted.length
  | reliable {transport : Transport} (hcarrier : route.carrier = some transport)
      (hkind : route.kind = .channel)
      (hreliability : (canEgress schemaHash route).reliability = .reliable)
      (e : ReliableChannelEgress
        (canMaximumMessageSize (nodeRoutes routes route.sourceNode) transport))
      (hroute : e.routeId = (canEgress schemaHash route).routeId)
      (hsize : e.maxSerializedSize =
        (canEgress schemaHash route).descriptor.messageType.maxSerializedSize)
      (message : List UInt8) (hmessage : message.length ≤ route.maxSize)
      (sourceTimestampNs : UInt64) (toNetworkTime : UInt64 → UInt64) (outcome : Nat → Status) :
      Writes schemaHash routes route route.sourceNode
        (e.send message sourceTimestampNs toNetworkTime ⟨outcome, []⟩).2.2.accepted.length
  | request (hkind : route.kind = .rpc) {service : RpcService} {κ : Type}
      (c : CanRpcClient service κ) (descriptor : ServiceDescriptor)
      (request : List UInt8) (hrequest : request.length ≤ route.maxSize) (deadlineNs : UInt64)
      (completion : Option κ) (clock : ClockReading) (outcome : Nat → Status) :
      Writes schemaHash routes route route.sourceNode
        (c.callAsync descriptor request deadlineNs completion clock
          ⟨outcome, []⟩).2.2.accepted.length
  | response (hkind : route.kind = .rpc) {service : RpcService} (s : CanRpcServer service)
      (status : Status) (response : List UInt8) (hresponse : response.length ≤ route.maxSize)
      (clock : ClockReading) (outcome : Nat → Status) :
      Writes schemaHash routes route route.destinationNode
        (s.sendResponse status response clock ⟨outcome, []⟩).writer.accepted.length

variable {route : Deployment.Route}

theorem Writes.node {schemaHash : Deployment.Route → Vector UInt8 16}
    {routes : List Deployment.Route} {node : String} {frames : Nat}
    (h : Writes schemaHash routes route node frames) :
    route.sourceNode = node ∨ route.destinationNode = node := by
  cases h with
  | bestEffort => exact .inl rfl
  | reliable => exact .inl rfl
  | request => exact .inl rfl
  | response => exact .inr rfl

/-- No bridge writes more frames than were counted, unless it is a reliable channel with a message
    of five bytes, which the resolver takes for one frame. -/
theorem frames_le_of_writes {schemaHash : Deployment.Route → Vector UInt8 16}
    {routes : List Deployment.Route} {node : String} {frames : Nat}
    (h : Writes schemaHash routes route node frames)
    (hfive : route.kind = .channel → route.qos = .reliable → route.maxSize = 5 →
      route.maxEncodedSize < 5) : frames ≤ frameCount route.kind route.maxSize := by
  cases h with
  | bestEffort _ hkind _ e _ _ message hmessage time toNetworkTime outcome =>
    refine (e.length_accepted_send_le message time toNetworkTime outcome).trans ?_
    simp only [hkind, frameCount, protocolOverhead, canFragmentPayload, fragmentsOf,
      kFragmentPayload, true_and]
    split_ifs <;> omega
  | reliable _ hkind hreliability e _ hsize message hmessage time toNetworkTime outcome =>
    have hqos : route.qos = .reliable := by
      cases hq : route.qos with
      | reliable => rfl
      | bestEffort => simp [canEgress, reliability, hq] at hreliability
    have hlimit : e.maxSerializedSize = route.maxEncodedSize := hsize
    have := hfive hkind hqos
    refine (e.length_accepted_send_le message time toNetworkTime outcome).trans ?_
    simp only [hkind, frameCount, protocolOverhead, canFragmentPayload, fragmentsOf,
      kFragmentPayload, true_and]
    split_ifs <;> omega
  | request hkind c descriptor request hrequest deadlineNs completion clock outcome =>
    refine (c.length_accepted_callAsync_le descriptor request deadlineNs completion clock
      outcome).trans ?_
    simp only [hkind, frameCount, protocolOverhead, canFragmentPayload, fragmentsOf,
      kFragmentPayload, reduceCtorEq, false_and, if_false]
    omega
  | response hkind s status response hresponse clock outcome =>
    refine (s.length_accepted_sendResponse_le status response clock outcome).trans ?_
    simp only [hkind, frameCount, protocolOverhead, canFragmentPayload, fragmentsOf,
      kFragmentPayload, reduceCtorEq, false_and, if_false]
    omega

namespace Resolution

variable {digest : String → String} {packages : List Package} {application : Application}
  {deployment : Deployment} {release : Bool} {lock : DeploymentLock}
  (r : Resolution digest packages application deployment release lock)

include r

/-- The transmit queue of a Zephyr node has room for what was counted for its routes. -/
theorem frameCount_le_canTxQueueDepth (hroute : route ∈ lock.routes) (hcan : route.isCarriedBy .can)
    {nodeLock : NodeLock} (hnode : nodeLock ∈ lock.nodes)
    (hend : route.sourceNode = nodeLock.name ∨ route.destinationNode = nodeLock.name)
    {runtime : ZephyrRuntime} (hruntime : runtime ∈ nodeLock.runtime) :
    frameCount route.kind route.maxSize ≤ runtime.canTxQueueDepth := by
  obtain ⟨node, -, hfrom⟩ := r.lockedFrom hnode
  obtain ⟨rows, names, executors, -, rfl, -⟩ := hfrom.runtime runtime hruntime
  rw [hfrom.name] at hend
  have hmem : route ∈ (nodeRoutes lock.routes node.name).filter fun route =>
      route.isCarriedBy .can :=
    List.mem_filter.mpr ⟨List.mem_filter.mpr ⟨hroute, decide_eq_true hend⟩, hcan⟩
  exact le_maxDefault (List.mem_map_of_mem (f := fun route => frameCount route.kind route.maxSize)
    hmem) 1

/-- A reliable channel on CAN with messages of five bytes writes two frames for such a message. -/
theorem writes_two (schemaHash : Deployment.Route → Vector UInt8 16) (hroute : route ∈ lock.routes)
    (hcan : route.isCarriedBy .can) (hkind : route.kind = .channel) (hqos : route.qos = .reliable)
    (hmax : route.maxSize = 5) (hencoded : 5 ≤ route.maxEncodedSize) :
    Writes schemaHash lock.routes route route.sourceNode 2 := by
  obtain ⟨transport, hcarrier, htype⟩ := (Option.any_eq_true _ _).mp hcan
  obtain ⟨hlow, hhigh⟩ := r.can_id hroute hcarrier (of_decide_eq_true htype)
  have hselected : route.maxEncodedSize ≤
      canMaximumMessageSize (nodeRoutes lock.routes route.sourceNode) transport := by
    refine le_maxDefault (List.mem_map_of_mem (List.mem_filter.mpr ⟨?_, ?_⟩)) 0
    · exact List.mem_filter.mpr ⟨hroute, by simp⟩
    · simp [hcarrier]
  let e : ReliableChannelEgress
      (canMaximumMessageSize (nodeRoutes lock.routes route.sourceNode) transport) :=
    { routeId := (canEgress schemaHash route).routeId, maxSerializedSize := route.maxEncodedSize }
  have hsize : [(0 : UInt8), 0, 0, 0, 0].length ≤ e.maxSerializedSize := hencoded
  have htwo := e.length_accepted_send_eq ?_ rfl rfl rfl (by exact nofun) hsize
    (hencoded.trans hselected) (by decide) 0
  · have hwrites : Writes schemaHash lock.routes route route.sourceNode _ :=
      .reliable hcarrier hkind (by simp [canEgress, reliability, hqos]) e rfl rfl [0, 0, 0, 0, 0]
        (Nat.le_of_eq hmax.symm) 0 id fun _ => .ok
    rwa [htwo] at hwrites
  · have hid : (UInt16.ofNat route.id).toNat = route.id := by
      rw [UInt16.toNat_ofNat']
      omega
    rw [CanArbitrationId.encode_status_ok_iff, Ne, ← UInt16.toNat_inj, UInt16.le_iff_toNat_le]
    change (UInt16.ofNat route.id).toNat ≠ 0 ∧ (UInt16.ofNat route.id).toNat ≤ 511
    omega

end Resolution

/-- The counts of an accepted deployment are enough if and only if no reliable channel on CAN has a
    maximum size of five bytes and messages of that size. -/
theorem frames_counted_iff (digest : String → String) (packages : List Package)
    (application : Application) (deployment : Deployment) (release : Bool) (lock : DeploymentLock)
    (h : resolveDeployment digest packages application deployment release = .ok lock)
    (schemaHash : Deployment.Route → Vector UInt8 16) :
    (∀ route ∈ lock.routes, route.isCarriedBy .can → ∀ node frames,
      Writes schemaHash lock.routes route node frames →
        frames ≤ frameCount route.kind route.maxSize ∧
        ∀ nodeLock ∈ lock.nodes, nodeLock.name = node → ∀ runtime ∈ nodeLock.runtime,
          frames ≤ runtime.canTxQueueDepth) ↔
    ∀ route ∈ lock.routes, route.isCarriedBy .can → route.kind = .channel → route.qos = .reliable →
      route.maxSize = 5 → route.maxEncodedSize < 5 := by
  obtain ⟨r⟩ := exists_resolution h
  constructor
  · intro hcounted route hroute hcan hkind hqos hmax
    by_contra hencoded
    have hwrites := r.writes_two schemaHash hroute hcan hkind hqos hmax (Nat.not_lt.mp hencoded)
    have hle := (hcounted route hroute hcan _ _ hwrites).1
    rw [hkind, hmax] at hle
    exact absurd hle (by decide)
  · intro hfive route hroute hcan node frames hwrites
    have hle := frames_le_of_writes hwrites (hfive route hroute hcan)
    refine ⟨hle, fun nodeLock hnode hname runtime hruntime => hle.trans ?_⟩
    exact r.frameCount_le_canTxQueueDepth hroute hcan hnode (hname ▸ hwrites.node) hruntime

/-- A reliable channel with a maximum size of five bytes was counted with one frame and writes
    two. -/
theorem two_frames_counted_as_one :
    ∃ lock, resolveDeployment id Talks.packages (Talks.application .reliable (some 5))
        Talks.twoNodes false = .ok lock ∧
      ∃ route ∈ lock.routes, route.isCarriedBy .can ∧
        Writes (fun _ => Vector.replicate 16 0) lock.routes route route.sourceNode 2 ∧
        frameCount route.kind route.maxSize = 1 := by
  obtain ⟨lock, hlock, route, hroute, hcan, hkind, hqos, hmax, hencoded⟩ :
      ∃ lock ∈ (resolveDeployment id Talks.packages (Talks.application .reliable (some 5))
          Talks.twoNodes false).toOption,
        ∃ route ∈ lock.routes, route.isCarriedBy .can ∧ route.kind = .channel ∧
          route.qos = .reliable ∧ route.maxSize = 5 ∧ 5 ≤ route.maxEncodedSize := by
    decide +kernel
  obtain ⟨r⟩ := exists_resolution (mem_toOption.mp hlock)
  refine ⟨lock, mem_toOption.mp hlock, route, hroute, hcan, ?_, by rw [hkind, hmax]; decide⟩
  exact r.writes_two _ hroute hcan hkind hqos hmax hencoded

/-- With a maximum size of six bytes the counts are enough. -/
theorem frames_counted_of_six_bytes :
    ∃ lock, resolveDeployment id Talks.packages (Talks.application .reliable (some 6))
        Talks.twoNodes false = .ok lock ∧
      ∀ route ∈ lock.routes, route.isCarriedBy .can → ∀ node frames,
        Writes (fun _ => Vector.replicate 16 0) lock.routes route node frames →
          frames ≤ frameCount route.kind route.maxSize ∧
          ∀ nodeLock ∈ lock.nodes, nodeLock.name = node → ∀ runtime ∈ nodeLock.runtime,
            frames ≤ runtime.canTxQueueDepth := by
  obtain ⟨lock, hlock, hroutes⟩ :
      ∃ lock ∈ (resolveDeployment id Talks.packages (Talks.application .reliable (some 6))
          Talks.twoNodes false).toOption, ∀ route ∈ lock.routes, route.maxSize = 6 := by
    decide +kernel
  refine ⟨lock, mem_toOption.mp hlock,
    (frames_counted_iff _ _ _ _ _ lock (mem_toOption.mp hlock) _).mpr ?_⟩
  intro route hroute _ _ _ hfive
  exact nomatch (hroutes route hroute).symm.trans hfive

end Cli

end AsterCtrl
