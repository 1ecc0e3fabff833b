import AsterCtrl.Native.Usb.PacketChannel
import AsterCtrl.Spec.Usb.PartialWrite
import Mathlib.Logic.Function.Basic

/-!
# Channels between two nodes over a byte stream

A node has a router and the ends of channels that it leads to.  The ends are bound, the router is
sealed and packets arrive, in any order.  An end is bound only if its route is free, so the router
leads to every bound end, whatever is registered later.

A message that one node has written to a byte stream is published at the other one, if it arrives in
time.

## Key results

- `PacketNode.inv_step`: the router leads to every bound end
- `PacketNode.publishes_iff_run`: which packets are published, in every run
- `PacketNode.sent_message_published`: the way of a message from one node to the other
-/

namespace AsterCtrl.Usb

open List

/-! ## What the operations do -/

theorem StaticRouter.register_cases {η : Type} {maxRoutes : Nat} (router : StaticRouter η maxRoutes)
    (route : PacketRoute η) :
    ((router.register route).1 ≠ .ok ∧ (router.register route).2 = router) ∨
      (router.routes.find? (fun r => r.routeId = route.routeId ∧ r.kind = route.kind) = none ∧
        (router.register route).2.routes = router.routes ++ [route]) := by
  unfold register
  split_ifs with _ _ hany
  · exact .inl ⟨by simp, rfl⟩
  · exact .inl ⟨by simp, rfl⟩
  · exact .inl ⟨by simp, rfl⟩
  · exact .inl ⟨by simp, rfl⟩
  · refine .inr ⟨find?_eq_none.mpr fun r hr hsame => hany ?_, rfl⟩
    exact any_eq_true.mpr ⟨r, hr, hsame⟩

namespace ChannelPacketIngress

variable (i : ChannelPacketIngress)

/-- `Bind` may add the route of the end; if it binds the end, the route was free. -/
theorem bind_spec {η : Type} {maxRoutes : Nat} (router : StaticRouter η maxRoutes) (this : η)
    (messageType : TypeDescriptor) (registered : Status) :
    let bound := i.bind router this messageType registered
    ∃ added, bound.2.2.routes = router.routes ++ added ∧ (bound.2.1 = i ∨
      bound.2.1 = { i with messageType := messageType, bound := true } ∧
        router.routes.find? (fun r => r.routeId = i.routeId ∧ r.kind = .kChannel) = none ∧
        added = [⟨i.routeId, .kChannel, messageType.schemaHash, this⟩]) := by
  intro bound
  have hbound : bound = i.bind router this messageType registered := rfl
  unfold bind at hbound
  split at hbound
  · exact ⟨[], by rw [hbound, append_nil], .inl (by rw [hbound])⟩
  · rcases router.register_cases ⟨i.routeId, .kChannel, messageType.schemaHash, this⟩ with
      ⟨hne, hsame⟩ | ⟨hfree, hroutes⟩
    · rw [if_pos hne] at hbound
      exact ⟨[], by rw [hbound, hsame, append_nil], .inl (by rw [hbound])⟩
    · dsimp only at hbound
      split_ifs at hbound
      · exact ⟨_, by rw [hbound, hroutes], .inl (by rw [hbound])⟩
      · exact ⟨_, by rw [hbound, hroutes], .inl (by rw [hbound])⟩
      · exact ⟨_, by rw [hbound, hroutes], .inr ⟨by rw [hbound], hfree, rfl⟩⟩

/-- The end takes the packet at this time. -/
structure Takes (packet : Packet) (nowNs : UInt64) : Prop where
  bound : i.bound = true
  routeId : packet.header.routeId = i.routeId
  kind : packet.header.kind = .kChannel
  schemaHash : packet.header.schemaHash = i.messageType.schemaHash
  size : packet.payload.length ≤ i.messageType.maxSerializedSize
  inTime : packet.header.deadlineNs = 0 ∨ nowNs < packet.header.deadlineNs

/-- `Accept` changes nothing but counters, and publishes what the end takes. -/
theorem accept_spec (packet : Packet) (nowNs : UInt64) (publish : Status) :
    (∃ stats, (i.accept packet nowNs publish).2.1 = { i with stats := stats }) ∧
      ((i.Takes packet nowNs ∧ (i.accept packet nowNs publish).2.2 =
          some (packet.payload, packet.header.sourceTimestampNs)) ∨
        (¬ i.Takes packet nowNs ∧ (i.accept packet nowNs publish).2.2 = none)) := by
  unfold accept
  split_ifs with hbound hfits hlate hpublish
  · exact ⟨⟨_, rfl⟩, .inr ⟨fun h => by simp [h.bound] at hbound, rfl⟩⟩
  · refine ⟨⟨_, rfl⟩, .inr ⟨fun h => ?_, rfl⟩⟩
    rcases hfits with hroute | hkind | hschema | hsize
    · exact hroute h.routeId
    · exact hkind h.kind
    · exact hschema h.schemaHash
    · exact Nat.not_lt.mpr h.size hsize
  · refine ⟨⟨_, rfl⟩, .inr ⟨fun h => ?_, rfl⟩⟩
    exact h.inTime.elim hlate.1 fun hlt => UInt64.not_lt.mpr hlate.2 hlt
  all_goals
    simp only [not_or, not_not, Nat.not_lt] at hfits
    refine ⟨⟨_, rfl⟩, .inl ⟨⟨by simpa using hbound, hfits.1, hfits.2.1, hfits.2.2.1, hfits.2.2.2,
      ?_⟩, rfl⟩⟩
    by_cases hzero : packet.header.deadlineNs = 0
    · exact .inl hzero
    · exact .inr (UInt64.not_le.mp fun hle => hlate ⟨hzero, hle⟩)

end ChannelPacketIngress

variable {maxPayload : Nat} {e : ChannelPacketEgress} {message : List UInt8} {info : MessageInfo}
  {write : WriteOutcome}

/-- What `Send` passes to the transport if it succeeds. -/
theorem ChannelPacketEgress.send_ok {t : StreamTransport maxPayload}
    (h : (e.send message info t write).2.status = .ok) :
    message.length ≤ e.messageType.maxSerializedSize ∧
      (e.send message info t write).2 = t.send ⟨e.packet message info, write⟩ := by
  unfold send at h ⊢
  split at h
  · cases h
  · rename_i hlong
    rw [if_neg hlong]
    dsimp only
    split_ifs <;> exact ⟨Nat.not_lt.mp hlong, rfl⟩

/-! ## Nodes -/

/-- A router with the ends that it leads to, and what these have published, oldest first. -/
structure PacketNode (k maxRoutes : Nat) where
  router : StaticRouter (Fin k) maxRoutes := {}
  ingress : Fin k → ChannelPacketIngress
  published : List (Fin k × List UInt8 × UInt64) := []

inductive PacketNodeCall (k : Nat) where
  | bind (i : Fin k) (messageType : TypeDescriptor) (registered : Status)
  | sealRoutes
  | receive (packet : Packet) (nowNs : UInt64) (publish : Status)

namespace PacketNode

variable {k maxRoutes : Nat} (n : PacketNode k maxRoutes)

/-- `Receive` of the router: `Accept`, and `Accept` of the end that it calls. -/
def receive (packet : Packet) (nowNs : UInt64) (publish : Status) :
    Status × PacketNode k maxRoutes :=
  match n.router.accept packet.header with
  | .error status => (status, n)
  | .ok i =>
    let accepted := (n.ingress i).accept packet nowNs publish
    (accepted.1, { n with
      ingress := Function.update n.ingress i accepted.2.1
      published := n.published ++ accepted.2.2.toList.map fun message => (i, message) })

def step : PacketNodeCall k → PacketNode k maxRoutes
  | .bind i messageType registered =>
    let bound := (n.ingress i).bind n.router i messageType registered
    { n with router := bound.2.2, ingress := Function.update n.ingress i bound.2.1 }
  | .sealRoutes => { n with router := n.router.sealRoutes.2 }
  | .receive packet nowNs publish => (n.receive packet nowNs publish).2

/-- An empty router, and ends for these routes. -/
def init (routeId : Fin k → UInt16) : PacketNode k maxRoutes where
  ingress i := { routeId := routeId i }

/-- The routes lead to the end, if it is bound. -/
def Leads (routes : List (PacketRoute (Fin k))) (i : Fin k) (e : ChannelPacketIngress) : Prop :=
  e.bound = true → routes.find? (fun r => r.routeId = e.routeId ∧ r.kind = .kChannel) =
    some ⟨e.routeId, .kChannel, e.messageType.schemaHash, i⟩

def Inv : Prop := ∀ i, Leads n.router.routes i (n.ingress i)

variable {n} {packet : Packet} {nowNs : UInt64} {publish : Status}

/-- An arrival changes counters of ends and adds to what is published. -/
theorem receive_keeps (i : Fin k) :
    (n.receive packet nowNs publish).2.router = n.router ∧
      ∃ stats, (n.receive packet nowNs publish).2.ingress i =
        { n.ingress i with stats := stats } := by
  unfold receive
  split
  · exact ⟨rfl, _, rfl⟩
  · rename_i j _
    refine ⟨rfl, ?_⟩
    by_cases hij : i = j
    · subst hij
      simpa using ((n.ingress i).accept_spec packet nowNs publish).1
    · exact ⟨_, Function.update_of_ne hij _ _⟩

theorem inv_step (h : n.Inv) (call : PacketNodeCall k) : (n.step call).Inv := by
  intro j
  cases call with
  | bind i messageType registered =>
    obtain ⟨added, hroutes, hend⟩ := (n.ingress i).bind_spec n.router i messageType registered
    -- a route that is added at the end hides none that is there
    have hkept : Leads (n.router.routes ++ added) j (n.ingress j) := by
      intro hbound
      rw [find?_append, h j hbound, Option.some_or]
    rw [step, hroutes]
    dsimp only
    by_cases hji : j = i
    · subst hji
      rw [Function.update_self]
      rcases hend with hend | ⟨hend, hfree, rfl⟩
      · rw [hend]
        exact hkept
      · rw [hend]
        intro _
        rw [find?_append, hfree]
        simp
    · rw [Function.update_of_ne hji]
      exact hkept
  | sealRoutes =>
    have hroutes : n.router.sealRoutes.2.routes = n.router.routes := by
      unfold StaticRouter.sealRoutes
      split_ifs <;> rfl
    rw [step, hroutes]
    exact h j
  | receive packet nowNs publish =>
    obtain ⟨hrouter, stats, heq⟩ := receive_keeps (n := n) j
    rw [step, hrouter, heq]
    exact h j

variable (routeId : Fin k → UInt16) (calls : List (PacketNodeCall k))

theorem inv_run : (Machine.run step (init routeId : PacketNode k maxRoutes) calls).Inv :=
  Machine.run_invariant step (I := Inv) (fun _ call h => inv_step h call)
    (fun _ hi => by cases hi) calls

/-- A sealed router passes to an end what it takes, and nothing is published by any other. -/
theorem published_receive (h : n.Inv) (i : Fin k) (time : UInt64) :
    (n.receive packet nowNs publish).2.published = n.published ++ [(i, message, time)] ↔
      n.router.isSealed = true ∧ (n.ingress i).Takes packet nowNs ∧
        message = packet.payload ∧ time = packet.header.sourceTimestampNs := by
  have hnothing : n.published ≠ n.published ++ [(i, message, time)] := fun heq => by
    simpa using congrArg length heq
  constructor
  · intro hpublished
    unfold receive at hpublished
    split at hpublished
    · exact absurd hpublished hnothing
    · rename_i j hj
      have hsealed : n.router.isSealed = true := by
        by_contra hnot
        rw [StaticRouter.accept, if_pos (Bool.eq_false_of_not_eq_true hnot)] at hj
        cases hj
      rcases ((n.ingress j).accept_spec packet nowNs publish).2 with ⟨htakes, hout⟩ | ⟨-, hout⟩
      · simp only [hout, Option.toList_some, map_cons, map_nil, append_cancel_left_eq, cons.injEq,
          Prod.mk.injEq, and_true] at hpublished
        obtain ⟨rfl, rfl, rfl⟩ := hpublished
        exact ⟨hsealed, htakes, rfl, rfl⟩
      · simp only [hout, Option.toList_none, map_nil, append_nil] at hpublished
        exact absurd hpublished hnothing
  · rintro ⟨hsealed, htakes, rfl, rfl⟩
    have haccept : n.router.accept packet.header = .ok i := by
      have hfound := h i htakes.bound
      rw [← htakes.routeId, ← htakes.schemaHash] at hfound
      rw [StaticRouter.accept, if_neg (by simp [hsealed]), htakes.kind, hfound]
      exact if_neg (not_not_intro rfl)
    rcases ((n.ingress i).accept_spec packet nowNs publish).2 with ⟨-, hout⟩ | ⟨hnot, -⟩
    · simp [receive, haccept, hout]
    · exact absurd htakes hnot

/-- In every run of a node, a packet is published by an end exactly if the router is sealed, the
    end is bound, the packet has its route, kind and schema, is not longer than its messages may be,
    and its deadline has not passed; what is published is its payload and time stamp. -/
theorem publishes_iff_run (packet : Packet) (nowNs : UInt64) (publish : Status) (i : Fin k)
    (message : List UInt8) (time : UInt64) :
    let n := Machine.run step (init routeId : PacketNode k maxRoutes) calls
    (n.receive packet nowNs publish).2.published = n.published ++ [(i, message, time)] ↔
      n.router.isSealed = true ∧ (n.ingress i).Takes packet nowNs ∧
        message = packet.payload ∧ time = packet.header.sourceTimestampNs :=
  published_receive (inv_run routeId calls) i time

/-- From one node to the other: in every run of a node whose router is sealed and that has bound an
    end with the route and type of the sender, the bytes that `Send` has written of a message are
    decoded, and the message is published exactly if its deadline has not passed. -/
theorem sent_message_published {t : StreamTransport maxPayload}
    (hsent : (e.send message info t write).2.status = .ok) (hsize : message.length < 2 ^ 16)
    {n : PacketNode k maxRoutes} (hn : n = Machine.run step (init routeId) calls)
    (hsealed : n.router.isSealed = true) {i : Fin k} (hbound : (n.ingress i).bound = true)
    (hroute : (n.ingress i).routeId = e.routeId) (htype : (n.ingress i).messageType = e.messageType)
    (peer : PacketCodec maxPayload) (nowNs : UInt64) (publish : Status) :
    ∃ view peer', peer.decode (e.send message info t write).2.taken = (.ok view, peer') ∧
      ((n.receive ⟨view.header, peer'.visible view⟩ nowNs publish).2.published =
          n.published ++ [(i, message, info.sourceTimestampNs)] ↔
        (e.packet message info).header.deadlineNs = 0 ∨
          nowNs < (e.packet message info).header.deadlineNs) := by
  obtain ⟨hfits, hsend⟩ := ChannelPacketEgress.send_ok hsent
  rw [hsend] at hsent ⊢
  rcases t.send_cases ⟨e.packet message info, write⟩ with ⟨hne, -⟩ | ⟨haccepted, -, hcomplete⟩
  · exact absurd hsent hne
  · obtain ⟨view, peer', hdecode, hheader, -, hvisible⟩ :=
      peer.decode_ok (PacketCodec.ofSegment_encode haccepted hsize)
    refine ⟨view, peer', by rw [hcomplete hsent]; exact hdecode, ?_⟩
    rw [hheader, hvisible, published_receive (hn ▸ inv_run routeId calls)]
    constructor
    · exact fun h => h.2.1.inTime
    · exact fun h => ⟨hsealed, ⟨hbound, hroute.symm, rfl, by rw [htype]; rfl,
        by rw [htype]; exact hfits, h⟩, rfl, rfl⟩

private def byteNode : PacketNode 1 1 :=
  Machine.run step (init fun _ => 8) [.bind 0 ⟨"m", .replicate 16 0, 1⟩ .ok, .sealRoutes]

private def byteSent : SendResult 1 :=
  (ChannelPacketEgress.send ⟨8, 0, ⟨"m", .replicate 16 0, 1⟩, true, {}⟩ [5] {} .listening
    ⟨.ok, 51⟩).2

theorem sent_message_published_byte :
    ∃ view peer', ({} : PacketCodec 1).decode byteSent.taken = (.ok view, peer') ∧
      (byteNode.receive ⟨view.header, peer'.visible view⟩ 9 .ok).2.published = [(0, [5], 0)] := by
  have hsent : byteSent.status = .ok := by decide +kernel
  unfold byteSent at hsent ⊢
  obtain ⟨view, peer', hdecode, hiff⟩ := sent_message_published _ _ hsent (by decide)
    (rfl : byteNode = _) rfl (i := 0) rfl rfl rfl {} 9 .ok
  exact ⟨view, peer', hdecode, hiff.mpr (.inl rfl)⟩

end PacketNode

end AsterCtrl.Usb
