import AsterCtrl.Native.Can.Protocol
import AsterCtrl.Native.LocalChannel
import AsterCtrl.Native.Usb.StreamTransport

/-!
# Channels over packets

`StaticRouter` of `router.hpp`, and `ChannelPacketEgress` and `ChannelPacketIngress` of
`channel_bridge.hpp`.  A handler of the router is a value of an arbitrary type `η`, and `accept`
says which one is called.

The answers of the transport and of the channel are arguments, and so is the time of the caller.
Of a channel descriptor only the message type is kept, since the rest is passed on to the channel.
-/

namespace AsterCtrl.Usb

/-! ## Router -/

structure PacketRoute (η : Type) where
  routeId : UInt16
  kind : PacketKind
  schemaHash : Vector UInt8 16
  handler : η

structure StaticRouter (η : Type) (maxRoutes : Nat) where
  /-- The first `route_count_` elements of `routes_`. -/
  routes : List (PacketRoute η) := []
  length_routes : routes.length ≤ maxRoutes := by exact Nat.zero_le _
  isSealed : Bool := false

namespace StaticRouter

variable {η : Type} {maxRoutes : Nat} (router : StaticRouter η maxRoutes)

/-- `StaticRouter::Register` with a handler. -/
def register (route : PacketRoute η) : Status × StaticRouter η maxRoutes :=
  if router.isSealed then (.invalidState, router)
  else if route.routeId = 0 then (.invalidArgument, router)
  else if router.routes.any fun r => r.routeId = route.routeId ∧ r.kind = route.kind then
    (.alreadyExists, router)
  else if h : router.routes.length = maxRoutes then (.capacityExceeded, router)
  else
    (.ok, { router with
      routes := router.routes ++ [route]
      length_routes := by
        rw [List.length_append, List.length_singleton]
        exact Nat.lt_of_le_of_ne router.length_routes h })

/-- `StaticRouter::Seal`. -/
def sealRoutes : Status × StaticRouter η maxRoutes :=
  if router.isSealed then (.invalidState, router) else (.ok, { router with isSealed := true })

/-- `StaticRouter::Accept` up to the call of the handler. -/
def accept (header : PacketHeader) : Except Status η :=
  if router.isSealed = false then .error .invalidState
  else
    match router.routes.find? fun r => r.routeId = header.routeId ∧ r.kind = header.kind with
    | none => .error .notFound
    | some route =>
      if route.schemaHash ≠ header.schemaHash then .error .typeMismatch else .ok route.handler

end StaticRouter

/-! ## Egress -/

structure ChannelPacketEgressStats where
  messages : UInt32 := 0
  sendFailures : UInt32 := 0
deriving DecidableEq, Repr

structure ChannelPacketEgress where
  routeId : UInt16
  maximumAgeNs : UInt64 := 0
  /-- `descriptor_.message_type`. -/
  messageType : TypeDescriptor := ⟨"", .replicate 16 0, 0⟩
  bound : Bool := false
  stats : ChannelPacketEgressStats := {}
deriving DecidableEq, Repr

/-- The check of both `Bind` functions. -/
def bindRejected (bound : Bool) (routeId : UInt16) (messageType : TypeDescriptor) :
    Option Status :=
  if bound = true ∨ routeId = 0 ∨ messageType.maxSerializedSize = 0 then
    some (if bound then .invalidState else .invalidArgument)
  else none

namespace ChannelPacketEgress

variable (e : ChannelPacketEgress)

/-- `ChannelPacketEgress::Bind`; `registered` is the answer to `RegisterSubscriber`. -/
def bind (messageType : TypeDescriptor) (registered : Status) : Status × ChannelPacketEgress :=
  match bindRejected e.bound e.routeId messageType with
  | some status => (status, e)
  | none =>
    (registered, if registered = .ok then { e with messageType := messageType, bound := true }
      else e)

/-- The packet that `Send` makes of a message. -/
def packet (message : List UInt8) (info : MessageInfo) : Packet where
  header := {
    routeId := e.routeId
    kind := .kChannel
    sequence := info.sequence
    sourceTimestampNs := info.sourceTimestampNs
    deadlineNs :=
      if e.maximumAgeNs = 0 then 0 else Can.saturatingAdd info.sourceTimestampNs e.maximumAgeNs
    schemaHash := e.messageType.schemaHash }
  payload := message

/-- `ChannelPacketEgress::Send` over a `StreamTransport`, which answers `write` to the `Write`. -/
def send {maxPayload : Nat} (message : List UInt8) (info : MessageInfo)
    (t : StreamTransport maxPayload) (write : WriteOutcome) :
    ChannelPacketEgress × SendResult maxPayload :=
  if message.length > e.messageType.maxSerializedSize then
    ({ e with stats.sendFailures := e.stats.sendFailures + 1 },
      { status := .capacityExceeded, transport := t })
  else
    let sent := t.send ⟨e.packet message info, write⟩
    if sent.status ≠ .ok then ({ e with stats.sendFailures := e.stats.sendFailures + 1 }, sent)
    else ({ e with stats.messages := e.stats.messages + 1 }, sent)

end ChannelPacketEgress

/-! ## Ingress -/

structure ChannelPacketIngressStats where
  messages : UInt32 := 0
  expired : UInt32 := 0
  rejected : UInt32 := 0
  publishFailures : UInt32 := 0
deriving DecidableEq, Repr

structure ChannelPacketIngress where
  routeId : UInt16
  /-- `descriptor_.message_type`. -/
  messageType : TypeDescriptor := ⟨"", .replicate 16 0, 0⟩
  bound : Bool := false
  stats : ChannelPacketIngressStats := {}
deriving DecidableEq, Repr

namespace ChannelPacketIngress

variable (i : ChannelPacketIngress)

/-- `ChannelPacketIngress::Bind`; `this` is the ingress as a handler, and `registered` is the answer
    to `RegisterPublisher`. -/
def bind {η : Type} {maxRoutes : Nat} (router : StaticRouter η maxRoutes) (this : η)
    (messageType : TypeDescriptor) (registered : Status) :
    Status × ChannelPacketIngress × StaticRouter η maxRoutes :=
  match bindRejected i.bound i.routeId messageType with
  | some status => (status, i, router)
  | none =>
    let added := router.register ⟨i.routeId, .kChannel, messageType.schemaHash, this⟩
    if added.1 ≠ .ok then (added.1, i, added.2)
    else if registered ≠ .ok then (registered, i, added.2)
    else (.ok, { i with messageType := messageType, bound := true }, added.2)

/-- `ChannelPacketIngress::Accept`; `publish` is the answer of the channel, and the message and its
    time stamp are what the channel is given. -/
def accept (packet : Packet) (nowNs : UInt64) (publish : Status) :
    Status × ChannelPacketIngress × Option (List UInt8 × UInt64) :=
  if i.bound = false then (.invalidState, i, none)
  else if packet.header.routeId ≠ i.routeId ∨ packet.header.kind ≠ .kChannel ∨
      packet.header.schemaHash ≠ i.messageType.schemaHash ∨
      packet.payload.length > i.messageType.maxSerializedSize then
    (.typeMismatch, { i with stats.rejected := i.stats.rejected + 1 }, none)
  else if packet.header.deadlineNs ≠ 0 ∧ nowNs ≥ packet.header.deadlineNs then
    (.timeout, { i with stats.expired := i.stats.expired + 1 }, none)
  else
    let published := some (packet.payload, packet.header.sourceTimestampNs)
    if publish ≠ .ok then
      (publish, { i with stats.publishFailures := i.stats.publishFailures + 1 }, published)
    else (.ok, { i with stats.messages := i.stats.messages + 1 }, published)

end ChannelPacketIngress

end AsterCtrl.Usb
