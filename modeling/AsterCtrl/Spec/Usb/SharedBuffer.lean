import AsterCtrl.Native.LocalChannel
import AsterCtrl.Spec.Usb.StreamDelivery

/-!
# Sending while a packet is delivered

`PacketCodec` has one buffer for both directions, and the payload of a packet that is being
delivered is a span of that buffer.  A `Send` of the receiver, or of a subscriber of the topic the
receiver publishes the payload on, therefore writes over the bytes that are still to be read by
others.  The header is not affected, since the view has a copy of it.

## Key results

- `visible_send`: what one `Send` does to the bytes of the view
- `visible_eq_iff`: the view is unchanged exactly if every `Send` writes what is there already
- `visible_changed_by_subscriber`: a subscriber that sees what another one has sent
-/

namespace AsterCtrl.Usb

open List PacketCodec

variable {maxPayload : Nat} {κ : Type}

/-- The part of what a `Send` of the packet writes to the buffer that lies behind the header. -/
def Packet.body (packet : Packet) : List UInt8 :=
  packet.payload ++ checksumBytes packet.header packet.payload

/-- The view of the packet while it is delivered. -/
def Packet.view (packet : Packet) : PacketView := ⟨packet.header, packet.payload.length⟩

/-- The call does not write to the buffer, or it writes to the span of `payload` only what is
    there already. -/
def Harmless (maxPayload : Nat) (payload : List UInt8) (call : SendCall) : Prop :=
  encodeRejects maxPayload call.packet.header call.packet.payload = true ∨
    call.packet.body.take payload.length <+: payload

instance (payload : List UInt8) (call : SendCall) : Decidable (Harmless maxPayload payload call) :=
  inferInstanceAs (Decidable (_ ∨ _))

namespace StreamTransport

/-- The transport in `Poll` when it calls the receiver, after it has read the zero behind
    `received`. -/
def delivering (t : StreamTransport maxPayload) : StreamTransport maxPayload :=
  { t with codec := (t.codec.decode (t.received ++ [0])).2, received := [] }

variable (t : StreamTransport maxPayload)

/-- A `Send` writes the packet over what is in the buffer. -/
theorem visible_send (hstarted : t.started = true) (call : SendCall) (view : PacketView) :
    (t.send call).transport.codec.visible view =
      if encodeRejects maxPayload call.packet.header call.packet.payload then
        t.codec.visible view
      else
        (call.packet.body ++ (t.codec.raw.drop kHeaderSize).drop call.packet.body.length).take
          view.payloadSize := by
  unfold send
  rw [if_neg (by simp [hstarted])]
  cases hrejects : encodeRejects maxPayload call.packet.header call.packet.payload with
  | true =>
    rw [if_pos rfl, encode, dif_pos hrejects]
  | false =>
    rw [if_neg Bool.false_ne_true, encode_eq _ hrejects (length_replicate ..)]
    have hbody : kHeaderSize + call.packet.body.length =
        (rawBytes call.packet.header call.packet.payload).length := by
      rw [length_rawBytes, Packet.body, length_append, length_checksumBytes, Nat.add_assoc]
    have hraw : (t.codec.writeRaw call.packet.header call.packet.payload
          (payload_le_of_encodeRejects hrejects)).visible view =
        (call.packet.body ++ (t.codec.raw.drop kHeaderSize).drop call.packet.body.length).take
          view.payloadSize := by
      rw [visible, writeRaw, drop_drop, hbody]
      dsimp only
      rw [rawBytes, append_assoc, drop_left' (length_headerBytes _ _), Packet.body]
    dsimp only
    split <;> exact hraw

/-- One `Send` leaves the view as it is exactly if it is harmless. -/
theorem visible_send_eq_iff (hstarted : t.started = true) (call : SendCall) {view : PacketView}
    (hview : view.payloadSize ≤ maxPayload) :
    (t.send call).transport.codec.visible view = t.codec.visible view ↔
      Harmless maxPayload (t.codec.visible view) call := by
  rw [visible_send t hstarted, Harmless]
  have hraw := t.codec.length_raw
  have hsize : (t.codec.visible view).length = view.payloadSize := by
    rw [visible, length_take, length_drop, hraw, kRawCapacity]
    omega
  cases hrejects : encodeRejects maxPayload call.packet.header call.packet.payload with
  | true => simp
  | false =>
    have hmax := payload_le_of_encodeRejects hrejects
    have hlength : call.packet.body.length ≤ (t.codec.raw.drop kHeaderSize).length := by
      rw [Packet.body, length_append, length_checksumBytes, length_drop, hraw, kRawCapacity]
      omega
    rw [if_neg Bool.false_ne_true, hsize, visible]
    rw [take_append_drop_eq_take_iff hlength]
    simp

/-- The view is unchanged after every part of a sequence of calls exactly if every call is
    harmless. -/
theorem visible_sendAll_eq_iff (hstarted : t.started = true) {view : PacketView}
    (hview : view.payloadSize ≤ maxPayload) (calls : List SendCall) :
    (∀ before, before <+: calls →
      (t.sendAll before).codec.visible view = t.codec.visible view) ↔
      ∀ call ∈ calls, Harmless maxPayload (t.codec.visible view) call := by
  induction calls generalizing t with
  | nil =>
    refine ⟨fun _ => forall_mem_nil _, fun _ before hbefore => ?_⟩
    rw [prefix_nil.mp hbefore]
    rfl
  | cons call calls ih =>
    have hfirst := t.visible_send_eq_iff hstarted call hview
    have hrest := ih (t.send call).transport ((t.send_transport call).2.trans hstarted)
    constructor
    · intro h
      have hcall : (t.send call).transport.codec.visible view = t.codec.visible view :=
        h [call] (cons_prefix_cons.mpr ⟨rfl, nil_prefix⟩)
      rw [hcall] at hrest
      refine forall_mem_cons.mpr ⟨hfirst.mp hcall, hrest.mp fun before hbefore => ?_⟩
      exact h (call :: before) (cons_prefix_cons.mpr ⟨rfl, hbefore⟩)
    · intro h before hbefore
      obtain ⟨hharmless, hlater⟩ := forall_mem_cons.mp h
      have hcall := hfirst.mpr hharmless
      rw [hcall] at hrest
      cases before with
      | nil => rfl
      | cons first before =>
        obtain ⟨rfl, htail⟩ := cons_prefix_cons.mp hbefore
        exact hrest.mpr hlater before htail

end StreamTransport

/-! ## Subscribers -/

/-- A delivery that has reached a local channel: what the callbacks that are still to come will
    do, and what the subscribers have seen. -/
structure Delivery (maxPayload : Nat) (κ : Type) where
  transport : StreamTransport maxPayload
  script : List Reaction
  seen : List (κ × List UInt8) := []

namespace Delivery

/-- The payload of a view. -/
def payload (view : PacketView) : Span (Delivery maxPayload κ) where
  size := view.payloadSize
  bytes delivery := delivery.transport.codec.visible view

/-- A subscriber looks at the message and then makes the calls of `Send` of the script. -/
def callback {maxTopics maxSubscribers maxSize : Nat} :
    LocalChannel.Callback κ (Delivery maxPayload κ) maxTopics maxSubscribers maxSize :=
  fun subscriber message _ (channel, delivery) =>
    let reaction := delivery.script.headD {}
    (reaction.status, channel,
      { transport := delivery.transport.sendAll reaction.sends
        script := delivery.script.tail
        seen := delivery.seen ++ [(subscriber, message.bytes delivery)] })

/-- As long as the calls of the script are harmless, the subscribers see what was received. -/
theorem seen_deliver {maxTopics maxSubscribers maxSize : Nat} {view : PacketView}
    (hview : view.payloadSize ≤ maxPayload) {received : List UInt8} (info : MessageInfo)
    (subscribers : List κ) (firstFailure : Status)
    (channel : LocalChannel κ maxTopics maxSubscribers maxSize)
    (d : Delivery maxPayload κ) (hstarted : d.transport.started = true)
    (hvisible : d.transport.codec.visible view = received)
    (hscript : ∀ reaction ∈ d.script, ∀ call ∈ reaction.sends,
      Harmless maxPayload received call) :
    (LocalChannel.deliver callback (payload view) info subscribers firstFailure
        (channel, d)).2.2.seen =
      d.seen ++ subscribers.map fun subscriber => (subscriber, received) := by
  induction subscribers generalizing firstFailure channel d with
  | nil => simp [LocalChannel.deliver]
  | cons subscriber subscribers ih =>
    have hhead : ∀ call ∈ (d.script.headD {}).sends, Harmless maxPayload received call := by
      cases hd : d.script with
      | nil => exact forall_mem_nil _
      | cons reaction script => exact hscript reaction (by simp [hd])
    have htail : ∀ reaction ∈ d.script.tail, ∀ call ∈ reaction.sends,
        Harmless maxPayload received call :=
      fun reaction hreaction => hscript reaction (mem_of_mem_tail hreaction)
    have hsent : (d.transport.sendAll (d.script.headD {}).sends).codec.visible view =
        received := by
      subst hvisible
      exact (d.transport.visible_sendAll_eq_iff hstarted hview _).mpr hhead _
        (prefix_refl _)
    have hlater : ∀ firstFailure
        (channel : LocalChannel κ maxTopics maxSubscribers maxSize),
        (LocalChannel.deliver callback (payload view) info subscribers firstFailure (channel,
          { transport := d.transport.sendAll (d.script.headD {}).sends
            script := d.script.tail
            seen := d.seen ++ [(subscriber, (payload view).bytes d)] })).2.2.seen =
        d.seen ++ (subscriber :: subscribers).map fun subscriber => (subscriber, received) := by
      intro firstFailure channel
      rw [ih _ _ _ ((d.transport.sendAll_transport _).2.trans hstarted) hsent htail, show (payload
        view).bytes d = received from hvisible, append_assoc, singleton_append, map_cons]
    rw [LocalChannel.deliver, callback]
    dsimp only
    split_ifs <;> exact hlater _ _

/-- As long as the calls of the script are harmless, what a subscriber sees of a message that is
    published is what was received. -/
theorem seen_publish {maxTopics maxSubscribers maxSize : Nat} {view : PacketView}
    (hview : view.payloadSize ≤ maxPayload)
    (channel : LocalChannel κ maxTopics maxSubscribers maxSize)
    (descriptor : ChannelDescriptor) (sourceTimestampNs : UInt64) {t : StreamTransport maxPayload}
    (hstarted : t.started = true) (script : List Reaction)
    (hscript : ∀ reaction ∈ script, ∀ call ∈ reaction.sends,
      Harmless maxPayload (t.codec.visible view) call) :
    ∀ entry ∈ (channel.publish callback descriptor (payload view) sourceTimestampNs
        ⟨t, script, []⟩).2.2.seen, entry.2 = t.codec.visible view := by
  unfold LocalChannel.publish
  split
  · exact forall_mem_nil _
  split
  · exact forall_mem_nil _
  dsimp only
  split
  · exact forall_mem_nil _
  rw [seen_deliver hview _ _ _ _ ⟨t, script, []⟩ hstarted rfl hscript, nil_append]
  exact forall_mem_map.mpr fun _ _ => rfl

end Delivery

namespace StreamTransport

/-- What `Poll` does with the zero behind a well-formed packet. -/
theorem acceptByte_delivering (t : StreamTransport maxPayload) {packet : Packet}
    (hpacket : Packet.ofSegment maxPayload t.received = some packet) (reaction : Reaction) :
    t.acceptByte 0 reaction = t.delivering.deliver packet.view reaction ∧
      t.delivering.codec.visible packet.view = packet.payload := by
  obtain ⟨view, codec', hdecode, hheader, hsize, hvisible⟩ := t.codec.decode_ok hpacket
  have hview : packet.view = view := by
    rw [Packet.view, ← hheader, ← hsize]
  have hdelivering : t.delivering = { t with codec := codec', received := [] } := by
    rw [delivering, hdecode]
  have hne : t.received.length ≠ 0 := by
    intro hempty
    rw [length_eq_zero_iff.mp hempty] at hpacket
    cases hpacket
  rw [hview, hdelivering]
  refine ⟨?_, hvisible⟩
  rw [acceptByte, if_neg (not_not_intro rfl), if_neg hne, hdecode]

/-- While a well-formed packet is delivered, the calls of `Send` that the receiver makes leave the
    bytes of its view as they were received exactly if all of them are harmless, and then all
    subscribers of a topic on which the receiver publishes the payload see these bytes, whatever
    they do among these calls. -/
theorem visible_eq_iff (maxPayload : Nat) (t : StreamTransport maxPayload)
    (hstarted : t.started = true) (packet : Packet)
    (hpacket : Packet.ofSegment maxPayload t.received = some packet) (script : List Reaction)
    (maxTopics maxSubscribers maxSize : Nat)
    (channel : LocalChannel κ maxTopics maxSubscribers maxSize)
    (descriptor : ChannelDescriptor) (sourceTimestampNs : UInt64) :
    ((∀ before, before <+: script.flatMap Reaction.sends →
        (t.delivering.sendAll before).codec.visible packet.view = packet.payload) ↔
      ∀ call ∈ script.flatMap Reaction.sends, Harmless maxPayload packet.payload call) ∧
    ((∀ call ∈ script.flatMap Reaction.sends, Harmless maxPayload packet.payload call) →
      ∀ entry ∈ (channel.publish Delivery.callback descriptor (Delivery.payload packet.view)
          sourceTimestampNs ⟨t.delivering, script, []⟩).2.2.seen, entry.2 = packet.payload) := by
  have hview : packet.view.payloadSize ≤ maxPayload := PacketCodec.payload_le_of_ofSegment hpacket
  have hvisible := (t.acceptByte_delivering hpacket {}).2
  constructor
  · have hiff := t.delivering.visible_sendAll_eq_iff hstarted hview
      (script.flatMap Reaction.sends)
    rwa [hvisible] at hiff
  · intro hharmless
    have hseen := Delivery.seen_publish hview channel descriptor sourceTimestampNs
      (t := t.delivering) hstarted script
    rw [hvisible] at hseen
    exact hseen fun reaction hreaction call hcall =>
      hharmless call (List.mem_flatMap.mpr ⟨reaction, hreaction, hcall⟩)

private def pairPacket (sequence : UInt32) (payload : List UInt8) : Packet :=
  ⟨{ routeId := 8, sequence := sequence }, payload⟩

/-- A transport that has read all of a packet but the zero behind it. -/
private def pairReceived : StreamTransport 16 :=
  { listening with received := Cobs.encode (rawBytes (pairPacket 1 [1, 2]).header [1, 2]) }

private def pairDescriptor : ChannelDescriptor := ⟨"pair", "Pair", .replicate 16 0, 2⟩

/-- Two subscribers of one topic. -/
private def pairChannel : LocalChannel Nat 1 2 16 :=
  let channel := (({} : LocalChannel Nat 1 2 16).registerPublisher pairDescriptor).2
  let channel := (channel.registerSubscriber pairDescriptor (some 1)).2
  let channel := (channel.registerSubscriber pairDescriptor (some 2)).2
  channel.sealTopics.2

/-- A subscriber that sends the payload on under another sequence does no harm. -/
theorem visible_eq_iff_echo :
    Packet.ofSegment 16 pairReceived.received = some (pairPacket 1 [1, 2]) ∧
      ∀ entry ∈ (pairChannel.publish Delivery.callback pairDescriptor
          (Delivery.payload (pairPacket 1 [1, 2]).view) 0
          ⟨pairReceived.delivering, [⟨[⟨pairPacket 7 [1, 2], .ok, 52⟩], .ok⟩], []⟩).2.2.seen,
        entry.2 = [1, 2] :=
  ⟨by decide +kernel,
    (visible_eq_iff 16 pairReceived rfl (pairPacket 1 [1, 2]) (by decide +kernel) _ 1 2 16
      pairChannel pairDescriptor 0).2 (by decide +kernel)⟩

/-- The first subscriber sends another packet, and the second one sees the payload of that packet
    instead of the one received. -/
theorem visible_changed_by_subscriber :
    Packet.ofSegment 16 pairReceived.received = some (pairPacket 1 [1, 2]) ∧
      (pairChannel.publish Delivery.callback pairDescriptor
        (Delivery.payload (pairPacket 1 [1, 2]).view) 0
        ⟨pairReceived.delivering, [⟨[⟨pairPacket 7 [8, 9], .ok, 52⟩], .ok⟩], []⟩).2.2.seen =
          [(1, [1, 2]), (2, [8, 9])] := by
  decide +kernel

end StreamTransport

end AsterCtrl.Usb
