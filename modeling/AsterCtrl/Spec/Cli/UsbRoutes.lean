import AsterCtrl.Spec.Cli.Identifiers
import AsterCtrl.Spec.Cli.LinkPairs
import AsterCtrl.Spec.Usb.FramingCorrect
import AsterCtrl.Native.Cli.Emitters

/-!
# Routes on USB CDC

A packet on USB has 16 bits for the identifier of its route and 16 bits for the size of its payload.
The resolver checks neither: identifiers and sizes of USB routes are arbitrary positive numbers,
unless a Zephyr node is at one of the ends.  A payload that is too long is sent with a size that is
too small, and an identifier that is too large is cut to 16 bits.

## Key results

- `payloadSize_of_parseRaw`: what is decoded is shorter than 65536 bytes
- `transmit_eq`: what is sent with fields that fit is decoded at the other end
- `usb_routes_fit_iff`: when the routes of an accepted deployment fit the packets
-/

namespace AsterCtrl

/-! ## Packets -/

namespace Usb.PacketCodec

/-- What the checks accept has a size of 16 bits. -/
theorem payloadSize_of_parseRaw {maxPayload : Nat} {raw : List UInt8} {rawSize : Nat}
    {view : PacketView} (h : parseRaw maxPayload raw rawSize = .ok view) :
    view.payloadSize < 2 ^ 16 := by
  unfold parseRaw at h
  dsimp only at h
  split_ifs at h
  obtain rfl := Except.ok.inj h
  exact readLE_lt 2 _

theorem payloadSize_of_decode {maxPayload : Nat} {codec : PacketCodec maxPayload}
    {encoded : List UInt8} {view : PacketView} (h : (codec.decode encoded).1 = .ok view) :
    view.payloadSize < 2 ^ 16 := by
  unfold decode at h
  dsimp only at h
  split_ifs at h
  exact payloadSize_of_parseRaw h

end Usb.PacketCodec

namespace Cli

open Deployment Except Usb

/-! ## Both ends of a route -/

/-- The codecs at the ends of a route, in any state, and the buffer of the sender. -/
structure UsbEnds (lock : DeploymentLock) (transport : Transport) (route : Route) where
  sender : PacketCodec (usbMaximumPayload (nodeRoutes lock.routes route.sourceNode) transport)
  receiver :
    PacketCodec (usbMaximumPayload (nodeRoutes lock.routes route.destinationNode) transport)
  buffer : List UInt8
  length_buffer : buffer.length =
    kEncodedCapacity (usbMaximumPayload (nodeRoutes lock.routes route.sourceNode) transport)

namespace UsbEnds

variable {lock : DeploymentLock} {transport : Transport} {route : Route}

/-- A packet of a route is encoded at one end and decoded at the other: the identifier and the
    payload of the decoded packet. -/
def transmit (ends : UsbEnds lock transport route) (header : PacketHeader) (payload : List UInt8) :
    Except Status (UInt16 × List UInt8) :=
  match (ends.sender.encode { header with routeId := usbRouteId route } payload ends.buffer).1 with
  | .error status => .error status
  | .ok encoded =>
    match ends.receiver.decode encoded with
    | (.error status, _) => .error status
    | (.ok view, receiver) => .ok (view.header.routeId, receiver.visible view)

/-- What arrives has a size of 16 bits. -/
theorem length_lt_of_transmit {ends : UsbEnds lock transport route} {header : PacketHeader}
    {payload received : List UInt8} {id : UInt16}
    (h : ends.transmit header payload = .ok (id, received)) : received.length < 2 ^ 16 := by
  unfold transmit at h
  split at h
  · cases h
  · split at h
    · cases h
    · rename_i encoded _ _ view receiver hdecode
      cases h
      have hview : (ends.receiver.decode encoded).1 = .ok view := by rw [hdecode]
      exact Nat.lt_of_le_of_lt (List.length_take_le _ _) (PacketCodec.payloadSize_of_decode hview)

/-- A packet whose fields fit arrives. -/
theorem transmit_eq (ends : UsbEnds lock transport route) {header : PacketHeader}
    (hkind : header.kind.isValid) {payload : List UInt8} (hid : usbRouteId route ≠ 0)
    (hsender : payload.length ≤
      usbMaximumPayload (nodeRoutes lock.routes route.sourceNode) transport)
    (hreceiver : payload.length ≤
      usbMaximumPayload (nodeRoutes lock.routes route.destinationNode) transport)
    (hsize : payload.length < 2 ^ 16) :
    ends.transmit header payload = .ok (usbRouteId route, payload) := by
  have haccepts : ∀ {maxPayload : Nat}, payload.length ≤ maxPayload →
      encodeRejects maxPayload { header with routeId := usbRouteId route } payload = false := by
    intro maxPayload hle
    simp [encodeRejects, hid, hkind, Nat.not_lt.mpr hle]
  unfold transmit
  rw [PacketCodec.encode_eq _ (haccepts hsender) ends.length_buffer]
  obtain ⟨view, receiver, hdecode, hheader, -, hvisible⟩ := ends.receiver.decode_ok
    (PacketCodec.ofSegment_encode (haccepts hreceiver) hsize)
  dsimp only
  rw [hdecode]
  dsimp only
  rw [hheader, hvisible]

end UsbEnds

/-- The payloads of a route are not above what the codec at an end was made for. -/
theorem maxSize_le_usbMaximumPayload {lock : DeploymentLock} {transport : Transport} {route : Route}
    (hroute : route ∈ lock.routes) (hcarrier : route.carrier = some transport) {node : String}
    (hnode : route.sourceNode = node ∨ route.destinationNode = node) :
    route.maxSize ≤ usbMaximumPayload (nodeRoutes lock.routes node) transport := by
  refine le_maxDefault (List.mem_map_of_mem (mem_carriedBy.mpr ⟨?_, transport, hcarrier, rfl⟩)) 0
  exact List.mem_filter.mpr ⟨hroute, decide_eq_true hnode⟩

/-- A route is a channel on USB CDC. -/
def Deployment.Route.IsUsbChannel (route : Route) (transport : Transport) : Prop :=
  route.kind = .channel ∧ route.carrier = some transport ∧ transport.type = .usbCdc

/-- Every payload that a route allows arrives, with the identifier of the route, and the
    identifiers of different routes that arrive are different. -/
structure UsbRoutesFit (lock : DeploymentLock) : Prop where
  arrives : ∀ route ∈ lock.routes, ∀ transport, route.IsUsbChannel transport →
    ∀ (ends : UsbEnds lock transport route) (header : PacketHeader) (payload : List UInt8),
      header.kind.isValid → payload.length ≤ route.maxSize →
      ∃ id, ends.transmit header payload = .ok (id, payload) ∧ id.toNat = route.id
  distinct : ∀ route ∈ lock.routes, ∀ transport, route.IsUsbChannel transport →
    ∀ other ∈ lock.routes, ∀ otherTransport, other.IsUsbChannel otherTransport → route ≠ other →
    ∀ (ends : UsbEnds lock transport route) (otherEnds : UsbEnds lock otherTransport other)
      (header otherHeader : PacketHeader) (payload otherPayload received otherReceived : List UInt8)
      (id otherId : UInt16),
      header.kind.isValid → otherHeader.kind.isValid → payload.length ≤ route.maxSize →
      otherPayload.length ≤ other.maxSize →
      ends.transmit header payload = .ok (id, received) →
      otherEnds.transmit otherHeader otherPayload = .ok (otherId, otherReceived) → id ≠ otherId

/-- New codecs at the ends of a route. -/
def UsbEnds.new (lock : DeploymentLock) (transport : Transport) (route : Route) :
    UsbEnds lock transport route where
  sender := {}
  receiver := {}
  buffer := List.replicate (kEncodedCapacity
    (usbMaximumPayload (nodeRoutes lock.routes route.sourceNode) transport)) 0
  length_buffer := List.length_replicate

/-- A route whose payloads all arrive has fields of 16 bits. -/
theorem fields_of_arrives {lock : DeploymentLock} {transport : Transport} {route : Route}
    (h : ∀ payload : List UInt8, payload.length ≤ route.maxSize → ∃ id,
      (UsbEnds.new lock transport route).transmit {} payload = .ok (id, payload) ∧
        id.toNat = route.id) : route.id ≤ 65535 ∧ route.maxSize ≤ 65535 := by
  obtain ⟨id, hlargest, hid⟩ := h (List.replicate route.maxSize 0) (by simp)
  have hlength := UsbEnds.length_lt_of_transmit hlargest
  rw [List.length_replicate] at hlength
  exact ⟨hid ▸ Nat.le_of_lt_succ id.toNat_lt, Nat.le_of_lt_succ hlength⟩

/-- The routes of an accepted deployment fit the packets on USB if and only if the identifiers and
    the sizes of its USB channels are numbers of 16 bits. -/
theorem usb_routes_fit_iff (digest : String → String) (packages : List Package)
    (application : Application) (deployment : Deployment) (release : Bool) (lock : DeploymentLock)
    (h : resolveDeployment digest packages application deployment release = .ok lock) :
    UsbRoutesFit lock ↔ ∀ route ∈ lock.routes, ∀ transport, route.IsUsbChannel transport →
      route.id ≤ 65535 ∧ route.maxSize ≤ 65535 := by
  constructor
  · intro hfit route hroute transport husb
    exact fields_of_arrives fun payload hpayload =>
      hfit.arrives route hroute transport husb _ {} payload rfl hpayload
  · intro hfields
    obtain ⟨r⟩ := exists_resolution h
    have harrives : ∀ route ∈ lock.routes, ∀ transport, route.IsUsbChannel transport →
        ∀ (ends : UsbEnds lock transport route) (header : PacketHeader) (payload : List UInt8),
          header.kind.isValid → payload.length ≤ route.maxSize →
          ∃ id, ends.transmit header payload = .ok (id, payload) ∧ id.toNat = route.id := by
      intro route hroute transport husb ends header payload hkind hpayload
      obtain ⟨hid, hsize⟩ := hfields route hroute transport husb
      have hpos := r.route_id_pos hroute
      have hnat : (usbRouteId route).toNat = route.id :=
        UInt16.toNat_ofNat_of_lt' (Nat.lt_succ_of_le hid)
      refine ⟨usbRouteId route, ends.transmit_eq hkind ?_ ?_ ?_ (by omega), hnat⟩
      · rw [Ne, ← UInt16.toNat_inj, hnat]
        exact hpos.ne'
      · exact hpayload.trans (maxSize_le_usbMaximumPayload hroute husb.2.1 (.inl rfl))
      · exact hpayload.trans (maxSize_le_usbMaximumPayload hroute husb.2.1 (.inr rfl))
    refine ⟨harrives, ?_⟩
    intro route hroute transport husb other hother otherTransport hotherUsb hne ends otherEnds header
      otherHeader payload otherPayload received otherReceived id otherId hkind hotherKind hpayload
      hotherPayload htransmit hotherTransmit heq
    obtain ⟨sent, hsent, hid⟩ := harrives route hroute transport husb ends header payload hkind
      hpayload
    obtain ⟨otherSent, hotherSent, hotherId⟩ := harrives other hother otherTransport hotherUsb
      otherEnds otherHeader otherPayload hotherKind hotherPayload
    cases hsent.symm.trans htransmit
    cases hotherSent.symm.trans hotherTransmit
    refine hne (List.inj_on_of_nodup_map r.nodup_route_ids hroute hother ?_)
    rw [← hid, ← hotherId, heq]

/-! ## Samples -/

namespace Talks

/-- Two hosts with a USB CDC link, a node on each. -/
def usbNodes : Deployment where
  hosts := [⟨"h", .linux, none,
      some { platform := .linux, resources := [⟨"usb0", "usb_cdc", "tty", "/dev/ttyACM0"⟩] }⟩,
    ⟨"i", .linux, none,
      some { platform := .linux, resources := [⟨"usb0", "usb_cdc", "tty", "/dev/ttyACM0"⟩] }⟩]
  nodes := [{ name := "na", host := "h", instances := ["a", "c"] },
    { name := "nb", host := "i", instances := ["b", "d"] }]
  transports := [{ name := "usb", type := .usbCdc, hosts := ["h", "i"], mtu := 64,
                   resource := some "usb0", options := [("vid", .int 1), ("pid", .int 1)] }]
  timeDomains := [⟨"main", .monotonic, none⟩]
  hosts_sorted := by decide
  nodes_sorted := by decide
  transports_sorted := by decide
  timeDomains_sorted := by decide

end Talks

/-- A deployment is accepted though the largest payload of a USB channel does not arrive. -/
theorem large_payload_lost :
    ∃ lock ∈ (resolveDeployment id Talks.packages (Talks.application .bestEffort (some 65536))
        Talks.usbNodes false).toOption,
      ∃ route ∈ lock.routes, ∃ transport, route.IsUsbChannel transport ∧
        ∃ payload : List UInt8, payload.length ≤ route.maxSize ∧
          ∀ id, (UsbEnds.new lock transport route).transmit {} payload ≠ .ok (id, payload) := by
  obtain ⟨lock, hlock, route, hroute, transport, -, hkind, hcarrier, htype, hsize⟩ :
      ∃ lock ∈ (resolveDeployment id Talks.packages (Talks.application .bestEffort (some 65536))
          Talks.usbNodes false).toOption,
        ∃ route ∈ lock.routes, ∃ transport ∈ Talks.usbNodes.transports, route.kind = .channel ∧
          route.carrier = some transport ∧ transport.type = .usbCdc ∧ route.maxSize = 65536 := by
    decide +kernel
  refine ⟨lock, hlock, route, hroute, transport, ⟨hkind, hcarrier, htype⟩,
    List.replicate 65536 0, hsize ▸ List.length_replicate.le, fun id hsent => ?_⟩
  have hlength := UsbEnds.length_lt_of_transmit hsent
  rw [List.length_replicate] at hlength
  exact Nat.lt_irrefl _ hlength

/-- The routes of a deployment with small payloads fit. -/
theorem small_payloads_fit :
    ∃ lock, resolveDeployment id Talks.packages (Talks.application .bestEffort (some 8))
        Talks.usbNodes false = .ok lock ∧
      (∃ route ∈ lock.routes, ∃ transport, route.IsUsbChannel transport) ∧ UsbRoutesFit lock := by
  obtain ⟨lock, hlock, hfields, route, hroute, transport, -, hkind, hcarrier, htype⟩ :
      ∃ lock ∈ (resolveDeployment id Talks.packages (Talks.application .bestEffort (some 8))
          Talks.usbNodes false).toOption,
        (∀ route ∈ lock.routes, route.id ≤ 65535 ∧ route.maxSize ≤ 65535) ∧
        ∃ route ∈ lock.routes, ∃ transport ∈ Talks.usbNodes.transports, route.kind = .channel ∧
          route.carrier = some transport ∧ transport.type = .usbCdc := by
    decide +kernel
  exact ⟨lock, mem_toOption.mp hlock, ⟨route, hroute, transport, hkind, hcarrier, htype⟩,
    (usb_routes_fit_iff _ _ _ _ _ lock (mem_toOption.mp hlock)).mpr fun route hroute _ _ =>
      hfields route hroute⟩

end Cli

end AsterCtrl
