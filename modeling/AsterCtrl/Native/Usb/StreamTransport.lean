import AsterCtrl.Native.Usb.Framing

/-!
# Packets over a byte stream

`StreamTransport` of `stream_transport.hpp` over a `ByteStream`, and `Write` of `LinuxTtyStream`
(`linux_tty.cpp`), the byte stream of Linux.

What the other side of an interface does is an argument: the answers of the byte stream to `Write`
and `Read`, and for every packet that is delivered the `Reaction` of the receiver, which is the
calls of `Send` that are made before it returns, and its answer.

Left out: `encoded_`, a buffer that `Encode` fills and `Write` reads before anything else can,
the part of `received_` behind `received_size_`, the execution contexts, which are only passed on,
and the receiver itself, of which only whether there is one matters.
-/

namespace AsterCtrl.Usb

structure TransportStats where
  packetsSent : UInt32 := 0
  packetsReceived : UInt32 := 0
  bytesSent : UInt32 := 0
  bytesReceived : UInt32 := 0
  backpressure : UInt32 := 0
  invalidPackets : UInt32 := 0
  deadlineMisses : UInt32 := 0
deriving DecidableEq, Repr

/-! ## Byte streams -/

/-- The answer of `ByteStream::Write`: its status, and how many bytes it took. -/
structure WriteOutcome where
  status : Status
  written : Nat
deriving DecidableEq, Repr

/-- The answer of `ByteStream::Read`. -/
structure ReadOutcome where
  status : Status := .ok
  bytes : List UInt8

/-- The result of one `write` system call. -/
inductive SystemWrite where
  | wrote (count : Nat)
  | interrupted
  | failed
deriving DecidableEq, Repr

/-- `LinuxTtyStream::Write` of `size` bytes on an open descriptor, given the results of its system
    calls; `none` as long as it has not returned. -/
def linuxTtyWrite (size : Nat) (written : Nat := 0) : List SystemWrite → Option WriteOutcome
  | [] => if written < size then none else some ⟨.ok, written⟩
  | result :: results =>
    if written < size then
      match result with
      | .wrote 0 => some ⟨.unavailable, written⟩
      | .wrote (count + 1) => linuxTtyWrite size (written + (count + 1)) results
      | .interrupted => linuxTtyWrite size written results
      | .failed => some ⟨.unavailable, written⟩
    else some ⟨.ok, written⟩

/-! ## The transport -/

structure StreamTransport (maxPayload : Nat) where
  codec : PacketCodec maxPayload := {}
  /-- The first `received_size_` bytes of `received_`. -/
  received : List UInt8 := []
  /-- `receiver_ != nullptr`. -/
  started : Bool := false
  stats : TransportStats := {}

/-- A call of `Send` with the answer of the byte stream to its `Write`. -/
structure SendCall where
  packet : Packet
  write : WriteOutcome

/-- What `Send` leaves behind; `taken` is what the byte stream took of the encoded packet. -/
structure SendResult (maxPayload : Nat) where
  status : Status
  transport : StreamTransport maxPayload
  taken : List UInt8 := []

/-- What a receiver does with a packet. -/
structure Reaction where
  sends : List SendCall := []
  status : Status := .ok

/-- What one byte leaves behind: a status other than `ok` ends `Poll`. -/
structure ByteResult (maxPayload : Nat) where
  status : Status := .ok
  transport : StreamTransport maxPayload
  delivered : Option Packet := none

/-- What `Poll` leaves behind: `delivered` is the packets passed to the receiver, and `unread` is
    the rest of the chunk behind the byte at which `Poll` returned. -/
structure PollResult (maxPayload : Nat) where
  status : Status
  transport : StreamTransport maxPayload
  delivered : List Packet := []
  unread : List UInt8 := []

namespace StreamTransport

variable {maxPayload : Nat} (t : StreamTransport maxPayload)

/-- `StreamTransport::Start`. -/
def start (receiverSet : Bool) : Status × StreamTransport maxPayload :=
  if receiverSet = false then (.invalidArgument, t)
  else if t.started then (.invalidState, t)
  else (.ok, { t with started := true })

/-- A transport that has been started and not yet used. -/
def listening : StreamTransport maxPayload := { started := true }

/-- `StreamTransport::Send`. -/
def send (call : SendCall) : SendResult maxPayload :=
  if t.started = false then { status := .invalidState, transport := t }
  else
    let encoded := t.codec.encode call.packet.header call.packet.payload
      (List.replicate (kEncodedCapacity maxPayload) 0)
    let t := { t with codec := encoded.2 }
    match encoded.1 with
    | .error status =>
      { status := status
        transport := { t with stats.invalidPackets := t.stats.invalidPackets + 1 } }
    | .ok bytes =>
      let taken := bytes.take call.write.written
      if call.write.status ≠ .ok ∨ call.write.written ≠ bytes.length then
        { status := if call.write.status = .ok then .unavailable else call.write.status
          transport := { t with stats.backpressure := t.stats.backpressure + 1 }
          taken := taken }
      else
        { status := .ok
          transport := { t with
            stats.packetsSent := t.stats.packetsSent + 1
            stats.bytesSent := t.stats.bytesSent + UInt32.ofNat call.packet.payload.length }
          taken := taken }

/-- The calls of `Send` that are made one after the other. -/
def sendAll (calls : List SendCall) : StreamTransport maxPayload :=
  calls.foldl (fun t call => (t.send call).transport) t

/-- The part of `Poll` that calls the receiver. -/
def deliver (view : PacketView) (reaction : Reaction) : ByteResult maxPayload :=
  let packet : Packet := ⟨view.header, t.codec.visible view⟩
  let t := t.sendAll reaction.sends
  if reaction.status ≠ .ok then
    { status := reaction.status
      transport := { t with stats.invalidPackets := t.stats.invalidPackets + 1 }
      delivered := some packet }
  else
    { transport := { t with
        stats.packetsReceived := t.stats.packetsReceived + 1
        stats.bytesReceived := t.stats.bytesReceived + UInt32.ofNat view.payloadSize }
      delivered := some packet }

/-- The body of the loop of `Poll`. -/
def acceptByte (value : UInt8) (reaction : Reaction) : ByteResult maxPayload :=
  if value ≠ 0 then
    if t.received.length + 1 ≥ kEncodedCapacity maxPayload then
      { status := .capacityExceeded
        transport := { t with
          received := []
          stats.invalidPackets := t.stats.invalidPackets + 1 } }
    else { transport := { t with received := t.received ++ [value] } }
  else if t.received.length = 0 then { transport := t }
  else
    let decoded := t.codec.decode (t.received ++ [0])
    let t := { t with codec := decoded.2, received := [] }
    match decoded.1 with
    | .error status =>
      { status := status
        transport := { t with stats.invalidPackets := t.stats.invalidPackets + 1 } }
    | .ok view => t.deliver view reaction

/-- The loop of `Poll`; the receiver reacts to packet `k` of this call with `react k`. -/
def acceptBytes (t : StreamTransport maxPayload) (react : Nat → Reaction) :
    List UInt8 → PollResult maxPayload
  | [] => { status := .ok, transport := t }
  | value :: bytes =>
    let accepted := t.acceptByte value (react 0)
    if accepted.status ≠ .ok then
      { status := accepted.status
        transport := accepted.transport
        delivered := accepted.delivered.toList
        unread := bytes }
    else
      let rest := accepted.transport.acceptBytes
        (fun k => react (k + accepted.delivered.toList.length)) bytes
      { rest with delivered := accepted.delivered.toList ++ rest.delivered }

/-- `StreamTransport::Poll`. -/
def poll (read : ReadOutcome) (react : Nat → Reaction) : PollResult maxPayload :=
  if t.started = false then { status := .invalidState, transport := t }
  else if read.status ≠ .ok then { status := read.status, transport := t }
  else if read.bytes.length = 0 then { status := .unavailable, transport := t }
  else t.acceptBytes react read.bytes

/-- `StreamTransport::Stop`. -/
def stop : StreamTransport maxPayload :=
  { t with started := false, received := [] }

end StreamTransport

end AsterCtrl.Usb
