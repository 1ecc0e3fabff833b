import AsterCtrl.ForStd.Chunks
import AsterCtrl.Native.Usb.StreamTransport
import AsterCtrl.Spec.Usb.FramingCorrect

/-!
# Reading a byte stream

`Poll` looks at one byte after the other, so a run of `Poll` is a machine that reads a stream in
chunks.  A `StreamHistory` is a transport with the packets that its receiver was given.  What
matters of it for the rest of the stream is what is in `received_`: the bytes since the last zero,
except that `received_` is emptied when it overflows.

## Key results

- `poll_eq_readChunk`: `Poll` reads a chunk of the stream
- `run_next_segment`: what the bytes up to and with a zero do
-/

namespace AsterCtrl.Usb

open List StreamTransport

namespace StreamTransport

variable {maxPayload : Nat} (t : StreamTransport maxPayload)

/-- `Send` uses the codec and the counters only. -/
theorem send_transport (call : SendCall) :
    (t.send call).transport.received = t.received ∧
      (t.send call).transport.started = t.started := by
  unfold send
  split
  · exact ⟨rfl, rfl⟩
  · dsimp only
    split
    · exact ⟨rfl, rfl⟩
    · split <;> exact ⟨rfl, rfl⟩

theorem sendAll_transport (calls : List SendCall) :
    (t.sendAll calls).received = t.received ∧ (t.sendAll calls).started = t.started := by
  induction calls generalizing t with
  | nil => exact ⟨rfl, rfl⟩
  | cons call calls ih =>
    obtain ⟨hreceived, hstarted⟩ := ih (t.send call).transport
    obtain ⟨hreceived', hstarted'⟩ := t.send_transport call
    exact ⟨hreceived.trans hreceived', hstarted.trans hstarted'⟩

variable (view : PacketView) (reaction : Reaction)

theorem deliver_transport :
    (t.deliver view reaction).transport.received = t.received ∧
      (t.deliver view reaction).transport.started = t.started := by
  unfold deliver
  dsimp only
  split <;> exact t.sendAll_transport reaction.sends

/-- The receiver's answer ends `Poll` or not. -/
theorem deliver_status : (t.deliver view reaction).status = reaction.status := by
  unfold deliver
  dsimp only
  split
  · rfl
  · rename_i hok
    exact (Decidable.not_not.mp hok).symm

theorem deliver_delivered :
    (t.deliver view reaction).delivered = some ⟨view.header, t.codec.visible view⟩ := by
  unfold deliver
  dsimp only
  split <;> rfl

end StreamTransport

/-! ## Histories -/

/-- A transport with the packets that were passed to its receiver, oldest first. -/
structure StreamHistory (maxPayload : Nat) where
  transport : StreamTransport maxPayload
  delivered : List Packet := []

namespace StreamHistory

variable {maxPayload : Nat} (react : ℕ → Reaction) (h : StreamHistory maxPayload)

/-- A `Poll` in which `Read` returns the chunk; the receiver reacts to its `k`th packet ever with
    `react k`. -/
def poll (chunk : List UInt8) : StreamHistory maxPayload :=
  let polled := h.transport.poll { bytes := chunk } fun k => react (k + h.delivered.length)
  ⟨polled.transport, h.delivered ++ polled.delivered⟩

/-- What that `Poll` does not look at. -/
def unread (chunk : List UInt8) : List UInt8 :=
  (h.transport.poll { bytes := chunk } fun k => react (k + h.delivered.length)).unread

/-- One byte of a chunk, and whether `Poll` returns at it. -/
def acceptByte (value : UInt8) : StreamHistory maxPayload × Bool :=
  let accepted := h.transport.acceptByte value (react h.delivered.length)
  (⟨accepted.transport, h.delivered ++ accepted.delivered.toList⟩, accepted.status ≠ .ok)

theorem acceptBytes_eq_readChunk (bytes : List UInt8) :
    let accepted := h.transport.acceptBytes (fun k => react (k + h.delivered.length)) bytes
    Chunks.readChunk (acceptByte react) h bytes =
      (⟨accepted.transport, h.delivered ++ accepted.delivered⟩, accepted.unread) := by
  induction bytes generalizing h with
  | nil => simp [Chunks.readChunk, acceptBytes]
  | cons value bytes ih =>
    dsimp only
    rw [Chunks.readChunk, acceptBytes, Nat.zero_add]
    by_cases hstatus :
        (h.transport.acceptByte value (react h.delivered.length)).status ≠ .ok
    · rw [if_pos (show (acceptByte react h value).2 = true from decide_eq_true hstatus)]
      simp only [if_pos hstatus]
      rfl
    · rw [if_neg (show ¬ (acceptByte react h value).2 = true by simpa [acceptByte] using hstatus)]
      simp only [if_neg hstatus]
      have hih := ih (acceptByte react h value).1
      have hreact : (fun k => react (k + (acceptByte react h value).1.delivered.length)) =
          fun k => react (k + (h.transport.acceptByte value
            (react h.delivered.length)).delivered.toList.length + h.delivered.length) := by
        funext k
        refine congrArg react ?_
        simp only [acceptByte, length_append]
        omega
      rw [hreact] at hih
      rw [Chunks.next, hih]
      simp [acceptByte]

/-- `Poll` of a started transport reads a chunk of the stream. -/
theorem poll_eq_readChunk {h : StreamHistory maxPayload} (hstarted : h.transport.started = true)
    (chunk : List UInt8) :
    Chunks.readChunk (acceptByte react) h chunk = (poll react h chunk, unread react h chunk) := by
  have hpoll : h.transport.poll { bytes := chunk } (fun k => react (k + h.delivered.length)) =
      if chunk.length = 0 then { status := .unavailable, transport := h.transport }
      else h.transport.acceptBytes (fun k => react (k + h.delivered.length)) chunk := by
    simp [StreamTransport.poll, hstarted]
  rw [poll, unread, hpoll]
  by_cases hempty : chunk.length = 0
  · obtain rfl := length_eq_zero_iff.mp hempty
    simp [Chunks.readChunk]
  · rw [if_neg hempty]
    exact acceptBytes_eq_readChunk react h chunk

/-! ## What a byte does -/

variable {react} {h : StreamHistory maxPayload}

theorem started_acceptByte (react : ℕ → Reaction) (h : StreamHistory maxPayload) (value : UInt8) :
    (acceptByte react h value).1.transport.started = h.transport.started := by
  unfold acceptByte StreamTransport.acceptByte
  dsimp only
  split_ifs
  · rfl
  · rfl
  · rfl
  · split
    · rfl
    · exact (deliver_transport _ _ _).2

/-- A byte that is not zero is stored or empties `received_`. -/
theorem acceptByte_of_ne_zero (react : ℕ → Reaction) (h : StreamHistory maxPayload) {value : UInt8}
    (hvalue : value ≠ 0) :
    (acceptByte react h value).1.transport.received =
        (if h.transport.received.length + 1 ≥ kEncodedCapacity maxPayload then []
        else h.transport.received ++ [value]) ∧
      (acceptByte react h value).1.delivered = h.delivered ∧
      ((acceptByte react h value).2 = true ↔
        h.transport.received.length + 1 ≥ kEncodedCapacity maxPayload) := by
  unfold acceptByte StreamTransport.acceptByte
  dsimp only
  rw [if_pos hvalue]
  split
  · rename_i hfull
    simp [hfull]
  · rename_i hroom
    simp [hroom]

/-- A zero ends a segment; its packet is delivered if it is well formed. -/
theorem acceptByte_zero (hreact : ∀ k, (react k).status = .ok) (h : StreamHistory maxPayload) :
    (acceptByte react h 0).1.transport.received = [] ∧
      (acceptByte react h 0).1.delivered =
        h.delivered ++ (Packet.ofSegment maxPayload h.transport.received).toList ∧
      ((acceptByte react h 0).2 = true ↔ h.transport.received ≠ [] ∧
        Packet.ofSegment maxPayload h.transport.received = none) := by
  unfold acceptByte StreamTransport.acceptByte
  dsimp only
  rw [if_neg (not_not_intro rfl)]
  by_cases hempty : h.transport.received.length = 0
  · rw [if_pos hempty]
    rw [length_eq_zero_iff] at hempty
    simp [hempty, Packet.ofSegment, Cobs.decode]
  · have hne : h.transport.received ≠ [] := fun heq => hempty (length_eq_zero_iff.mpr heq)
    rw [if_neg hempty]
    cases hpacket : Packet.ofSegment maxPayload h.transport.received with
    | none =>
      obtain ⟨status, codec, hstatus, hdecode⟩ := h.transport.codec.decode_error hne hpacket
      rw [hdecode]
      simp [hstatus, hne]
    | some packet =>
      obtain ⟨view, codec, hdecode, hheader, -, hpayload⟩ := h.transport.codec.decode_ok hpacket
      rw [hdecode]
      dsimp only
      refine ⟨(deliver_transport _ _ _).1, ?_, ?_⟩
      · rw [deliver_delivered, hheader, hpayload]
      · rw [deliver_status, hreact]
        simp

/-! ## What a segment does -/

/-- What is in `received_` after the bytes, none of which is zero: with every `kEncodedCapacity`
    of them it is emptied. -/
def leftover (maxPayload : Nat) (bytes : List UInt8) : List UInt8 :=
  bytes.drop (kEncodedCapacity maxPayload * (bytes.length / kEncodedCapacity maxPayload))

variable {bytes : List UInt8}

theorem leftover_of_lt (h : bytes.length < kEncodedCapacity maxPayload) :
    leftover maxPayload bytes = bytes := by
  rw [leftover, Nat.div_eq_of_lt h, Nat.mul_zero, drop_zero]

theorem leftover_append {front : List UInt8} (h : front.length = kEncodedCapacity maxPayload) :
    leftover maxPayload (front ++ bytes) = leftover maxPayload bytes := by
  have hpos : 0 < kEncodedCapacity maxPayload := by
    rw [kEncodedCapacity]
    omega
  rw [leftover, length_append, h, Nat.add_div_left _ hpos, Nat.mul_succ, Nat.add_comm,
    ← drop_drop, ← h, drop_left, h, leftover]

/-- The bytes of a segment in front of its zero. -/
theorem run_next_bytes (react : ℕ → Reaction) (h : StreamHistory maxPayload) (hzero : 0 ∉ bytes)
    (hroom : h.transport.received.length < kEncodedCapacity maxPayload) :
    (Machine.run (Chunks.next (acceptByte react)) h bytes).transport.received =
        leftover maxPayload (h.transport.received ++ bytes) ∧
      (Machine.run (Chunks.next (acceptByte react)) h bytes).delivered = h.delivered := by
  induction bytes generalizing h with
  | nil => exact ⟨by simpa using (leftover_of_lt hroom).symm, rfl⟩
  | cons value bytes ih =>
    obtain ⟨hvalue, hrest⟩ := not_or.mp (mt mem_cons.mpr hzero)
    obtain ⟨hreceived, hdelivered, -⟩ :=
      acceptByte_of_ne_zero react h fun heq => hvalue heq.symm
    rw [Machine.run_cons, Chunks.next]
    by_cases hfull : h.transport.received.length + 1 ≥ kEncodedCapacity maxPayload
    · rw [if_pos hfull] at hreceived
      obtain ⟨hreceived', hdelivered'⟩ := ih (acceptByte react h value).1 hrest
        (by rw [hreceived, kEncodedCapacity]; simp)
      refine ⟨?_, hdelivered'.trans hdelivered⟩
      rw [hreceived', hreceived, nil_append, ← singleton_append, ← append_assoc,
        leftover_append (by rw [length_append, length_singleton]; omega)]
    · rw [if_neg hfull] at hreceived
      obtain ⟨hreceived', hdelivered'⟩ := ih (acceptByte react h value).1 hrest
        (by rw [hreceived, length_append, length_singleton]; omega)
      refine ⟨?_, hdelivered'.trans hdelivered⟩
      rw [hreceived', hreceived, append_assoc, singleton_append]

/-- A segment with its zero: what is left of it is delivered if it is a well-formed packet. -/
theorem run_next_segment (hreact : ∀ k, (react k).status = .ok)
    (hempty : h.transport.received = []) {segment : List UInt8} (hzero : 0 ∉ segment) :
    let h' := Machine.run (Chunks.next (acceptByte react)) h (segment ++ [0])
    h'.transport.received = [] ∧ h'.delivered =
      h.delivered ++ (Packet.ofSegment maxPayload (leftover maxPayload segment)).toList := by
  have hroom : h.transport.received.length < kEncodedCapacity maxPayload := by
    rw [hempty, kEncodedCapacity]
    simp
  obtain ⟨hreceived, hdelivered⟩ := run_next_bytes react h hzero hroom
  rw [hempty, nil_append] at hreceived
  obtain ⟨hreceived', hdelivered', -⟩ :=
    acceptByte_zero hreact (Machine.run (Chunks.next (acceptByte react)) h segment)
  rw [hreceived, hdelivered] at hdelivered'
  rw [Machine.run_append]
  exact ⟨hreceived', hdelivered'⟩

/-- `Poll` does not return inside a segment that fits, nor at its end if it is a packet. -/
theorem clean_segment (hreact : ∀ k, (react k).status = .ok) (hempty : h.transport.received = [])
    {segment : List UInt8} (hzero : 0 ∉ segment)
    (hpacket : Packet.ofSegment maxPayload segment ≠ none)
    (hlength : segment.length < kEncodedCapacity maxPayload) :
    Chunks.Clean (acceptByte react) h (segment ++ [0]) := by
  have hbytes : ∀ (bytes : List UInt8) (h : StreamHistory maxPayload), 0 ∉ bytes →
      h.transport.received.length + bytes.length < kEncodedCapacity maxPayload →
      Chunks.Clean (acceptByte react) h bytes := by
    intro bytes
    induction bytes with
    | nil => exact fun _ _ _ => trivial
    | cons value bytes ih =>
      intro h hzero hroom
      obtain ⟨hvalue, hrest⟩ := not_or.mp (mt mem_cons.mpr hzero)
      obtain ⟨hreceived, -, hfails⟩ := acceptByte_of_ne_zero react h fun heq => hvalue heq.symm
      rw [length_cons] at hroom
      have hnot : ¬ h.transport.received.length + 1 ≥ kEncodedCapacity maxPayload := by omega
      rw [if_neg hnot] at hreceived
      refine ⟨Bool.eq_false_of_not_eq_true (mt hfails.mp hnot), ih _ hrest ?_⟩
      rw [Chunks.next, hreceived, length_append, length_singleton]
      omega
  have hsegment := hbytes segment h hzero (by rw [hempty, length_nil]; omega)
  obtain ⟨hreceived, -⟩ := run_next_bytes react h hzero (by rw [hempty, length_nil]; omega)
  rw [hempty, nil_append, leftover_of_lt hlength] at hreceived
  obtain ⟨-, -, hfails⟩ :=
    acceptByte_zero hreact (Machine.run (Chunks.next (acceptByte react)) h segment)
  rw [hreceived] at hfails
  refine (Machine.along_append _ _ _ _ _).mpr ⟨hsegment, ?_, trivial⟩
  exact Bool.eq_false_of_not_eq_true fun htrue => hpacket (hfails.mp htrue).2

/-- A stream of segments. -/
theorem run_next_segments (hreact : ∀ k, (react k).status = .ok)
    (hempty : h.transport.received = []) {segments : List (List UInt8)}
    (hzero : ∀ segment ∈ segments, 0 ∉ segment) :
    let h' := Machine.run (Chunks.next (acceptByte react)) h (segments.flatMap (· ++ [0]))
    h'.transport.received = [] ∧ h'.delivered = h.delivered ++
      segments.filterMap fun segment => Packet.ofSegment maxPayload (leftover maxPayload segment) := by
  induction segments generalizing h with
  | nil => exact ⟨hempty, by simp⟩
  | cons segment segments ih =>
    obtain ⟨hreceived, hdelivered⟩ := run_next_segment hreact hempty (hzero segment (by simp))
    obtain ⟨hreceived', hdelivered'⟩ :=
      ih hreceived fun segment' hmem => hzero segment' (mem_cons_of_mem _ hmem)
    dsimp only
    rw [flatMap_cons, Machine.run_append]
    refine ⟨hreceived', ?_⟩
    rw [hdelivered', hdelivered, append_assoc, filterMap_cons]
    cases Packet.ofSegment maxPayload (leftover maxPayload segment) <;> rfl

end StreamHistory

/-- A well-formed packet fits into `received_`. -/
theorem length_lt_of_ofSegment {maxPayload : Nat} {segment : List UInt8} {packet : Packet}
    (h : Packet.ofSegment maxPayload segment = some packet) :
    segment.length < kEncodedCapacity maxPayload := by
  obtain ⟨raw, hraw, hpacket⟩ := Option.bind_eq_some_iff.mp h
  unfold Packet.ofRaw at hpacket
  split at hpacket
  · cases hpacket
  · rename_i view hview
    obtain ⟨hsize, hmax⟩ := PacketCodec.rawSize_of_parseRaw hview
    have hle := Cobs.length_le_of_decode hraw
    have hcapacity : raw.length ≤ kRawCapacity maxPayload := by
      rw [hsize, kRawCapacity]
      omega
    have := Nat.div_le_div_right (c := 254) hcapacity
    rw [kEncodedCapacity]
    omega

end AsterCtrl.Usb
