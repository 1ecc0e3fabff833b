import AsterCtrl.Spec.Usb.StreamDelivery

/-!
# Writes that take a part of a packet

A byte stream may take a part of an encoded packet and then fail.  `Send` reports the failure, but
the part stays in the stream without a zero behind it, so the peer takes it for the beginning of
the next packet.  As long as this does not happen in front of a successful `Send`, the peer
delivers every packet that was sent successfully.

## Key results

- `send_cases`: what `Send` does to the byte stream
- `sent_sublist_delivered`: the packets of the successful calls arrive
- `not_delivered_after_partial_write`: a packet that is lost
-/

namespace AsterCtrl.Usb

open List

/-- A packet that `Encode` accepts fits into the 16 bits of the header's size field, which holds
    for every packet if `MaxPayload` does. -/
def Representable (maxPayload : Nat) (packet : Packet) : Prop :=
  encodeRejects maxPayload packet.header packet.payload = false → packet.payload.length < 2 ^ 16

instance (maxPayload : Nat) (packet : Packet) : Decidable (Representable maxPayload packet) :=
  inferInstanceAs (Decidable (_ → _))

/-- The bytes that `Send` offers to the byte stream. -/
def Packet.frame (packet : Packet) : List UInt8 :=
  Cobs.encode (rawBytes packet.header packet.payload) ++ [0]

namespace StreamTransport

variable {maxPayload : Nat}

/-- The ways `Send` ends. -/
inductive Sent (maxPayload : Nat) (call : SendCall) (result : SendResult maxPayload) : Prop where
  | refused (status : result.status ≠ .ok) (taken : result.taken = [])
  | written (accepted : encodeRejects maxPayload call.packet.header call.packet.payload = false)
      (taken : result.taken = call.packet.frame.take call.write.written)
      (complete : result.status = .ok → result.taken = call.packet.frame)

theorem send_cases (t : StreamTransport maxPayload) (call : SendCall) :
    Sent maxPayload call (t.send call) := by
  unfold send
  by_cases hstarted : t.started = false
  · rw [if_pos hstarted]
    exact .refused nofun rfl
  rw [if_neg hstarted]
  cases hrejects : encodeRejects maxPayload call.packet.header call.packet.payload with
  | true =>
    rw [PacketCodec.encode, dif_pos hrejects]
    exact .refused nofun rfl
  | false =>
    rw [PacketCodec.encode_eq _ hrejects (length_replicate ..)]
    dsimp only
    split
    · rename_i hfailed
      refine .written hrejects rfl fun hok => ?_
      dsimp only at hok
      split at hok
      · cases hok
      · rename_i hstatus
        exact absurd hok hstatus
    · rename_i hok
      refine .written hrejects rfl fun _ => ?_
      have hwritten := Decidable.not_not.mp (not_or.mp hok).2
      dsimp only
      rw [hwritten, take_length]
      rfl

/-- Calls of `Send` with their results. -/
def sendLog (t : StreamTransport maxPayload) :
    List SendCall → List (SendCall × SendResult maxPayload)
  | [] => []
  | call :: calls => (call, t.send call) :: (t.send call).transport.sendLog calls

theorem mem_sendLog (t : StreamTransport maxPayload) (calls : List SendCall) :
    ∀ entry ∈ t.sendLog calls, entry.1 ∈ calls ∧ Sent maxPayload entry.1 entry.2 := by
  induction calls generalizing t with
  | nil => exact fun entry he => nomatch he
  | cons call calls ih =>
    refine forall_mem_cons.mpr ⟨⟨by simp, t.send_cases call⟩, fun entry he => ?_⟩
    exact (ih _ entry he).imp_left (mem_cons_of_mem _)

end StreamTransport

open StreamTransport

variable {maxPayload : Nat} (log : List (SendCall × SendResult maxPayload))

/-- The packets of the calls that returned `kOk`. -/
def sentPackets : List Packet :=
  log.filterMap fun entry => if entry.2.status = .ok then some entry.1.packet else none

theorem sentPackets_cons (entry : SendCall × SendResult maxPayload)
    (log : List (SendCall × SendResult maxPayload)) :
    sentPackets (entry :: log) =
      (if entry.2.status = .ok then [entry.1.packet] else []) ++ sentPackets log := by
  rw [sentPackets, filterMap_cons]
  split_ifs <;> rfl

/-- What the byte stream took in all the calls. -/
def takenBytes : List UInt8 :=
  log.flatMap fun entry => entry.2.taken

/-- The byte stream took nothing of the packet, or all of it. -/
def Whole (result : SendResult maxPayload) : Prop :=
  result.taken = [] ∨ result.taken.getLast? = some 0

instance (result : SendResult maxPayload) : Decidable (Whole result) :=
  inferInstanceAs (Decidable (_ ∨ _))

/-- No call returns `kOk` after one in which the byte stream took a part of the packet. -/
def NoSuccessAfterPart : Prop :=
  log.Pairwise fun before after => after.2.status = .ok → Whole before.2

instance : Decidable (NoSuccessAfterPart log) :=
  inferInstanceAs (Decidable (List.Pairwise _ _))

/-- A part of a packet that ends with a zero is all of it. -/
theorem take_frame_of_getLast {packet : Packet} {written : Nat}
    (h : (packet.frame.take written).getLast? = some 0) :
    packet.frame.take written = packet.frame := by
  rcases Nat.lt_or_ge written packet.frame.length with hlt | hge
  · -- In front of the zero at its end the packet has none.
    have hle : written ≤ (Cobs.encode (rawBytes packet.header packet.payload)).length := by
      rw [Packet.frame, length_append, length_singleton] at hlt
      omega
    rw [Packet.frame, take_append_of_le_length hle] at h
    exact absurd rfl (Cobs.ne_zero_of_mem_encode _ 0
      (mem_of_mem_take (mem_of_getLast? h)))
  · exact take_of_length_le hge

namespace StreamHistory

/-- What was delivered stays delivered. -/
theorem delivered_prefix_feed (react : ℕ → Reaction) (h : StreamHistory maxPayload)
    (chunks : List (List UInt8)) :
    h.delivered <+: (Chunks.feed (acceptByte react) h chunks).delivered := by
  refine Machine.run_invariant _
    (I := fun h' : StreamHistory maxPayload => h.delivered <+: h'.delivered) ?_
    (prefix_refl _) chunks
  intro h' chunk hprefix
  refine Chunks.readChunk_invariant
    (I := fun h' : StreamHistory maxPayload => h.delivered <+: h'.delivered) ?_ hprefix chunk
  exact fun h' value hprefix => hprefix.trans (prefix_append _ _)

/-- The peer delivers the packets of the successful calls, behind what it has delivered before. -/
theorem sentPackets_sublist_feed {react : ℕ → Reaction} (hreact : ∀ k, (react k).status = .ok)
    {log : List (SendCall × SendResult maxPayload)}
    (hsent : ∀ entry ∈ log, Sent maxPayload entry.1 entry.2)
    (hsize : ∀ entry ∈ log, Representable maxPayload entry.1.packet)
    (hparts : NoSuccessAfterPart log) {h : StreamHistory maxPayload}
    (hempty : h.transport.received = []) {chunks : List (List UInt8)}
    (hstream : chunks.flatten = takenBytes log) :
    (h.delivered ++ sentPackets log).Sublist
      (Chunks.feed (acceptByte react) h chunks).delivered := by
  induction log generalizing h chunks with
  | nil =>
    rw [sentPackets, filterMap_nil, append_nil]
    exact (delivered_prefix_feed react h chunks).sublist
  | cons entry log ih =>
    obtain ⟨hfirst, hrest⟩ := pairwise_cons.mp hparts
    have hsent' := hsent entry (by simp)
    have hlog : ∀ {h : StreamHistory maxPayload}, h.transport.received = [] →
        ∀ {chunks : List (List UInt8)}, chunks.flatten = takenBytes log →
          (h.delivered ++ sentPackets log).Sublist
            (Chunks.feed (acceptByte react) h chunks).delivered :=
      ih (fun e he => hsent e (mem_cons_of_mem _ he))
        (fun e he => hsize e (mem_cons_of_mem _ he)) hrest
    have hstream' : chunks.flatten = entry.2.taken ++ takenBytes log := hstream
    -- A call that the byte stream took nothing of changes nothing.
    have hnothing : entry.2.status ≠ .ok → entry.2.taken = [] →
        (h.delivered ++ sentPackets (entry :: log)).Sublist
          (Chunks.feed (acceptByte react) h chunks).delivered := by
      intro hstatus htaken
      rw [sentPackets_cons, if_neg hstatus, nil_append]
      exact hlog hempty (by rw [hstream', htaken, nil_append])
    cases hsent' with
    | refused status taken => exact hnothing status taken
    | written accepted taken complete =>
      have hne : entry.1.packet.frame ≠ [] := append_ne_nil_of_right_ne_nil _ (by simp)
      by_cases hnil : entry.2.taken = []
      · exact hnothing (fun hok => hne ((complete hok).symm.trans hnil)) hnil
      by_cases hwhole : entry.2.taken.getLast? = some 0
      · -- The whole packet is in the stream and the peer delivers it.
        have hframe : entry.2.taken = entry.1.packet.frame := by
          rw [taken] at hwhole ⊢
          exact take_frame_of_getLast hwhole
        have hpacket := PacketCodec.ofSegment_encode accepted (hsize entry (by simp) accepted)
        have hlength := length_lt_of_ofSegment hpacket
        have hzero : 0 ∉ Cobs.encode (rawBytes entry.1.packet.header entry.1.packet.payload) :=
          fun hmem => Cobs.ne_zero_of_mem_encode _ 0 hmem rfl
        have hclean := clean_segment hreact hempty hzero (by rw [hpacket]; exact nofun) hlength
        obtain ⟨hreceived, hdelivered⟩ := run_next_segment hreact hempty hzero
        rw [leftover_of_lt hlength, hpacket] at hdelivered
        rw [hframe, Packet.frame] at hstream'
        obtain ⟨chunks', hchunks', hfeed⟩ := Chunks.feed_of_clean hclean hstream'
        rw [hfeed]
        refine List.Sublist.trans ?_ (hlog hreceived hchunks')
        rw [hdelivered, append_assoc]
        refine List.Sublist.append (List.Sublist.refl _) ?_
        rw [sentPackets_cons]
        refine List.Sublist.append ?_ (List.Sublist.refl _)
        split_ifs
        · exact List.Sublist.refl _
        · exact nil_sublist _
      · -- Nothing is sent successfully any more.
        have hnot : entry.2.status ≠ .ok := by
          intro hok
          refine hwhole ?_
          rw [complete hok, Packet.frame, List.getLast?_concat]
        have hnone : sentPackets (entry :: log) = [] := by
          refine filterMap_eq_nil_iff.mpr fun e he => if_neg ?_
          rcases mem_cons.mp he with rfl | he
          · exact hnot
          · exact fun hok => (hfirst e he hok).elim hnil hwhole
        rw [hnone, append_nil]
        exact (delivered_prefix_feed react h chunks).sublist

/-- However the peer reads what the byte stream took, it delivers the packets of the calls of
    `Send` that returned `kOk`, in order and unchanged, as long as none of them comes after a call
    in which the byte stream took a part of the packet and no payload that `Encode` accepts has
    65536 bytes or more. -/
theorem sent_sublist_delivered (maxPayload : Nat) (t : StreamTransport maxPayload)
    (calls : List SendCall) (hsize : ∀ call ∈ calls, Representable maxPayload call.packet)
    (hparts : NoSuccessAfterPart (t.sendLog calls)) (react : ℕ → Reaction)
    (hreact : ∀ k, (react k).status = .ok) (peer : StreamTransport maxPayload)
    (hstarted : peer.started = true) (hempty : peer.received = []) (chunks : List (List UInt8))
    (hstream : chunks.flatten = takenBytes (t.sendLog calls)) :
    (sentPackets (t.sendLog calls)).Sublist (pollAll react ⟨peer, []⟩ chunks).delivered := by
  have hlog := t.mem_sendLog calls
  have hpeer : (⟨peer, []⟩ : StreamHistory maxPayload).transport.received = [] := hempty
  rw [(pollAll_eq_feed react hstarted chunks).1]
  exact sentPackets_sublist_feed hreact (fun entry he => (hlog entry he).2)
    (fun entry he => hsize _ (hlog entry he).1) hparts hpeer hstream

private def shortPacket (sequence : UInt32) : Packet :=
  ⟨{ routeId := 8, sequence := sequence }, [1]⟩

/-- A call in which the byte stream takes `written` bytes and then its descriptor is full. -/
private def failingCall (sequence : UInt32) (written : Nat) : SendCall :=
  ⟨shortPacket sequence, .unavailable, written⟩

private def successfulCall (sequence : UInt32) : SendCall :=
  ⟨shortPacket sequence, .ok, (shortPacket sequence).frame.length⟩

private def usb : StreamTransport 16 := .listening

/-- A write that takes nothing and one that takes everything but reports a failure do no harm. -/
theorem sent_sublist_delivered_whole :
    let log := usb.sendLog [failingCall 1 0, failingCall 2 51, successfulCall 3]
    sentPackets log = [shortPacket 3] ∧
      (sentPackets log).Sublist (pollAll (fun _ => {}) ⟨usb, []⟩ [takenBytes log]).delivered := by
  refine ⟨by decide +kernel, ?_⟩
  exact sent_sublist_delivered 16 usb _ (by decide +kernel) (by decide +kernel) _ (fun _ => rfl)
    usb rfl rfl _ (List.append_nil _)

/-- A system call takes three bytes of a packet and the next one fails: the packet that is sent
    after that does not arrive. -/
theorem not_delivered_after_partial_write :
    linuxTtyWrite (shortPacket 1).frame.length 0 [.wrote 3, .failed] =
        some (failingCall 1 3).write ∧
      (let log := usb.sendLog [failingCall 1 3, successfulCall 2]
      sentPackets log = [shortPacket 2] ∧
        (pollAll (fun _ => {}) ⟨usb, []⟩ [takenBytes log]).delivered = []) := by
  decide +kernel

end StreamHistory

end AsterCtrl.Usb
