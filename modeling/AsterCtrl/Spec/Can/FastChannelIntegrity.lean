import AsterCtrl.ForStd.Run
import AsterCtrl.Native.Can.ChannelBridge
import AsterCtrl.Spec.Can.FastPathCorrect

/-!
# Integrity of best-effort channels

The frames that the writer of a `FastChannelEgress` accepts reach a `FastChannelIngress` in order.
What the reassembler completes should be the payload of one call of `Send`.

`Send` advances the sequence only after its last frame, so a message that the writer cuts short
and the next message have the same sequence.  If they also have the same number of fragments,
the reassembler fills the fragments of the second message into the first one.  Nothing else can
go wrong: the payloads are genuine in every run in which each longer message finds no message
with its sequence and number of fragments half reassembled, or one with its own fragments.

## Key results

- `genuine_of_own`: the completed payloads are genuine if no message meets another one's rest
- `not_genuine_after_cut`: otherwise two messages can be mixed
-/

namespace AsterCtrl.Can

open List FastChannelEgress

namespace FastChannelEgress

variable {sizeLimit : Nat}

/-- The writer accepts the first frames, up to the one it rejects. -/
theorem accepted_sendFrames (frames : List CanFrame)
    (e : FastChannelEgress sizeLimit) (writer : CanFrameWriter) :
    ∃ k, (e.sendFrames writer frames).2.2.accepted = writer.accepted ++ frames.take k := by
  induction frames generalizing e writer with
  | nil => exact ⟨0, (append_nil _).symm⟩
  | cons frame frames ih =>
    unfold sendFrames
    dsimp only
    split
    · rename_i hne
      exact ⟨0, by rw [CanFrameWriter.accepted_send_of_ne _ hne]; exact (append_nil _).symm⟩
    · rename_i hok
      obtain ⟨k, hk⟩ := ih { e with stats.frames := e.stats.frames + 1 } (writer.send frame).2
      refine ⟨k + 1, ?_⟩
      rw [hk, CanFrameWriter.accepted_send_of_ok _ (Decidable.not_not.mp hok), append_assoc]
      rfl

end FastChannelEgress

namespace FastChannelIngress

variable {sizeLimit : Nat}

/-- `Accept` passes the frame to the reassembler or ignores it, and reports what the
    reassembler completed. -/
theorem accept_cases (i : FastChannelIngress sizeLimit) (frame : CanFrame)
    (networkNs : UInt64) (publish : Status) :
    ((i.accept frame networkNs publish).ingress.reassembler = i.reassembler ∧
      (i.accept frame networkNs publish).completed = none) ∨
    ((i.accept frame networkNs publish).ingress.reassembler =
        (i.reassembler.accept frame).reassembler ∧
      ((i.accept frame networkNs publish).completed = none ∨
        (i.reassembler.accept frame).status = .ok ∧
        (i.accept frame networkNs publish).completed =
          some (i.reassembler.accept frame).message)) := by
  have htaken : ∀ (i : FastChannelIngress sizeLimit) message,
      (i.takeMessage message networkNs publish).ingress.reassembler = i.reassembler ∧
        (i.takeMessage message networkNs publish).completed = some message := by
    intro i message
    unfold takeMessage
    dsimp only
    split
    · exact ⟨rfl, rfl⟩
    · split
      · exact ⟨rfl, rfl⟩
      · split <;> exact ⟨rfl, rfl⟩
  unfold accept
  split
  · exact .inl ⟨rfl, rfl⟩
  · split
    · exact .inl ⟨rfl, rfl⟩
    · split
      · exact .inl ⟨rfl, rfl⟩
      · dsimp only
        split
        · exact .inr ⟨rfl, .inl rfl⟩
        · rename_i hok
          obtain ⟨hr, hc⟩ := htaken { i with reassembler := (i.reassembler.accept frame).reassembler }
            (i.reassembler.accept frame).message
          exact .inr ⟨hr, .inr ⟨Decidable.not_not.mp hok, hc⟩⟩

end FastChannelIngress

namespace FastChannel

variable {sizeLimit : Nat}

/-- Every payload that was completed is the payload of a call of `Send`. -/
def Genuine (s : FastChannel sizeLimit) : Prop := ∀ p ∈ s.completed, p ∈ s.sent

/-- A message of more than one frame finds no message with its sequence and its number of
    fragments half reassembled, or one that holds only fragments of its own payload. -/
def OwnFragments (s : FastChannel sizeLimit) (call : ChannelSend) : Prop :=
  ∀ p, s.encodedPayload call = some p → 7 < p.length →
    s.ingress.reassembler.Own s.egress.routeId s.egress.sequence p

/-! ## The frames of one call -/

/-- Frames that keep `P` and complete nothing but `p`. -/
theorem completed_arrive
    {P : FastReassembler (kMaximumPayloadSize sizeLimit) → Prop}
    {p : List UInt8} (time : Nat → UInt64) (publish : Nat → Status)
    (frames : List CanFrame)
    (hframes : ∀ frame ∈ frames, ∀ r, P r → P (r.accept frame).reassembler ∧
      ((r.accept frame).status = .ok → (r.accept frame).message.payload = p))
    (k : Nat) (s : FastChannel sizeLimit) (hs : P s.ingress.reassembler) :
    (arrive time publish k s frames).sent = s.sent ∧
      ∀ q ∈ (arrive time publish k s frames).completed, q ∈ s.completed ∨ q = p := by
  induction frames generalizing k s with
  | nil => exact ⟨rfl, fun q hq => .inl hq⟩
  | cons frame frames ih =>
    obtain ⟨hkeeps, hpayload⟩ := hframes frame mem_cons_self _ hs
    have hrest : ∀ frame ∈ frames, ∀ r, P r → P (r.accept frame).reassembler ∧
        ((r.accept frame).status = .ok → (r.accept frame).message.payload = p) :=
      fun frame hframe => hframes frame (mem_cons_of_mem _ hframe)
    have hnext : P (s.ingress.accept frame (time k) (publish k)).ingress.reassembler := by
      rcases s.ingress.accept_cases frame (time k) (publish k) with ⟨hr, -⟩ | ⟨hr, -⟩
      · rw [hr]; exact hs
      · rw [hr]; exact hkeeps
    have hnew : ∀ q ∈ (s.ingress.accept frame (time k)
        (publish k)).completed.toList.map ReassembledMessage.payload, q = p := by
      intro q hq
      obtain ⟨message, hmessage, rfl⟩ := mem_map.mp hq
      rw [Option.mem_toList] at hmessage
      rcases s.ingress.accept_cases frame (time k) (publish k) with
        ⟨-, hc⟩ | ⟨-, hc | ⟨hok, hc⟩⟩
      · cases hc.symm.trans hmessage
      · cases hc.symm.trans hmessage
      · rw [← Option.some.inj (hc.symm.trans hmessage)]
        exact hpayload hok
    rw [arrive]
    obtain ⟨hsent, hcompleted⟩ := ih hrest (k + 1) { s with
      ingress := (s.ingress.accept frame (time k) (publish k)).ingress
      completed := s.completed ++ (s.ingress.accept frame (time k)
        (publish k)).completed.toList.map ReassembledMessage.payload } hnext
    refine ⟨hsent, fun q hq => ?_⟩
    rcases hcompleted q hq with hq | hq
    · exact (mem_append.mp hq).imp_right (hnew q)
    · exact .inr hq

/-- The frames of an encoded payload complete nothing but this payload. -/
private theorem completed_encoded {maxSize : Nat} {routeId : UInt16}
    {priority : CanPriority} {sequence : UInt8} {p : List UInt8} {outputSize : Nat}
    {frames : List CanFrame}
    (hencode : FastCodec.encode routeId priority sequence p outputSize = .ok frames)
    (hfit : p.length ≤ maxSize) :
    ∀ frame ∈ frames, ∀ r : FastReassembler maxSize,
      (7 < p.length → r.Own routeId sequence p) →
      (7 < p.length → (r.accept frame).reassembler.Own routeId sequence p) ∧
      ((r.accept frame).status = .ok → (r.accept frame).message.payload = p) := by
  cases FastReassembler.encoded_of_encode hencode hfit with
  | single fit hlen hne hparse =>
    intro frame hframe r _
    exact ⟨fun h => absurd h (Nat.not_lt.mpr hlen),
      FastReassembler.accept_single (hparse frame hframe)⟩
  | fragments hlen hparse hall =>
    intro frame hframe r hown
    obtain ⟨f, i, hf, hpart⟩ := hparse frame hframe
    obtain ⟨hkeeps, hpayload⟩ := FastReassembler.accept_part hf hpart (hown hlen)
    exact ⟨fun _ => hkeeps, hpayload⟩

/-- A call writes nothing, or the first frames of the payload that it encodes. -/
private theorem send_cases (s : FastChannel sizeLimit) (call : ChannelSend) :
    (s.encodedPayload call = none ∧ (s.egress.send call.message call.sourceTimestampNs
      call.toNetworkTime ⟨call.outcome, []⟩).2.2.accepted = []) ∨
    ∃ p frames k, s.encodedPayload call = some p ∧
      p.length ≤ kMaximumPayloadSize sizeLimit ∧
      FastCodec.encode s.egress.routeId s.egress.priority s.egress.sequence p
        (kMaximumFrames sizeLimit) = .ok frames ∧
      (s.egress.send call.message call.sourceTimestampNs call.toNetworkTime
        ⟨call.outcome, []⟩).2.2.accepted = frames.take k := by
  unfold send encodedPayload
  dsimp only
  by_cases hsize : call.message.length > s.egress.maxSerializedSize ∨
      call.message.length > sizeLimit
  · rw [if_pos hsize, if_pos (by rw [← or_assoc]; exact .inl hsize)]
    exact .inl ⟨rfl, rfl⟩
  rw [if_neg hsize]
  by_cases hrate : s.egress.rateLimited (call.toNetworkTime call.sourceTimestampNs) = true
  · rw [if_pos hrate, if_pos (.inr (.inr hrate))]
    exact .inl ⟨rfl, rfl⟩
  rw [if_neg hrate, if_neg (by rw [← or_assoc]; exact not_or.mpr ⟨hsize, hrate⟩)]
  cases hencode : s.egress.encodeMessage call.message
      (call.toNetworkTime call.sourceTimestampNs) with
  | error status => exact .inl ⟨rfl, rfl⟩
  | ok frames =>
    obtain ⟨k, hk⟩ := s.egress.accepted_sendFrames frames ⟨call.outcome, []⟩
    refine .inr ⟨_, frames, k, rfl, ?_, hencode, ?_⟩
    · simp only [channelPayload, length_cons, kMaximumPayloadSize]
      omega
    · dsimp only
      split <;> exact hk

/-! ## All runs -/

theorem genuine_step {s : FastChannel sizeLimit} (h : Genuine s) (call : ChannelSend)
    (hown : OwnFragments s call) : Genuine (s.step call) := by
  unfold step
  dsimp only
  rcases send_cases s call with ⟨hnone, haccepted⟩ | ⟨p, frames, k, hsome, hfit, hencode, haccepted⟩
  · rw [haccepted, hnone]
    intro p hp
    rw [arrive] at hp ⊢
    exact mem_append_left _ (h p hp)
  · rw [haccepted, hsome]
    have hframes := completed_encoded hencode hfit
    obtain ⟨hsent, hcompleted⟩ := completed_arrive
      (P := fun r => 7 < p.length → r.Own s.egress.routeId s.egress.sequence p)
      call.receiveTimeNs call.publish (frames.take k)
      (fun frame hframe => hframes frame (mem_of_mem_take hframe)) 0
      { s with
        egress := (s.egress.send call.message call.sourceTimestampNs call.toNetworkTime
          ⟨call.outcome, []⟩).2.1
        sent := s.sent ++ [p] } (hown p hsome)
    intro q hq
    rw [Option.toList_some, hsent]
    rcases hcompleted q hq with hq | rfl
    · exact mem_append_left _ (h q hq)
    · exact mem_append_right _ (mem_singleton.mpr rfl)

/-- Integrity: if no message meets the rest of another one, every payload that the reassembler
    completes is the payload of one call of `Send`. -/
theorem genuine_of_own (config : Config sizeLimit) (calls : List ChannelSend)
    (hown : Machine.Along step OwnFragments (init config) calls) :
    Genuine (Machine.run step (init config) calls) := by
  have hinit : Genuine (init config) := fun _ hp => nomatch hp
  exact Machine.run_invariant_along step (I := Genuine) (P := OwnFragments)
    (fun _ call h hc => genuine_step h call hc) hinit hown

private theorem cutSize_pos : 0 < 8 := by decide

private def cutConfig : Config 8 where
  routeId := 100
  maxSerializedSize := 8
  size_pos := cutSize_pos
  size_le := by decide

/-- A message of eight equal bytes, of whose two frames `written` are accepted. -/
private def cutSend (byte : UInt8) (written : Nat) : ChannelSend where
  message := List.replicate 8 byte
  outcome := fun k => if k < written then .ok else .unavailable

/-- Two messages that are written completely: both payloads are completed. -/
theorem genuine_of_own_complete :
    (Machine.run step (init cutConfig) [cutSend 1 2, cutSend 2 2]).completed.length = 2 ∧
      Genuine (Machine.run step (init cutConfig) [cutSend 1 2, cutSend 2 2]) :=
  ⟨by decide +kernel, genuine_of_own cutConfig [cutSend 1 2, cutSend 2 2]
    ⟨fun _ _ _ => FastReassembler.own_of_inactive rfl _ _ _,
      fun _ _ _ => FastReassembler.own_of_inactive (by decide +kernel) _ _ _, trivial⟩⟩

/-- The first message is cut after its first frame, the second one is written completely: the
    reassembler completes the first frame of the one with the last frame of the other. -/
theorem not_genuine_after_cut :
    (Machine.run step (init cutConfig) [cutSend 1 1, cutSend 2 2]).completed =
        [[0, 0, 1, 1, 1, 1, 2, 2, 2, 2]] ∧
      (Machine.run step (init cutConfig) [cutSend 1 1, cutSend 2 2]).sent =
        [[0, 0, 1, 1, 1, 1, 1, 1, 1, 1], [0, 0, 2, 2, 2, 2, 2, 2, 2, 2]] ∧
      ¬ Genuine (Machine.run step (init cutConfig) [cutSend 1 1, cutSend 2 2]) := by
  have hcompleted : (Machine.run step (init cutConfig) [cutSend 1 1, cutSend 2 2]).completed =
      [[0, 0, 1, 1, 1, 1, 2, 2, 2, 2]] := by decide +kernel
  have hsent : (Machine.run step (init cutConfig) [cutSend 1 1, cutSend 2 2]).sent =
      [[0, 0, 1, 1, 1, 1, 1, 1, 1, 1], [0, 0, 2, 2, 2, 2, 2, 2, 2, 2]] := by decide +kernel
  refine ⟨hcompleted, hsent, fun h => ?_⟩
  have hmem := h [0, 0, 1, 1, 1, 1, 2, 2, 2, 2] (by rw [hcompleted]; simp)
  rw [hsent] at hmem
  exact absurd hmem (by decide)

end FastChannel

end AsterCtrl.Can
