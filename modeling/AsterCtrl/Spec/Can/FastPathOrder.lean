import Mathlib.Data.List.ReduceOption
import AsterCtrl.ForStd.Run
import AsterCtrl.Spec.Can.FastPathSteps

/-!
# What a fast reassembler returns of a stream of messages

One sender numbers its messages modulo 64 and sends them one after the other; of the frames of
each message any may be lost, repeated or reordered.  As long as the completed messages do not lie
too far apart, a 6-bit sequence names one message among those that the reassembler remembers, so
what it returns was sent, in this order and once.

The argument follows the two messages that the reassembler knows: the one completed last and the
one that is active.  `Tracks` names both by their place in the stream, `InReach` says that they are
at most 63 messages old, and then the comparisons of `PrepareSequence` are comparisons of places.

## Key results

- `Tracks.accept`: one frame of the stream
- `Tracks.receive`: the frames of one message
- `exists_tracks`: the stream up to any message
- `returned_sublist`: what is returned, and what is not lost
-/

namespace AsterCtrl.Can

open List

/-- A message, the frames it was encoded to, and the frames that reach the receiver. -/
structure FastTransfer where
  priority : CanPriority
  payload : List UInt8
  frames : List CanFrame
  arrivals : List CanFrame
deriving DecidableEq

namespace FastReassembler

variable {maxSize : Nat}

/-- The 6-bit sequence of message `i` of a stream. -/
def sequenceOf (i : Nat) : UInt8 := UInt8.ofNat (i % 64)

/-- Message `i` of a stream on the route: only frames of it arrive under its name. -/
structure Sent (maxSize : Nat) (routeId : UInt16) (i : Nat) (t : FastTransfer) : Prop where
  fits : t.payload.length ≤ maxSize
  encoded : ∃ outputSize,
    FastCodec.encode routeId t.priority (sequenceOf i) t.payload outputSize = .ok t.frames
  arrivals : ∀ frame ∈ t.arrivals, frame ∈ t.frames

/-- The message that `Accept` returns. -/
def delivery (r : FastReassembler maxSize) (frame : CanFrame) : Option ReassembledMessage :=
  if (r.accept frame).status = .ok then some (r.accept frame).message else none

/-- `Accept` of one frame after the other. -/
def receive (r : FastReassembler maxSize) (frames : List CanFrame) :
    FastReassembler maxSize :=
  Machine.run (fun r frame => (r.accept frame).reassembler) r frames

/-- The messages returned while the frames are accepted. -/
def deliveries (r : FastReassembler maxSize) (frames : List CanFrame) :
    List ReassembledMessage :=
  (Machine.outputs (fun r frame => (r.accept frame).reassembler) delivery r frames).reduceOption

/-- All frames of the first `n` messages of a stream that arrive. -/
def arrivalsOf (stream : Nat → FastTransfer) (n : Nat) : List CanFrame :=
  (List.range n).flatMap fun i => (stream i).arrivals

/-- A new reassembler when the first frame of message `i` arrives. -/
def before (maxSize : Nat) (stream : Nat → FastTransfer) (i : Nat) :
    FastReassembler maxSize :=
  receive {} (arrivalsOf stream i)

/-- The messages returned while the frames of message `i` arrive. -/
def returnedAt (maxSize : Nat) (stream : Nat → FastTransfer) (i : Nat) :
    List ReassembledMessage :=
  (before maxSize stream i).deliveries (stream i).arrivals

/-- The messages that a new reassembler returns for the first `n` messages of a stream. -/
def returned (maxSize : Nat) (stream : Nat → FastTransfer) (n : Nat) :
    List ReassembledMessage :=
  ({} : FastReassembler maxSize).deliveries (arrivalsOf stream n)

/-- Message `i` is completed. -/
def Completed (maxSize : Nat) (stream : Nat → FastTransfer) (i : Nat) : Prop :=
  returnedAt maxSize stream i ≠ []

/-- Among any 63 consecutive messages of the first `n` one is completed. -/
def Dense (maxSize : Nat) (stream : Nat → FastTransfer) (n : Nat) : Prop :=
  ∀ i, i + 63 ≤ n → ∃ j, i ≤ j ∧ j < i + 63 ∧ Completed maxSize stream j

/-- Message `l` is the last completed one when the first frame of message `i` arrives. -/
structure LastCompleted (maxSize : Nat) (stream : Nat → FastTransfer) (i l : Nat) :
    Prop where
  lt : l < i
  completed : Completed maxSize stream l
  last : ∀ k, l < k → k < i → ¬ Completed maxSize stream k

/-- Message `a` is the active one when the first frame of message `i` arrives: the latest message
    with the active sequence. -/
structure ActiveMessage (maxSize : Nat) (stream : Nat → FastTransfer) (i a : Nat) :
    Prop where
  lt : a < i
  active : (before maxSize stream i).active = true
  sequence : (before maxSize stream i).sequence = sequenceOf a
  latest : ∀ k, a < k → k < i → (before maxSize stream i).sequence ≠ sequenceOf k

/-! ## Sequences of nearby messages -/

theorem toNat_sequenceOf (i : Nat) : (sequenceOf i).toNat = i % 64 := by
  rw [sequenceOf, UInt8.toNat_ofNat']
  omega

variable {i j : Nat}

theorem toNat_distance_sequenceOf (hij : i ≤ j) (hji : j ≤ i + 63) :
    (distance (sequenceOf i) (sequenceOf j)).toNat = j - i := by
  have hmask := Nat.and_two_pow_sub_one_eq_mod ((2 ^ 8 - i % 64 + j % 64) % 2 ^ 8) 6
  rw [distance, UInt8.toNat_and, UInt8.toNat_sub, toNat_sequenceOf, toNat_sequenceOf]
  simp only [Nat.reducePow, Nat.reduceSub, UInt8.reduceToNat] at hmask ⊢
  omega

theorem sequenceOf_inj (hij : i ≤ j) (hji : j ≤ i + 63) (h : sequenceOf i = sequenceOf j) :
    i = j := by
  have := congrArg UInt8.toNat h
  rw [toNat_sequenceOf, toNat_sequenceOf] at this
  omega

theorem distance_gt_iff (hij : i ≤ j) (hji : j ≤ i + 63) :
    distance (sequenceOf i) (sequenceOf j) > 31 ↔ i + 31 < j := by
  rw [gt_iff_lt, UInt8.lt_iff_toNat_lt, toNat_distance_sequenceOf hij hji]
  simp only [UInt8.reduceToNat]
  omega

theorem distance_eq_zero_iff (hij : i ≤ j) (hji : j ≤ i + 63) :
    distance (sequenceOf i) (sequenceOf j) = 0 ↔ i = j := by
  rw [← UInt8.toNat_inj, toNat_distance_sequenceOf hij hji]
  simp only [UInt8.reduceToNat]
  omega

/-! ## The messages that a reassembler knows -/

section Tracking

variable (payloadOf : Nat → List UInt8) (routeId : UInt16)

/-- Fragments of message `a`, and not all of them, are in the reassembler. -/
structure Holding (r : FastReassembler maxSize) (a : Nat) : Prop where
  active : r.active = true
  routeId : r.routeId = routeId
  sequence : r.sequence = sequenceOf a
  count : r.fragmentCount = fragmentsOf kFragmentPayload (payloadOf a).length
  holds : r.buffer.Holds kFragmentPayload (payloadOf a)
  unfinished : r.buffer.isFull r.fragmentCount = false

/-- The message that is active. -/
def ActiveIs (r : FastReassembler maxSize) : Option Nat → Prop
  | none => r.active = false
  | some a => r.Holding payloadOf routeId a

/-- The message completed last. -/
def LastIs (r : FastReassembler maxSize) : Option Nat → Prop
  | none => r.hasLastSequence = false
  | some l => r.hasLastSequence = true ∧ r.lastRouteId = routeId ∧ r.lastSequence = sequenceOf l

/-- What the reassembler knows of a stream. -/
structure Tracks (r : FastReassembler maxSize) (last active : Option Nat) : Prop where
  last : r.LastIs routeId last
  active : r.ActiveIs payloadOf routeId active

end Tracking

/-- The sequences of the messages that are remembered while message `i` arrives are unambiguous. -/
structure InReach (i : Nat) (last active : Option Nat) : Prop where
  lt : ∀ a ∈ active, ∀ l ∈ last, l < a
  last : ∀ l ∈ last, l ≤ i ∧ i ≤ l + 63
  active : ∀ a ∈ active, a ≤ i ∧ i ≤ a + 63

/-- Message `i` is not too new for the messages that are remembered. -/
structure Admits (i : Nat) (last active : Option Nat) : Prop where
  last : ∀ l ∈ last, l < i ∧ i ≤ l + 31
  active : ∀ a ∈ active, a < i ∧ i ≤ a + 31

section Tracking

variable {payloadOf : Nat → List UInt8} {routeId : UInt16} {r : FastReassembler maxSize}
  {last active : Option Nat} {i : Nat}

theorem LastIs.of_sameHistory {r' : FastReassembler maxSize} (h : r.LastIs routeId last)
    (hhistory : SameHistory r r') : r'.LastIs routeId last := by
  cases last with
  | none => exact hhistory.hasLastSequence.trans h
  | some l =>
    exact ⟨hhistory.hasLastSequence.trans h.1, hhistory.lastRouteId.trans h.2.1,
      hhistory.lastSequence.trans h.2.2⟩

theorem LastIs.fresh_iff (h : r.LastIs routeId last) (hreach : ∀ l ∈ last, l ≤ i ∧ i ≤ l + 63) :
    r.Fresh routeId (sequenceOf i) ↔ ∀ l ∈ last, l < i ∧ i ≤ l + 31 := by
  cases last with
  | none => exact ⟨fun _ => nofun, fun _ => .inl h⟩
  | some l =>
    obtain ⟨hhas, hroute, hsequence⟩ := h
    obtain ⟨hle, hge⟩ := hreach l rfl
    have hzero := distance_eq_zero_iff hle hge
    have hgt := distance_gt_iff hle hge
    rw [gt_iff_lt, ← UInt8.not_le, not_iff_comm, not_lt] at hgt
    simp only [Fresh, hhas, hroute, hsequence, Bool.true_eq_false, ne_eq, not_true_eq_false,
      false_or, hzero, ← hgt, Option.mem_def, Option.some.injEq, forall_eq']
    omega

theorem ActiveIs.blocked_iff (h : r.ActiveIs payloadOf routeId active)
    (hreach : ∀ a ∈ active, a ≤ i ∧ i ≤ a + 63) :
    ¬ r.Blocked routeId (sequenceOf i) ↔ ∀ a ∈ active, a < i ∧ i ≤ a + 31 := by
  cases active with
  | none => exact ⟨fun _ => nofun, fun _ hb => nomatch hb.1.symm.trans h⟩
  | some a =>
    obtain ⟨hle, hge⟩ := hreach a rfl
    have heq : sequenceOf a = sequenceOf i ↔ a = i :=
      ⟨sequenceOf_inj hle hge, congrArg sequenceOf⟩
    simp only [Blocked, h.active, h.routeId, h.sequence, heq, distance_gt_iff hle hge, true_and,
      Option.mem_def, Option.some.injEq, forall_eq']
    omega

theorem ActiveIs.continues_iff (h : r.ActiveIs payloadOf routeId active)
    (hreach : ∀ a ∈ active, a ≤ i ∧ i ≤ a + 63) :
    r.Continues routeId (sequenceOf i) ↔ active = some i := by
  cases active with
  | none => exact ⟨fun hc => absurd (hc.1.symm.trans h) nofun, nofun⟩
  | some a =>
    obtain ⟨hle, hge⟩ := hreach a rfl
    have heq : sequenceOf a = sequenceOf i ↔ a = i :=
      ⟨sequenceOf_inj hle hge, congrArg sequenceOf⟩
    simp only [Continues, h.active, h.routeId, h.sequence, heq, true_and, Option.some.injEq]

/-! ## One frame -/

variable (payloadOf routeId r last active i) in
/-- What becomes of a frame of message `i`. -/
inductive Outcome (frame : CanFrame) : FastResult maxSize → Prop where
  /-- The frame comes too late or too early, and the active message may be lost. -/
  | refused {result : FastResult maxSize} {active' : Option Nat}
      (htracks : result.reassembler.Tracks payloadOf routeId last active')
      (hactive' : active' = active ∨ active' = none) (hstatus : result.status ≠ .ok)
      (hadmits : ¬ Admits i last active)
      (hactive : ∀ f, parseFrame maxSize frame = some (.fragment f) → active ≠ some i) :
      Outcome frame result
  /-- Message `i` is active and holds the fragment. -/
  | kept {result : FastResult maxSize} {f : FastFragment}
      (htracks : result.reassembler.Tracks payloadOf routeId last (some i))
      (hstatus : result.status ≠ .ok) (hlast : last ≠ some i)
      (hparse : parseFrame maxSize frame = some (.fragment f))
      (hhas : result.reassembler.buffer.has f.index = true)
      (hkeeps : active = some i → ∀ j, r.buffer.has j = true →
        result.reassembler.buffer.has j = true) : Outcome frame result
  /-- Message `i` is returned. -/
  | completed {result : FastResult maxSize}
      (htracks : result.reassembler.Tracks payloadOf routeId (some i) none)
      (hstatus : result.status = .ok) (hlast : last ≠ some i)
      (hmessage : result.message = ⟨routeId, sequenceOf i, payloadOf i⟩) : Outcome frame result

/-- The frame passes the checks as a frame of the payload `p`. -/
def IsFrameOf (maxSize : Nat) (routeId : UInt16) (sequence : UInt8) (p : List UInt8)
    (frame : CanFrame) : Prop :=
  (∃ fit, parseFrame maxSize frame = some (.single routeId sequence p fit)) ∨
    ∃ f k, parseFrame maxSize frame = some (.fragment f) ∧ f.IsPart routeId sequence p k

variable {frames : List CanFrame} {frame : CanFrame}

theorem Encoded.isFrameOf {sequence : UInt8} {p : List UInt8}
    (h : Encoded maxSize routeId sequence p frames) (hframe : frame ∈ frames) :
    IsFrameOf maxSize routeId sequence p frame := by
  cases h with
  | single fit _ _ hparse => exact .inl ⟨fit, hparse frame hframe⟩
  | fragments _ hparse _ => exact .inr (hparse frame hframe)

/-- A refused sequence. -/
theorem Prepared.tracks {r₀ : FastReassembler maxSize}
    (hprepared : Prepared r routeId (sequenceOf i) (.unavailable, r₀))
    (h : r.Tracks payloadOf routeId last active) (hreach : InReach i last active) :
    ∃ active', (active' = active ∨ active' = none) ∧ r₀.Tracks payloadOf routeId last active' ∧
      ¬ Admits i last active := by
  cases hprepared with
  | blocked stats hblocked =>
    refine ⟨active, .inl rfl, ⟨h.last.of_sameHistory ⟨rfl, rfl, rfl⟩, ?_⟩, fun hadmits => ?_⟩
    · cases active with
      | none => exact h.active
      | some a =>
        have ha := h.active
        exact ⟨ha.1, ha.2, ha.3, ha.4, ha.5, ha.6⟩
    · exact (h.active.blocked_iff hreach.active).mpr hadmits.active hblocked
  | stale _ _ hfresh hactive hhistory =>
    exact ⟨none, .inr rfl, ⟨h.last.of_sameHistory hhistory, hactive⟩, fun hadmits =>
      hfresh ((h.last.fresh_iff hreach.last).mpr hadmits.last)⟩

/-- A fragment stored in message `i`. -/
theorem Stored.outcome {r' : FastReassembler maxSize} {f : FastFragment} {k : Nat}
    {result : FastResult maxSize} (hstored : Stored r' f result)
    (hholding : r'.Holding payloadOf routeId i) (hlast : r'.LastIs routeId last)
    (hne : last ≠ some i) (hparse : parseFrame maxSize frame = some (.fragment f))
    (hpart : f.IsPart routeId (sequenceOf i) (payloadOf i) k)
    (hfits : (payloadOf i).length ≤ maxSize)
    (hkeeps : active = some i → ∀ j, r.buffer.has j = true → r'.buffer.has j = true) :
    Outcome payloadOf routeId r last active i frame result := by
  have hcount : f.count = r'.fragmentCount := hpart.count.trans hholding.count.symm
  cases hstored with
  | duplicate stats hhas =>
    refine .kept ⟨hlast.of_sameHistory ⟨rfl, rfl, rfl⟩, ?_⟩ (by simp) hne hparse hhas hkeeps
    exact ⟨hholding.1, hholding.2, hholding.3, hholding.4, hholding.5, hholding.6⟩
  | tooLong stats hhas hlong => exact absurd (Nat.le_trans hpart.end_le hfits) (Nat.not_le.mpr hlong)
  | kept stats hhas hfit hfull =>
    refine .kept ⟨hlast.of_sameHistory ⟨rfl, rfl, rfl⟩, ?_⟩ (by simp) hne hparse ?_
      fun hactive j hj => ?_
    · exact ⟨hholding.1, hholding.2, hholding.3, hholding.4,
        holds_store_part hpart hholding.holds hfit, hcount ▸ hfull⟩
    · simp [FragmentBuffer.has_store]
    · simp [FragmentBuffer.has_store, hkeeps hactive j hj]
  | completed stats hhas hfit hfull =>
    refine .completed ⟨⟨rfl, hholding.routeId, hholding.sequence⟩, rfl⟩ rfl hne ?_
    have hcontents := (holds_store_part hpart hholding.holds hfit).contents_eq (by decide)
      (hpart.count ▸ hfull)
    rw [← hpart.count] at hcontents
    rw [hholding.routeId, hholding.sequence, hcontents]

/-- `Accept` of a frame of message `i`. -/
theorem Tracks.accept (h : r.Tracks payloadOf routeId last active) (hreach : InReach i last active)
    (hfits : (payloadOf i).length ≤ maxSize)
    (hframe : IsFrameOf maxSize routeId (sequenceOf i) (payloadOf i) frame) :
    Outcome payloadOf routeId r last active i frame (r.accept frame) := by
  have hfresh_ne : r.Fresh routeId (sequenceOf i) → last ≠ some i := fun hfresh heq =>
    Nat.lt_irrefl i ((h.last.fresh_iff hreach.last).mp hfresh i heq).1
  have hcases := r.accept_cases frame
  generalize r.accept frame = result at hcases
  rcases hframe with ⟨fit, hsingle⟩ | ⟨f, k, hfragment, hpart⟩
  · cases hcases with
    | refusedSingle r₀ hparse hprepared =>
      cases hsingle.symm.trans hparse
      obtain ⟨active', hactive', htracks, hadmits⟩ := hprepared.tracks h hreach
      exact .refused htracks hactive' (by simp) hadmits fun f hf =>
        nomatch hsingle.symm.trans hf
    | single r₁ hparse hblocked hfresh hactive hhas hroute hsequence =>
      cases hsingle.symm.trans hparse
      exact .completed ⟨⟨hhas, hroute, hsequence⟩, hactive⟩ rfl (hfresh_ne hfresh) rfl
    | malformed _ hparse | refusedFragment _ hparse | begun hparse | mismatched _ hparse
    | continued hparse => cases hsingle.symm.trans hparse
  · have hroute := hpart.routeId
    have hsequence := hpart.sequence
    cases hcases with
    | refusedFragment r₀ hparse hcontinues hprepared =>
      cases hfragment.symm.trans hparse
      rw [hroute, hsequence] at hcontinues hprepared
      obtain ⟨active', hactive', htracks, hadmits⟩ := hprepared.tracks h hreach
      exact .refused htracks hactive' (by simp) hadmits fun _ _ heq =>
        hcontinues ((h.active.continues_iff hreach.active).mpr heq)
    | begun hparse hcontinues hblocked hfresh hhistory hstored =>
      cases hfragment.symm.trans hparse
      rename_i r₀
      rw [hroute, hsequence] at hcontinues hfresh
      refine hstored.outcome ⟨rfl, hroute, hsequence, hpart.count, ?_, ?_⟩
        (h.last.of_sameHistory ⟨hhistory.1, hhistory.2, hhistory.3⟩) (hfresh_ne hfresh) hfragment
        hpart hfits fun heq => absurd ((h.active.continues_iff hreach.active).mpr heq) hcontinues
      · exact FragmentBuffer.holds_of_mask_eq_zero rfl _ _
      · refine Bool.eq_false_iff.mpr fun hfull => ?_
        have hzero := FragmentBuffer.isFull_iff.mp hfull 0
        rw [activate, FragmentBuffer.has_clear] at hzero
        exact absurd (Nat.zero_lt_of_lt f.index_lt) (of_decide_eq_false hzero.symm)
    | mismatched _ hparse hcontinues hcount =>
      cases hfragment.symm.trans hparse
      rw [hroute, hsequence, h.active.continues_iff hreach.active] at hcontinues
      subst hcontinues
      exact absurd (h.active.count.trans hpart.count.symm) hcount
    | continued hparse hcontinues hcount hstored =>
      cases hfragment.symm.trans hparse
      rw [hroute, hsequence, h.active.continues_iff hreach.active] at hcontinues
      subst hcontinues
      exact hstored.outcome h.active h.last
        (fun heq => Nat.lt_irrefl i (hreach.lt i rfl i heq)) hfragment hpart hfits fun _ _ hj => hj
    | malformed _ hparse | refusedSingle _ hparse | single _ hparse =>
      cases hfragment.symm.trans hparse

/-! ## The frames of one message -/

theorem receive_cons (r : FastReassembler maxSize) (frame : CanFrame)
    (frames : List CanFrame) :
    r.receive (frame :: frames) = (r.accept frame).reassembler.receive frames := rfl

theorem deliveries_cons (r : FastReassembler maxSize) (frame : CanFrame)
    (frames : List CanFrame) :
    r.deliveries (frame :: frames) =
      (r.delivery frame).toList ++ (r.accept frame).reassembler.deliveries frames := by
  rw [deliveries, Machine.outputs_cons]
  cases r.delivery frame <;> rfl

theorem delivery_of_ne_ok (h : (r.accept frame).status ≠ .ok) :
    r.delivery frame = none := if_neg h

theorem delivery_of_ok (h : (r.accept frame).status = .ok) :
    r.delivery frame = some (r.accept frame).message := if_pos h

theorem InReach.kept (h : InReach i last active) (hlast : last ≠ some i) :
    InReach i last (some i) where
  lt a ha l hl := by
    cases ha
    exact lt_of_le_of_ne (h.last l hl).1 fun heq => hlast (heq ▸ hl)
  last := h.last
  active a ha := by
    cases ha
    omega

theorem inReach_completed (i : Nat) : InReach i (some i) none where
  lt := nofun
  last l hl := by
    cases hl
    omega
  active := nofun

theorem InReach.of_subset (h : InReach i last active) {active' : Option Nat}
    (hactive' : active' = active ∨ active' = none) : InReach i last active' := by
  rcases hactive' with rfl | rfl
  · exact h
  · exact ⟨nofun, h.last, nofun⟩

/-- The frames of message `i` in any order, with losses and repetitions: the message is returned
    once or not at all, and it may stay or become the active one. -/
theorem Tracks.receive (h : r.Tracks payloadOf routeId last active) (hreach : InReach i last active)
    (hfits : (payloadOf i).length ≤ maxSize)
    (hframes : ∀ frame ∈ frames, IsFrameOf maxSize routeId (sequenceOf i) (payloadOf i) frame) :
    (∃ active', (r.receive frames).Tracks payloadOf routeId last active' ∧
        r.deliveries frames = [] ∧
        (active' = active ∨ active' = none ∨ active' = some i ∧ last ≠ some i)) ∨
      ((r.receive frames).Tracks payloadOf routeId (some i) none ∧ last ≠ some i ∧
        r.deliveries frames = [⟨routeId, sequenceOf i, payloadOf i⟩]) := by
  induction frames generalizing r last active with
  | nil => exact .inl ⟨active, h, rfl, .inl rfl⟩
  | cons frame frames ih =>
    have hrest : ∀ frame ∈ frames,
        IsFrameOf maxSize routeId (sequenceOf i) (payloadOf i) frame :=
      fun frame hframe => hframes frame (mem_cons_of_mem _ hframe)
    rw [receive_cons, deliveries_cons]
    cases h.accept hreach hfits (hframes frame mem_cons_self) with
    | refused htracks hactive' hstatus hadmits hactive =>
      rw [delivery_of_ne_ok hstatus]
      refine (ih htracks (hreach.of_subset hactive') hrest).imp_left ?_
      rintro ⟨active'', htracks', hnone, heq | heq⟩
      · exact ⟨active'', htracks', hnone, heq ▸ hactive'.imp_right .inl⟩
      · exact ⟨active'', htracks', hnone, .inr heq⟩
    | kept htracks hstatus hlast hparse hhas hkeeps =>
      rw [delivery_of_ne_ok hstatus]
      refine (ih htracks (hreach.kept hlast) hrest).imp_left ?_
      rintro ⟨active', htracks', hnone, heq | heq⟩
      · exact ⟨active', htracks', hnone, .inr (.inr ⟨heq, hlast⟩)⟩
      · exact ⟨active', htracks', hnone, .inr heq⟩
    | completed htracks hstatus hlast hmessage =>
      -- what arrives of message `i` after it is completed is refused
      rw [delivery_of_ok hstatus, hmessage]
      rcases ih htracks (inReach_completed i) hrest with ⟨active', htracks', hnone, hactive'⟩ | h'
      · have hactive' : active' = none :=
          hactive'.elim id fun hactive' => hactive'.resolve_right fun h' => h'.2 rfl
        rw [hnone]
        exact .inr ⟨hactive' ▸ htracks', hlast, rfl⟩
      · exact absurd rfl h'.2.1

/-- The frames of message `i` when it is or becomes the active one: once every fragment was there
    the message is returned. -/
theorem Tracks.deliveries_fragments (h : r.Tracks payloadOf routeId last active)
    (hreach : InReach i last active) (hfits : (payloadOf i).length ≤ maxSize)
    (hpos : 0 < (payloadOf i).length) (hready : active = some i ∨ Admits i last active)
    (hframes : ∀ frame ∈ frames, ∃ f k, parseFrame maxSize frame = some (.fragment f) ∧ f.IsPart
      routeId (sequenceOf i) (payloadOf i) k)
    (hall : ∀ k < fragmentsOf kFragmentPayload (payloadOf i).length, (active = some i ∧ r.buffer.has
      k = true) ∨ ∃ frame ∈ frames, ∃ f, parseFrame maxSize frame = some (.fragment f) ∧ f.IsPart
      routeId (sequenceOf i) (payloadOf i) k) : r.deliveries frames ≠ [] := by
  induction frames generalizing r last active with
  | nil =>
    have hstored : ∀ k < fragmentsOf kFragmentPayload (payloadOf i).length,
        active = some i ∧ r.buffer.has k = true := fun k hk =>
      (hall k hk).resolve_right fun ⟨_, hframe, _⟩ => nomatch hframe
    obtain ⟨rfl, -⟩ := hstored 0 (fragmentsOf_pos (by decide) hpos)
    have hholding := h.active
    refine absurd hholding.unfinished (Bool.not_eq_false _ ▸ FragmentBuffer.isFull_iff.mpr ?_)
    intro k
    rw [hholding.count, Bool.eq_iff_iff, decide_eq_true_eq]
    exact ⟨hholding.holds.index k, fun hk => (hstored k hk).2⟩
  | cons frame frames ih =>
    obtain ⟨f, k, hparse, hpart⟩ := hframes frame mem_cons_self
    rw [deliveries_cons]
    cases h.accept hreach hfits (.inr ⟨f, k, hparse, hpart⟩) with
    | refused _ _ _ hadmits hactive => exact absurd hready (not_or.mpr ⟨hactive f hparse, hadmits⟩)
    | kept htracks hstatus hlast hparse' hhas hkeeps =>
      cases hparse.symm.trans hparse'
      rw [delivery_of_ne_ok hstatus]
      refine ih htracks (hreach.kept hlast) (.inl rfl)
        (fun frame hframe => hframes frame (mem_cons_of_mem _ hframe)) fun j hj => ?_
      rcases hall j hj with ⟨hactive, hj⟩ | ⟨frame', hframe', f', hf', hpart'⟩
      · exact .inl ⟨rfl, hkeeps hactive j hj⟩
      · rcases mem_cons.mp hframe' with rfl | hframe'
        · cases hparse.symm.trans hf'
          exact .inl ⟨rfl, hpart'.index ▸ hhas⟩
        · exact .inr ⟨frame', hframe', f', hf', hpart'⟩
    | completed _ hstatus _ _ =>
      rw [delivery_of_ok hstatus]
      exact cons_ne_nil _ _

/-- All frames of message `i` when it is not too new. -/
theorem Tracks.deliveries_ne_nil {arrivals : List CanFrame}
    (h : r.Tracks payloadOf routeId last active) (hreach : InReach i last active)
    (hfits : (payloadOf i).length ≤ maxSize) (hadmits : Admits i last active)
    (hencoded : Encoded maxSize routeId (sequenceOf i) (payloadOf i) frames)
    (harrivals : ∀ frame ∈ arrivals, frame ∈ frames) (hall : ∀ frame ∈ frames, frame ∈ arrivals) :
    r.deliveries arrivals ≠ [] := by
  cases hencoded with
  | single fit hlen hne hparse =>
    obtain ⟨frame, hframe⟩ := exists_mem_of_ne_nil _ hne
    obtain ⟨first, rest, rfl⟩ := exists_cons_of_ne_nil
      (ne_nil_of_mem (hall frame hframe))
    have hfirst := hparse first (harrivals first mem_cons_self)
    rw [deliveries_cons]
    cases h.accept hreach hfits (.inl ⟨fit, hfirst⟩) with
    | refused _ _ _ hnot _ => exact absurd hadmits hnot
    | kept _ _ _ hparse' _ _ => cases hfirst.symm.trans hparse'
    | completed _ hstatus _ _ =>
      rw [delivery_of_ok hstatus]
      exact cons_ne_nil _ _
  | fragments hlen hparse hparts =>
    refine h.deliveries_fragments hreach hfits (Nat.zero_lt_of_lt hlen) (.inr hadmits)
      (fun frame hframe => hparse frame (harrivals frame hframe)) fun k hk => .inr ?_
    obtain ⟨frame, hframe, hf⟩ := hparts k hk
    exact ⟨frame, hall frame hframe, hf⟩

end Tracking

/-! ## The stream -/

section Stream

variable {stream : Nat → FastTransfer} {routeId : UInt16} {n i : Nat}

theorem arrivalsOf_succ (stream : Nat → FastTransfer) (i : Nat) :
    arrivalsOf stream (i + 1) = arrivalsOf stream i ++ (stream i).arrivals := by
  simp only [arrivalsOf, range_succ, flatMap_append, flatMap_singleton]

theorem before_succ (maxSize : Nat) (stream : Nat → FastTransfer) (i : Nat) :
    before maxSize stream (i + 1) =
      (before maxSize stream i).receive (stream i).arrivals := by
  rw [before, arrivalsOf_succ, receive, Machine.run_append]
  rfl

theorem returned_succ (maxSize : Nat) (stream : Nat → FastTransfer) (i : Nat) :
    returned maxSize stream (i + 1) =
      returned maxSize stream i ++ returnedAt maxSize stream i := by
  rw [returned, arrivalsOf_succ, deliveries, Machine.outputs_append, reduceOption_append]
  rfl

variable (maxSize stream) in
/-- The message completed last and the active one among the first `i` messages. -/
structure Known (i : Nat) (last active : Option Nat) : Prop where
  nothing : last = none → ∀ k < i, ¬ Completed maxSize stream k
  last : ∀ l ∈ last, LastCompleted maxSize stream i l
  active : ∀ a ∈ active, a < i ∧ ∀ k, a ≤ k → k < i → ¬ Completed maxSize stream k

theorem Known.inReach {last active : Option Nat} (h : Known maxSize stream i last active)
    (hdense : Dense maxSize stream n) (hi : i ≤ n) : InReach i last active where
  lt a ha l hl := by
    obtain ⟨hlt, hnot⟩ := h.active a ha
    obtain ⟨hl, hcompleted, -⟩ := h.last l hl
    exact Nat.not_le.mp fun hle => hnot l hle hl hcompleted
  last l hl := by
    obtain ⟨hlt, -, hnot⟩ := h.last l hl
    refine ⟨by omega, Nat.not_lt.mp fun hfar => ?_⟩
    obtain ⟨j, hj, hj', hcompleted⟩ := hdense (l + 1) (by omega)
    exact hnot j (by omega) (by omega) hcompleted
  active a ha := by
    obtain ⟨hlt, hnot⟩ := h.active a ha
    refine ⟨by omega, Nat.not_lt.mp fun hfar => ?_⟩
    obtain ⟨j, hj, hj', hcompleted⟩ := hdense a (by omega)
    exact hnot j hj (by omega) hcompleted

theorem Known.missed {last active active' : Option Nat}
    (h : Known maxSize stream i last active) (hmissed : ¬ Completed maxSize stream i)
    (hactive' : active' = active ∨ active' = none ∨ active' = some i) :
    Known maxSize stream (i + 1) last active' where
  nothing hnone k hk := by
    rcases Nat.lt_succ_iff_lt_or_eq.mp hk with hk | rfl
    · exact h.nothing hnone k hk
    · exact hmissed
  last l hl := by
    obtain ⟨hlt, hcompleted, hnot⟩ := h.last l hl
    refine ⟨by omega, hcompleted, fun k hlk hk => ?_⟩
    rcases Nat.lt_succ_iff_lt_or_eq.mp hk with hk | rfl
    · exact hnot k hlk hk
    · exact hmissed
  active a ha := by
    rcases hactive' with rfl | rfl | rfl
    · obtain ⟨hlt, hnot⟩ := h.active a ha
      refine ⟨by omega, fun k hak hk => ?_⟩
      rcases Nat.lt_succ_iff_lt_or_eq.mp hk with hk | rfl
      · exact hnot k hak hk
      · exact hmissed
    · cases ha
    · cases ha
      refine ⟨by omega, fun k hak hk => ?_⟩
      rwa [show k = i by omega]

theorem known_completed (h : Completed maxSize stream i) :
    Known maxSize stream (i + 1) (some i) none where
  nothing := nofun
  last l hl := by
    cases hl
    exact ⟨by omega, h, fun k hk hk' => by omega⟩
  active := nofun

theorem Sent.encode {t : FastTransfer} (h : Sent maxSize routeId i t) :
    Encoded maxSize routeId (sequenceOf i) t.payload t.frames :=
  let ⟨_, hencode⟩ := h.encoded
  encoded_of_encode hencode h.fits

/-- What the reassembler knows when the first frame of message `i` arrives. -/
theorem exists_tracks (hsent : ∀ i < n, Sent maxSize routeId i (stream i))
    (hdense : Dense maxSize stream n) (hi : i ≤ n) :
    ∃ last active, (before maxSize stream i).Tracks (fun i => (stream i).payload) routeId
      last active ∧ Known maxSize stream i last active := by
  induction i with
  | zero => exact ⟨none, none, ⟨rfl, rfl⟩, ⟨fun _ _ => nofun, nofun, nofun⟩⟩
  | succ i ih =>
    obtain ⟨last, active, htracks, hknown⟩ := ih (by omega)
    have hmessage := hsent i (by omega)
    rw [before_succ]
    rcases htracks.receive (hknown.inReach hdense (by omega)) hmessage.fits fun frame hframe =>
      hmessage.encode.isFrameOf (hmessage.arrivals frame hframe) with
      ⟨active', htracks', hnone, hactive'⟩ | ⟨htracks', -, hone⟩
    · exact ⟨last, active', htracks', hknown.missed (fun hcompleted => hcompleted hnone)
        (hactive'.imp_right fun h => h.imp_right fun h => h.1)⟩
    · refine ⟨some i, none, htracks', known_completed fun hnil => ?_⟩
      exact absurd (hone.symm.trans hnil) (cons_ne_nil _ _)

/-- While the frames of message `i` arrive, this message is returned or nothing is. -/
theorem returnedAt_cases (hsent : ∀ i < n, Sent maxSize routeId i (stream i))
    (hdense : Dense maxSize stream n) (hi : i < n) :
    returnedAt maxSize stream i = [] ∨
      returnedAt maxSize stream i = [⟨routeId, sequenceOf i, (stream i).payload⟩] := by
  obtain ⟨last, active, htracks, hknown⟩ := exists_tracks hsent hdense (Nat.le_of_lt hi)
  have hmessage := hsent i hi
  rcases htracks.receive (hknown.inReach hdense (Nat.le_of_lt hi)) hmessage.fits
    fun frame hframe => hmessage.encode.isFrameOf (hmessage.arrivals frame hframe) with
    ⟨-, -, hnone, -⟩ | ⟨-, -, hone⟩
  · exact .inl hnone
  · exact .inr hone

/-- A message all of whose frames arrive, and which is not too new, is returned. -/
theorem completed_of_arrivals (hsent : ∀ i < n, Sent maxSize routeId i (stream i))
    (hdense : Dense maxSize stream n) (hi : i < n)
    (hall : ∀ frame ∈ (stream i).frames, frame ∈ (stream i).arrivals)
    (hlast : ∀ l, LastCompleted maxSize stream i l → i ≤ l + 31)
    (hactive : ∀ a, ActiveMessage maxSize stream i a → i ≤ a + 31) :
    Completed maxSize stream i := by
  obtain ⟨last, active, htracks, hknown⟩ := exists_tracks hsent hdense (Nat.le_of_lt hi)
  have hreach := hknown.inReach hdense (Nat.le_of_lt hi)
  have hmessage := hsent i hi
  refine htracks.deliveries_ne_nil hreach hmessage.fits ⟨fun l hl => ?_, fun a ha => ?_⟩
    hmessage.encode hmessage.arrivals hall
  · exact ⟨(hknown.last l hl).lt, hlast l (hknown.last l hl)⟩
  · have hlt := (hknown.active a ha).1
    obtain ⟨hle, hge⟩ := hreach.active a ha
    subst ha
    have hholding := htracks.active
    -- no later message has the sequence of the active one
    refine ⟨hlt, hactive a ⟨hlt, hholding.active, hholding.sequence, fun k hak hki heq => ?_⟩⟩
    exact Nat.ne_of_lt hak
      (sequenceOf_inj (Nat.le_of_lt hak) (by omega) (hholding.sequence.symm.trans heq))

/-- Messages of one sender, numbered modulo 64, of which one in any 63 consecutive ones is
    completed: what a new reassembler returns are messages of the sender, in their order, each
    at most once, while its own frames arrive, and unchanged; and a message all of whose frames
    arrive is returned if the message completed last and the active one are not too old. -/
theorem returned_sublist (maxSize : Nat) (routeId : UInt16) (stream : Nat → FastTransfer)
    (n : Nat) (hsent : ∀ i < n, Sent maxSize routeId i (stream i))
    (hdense : Dense maxSize stream n) :
    (returned maxSize stream n).Sublist
        ((List.range n).map fun i => ⟨routeId, sequenceOf i, (stream i).payload⟩) ∧
      (∀ i < n, returnedAt maxSize stream i = [] ∨
        returnedAt maxSize stream i = [⟨routeId, sequenceOf i, (stream i).payload⟩]) ∧
      ∀ i < n, (∀ frame ∈ (stream i).frames, frame ∈ (stream i).arrivals) →
        (∀ l, LastCompleted maxSize stream i l → i ≤ l + 31) →
        (∀ a, ActiveMessage maxSize stream i a → i ≤ a + 31) →
        returnedAt maxSize stream i = [⟨routeId, sequenceOf i, (stream i).payload⟩] := by
  have hcases : ∀ i < n, returnedAt maxSize stream i = [] ∨
      returnedAt maxSize stream i = [⟨routeId, sequenceOf i, (stream i).payload⟩] :=
    fun i hi => returnedAt_cases hsent hdense hi
  refine ⟨?_, hcases, fun i hi hall hlast hactive => ?_⟩
  · have hprefix : ∀ k ≤ n, (returned maxSize stream k).Sublist
        ((List.range k).map fun i => ⟨routeId, sequenceOf i, (stream i).payload⟩) := by
      intro k hk
      induction k with
      | zero => exact List.Sublist.slnil
      | succ k ih =>
        rw [returned_succ, List.range_succ, List.map_append]
        refine (ih (by omega)).append ?_
        rcases hcases k hk with hnil | hone
        · rw [hnil]
          exact List.nil_sublist _
        · rw [hone]
          exact List.Sublist.refl _
    exact hprefix n (Nat.le_refl n)
  · exact (hcases i hi).resolve_left (completed_of_arrivals hsent hdense hi hall hlast hactive)

end Stream

/-- Message `i` of a stream of messages of two frames: the second frame arrives before the first
    one and once more after it, and of every second message the first frame is lost. -/
def sampleTransfer (i : Nat) : FastTransfer :=
  let payload := List.replicate 8 (UInt8.ofNat i)
  let frames := (FastCodec.encode 8 .state (sequenceOf i) payload 2).toOption.getD []
  { priority := .state
    payload := payload
    frames := frames
    arrivals := frames.drop 1 ++ if i % 2 = 0 then frames else [] }

theorem sampleTransfer_returned :
    Dense 16 sampleTransfer 64 ∧
      returnedAt 16 sampleTransfer 1 = [] ∧
      returnedAt 16 sampleTransfer 2 = [⟨8, 2, List.replicate 8 2⟩] ∧
      (returned 16 sampleTransfer 64).Sublist
        ((List.range 64).map fun i => ⟨8, sequenceOf i, (sampleTransfer i).payload⟩) := by
  have hsent : ∀ i < 64, Sent 16 8 i (sampleTransfer i) := by
    intro i hi
    have hencode : ∀ i < 64, FastCodec.encode 8 .state (sequenceOf i) (sampleTransfer i).payload 2 =
        .ok (sampleTransfer i).frames := by decide +kernel
    have harrivals : ∀ i < 64, ∀ frame ∈ (sampleTransfer i).arrivals,
        frame ∈ (sampleTransfer i).frames := by decide +kernel
    exact ⟨by simp [sampleTransfer], ⟨2, hencode i hi⟩, harrivals i hi⟩
  have hdense : Dense 16 sampleTransfer 64 := by
    intro i hi
    have hcompleted : returnedAt 16 sampleTransfer 2 ≠ [] := by decide +kernel
    exact ⟨2, by omega, by omega, hcompleted⟩
  exact ⟨hdense, by decide +kernel, by decide +kernel,
    (returned_sublist 16 8 sampleTransfer 64 hsent hdense).1⟩

end FastReassembler

end AsterCtrl.Can
