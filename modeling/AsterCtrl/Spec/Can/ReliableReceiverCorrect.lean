import AsterCtrl.Native.Can.ReliablePath
import Mathlib.Data.Fintype.Basic

/-!
# What the reliable receiver does with a frame

The receiver keeps two independent pieces of state: the message it is reassembling and the
sequence of the message it completed last.  This file says once how every operation acts on
the two, so that the proofs about whole runs never unfold `AcceptImpl` again.

## Key results

- `parseFragment_dataFrame`: a frame built by the sender passes the receiver's checks
- `acceptFragment_cases`, `storeFragment_cases`: every way an accepted frame can end
- `receive_part_cases`: the outcomes for a fragment of a known message, with the payload of a
  completed message read back byte for byte
- `ObservedBy.acceptAt`, `ObservedBy.poll`: the observed time does not run ahead of the calls
-/

namespace AsterCtrl.Can

open FragmentBuffer

/-! ## Headers read back -/

/-- A property of bytes that is checked on all 256 of them. -/
theorem forall_uint8 {P : UInt8 → Prop} (h : ∀ n : Fin 256, P (UInt8.ofFin n))
    (b : UInt8) : P b := by
  simpa using h b.toFin

variable (subtype : ReliableSubtype)

@[simp] theorem getFrameKind_reliableHeader (sequence : UInt8) :
    getFrameKind (reliableHeader subtype sequence) = .reliable := by
  cases subtype <;> revert sequence <;> exact forall_uint8 (by decide +kernel)

@[simp] theorem getReliableSubtype_reliableHeader (sequence : UInt8) :
    getReliableSubtype (reliableHeader subtype sequence) = subtype := by
  cases subtype <;> revert sequence <;> exact forall_uint8 (by decide +kernel)

theorem reliableHeader_and {sequence : UInt8} (h : sequence ≤ 0x0f) :
    reliableHeader subtype sequence &&& 0x0f = sequence := by
  have key : ∀ sequence : UInt8, sequence ≤ 0x0f →
      reliableHeader subtype sequence &&& 0x0f = sequence := by
    cases subtype <;> exact forall_uint8 (by decide +kernel)
  exact key sequence h

theorem and_0x0f_le (b : UInt8) : b &&& 0x0f ≤ 0x0f := by
  revert b
  exact forall_uint8 (by decide +kernel)

/-- The fragment byte: index in the low half, number of fragments minus one in the high half. -/
theorem fragmentByte_read : ∀ count ≤ 16, ∀ i < count,
    (UInt8.ofNat (((count - 1) <<< 4) ||| i) &&& 0x0f).toNat = i ∧
      (UInt8.ofNat (((count - 1) <<< 4) ||| i) >>> 4).toNat + 1 = count := by
  decide +kernel

/-! ## Sequence distances -/

theorem toNat_sequenceDistance {a b : UInt8} (ha : a ≤ 0x0f) (hb : b ≤ 0x0f) :
    (sequenceDistance a b).toNat = (b.toNat + 16 - a.toNat) % 16 := by
  have ha' : a.toNat ≤ 15 := UInt8.le_iff_toNat_le.mp ha
  have hb' : b.toNat ≤ 15 := UInt8.le_iff_toNat_le.mp hb
  have hmask := Nat.and_two_pow_sub_one_eq_mod ((2 ^ 8 - a.toNat + b.toNat) % 2 ^ 8) 4
  rw [sequenceDistance, UInt8.toNat_and, UInt8.toNat_sub]
  simp only [Nat.reducePow, Nat.reduceSub, UInt8.reduceToNat] at hmask ⊢
  omega

theorem sequenceDistance_eq_zero_iff {a b : UInt8} (ha : a ≤ 0x0f) (hb : b ≤ 0x0f) :
    sequenceDistance a b = 0 ↔ a = b := by
  have ha' : a.toNat ≤ 15 := UInt8.le_iff_toNat_le.mp ha
  have hb' : b.toNat ≤ 15 := UInt8.le_iff_toNat_le.mp hb
  have hd := toNat_sequenceDistance ha hb
  rw [← UInt8.toNat_inj, ← UInt8.toNat_inj, hd]
  simp only [UInt8.reduceToNat]
  omega

/-! ## Frames of the sender pass the checks -/

/-- `f` is fragment `i` of the message `p` sent on `arbitrationId` with `sequence`. -/
structure ReliableFragment.IsPart {maxSize : Nat} (f : ReliableFragment maxSize)
    (arbitrationId : UInt16) (sequence : UInt8) (p : List UInt8) (i : Nat) : Prop where
  arbitrationId : f.arbitrationId = arbitrationId
  sequence : f.sequence = sequence
  index : f.index = i
  count : f.count = fragmentsOf kFragmentPayload p.length
  bytes : f.bytes = fragmentAt kFragmentPayload p i

namespace ReliableReceiver

variable {maxSize : Nat} {arbitrationId : UInt16} {sequence : UInt8} {p : List UInt8} {i : Nat}

/-- A data frame of the sender is parsed back into the fragment it carries. -/
theorem parseFragment_dataFrame {id : DecodedArbitrationId}
    (hid : CanArbitrationId.decode arbitrationId = some id) (hseq : sequence ≤ 0x0f)
    (hfit : p.length ≤ maxSize) (hcount : fragmentsOf kFragmentPayload p.length ≤ 16)
    (hi : i < fragmentsOf kFragmentPayload p.length) :
    ∃ f, parseFragment maxSize (dataFrame arbitrationId sequence
        (fragmentsOf kFragmentPayload p.length) i (fragmentAt kFragmentPayload p i)) = some f ∧
      f.IsPart arbitrationId sequence p i ∧ f.routeId = id.routeId := by
  have hw : 0 < kFragmentPayload := by decide
  obtain ⟨hindex, hcnt⟩ := fragmentByte_read _ hcount i hi
  have hpos : 0 < (fragmentAt kFragmentPayload p i).length := length_fragmentAt_pos hw hi
  have hle : (fragmentAt kFragmentPayload p i).length ≤ 6 := length_fragmentAt_le
  have hend := fragmentAt_end_le hw hi
  have hfull : i + 1 < fragmentsOf kFragmentPayload p.length →
      (fragmentAt kFragmentPayload p i).length = 6 := length_fragmentAt_of_lt hw
  have hcover : fragmentsOf kFragmentPayload p.length * 6 ≤ p.length + 5 := by
    have : fragmentsOf kFragmentPayload p.length = (p.length + 5) / 6 := rfl
    omega
  have hmul : i * kFragmentPayload = i * 6 := rfl
  unfold parseFragment dataFrame
  simp only [hid, CanFrame.header_frameData, CanFrame.second_frameData, getFrameKind_reliableHeader,
    getReliableSubtype_reliableHeader, hindex, hcnt, Nat.add_sub_cancel, ne_eq, not_true_eq_false,
    or_false]
  rw [if_neg (by omega), dif_neg (by omega), dif_neg (by omega)]
  refine ⟨_, rfl, ⟨rfl, reliableHeader_and .data hseq, rfl, rfl, ?_⟩, rfl⟩
  exact take_drop_frameData _ _ hle

/-! ## State relations -/

/-- Well-formedness: nothing is stored while no message is active, an active message still
    misses a fragment, and sequences have four bits. -/
structure Inv (r : ReliableReceiver maxSize) : Prop where
  idle : r.active = false → r.buffer.mask = 0
  partway : r.active = true → r.buffer.isFull r.fragmentCount = false
  sequence : r.active = true → r.sequence ≤ 0x0f
  lastCompletedSequence : r.lastCompletedSequence ≤ 0x0f

/-- No message is being reassembled. -/
structure Idle (r : ReliableReceiver maxSize) : Prop where
  active : r.active = false
  mask : r.buffer.mask = 0

/-- The last completed message is the same in both states. -/
structure SameHistory (r r' : ReliableReceiver maxSize) : Prop where
  hasCompleted : r'.hasCompleted = r.hasCompleted
  lastCompletedArbitrationId : r'.lastCompletedArbitrationId = r.lastCompletedArbitrationId
  lastCompletedSequence : r'.lastCompletedSequence = r.lastCompletedSequence

/-- The message being reassembled is the same in both states. -/
structure SameActive (r r' : ReliableReceiver maxSize) : Prop where
  active : r'.active = r.active
  arbitrationId : r'.arbitrationId = r.arbitrationId
  routeId : r'.routeId = r.routeId
  sequence : r'.sequence = r.sequence
  fragmentCount : r'.fragmentCount = r.fragmentCount
  buffer : r'.buffer = r.buffer

theorem SameHistory.refl (r : ReliableReceiver maxSize) : SameHistory r r :=
  ⟨rfl, rfl, rfl⟩

variable {r₁ : ReliableReceiver maxSize} {r₂ r₃ : ReliableReceiver maxSize}

theorem SameHistory.trans (h : SameHistory r₁ r₂) (h' : SameHistory r₂ r₃) : SameHistory r₁ r₃ :=
  ⟨h'.hasCompleted.trans h.hasCompleted,
    h'.lastCompletedArbitrationId.trans h.lastCompletedArbitrationId,
    h'.lastCompletedSequence.trans h.lastCompletedSequence⟩

theorem SameActive.refl (r : ReliableReceiver maxSize) : SameActive r r :=
  ⟨rfl, rfl, rfl, rfl, rfl, rfl⟩

theorem SameActive.trans (h : SameActive r₁ r₂) (h' : SameActive r₂ r₃) : SameActive r₁ r₃ :=
  ⟨h'.active.trans h.active, h'.arbitrationId.trans h.arbitrationId, h'.routeId.trans h.routeId,
    h'.sequence.trans h.sequence, h'.fragmentCount.trans h.fragmentCount,
    h'.buffer.trans h.buffer⟩

/-- Changing the counters changes neither piece of state. -/
theorem same_stats (r : ReliableReceiver maxSize) (stats : ReliableReceiverStats) :
    SameHistory r { r with stats := stats } ∧ SameActive r { r with stats := stats } := by
  constructor <;> constructor <;> dsimp only

variable {r r' : ReliableReceiver maxSize}

theorem inv_of_same (h : Inv r) (hh : SameHistory r r') (ha : SameActive r r') : Inv r' where
  idle hact := by rw [ha.buffer]; exact h.idle (by rw [← ha.active]; exact hact)
  partway hact := by
    rw [ha.buffer, ha.fragmentCount]
    exact h.partway (by rw [← ha.active]; exact hact)
  sequence hact := by rw [ha.sequence]; exact h.sequence (by rw [← ha.active]; exact hact)
  lastCompletedSequence := by rw [hh.lastCompletedSequence]; exact h.lastCompletedSequence

theorem idle_reset (r : ReliableReceiver maxSize) : Idle r.reset :=
  ⟨rfl, rfl⟩

theorem sameHistory_reset (r : ReliableReceiver maxSize) : SameHistory r r.reset :=
  ⟨rfl, rfl, rfl⟩

theorem inv_of_idle (hidle : Idle r) (hlast : r.lastCompletedSequence ≤ 0x0f) : Inv r :=
  ⟨fun _ => hidle.mask, fun hact => absurd hact (by simp [hidle.active]),
    fun hact => absurd hact (by simp [hidle.active]), hlast⟩

/-- The last completed message is the same, and the message being reassembled is the same or
    was given up. -/
structure Keeps (r r' : ReliableReceiver maxSize) : Prop where
  history : SameHistory r r'
  active : SameActive r r' ∨ Idle r'

theorem Keeps.refl (r : ReliableReceiver maxSize) : Keeps r r :=
  ⟨.refl r, .inl (.refl r)⟩

theorem Keeps.trans (h : Keeps r₁ r₂) (h' : Keeps r₂ r₃) : Keeps r₁ r₃ := by
  refine ⟨h.history.trans h'.history, ?_⟩
  rcases h'.active with hsame | hidle
  · rcases h.active with hsame' | hidle'
    · exact .inl (hsame'.trans hsame)
    · exact .inr ⟨by rw [hsame.active]; exact hidle'.active, by rw [hsame.buffer]; exact hidle'.mask⟩
  · exact .inr hidle

theorem keeps_stats (r : ReliableReceiver maxSize) (stats : ReliableReceiverStats) :
    Keeps r { r with stats := stats } :=
  ⟨(same_stats r stats).1, .inl (same_stats r stats).2⟩

theorem keeps_reset (r : ReliableReceiver maxSize) : Keeps r r.reset :=
  ⟨sameHistory_reset r, .inr (idle_reset r)⟩

theorem Keeps.inv (hk : Keeps r r') (h : Inv r) : Inv r' := by
  rcases hk.active with hsame | hidle
  · exact inv_of_same h hk.history hsame
  · refine inv_of_idle hidle ?_
    rw [hk.history.lastCompletedSequence]
    exact h.lastCompletedSequence

theorem inv_default (timeoutNs : UInt64) :
    Inv ({ reassemblyTimeoutNs := timeoutNs } : ReliableReceiver maxSize) := by
  constructor <;> simp [empty]

/-! ## PrepareMessage -/

/-- The sequence is at most seven ahead of the one completed last, if there is one on this
    arbitration id. -/
def InCompletedWindow (r : ReliableReceiver maxSize) (arbitrationId : UInt16)
    (sequence : UInt8) : Prop :=
  r.hasCompleted = true → r.lastCompletedArbitrationId = arbitrationId →
    sequenceDistance r.lastCompletedSequence sequence ≤ 7

/-- The sequence is at most seven ahead of the one being reassembled, if there is one on this
    arbitration id. -/
def InActiveWindow (r : ReliableReceiver maxSize) (arbitrationId : UInt16)
    (sequence : UInt8) : Prop :=
  r.active = true → r.arbitrationId = arbitrationId → sequenceDistance r.sequence sequence ≤ 7

/-- The fragment belongs to the message being reassembled. -/
def Continues (r : ReliableReceiver maxSize) (arbitrationId : UInt16)
    (sequence : UInt8) : Prop :=
  r.active = true ∧ r.arbitrationId = arbitrationId ∧ r.sequence = sequence

instance (r : ReliableReceiver maxSize) (arbitrationId : UInt16) (sequence : UInt8) :
    Decidable (r.Continues arbitrationId sequence) :=
  inferInstanceAs (Decidable (_ ∧ _ ∧ _))

theorem prepareAfterCompleted_cases (r : ReliableReceiver maxSize)
    (arbitrationId : UInt16) (sequence : UInt8) :
    ∃ stats, (r.prepareAfterCompleted arbitrationId sequence).2 = { r with stats := stats } ∧
      (((r.prepareAfterCompleted arbitrationId sequence).1 = .ok ∧
          InCompletedWindow r arbitrationId sequence) ∨
        ((r.prepareAfterCompleted arbitrationId sequence).1 = .unavailable ∧
          ¬ InCompletedWindow r arbitrationId sequence)) := by
  by_cases hnone : r.hasCompleted = false ∨ r.lastCompletedArbitrationId ≠ arbitrationId
  · refine ⟨r.stats, ?_, .inl ⟨?_, ?_⟩⟩
    · rw [prepareAfterCompleted, if_pos hnone]
    · rw [prepareAfterCompleted, if_pos hnone]
    · intro hc hid
      rcases hnone with h | h
      · rw [h] at hc; cases hc
      · exact absurd hid h
  · obtain ⟨hc, hid⟩ : r.hasCompleted = true ∧ r.lastCompletedArbitrationId = arbitrationId := by
      simpa only [not_or, Bool.not_eq_false, ne_eq, Decidable.not_not] using hnone
    simp only [prepareAfterCompleted, if_neg hnone]
    have hwin : InCompletedWindow r arbitrationId sequence ↔
        ¬ sequenceDistance r.lastCompletedSequence sequence > 7 := by
      rw [UInt8.not_lt]
      exact ⟨fun h => h hc hid, fun h _ _ => h⟩
    by_cases hzero : sequenceDistance r.lastCompletedSequence sequence = 0
    · refine ⟨r.stats, by rw [if_pos hzero], .inl ⟨by rw [if_pos hzero], ?_⟩⟩
      rw [hwin, hzero]
      decide
    · by_cases hstale : sequenceDistance r.lastCompletedSequence sequence > 7
      · refine ⟨_, by rw [if_neg hzero, if_pos hstale],
          .inr ⟨by rw [if_neg hzero, if_pos hstale], ?_⟩⟩
        rw [hwin]
        exact not_not_intro hstale
      · by_cases hgap : sequenceDistance r.lastCompletedSequence sequence > 1
        · exact ⟨_, by rw [if_neg hzero, if_neg hstale, if_pos hgap],
            .inl ⟨by rw [if_neg hzero, if_neg hstale, if_pos hgap], hwin.mpr hstale⟩⟩
        · exact ⟨r.stats, by rw [if_neg hzero, if_neg hstale, if_neg hgap],
            .inl ⟨by rw [if_neg hzero, if_neg hstale, if_neg hgap], hwin.mpr hstale⟩⟩

/-- The two ways `PrepareMessage` ends for a fragment that does not continue the active
    message: it makes room for the new message, or refuses it as stale. -/
inductive Prepared (r : ReliableReceiver maxSize) (arbitrationId : UInt16)
    (sequence : UInt8) (result : Status × ReliableReceiver maxSize) : Prop where
  | room (status : result.1 = .ok) (history : SameHistory r result.2) (idle : Idle result.2)
      (active : InActiveWindow r arbitrationId sequence)
      (completed : InCompletedWindow r arbitrationId sequence)
  | stale (status : result.1 = .unavailable) (keeps : Keeps r result.2)
      (outside : ¬ (InActiveWindow r arbitrationId sequence ∧
        InCompletedWindow r arbitrationId sequence))

/-- All ways past the active message end in `prepareAfterCompleted` of an idle receiver. -/
private theorem prepared_of_idle (hhist : SameHistory r r₁) (hidle : Idle r₁)
    (hactive : InActiveWindow r arbitrationId sequence) :
    Prepared r arbitrationId sequence (r₁.prepareAfterCompleted arbitrationId sequence) := by
  obtain ⟨stats, hr, hst⟩ := prepareAfterCompleted_cases r₁ arbitrationId sequence
  have hwin : InCompletedWindow r₁ arbitrationId sequence ↔
      InCompletedWindow r arbitrationId sequence := by
    simp only [InCompletedWindow, hhist.hasCompleted, hhist.lastCompletedArbitrationId,
      hhist.lastCompletedSequence]
  have hidle' : Idle (r₁.prepareAfterCompleted arbitrationId sequence).2 := by
    rw [hr]
    exact ⟨hidle.active, hidle.mask⟩
  have hhist' : SameHistory r (r₁.prepareAfterCompleted arbitrationId sequence).2 := by
    rw [hr]
    exact hhist.trans (same_stats r₁ stats).1
  rcases hst with ⟨hok, hin⟩ | ⟨hun, hout⟩
  · exact .room hok hhist' hidle' hactive (hwin.mp hin)
  · exact .stale hun ⟨hhist', .inr hidle'⟩ fun hin => hout (hwin.mpr hin.2)

theorem prepareMessage_cases (h : Inv r) (hseq : sequence ≤ 0x0f)
    (hnew : ¬ r.Continues arbitrationId sequence) :
    Prepared r arbitrationId sequence (r.prepareMessage arbitrationId sequence) := by
  have hsuper := (same_stats r { r.stats with superseded := r.stats.superseded + 1 }).1
  by_cases hactive : r.active = true
  · rw [prepareMessage, if_pos hactive]
    by_cases hid : r.arbitrationId = arbitrationId
    · have hdist : sequenceDistance r.sequence sequence ≠ 0 := fun hz =>
        hnew ⟨hactive, hid, (sequenceDistance_eq_zero_iff (h.sequence hactive) hseq).mp hz⟩
      rw [if_neg (not_not_intro hid)]
      rw [if_neg hdist]
      by_cases hstale : sequenceDistance r.sequence sequence > 7
      · -- the active message is newer: the fragment is dropped
        rw [if_pos hstale]
        refine .stale rfl (keeps_stats r _) fun hin => ?_
        exact absurd (hin.1 hactive hid) (UInt8.not_le.mpr hstale)
      · rw [if_neg hstale]
        exact prepared_of_idle (hsuper.trans (sameHistory_reset _)) (idle_reset _)
          fun _ _ => UInt8.not_lt.mp hstale
    · rw [if_pos hid]
      exact prepared_of_idle (hsuper.trans (sameHistory_reset _)) (idle_reset _)
        fun _ hid' => absurd hid' hid
  · have hidle : r.active = false := Bool.not_eq_true _ ▸ hactive
    rw [prepareMessage, if_neg hactive]
    exact prepared_of_idle (.refl r) ⟨hidle, h.idle hidle⟩ fun ha => absurd ha hactive

/-! ## Storing a fragment -/

/-- The four ways `storeFragment` ends. -/
inductive Stored (r : ReliableReceiver maxSize) (f : ReliableFragment maxSize)
    (result : ReceiveResult × ReliableReceiver maxSize) : Prop where
  | duplicateFragment (has : r.buffer.has f.index = true)
      (res : result.1 = { status := .unavailable }) (history : SameHistory r result.2)
      (same : SameActive r result.2)
  | partway (new : r.buffer.has f.index = false)
      (notFull : (r.buffer.store kFragmentPayload f.index f.bytes f.bytes_fit).isFull f.count =
        false)
      (res : result.1 = { status := .unavailable }) (history : SameHistory r result.2)
      (same : SameActive
        { r with buffer := r.buffer.store kFragmentPayload f.index f.bytes f.bytes_fit } result.2)
  | duplicateMessage (new : r.buffer.has f.index = false)
      (full : (r.buffer.store kFragmentPayload f.index f.bytes f.bytes_fit).isFull f.count = true)
      (dup : r.hasCompleted = true ∧ r.lastCompletedArbitrationId = r.arbitrationId ∧
        r.lastCompletedSequence = r.sequence)
      (res : result.1 = { status := .unavailable,
                          acknowledgement := ackFrame f.arbitrationId r.sequence })
      (history : SameHistory r result.2) (idle : Idle result.2)
  | completed (new : r.buffer.has f.index = false)
      (full : (r.buffer.store kFragmentPayload f.index f.bytes f.bytes_fit).isFull f.count = true)
      (fresh : ¬ (r.hasCompleted = true ∧ r.lastCompletedArbitrationId = r.arbitrationId ∧
        r.lastCompletedSequence = r.sequence))
      (res : result.1 =
        { status := .ok
          message := ⟨r.routeId, r.sequence,
            (r.buffer.store kFragmentPayload f.index f.bytes f.bytes_fit).contents f.count⟩
          acknowledgement := ackFrame f.arbitrationId r.sequence })
      (hasCompleted : result.2.hasCompleted = true)
      (lastCompletedArbitrationId : result.2.lastCompletedArbitrationId = r.arbitrationId)
      (lastCompletedSequence : result.2.lastCompletedSequence = r.sequence)
      (idle : Idle result.2)

theorem storeFragment_cases (r : ReliableReceiver maxSize)
    (f : ReliableFragment maxSize) : Stored r f (r.storeFragment f) := by
  by_cases hhas : r.buffer.has f.index = true
  · rw [storeFragment, if_pos hhas]
    exact .duplicateFragment hhas rfl (same_stats r _).1 (same_stats r _).2
  · have hnew : r.buffer.has f.index = false := Bool.not_eq_true _ ▸ hhas
    rw [storeFragment, if_neg hhas]
    by_cases hfull : (r.buffer.store kFragmentPayload f.index f.bytes f.bytes_fit).isFull f.count =
        false
    · rw [if_pos hfull]
      exact .partway hnew hfull rfl ⟨rfl, rfl, rfl⟩ (same_stats _ _).2
    · rw [if_neg hfull, completeMessage]
      have hfull' := Bool.not_eq_false _ ▸ hfull
      by_cases hdup : r.hasCompleted = true ∧ r.lastCompletedArbitrationId = r.arbitrationId ∧
          r.lastCompletedSequence = r.sequence
      · rw [if_pos hdup]
        exact .duplicateMessage hnew hfull' hdup rfl ⟨rfl, rfl, rfl⟩ (idle_reset _)
      · rw [if_neg hdup]
        exact .completed hnew hfull' hdup rfl rfl rfl rfl (idle_reset _)

/-! ## Accepting a fragment -/

/-- The three ways `acceptFragment` goes on: the fragment is stale, it contradicts the active
    message, or it is stored in `r₀`, which is the receiver itself or a receiver that just
    made room for the message. -/
inductive Accepted (r : ReliableReceiver maxSize) (f : ReliableFragment maxSize)
    (result : ReceiveResult × ReliableReceiver maxSize) : Prop where
  | stale (new : ¬ r.Continues f.arbitrationId f.sequence)
      (res : result.1 = { status := .unavailable }) (keeps : Keeps r result.2)
      (outside : ¬ (InActiveWindow r f.arbitrationId f.sequence ∧
        InCompletedWindow r f.arbitrationId f.sequence))
  | mismatch (continues : r.Continues f.arbitrationId f.sequence)
      (count : r.fragmentCount ≠ f.count) (res : result.1 = { status := .invalidArgument })
      (keeps : Keeps r result.2)
  | stored (r₀ : ReliableReceiver maxSize)
      (continues : r₀.Continues f.arbitrationId f.sequence) (count : r₀.fragmentCount = f.count)
      (history : SameHistory r r₀)
      (origin : r₀ = r ∨ (r₀.buffer.mask = 0 ∧
        ¬ r.Continues f.arbitrationId f.sequence ∧
        InActiveWindow r f.arbitrationId f.sequence ∧
        InCompletedWindow r f.arbitrationId f.sequence))
      (eq : result = r₀.storeFragment f)

variable {f : ReliableFragment maxSize}

theorem acceptFragment_cases (h : Inv r) (hseq : f.sequence ≤ 0x0f) (receiveTimeNs : Option UInt64) :
    Accepted r f (r.acceptFragment f receiveTimeNs) := by
  by_cases hcont : r.Continues f.arbitrationId f.sequence
  · have hguard : ¬ (r.active = false ∨ r.arbitrationId ≠ f.arbitrationId ∨
        r.sequence ≠ f.sequence) := by
      simpa [Continues] using hcont
    rw [acceptFragment, if_neg hguard]
    by_cases hcount : r.fragmentCount = f.count
    · rw [if_neg (not_not_intro hcount)]
      exact .stored r hcont hcount (.refl r) (.inl rfl) rfl
    · rw [if_pos hcount]
      exact .mismatch hcont hcount rfl (keeps_stats r _)
  · have hguard : r.active = false ∨ r.arbitrationId ≠ f.arbitrationId ∨
        r.sequence ≠ f.sequence := by
      by_contra hno
      exact hcont (by simpa [Continues] using hno)
    rw [acceptFragment, if_pos hguard]
    rcases prepareMessage_cases h hseq hcont with
      ⟨hst, hhist, hidle, hact, hcomp⟩ | ⟨hst, hkeeps, hout⟩
    · rw [if_neg (not_not_intro hst)]
      exact .stored ((r.prepareMessage f.arbitrationId f.sequence).2.activate f receiveTimeNs)
        ⟨rfl, rfl, rfl⟩ rfl
        (hhist.trans ⟨rfl, rfl, rfl⟩) (.inr ⟨hidle.mask, hcont, hact, hcomp⟩) rfl
    · rw [if_pos (by rw [hst]; exact nofun), hst]
      exact .stale hcont rfl hkeeps hout

/-! ## Accept -/

theorem parseFragment_spec {frame : CanFrame} (h : parseFragment maxSize frame = some f) :
    f.arbitrationId = frame.arbitrationId ∧ f.sequence = frame.header &&& 0x0f := by
  unfold parseFragment at h
  split at h
  · cases h
  · split at h
    · cases h
    · dsimp only at h
      split at h
      · cases h
      · split at h
        · cases h
        · rw [← Option.some.inj h]
          exact ⟨rfl, rfl⟩

/-- The time a frame is received at does not go back, and the message being reassembled has
    not expired by then. The overload of `Accept` without a time has nothing to meet. -/
def Timely (r : ReliableReceiver maxSize) : Option UInt64 → Prop
  | none => True
  | some receiveTimeNs =>
    ¬ (r.hasObservedTime = true ∧ receiveTimeNs < r.lastObservedTimeNs) ∧
      (r.active = false ∨ r.reassemblyTimeoutNs = 0 ∨ receiveTimeNs < r.reassemblyDeadlineNs)

instance (r : ReliableReceiver maxSize) (receiveTimeNs : Option UInt64) :
    Decidable (r.Timely receiveTimeNs) :=
  match receiveTimeNs with
  | none => isTrue trivial
  | some _ => inferInstanceAs (Decidable (_ ∧ _))

theorem keeps_expireIfDue (r : ReliableReceiver maxSize) (nowNs : UInt64) :
    Keeps r (r.expireIfDue nowNs).2 := by
  unfold expireIfDue
  split
  · exact .refl r
  · exact (keeps_reset r).trans (keeps_stats _ _)

theorem keeps_observed (r : ReliableReceiver maxSize) (nowNs : UInt64) :
    SameHistory r { r with hasObservedTime := true, lastObservedTimeNs := nowNs } ∧
      SameActive r { r with hasObservedTime := true, lastObservedTimeNs := nowNs } := by
  constructor <;> constructor <;> dsimp only

theorem keeps_poll (r : ReliableReceiver maxSize) (nowNs : UInt64) : Keeps r (r.poll nowNs).2 := by
  unfold poll
  split
  · exact .refl r
  · exact Keeps.trans ⟨(keeps_observed r nowNs).1, .inl (keeps_observed r nowNs).2⟩
      (keeps_expireIfDue _ nowNs)

/-- In time, `Poll` gives nothing up. -/
theorem sameActive_poll {nowNs : UInt64} (h : r.Timely (some nowNs)) :
    SameActive r (r.poll nowNs).2 := by
  rw [poll, if_neg h.1]
  dsimp only
  rw [expireIfDue, if_pos h.2]
  exact (keeps_observed r nowNs).2

/-- Both overloads of `Accept` refuse the time or run `AcceptImpl`, possibly after giving up
    an expired message; in time nothing is given up. -/
theorem receive_eq (r : ReliableReceiver maxSize) (frame : CanFrame)
    (receiveTimeNs : Option UInt64) :
    (r.receive frame receiveTimeNs = r.invalid ∧ ¬ r.Timely receiveTimeNs) ∨
    ∃ r₁, Keeps r r₁ ∧ (r.Timely receiveTimeNs → SameActive r r₁) ∧
      r.receive frame receiveTimeNs = r₁.acceptImpl frame receiveTimeNs := by
  cases receiveTimeNs with
  | none => exact .inr ⟨r, .refl r, fun _ => .refl r, rfl⟩
  | some t =>
    rw [receive, acceptAt]
    by_cases hback : r.hasObservedTime = true ∧ t < r.lastObservedTimeNs
    · rw [if_pos hback]
      exact .inl ⟨rfl, fun h => h.1 hback⟩
    · rw [if_neg hback]
      obtain ⟨hhist, hsame⟩ := keeps_observed r t
      refine .inr ⟨_, Keeps.trans ⟨hhist, .inl hsame⟩ (keeps_expireIfDue _ t), fun h => ?_, rfl⟩
      rw [expireIfDue, if_pos h.2]
      exact hsame

/-- The message completed last is the one with this arbitration id and sequence. -/
def Remembers (r : ReliableReceiver maxSize) (arbitrationId : UInt16)
    (sequence : UInt8) : Prop :=
  r.hasCompleted = true ∧ r.lastCompletedArbitrationId = arbitrationId ∧
    r.lastCompletedSequence = sequence

theorem SameHistory.remembers_iff (hs : SameHistory r r') (arbitrationId : UInt16)
    (sequence : UInt8) :
    r'.Remembers arbitrationId sequence ↔ r.Remembers arbitrationId sequence := by
  simp only [Remembers, hs.hasCompleted, hs.lastCompletedArbitrationId, hs.lastCompletedSequence]

/-- What a caller of `Accept` sees, for an arbitrary frame. -/
inductive Received (r : ReliableReceiver maxSize) (frame : CanFrame)
    (result : ReceiveResult × ReliableReceiver maxSize) : Prop where
  | quiet (status : result.1.status ≠ .ok) (acknowledgement : result.1.acknowledgement = {})
      (history : SameHistory r result.2)
  | duplicate (status : result.1.status = .unavailable)
      (acknowledgement : result.1.acknowledgement =
        ackFrame frame.arbitrationId (frame.header &&& 0x0f))
      (remembers : r.Remembers frame.arbitrationId (frame.header &&& 0x0f))
      (history : SameHistory r result.2)
  | completed (status : result.1.status = .ok)
      (sequence : result.1.message.sequence = frame.header &&& 0x0f)
      (acknowledgement : result.1.acknowledgement =
        ackFrame frame.arbitrationId (frame.header &&& 0x0f))
      (fresh : ¬ r.Remembers frame.arbitrationId (frame.header &&& 0x0f))
      (remembers : result.2.Remembers frame.arbitrationId (frame.header &&& 0x0f))
      (idle : Idle result.2)

variable {result : ReceiveResult × ReliableReceiver maxSize}

private theorem inv_of_stored (h : Inv r) (hcont : r.Continues f.arbitrationId f.sequence)
    (hcount : r.fragmentCount = f.count) (hs : Stored r f result) : Inv result.2 := by
  obtain ⟨hactive, -, -⟩ := hcont
  cases hs with
  | duplicateFragment _ _ history same => exact inv_of_same h history same
  | partway _ notFull _ history same =>
    refine ⟨fun hact => ?_, fun _ => ?_, fun _ => ?_, ?_⟩
    · rw [same.active, hactive] at hact
      cases hact
    · rw [same.buffer, same.fragmentCount]
      exact hcount ▸ notFull
    · rw [same.sequence]
      exact h.sequence hactive
    · rw [history.lastCompletedSequence]
      exact h.lastCompletedSequence
  | duplicateMessage _ _ _ _ history idle =>
    exact inv_of_idle idle (history.lastCompletedSequence ▸ h.lastCompletedSequence)
  | completed _ _ _ _ _ _ last idle => exact inv_of_idle idle (last ▸ h.sequence hactive)

variable {r₀ : ReliableReceiver maxSize}

private theorem received_of_stored {frame : CanFrame} (harb : f.arbitrationId = frame.arbitrationId)
    (hfseq : f.sequence = frame.header &&& 0x0f) (hhist : SameHistory r r₀)
    (hcont : r₀.Continues f.arbitrationId f.sequence) (hs : Stored r₀ f result) :
    Received r frame result := by
  obtain ⟨-, hid, hseq⟩ := hcont
  rw [harb] at hid
  rw [hfseq] at hseq
  have hrem := hhist.remembers_iff frame.arbitrationId (frame.header &&& 0x0f)
  cases hs with
  | duplicateFragment _ res history _ =>
    exact .quiet (by rw [res]; exact nofun) (by rw [res]) (hhist.trans history)
  | partway _ _ res history _ =>
    exact .quiet (by rw [res]; exact nofun) (by rw [res])
      (hhist.trans ⟨history.hasCompleted, history.lastCompletedArbitrationId,
        history.lastCompletedSequence⟩)
  | duplicateMessage _ _ dup res history _ =>
    refine .duplicate (by rw [res]) (by rw [res, harb, hseq]) (hrem.mp ?_) (hhist.trans history)
    exact ⟨dup.1, dup.2.1.trans hid, dup.2.2.trans hseq⟩
  | completed _ _ fresh res hhas hlastId hlast idle =>
    refine .completed (by rw [res]) (by rw [res]; exact hseq) ?_
      (fun hr => fresh ?_) ⟨hhas, hlastId.trans hid, hlast.trans hseq⟩ idle
    · rw [res, harb, hseq]
    · obtain ⟨h1, h2, h3⟩ := hrem.mpr hr
      exact ⟨h1, h2.trans hid.symm, h3.trans hseq.symm⟩

private theorem inv_of_origin (h : Inv r) (hseq : f.sequence ≤ 0x0f)
    (hcont : r₀.Continues f.arbitrationId f.sequence) (hcount : r₀.fragmentCount = f.count)
    (hhist : SameHistory r r₀) (horigin : r₀ = r ∨ r₀.buffer.mask = 0) : Inv r₀ where
  idle hact := absurd hcont.1 (by simp [hact])
  partway hact := by
    rcases horigin with rfl | hmask
    · exact h.partway hact
    · rw [← Bool.not_eq_true, isFull_iff]
      intro hfull
      have := hfull f.index
      rw [has_of_mask_eq_zero hmask, hcount] at this
      exact absurd f.index_lt (of_decide_eq_false this.symm)
  sequence _ := hcont.2.2 ▸ hseq
  lastCompletedSequence := hhist.lastCompletedSequence ▸ h.lastCompletedSequence

private theorem acceptImpl_spec (h : Inv r) (frame : CanFrame) (receiveTimeNs : Option UInt64) :
    Received r frame (r.acceptImpl frame receiveTimeNs) ∧
      Inv (r.acceptImpl frame receiveTimeNs).2 := by
  rw [acceptImpl]
  cases hf : parseFragment maxSize frame with
  | none =>
    exact ⟨.quiet nofun rfl (same_stats r _).1, (keeps_stats r _).inv h⟩
  | some f =>
    obtain ⟨harb, hfseq⟩ := parseFragment_spec hf
    have hseq : f.sequence ≤ 0x0f := hfseq ▸ and_0x0f_le _
    cases acceptFragment_cases h hseq receiveTimeNs with
    | stale _ res keeps _ =>
      exact ⟨.quiet (by rw [res]; exact nofun) (by rw [res]) keeps.history, keeps.inv h⟩
    | mismatch _ _ res keeps =>
      exact ⟨.quiet (by rw [res]; exact nofun) (by rw [res]) keeps.history, keeps.inv h⟩
    | stored r₀ hcont hcount hhist horigin heq =>
      have h₀ := inv_of_origin h hseq hcont hcount hhist (horigin.imp_right And.left)
      have hs := storeFragment_cases r₀ f
      dsimp only
      rw [heq]
      exact ⟨received_of_stored harb hfseq hhist hcont hs, inv_of_stored h₀ hcont hcount hs⟩

private theorem Received.of_same {frame : CanFrame} (hh : SameHistory r r₁)
    (hr : Received r₁ frame result) : Received r frame result := by
  cases hr with
  | quiet status ack history => exact .quiet status ack (hh.trans history)
  | duplicate status ack remembers history =>
    exact .duplicate status ack ((hh.remembers_iff _ _).mp remembers) (hh.trans history)
  | completed status seq ack fresh remembers idle =>
    exact .completed status seq ack (fun hr => fresh ((hh.remembers_iff _ _).mpr hr)) remembers idle

/-- `Accept` on an arbitrary frame, with or without a time. -/
theorem receive_spec (h : Inv r) (frame : CanFrame) (receiveTimeNs : Option UInt64) :
    Received r frame (r.receive frame receiveTimeNs) ∧
      Inv (r.receive frame receiveTimeNs).2 := by
  rcases receive_eq r frame receiveTimeNs with ⟨heq, -⟩ | ⟨r₁, hkeeps, -, heq⟩
  · rw [heq]
    exact ⟨.quiet nofun rfl (same_stats r _).1, (keeps_stats r _).inv h⟩
  · rw [heq]
    obtain ⟨hrec, hinv⟩ := acceptImpl_spec (hkeeps.inv h) frame receiveTimeNs
    exact ⟨hrec.of_same hkeeps.history, hinv⟩

/-! ## Fragments of a known message -/

/-- The receiver is reassembling the message `p` sent on `arbitrationId` with `sequence`. -/
structure Assembles (r : ReliableReceiver maxSize) (arbitrationId : UInt16)
    (sequence : UInt8) (p : List UInt8) : Prop where
  continues : r.Continues arbitrationId sequence
  fragmentCount : r.fragmentCount = fragmentsOf kFragmentPayload p.length
  holds : r.buffer.Holds kFragmentPayload p

theorem SameActive.assembles (hs : SameActive r r') (h : Assembles r arbitrationId sequence p) :
    Assembles r' arbitrationId sequence p where
  continues := ⟨hs.active.trans h.continues.1, hs.arbitrationId.trans h.continues.2.1,
    hs.sequence.trans h.continues.2.2⟩
  fragmentCount := hs.fragmentCount.trans h.fragmentCount
  holds := hs.buffer ▸ h.holds

/-- The outcomes of `Accept` for fragment `i` of the message `p`, when what is being
    reassembled under its sequence is `p` itself: it is dropped, it is stored, or it
    completes the message, which was returned before (`duplicate`) or is returned now. -/
inductive PartOutcome (r : ReliableReceiver maxSize) (arbitrationId : UInt16)
    (sequence : UInt8) (p : List UInt8) (i : Nat) (receiveTimeNs : Option UInt64)
    (result : ReceiveResult × ReliableReceiver maxSize) : Prop where
  | dropped (status : result.1.status ≠ .ok) (acknowledgement : result.1.acknowledgement = {})
      (keeps : Keeps r result.2)
      (reason : ¬ r.Timely receiveTimeNs ∨ ¬ (r.Continues arbitrationId sequence ∨
        (InActiveWindow r arbitrationId sequence ∧ InCompletedWindow r arbitrationId sequence)))
  | stored (status : result.1.status ≠ .ok) (acknowledgement : result.1.acknowledgement = {})
      (history : SameHistory r result.2)
      (assembles : Assembles result.2 arbitrationId sequence p)
      (has : result.2.buffer.has i = true)
      (grows : r.Timely receiveTimeNs → r.Continues arbitrationId sequence →
        ∀ j, r.buffer.has j = true → result.2.buffer.has j = true)
      (only : ∀ j, result.2.buffer.has j = true →
        j = i ∨ r.Continues arbitrationId sequence ∧ r.buffer.has j = true)
  | duplicate (status : result.1.status = .unavailable)
      (acknowledgement : result.1.acknowledgement = ackFrame arbitrationId sequence)
      (remembers : r.Remembers arbitrationId sequence) (history : SameHistory r result.2)
      (idle : Idle result.2)
  | completed (status : result.1.status = .ok)
      (messageSequence : result.1.message.sequence = sequence)
      (payload : result.1.message.payload = p)
      (acknowledgement : result.1.acknowledgement = ackFrame arbitrationId sequence)
      (fresh : ¬ r.Remembers arbitrationId sequence)
      (remembers : result.2.Remembers arbitrationId sequence) (idle : Idle result.2)
      (full : ∀ j < fragmentsOf kFragmentPayload p.length,
        j = i ∨ r.Continues arbitrationId sequence ∧ r.buffer.has j = true)

/-- Storing fragment `i` of `p` in a receiver `r₀` that reassembles `p` and comes from `r`. -/
private theorem storeFragment_part (hpart : f.IsPart arbitrationId sequence p i)
    (hasm : Assembles r₀ arbitrationId sequence p) (hhist : SameHistory r r₀)
    {receiveTimeNs : Option UInt64}
    (hgrows : r.Timely receiveTimeNs → r.Continues arbitrationId sequence → ∀ j, r.buffer.has j =
      true → r₀.buffer.has j = true)
    (honly : ∀ j, r₀.buffer.has j = true → r.Continues arbitrationId sequence ∧ r.buffer.has j =
      true) : PartOutcome r arbitrationId sequence p i receiveTimeNs (r₀.storeFragment f) := by
  obtain ⟨harb, hseq, hidx, hcount, hbytes⟩ := hpart
  obtain ⟨hactive, hid, hrseq⟩ := hasm.continues
  have hw : 0 < kFragmentPayload := by decide
  have hlt := f.index_lt
  have hle := f.count_le
  have hholds := hasm.holds.store hw (by omega) (by omega) hidx hbytes f.bytes_fit
  have hstored : ∀ j, (r₀.buffer.store kFragmentPayload f.index f.bytes f.bytes_fit).has j =
      (r₀.buffer.has j || decide (i = j)) := fun j => by rw [has_store, hidx]
  have hsplit : ∀ j, (r₀.buffer.store kFragmentPayload f.index f.bytes f.bytes_fit).has j = true →
      j = i ∨ r.Continues arbitrationId sequence ∧ r.buffer.has j = true := by
    intro j hj
    rw [hstored, Bool.or_eq_true, decide_eq_true_iff] at hj
    exact hj.symm.imp Eq.symm (honly j)
  have hrem := hhist.remembers_iff arbitrationId sequence
  cases storeFragment_cases r₀ f with
  | duplicateFragment hhas res history same =>
    refine .stored (by rw [res]; exact nofun) (by rw [res]) (hhist.trans history)
      (same.assembles hasm) ?_ ?_ ?_
    · rw [same.buffer, ← hidx]
      exact hhas
    · intro htime hcont j hj
      rw [same.buffer]
      exact hgrows htime hcont j hj
    · intro j hj
      rw [same.buffer] at hj
      exact .inr (honly j hj)
  | partway _ _ res history same =>
    refine .stored (by rw [res]; exact nofun) (by rw [res]) (hhist.trans history)
      (same.assembles ⟨⟨hactive, hid, hrseq⟩, hasm.fragmentCount, hholds⟩) ?_ ?_ ?_
    · rw [same.buffer]
      simp [hstored]
    · intro htime hcont j hj
      rw [same.buffer]
      simp [hstored, hgrows htime hcont j hj]
    · intro j hj
      rw [same.buffer] at hj
      exact hsplit j hj
  | duplicateMessage _ _ dup res history idle =>
    refine .duplicate (by rw [res]) (by rw [res, harb, hrseq]) (hrem.mp ⟨dup.1, ?_, ?_⟩)
      (hhist.trans history) idle
    · rw [dup.2.1, hid]
    · rw [dup.2.2, hrseq]
  | completed _ hfull fresh res hhas hlastId hlast idle =>
    refine .completed (by rw [res]) (by rw [res]; exact hrseq) ?_ (by rw [res, harb, hrseq]) ?_
      ⟨hhas, by rw [hlastId, hid], by rw [hlast, hrseq]⟩ idle ?_
    · rw [res, hcount]
      rw [hcount] at hfull
      exact hholds.contents_eq hw hfull
    · intro hr
      obtain ⟨h1, h2, h3⟩ := hrem.mpr hr
      exact fresh ⟨h1, by rw [h2, hid], by rw [h3, hrseq]⟩
    · intro j hj
      refine hsplit j ?_
      rw [isFull_iff.mp hfull j]
      exact decide_eq_true (hcount ▸ hj)

/-- A fragment of `p` for the receiver `r₁` that is left of `r` once what has expired by
    `receiveTimeNs` is given up. -/
private theorem acceptFragment_part (h : Inv r) (hpart : f.IsPart arbitrationId sequence p i)
    (hseq : sequence ≤ 0x0f)
    (hact : r.Continues arbitrationId sequence → Assembles r arbitrationId sequence p)
    {receiveTimeNs : Option UInt64} (hkeeps : Keeps r r₁)
    (htimely : r.Timely receiveTimeNs → SameActive r r₁) :
    PartOutcome r arbitrationId sequence p i receiveTimeNs
      (r₁.acceptFragment f receiveTimeNs) := by
  obtain ⟨harb, hfseq, -, hcount, -⟩ := id hpart
  have hact₁ : r₁.Continues arbitrationId sequence →
      Assembles r₁ arbitrationId sequence p := by
    intro hcont
    rcases hkeeps.active with hsame | hidle
    · refine hsame.assembles (hact ?_)
      rwa [Continues, hsame.active, hsame.arbitrationId, hsame.sequence] at hcont
    · exact absurd hcont.1 (by simp [hidle.active])
  cases acceptFragment_cases (hkeeps.inv h) (hfseq ▸ hseq) receiveTimeNs with
  | stale hnew res keeps outside =>
    rw [harb, hfseq] at hnew outside
    refine .dropped (by rw [res]; exact nofun) (by rw [res]) (hkeeps.trans keeps) ?_
    by_cases htime : r.Timely receiveTimeNs
    · have hsame := htimely htime
      have hhist := hkeeps.history
      refine .inr fun hin => hin.elim (fun hc => hnew ?_) fun hw => outside ?_
      · rwa [Continues, hsame.active, hsame.arbitrationId, hsame.sequence]
      · rwa [InActiveWindow, InCompletedWindow, hsame.active, hsame.arbitrationId, hsame.sequence,
          hhist.hasCompleted, hhist.lastCompletedArbitrationId, hhist.lastCompletedSequence]
    · exact .inl htime
  | mismatch hcont hne _ _ =>
    rw [harb, hfseq] at hcont
    exact absurd ((hact₁ hcont).fragmentCount.trans hcount.symm) hne
  | stored r₀ hcont hcnt hhist horigin heq =>
    rw [heq]
    rw [harb, hfseq] at hcont
    rcases horigin with rfl | ⟨hmask, hnew, -⟩
    · refine storeFragment_part hpart (hact₁ hcont) hkeeps.history (fun htime _ j hj => ?_)
        fun j hj => ?_
      · rw [(htimely htime).buffer]
        exact hj
      · rcases hkeeps.active with hsame | hidle
        · rw [Continues, hsame.active, hsame.arbitrationId, hsame.sequence] at hcont
          exact ⟨hcont, hsame.buffer ▸ hj⟩
        · cases hidle.active.symm.trans hcont.1
    · -- room was made for the message: it is reassembled from nothing
      refine storeFragment_part hpart
        ⟨hcont, hcnt.trans hcount, holds_of_mask_eq_zero hmask _ _⟩
        (hkeeps.history.trans hhist) (fun htime hc => absurd ?_ hnew) fun j hj => ?_
      · have hsame := htimely htime
        rwa [harb, hfseq, Continues, hsame.active, hsame.arbitrationId, hsame.sequence]
      · exact nomatch (has_of_mask_eq_zero hmask j).symm.trans hj

/-- `Accept` of fragment `i` of a message `p` that the sender can send. -/
theorem receive_part_cases (h : Inv r) (hid : (CanArbitrationId.decode arbitrationId).isSome)
    (hseq : sequence ≤ 0x0f) (hfit : p.length ≤ maxSize)
    (hcount : fragmentsOf kFragmentPayload p.length ≤ 16)
    (hi : i < fragmentsOf kFragmentPayload p.length)
    (hact : r.Continues arbitrationId sequence → Assembles r arbitrationId sequence p)
    (receiveTimeNs : Option UInt64) :
    PartOutcome r arbitrationId sequence p i receiveTimeNs
      (r.receive (dataFrame arbitrationId sequence (fragmentsOf kFragmentPayload p.length) i
        (fragmentAt kFragmentPayload p i)) receiveTimeNs) := by
  obtain ⟨id, hid⟩ := Option.isSome_iff_exists.mp hid
  obtain ⟨f, hf, hpart, -⟩ := parseFragment_dataFrame hid hseq hfit hcount hi
  rcases receive_eq r (dataFrame arbitrationId sequence (fragmentsOf kFragmentPayload p.length) i
      (fragmentAt kFragmentPayload p i)) receiveTimeNs with ⟨heq, hlate⟩ | ⟨r₁, hk, ht, heq⟩
  · rw [heq]
    exact .dropped nofun rfl (keeps_stats r _) (.inl hlate)
  · rw [heq, acceptImpl, hf]
    exact acceptFragment_part h hpart hseq hact hk ht

private theorem kind_acknowledgement_storeFragment (r : ReliableReceiver maxSize)
    (f : ReliableFragment maxSize)
    (h : (r.storeFragment f).1.acknowledgement.size ≠ 0) :
    getFrameKind (r.storeFragment f).1.acknowledgement.header = .reliable := by
  unfold storeFragment completeMessage at h ⊢
  dsimp only at h ⊢
  split_ifs at h ⊢
  · exact absurd rfl h
  · exact absurd rfl h
  · exact getFrameKind_reliableHeader _ _
  · exact getFrameKind_reliableHeader _ _

/-- An acknowledgement is a reliable frame. -/
theorem kind_acknowledgement (r : ReliableReceiver maxSize) (frame : CanFrame)
    (receiveTimeNs : Option UInt64)
    (h : (r.receive frame receiveTimeNs).1.acknowledgement.size ≠ 0) :
    getFrameKind (r.receive frame receiveTimeNs).1.acknowledgement.header = .reliable := by
  rcases receive_eq r frame receiveTimeNs with ⟨heq, -⟩ | ⟨r₁, -, -, heq⟩
  · rw [heq] at h
    exact absurd rfl h
  · rw [heq] at h ⊢
    unfold acceptImpl acceptFragment at h ⊢
    split at h
    · exact absurd rfl h
    · dsimp only at h ⊢
      split_ifs at h ⊢
      · exact absurd rfl h
      · exact kind_acknowledgement_storeFragment _ _ h
      · exact absurd rfl h
      · exact kind_acknowledgement_storeFragment _ _ h

/-! ## The observed time -/

/-- The check at the head of `Accept` and `Poll` fails. -/
def Refuses (r : ReliableReceiver maxSize) (timeNs : UInt64) : Prop :=
  r.hasObservedTime = true ∧ timeNs < r.lastObservedTimeNs

instance (r : ReliableReceiver maxSize) (timeNs : UInt64) : Decidable (r.Refuses timeNs) :=
  inferInstanceAs (Decidable (_ ∧ _))

/-- No time after `timeNs` was observed. -/
def ObservedBy (r : ReliableReceiver maxSize) (timeNs : UInt64) : Prop :=
  r.hasObservedTime = true → r.lastObservedTimeNs ≤ timeNs

variable {timeNs timeNs' : UInt64}

theorem ObservedBy.mono (h : r.ObservedBy timeNs) (hle : timeNs ≤ timeNs') :
    r.ObservedBy timeNs' :=
  fun hobserved => UInt64.le_trans (h hobserved) hle

theorem ObservedBy.not_refuses (h : r.ObservedBy timeNs) (hle : timeNs ≤ timeNs') :
    ¬ r.Refuses timeNs' :=
  fun hrefused => UInt64.not_lt.mpr (h.mono hle hrefused.1) hrefused.2

/-- The part of the receiver that `AcceptImpl` leaves alone. -/
def observedTime (r : ReliableReceiver maxSize) : Bool × UInt64 :=
  (r.hasObservedTime, r.lastObservedTimeNs)

theorem ObservedBy.of_eq (h : r.ObservedBy timeNs) (heq : r'.observedTime = r.observedTime) :
    r'.ObservedBy timeNs := by
  obtain ⟨hhas, hlast⟩ := Prod.mk.inj heq
  unfold ObservedBy
  rw [hhas, hlast]
  exact h

theorem observedTime_expireIfDue (r : ReliableReceiver maxSize) (nowNs : UInt64) :
    (r.expireIfDue nowNs).2.observedTime = r.observedTime := by
  unfold expireIfDue
  split <;> rfl

theorem observedTime_prepareAfterCompleted (r : ReliableReceiver maxSize)
    (arbitrationId : UInt16) (sequence : UInt8) :
    (r.prepareAfterCompleted arbitrationId sequence).2.observedTime = r.observedTime := by
  unfold prepareAfterCompleted
  dsimp only
  split_ifs <;> rfl

theorem observedTime_prepareMessage (r : ReliableReceiver maxSize)
    (arbitrationId : UInt16) (sequence : UInt8) :
    (r.prepareMessage arbitrationId sequence).2.observedTime = r.observedTime := by
  unfold prepareMessage
  dsimp only
  split_ifs
  · exact observedTime_prepareAfterCompleted _ _ _
  · rfl
  · rfl
  · exact observedTime_prepareAfterCompleted _ _ _
  · exact observedTime_prepareAfterCompleted _ _ _

theorem observedTime_storeFragment (r : ReliableReceiver maxSize)
    (f : ReliableFragment maxSize) : (r.storeFragment f).2.observedTime = r.observedTime := by
  unfold storeFragment completeMessage
  dsimp only
  split_ifs <;> rfl

theorem observedTime_acceptImpl (r : ReliableReceiver maxSize) (frame : CanFrame)
    (receiveTimeNs : Option UInt64) :
    (r.acceptImpl frame receiveTimeNs).2.observedTime = r.observedTime := by
  unfold acceptImpl
  split
  · rfl
  · unfold acceptFragment
    dsimp only
    split_ifs
    · exact observedTime_prepareMessage _ _ _
    · exact (observedTime_storeFragment _ _).trans (observedTime_prepareMessage _ _ _)
    · rfl
    · exact observedTime_storeFragment _ _

theorem ObservedBy.acceptAt (h : r.ObservedBy timeNs) (hle : timeNs ≤ timeNs')
    (frame : CanFrame) : (r.acceptAt frame timeNs').2.ObservedBy timeNs' := by
  have hnot : ¬ (r.hasObservedTime = true ∧ timeNs' < r.lastObservedTimeNs) := h.not_refuses hle
  unfold ReliableReceiver.acceptAt
  rw [if_neg hnot]
  have hobserved : ({ r with hasObservedTime := true, lastObservedTimeNs := timeNs' } :
      ReliableReceiver maxSize).ObservedBy timeNs' := fun _ => UInt64.le_refl _
  exact hobserved.of_eq ((observedTime_acceptImpl _ _ _).trans (observedTime_expireIfDue _ _))

theorem ObservedBy.poll (h : r.ObservedBy timeNs) (hle : timeNs ≤ timeNs') :
    (r.poll timeNs').2.ObservedBy timeNs' := by
  have hnot : ¬ (r.hasObservedTime = true ∧ timeNs' < r.lastObservedTimeNs) := h.not_refuses hle
  unfold ReliableReceiver.poll
  rw [if_neg hnot]
  have hobserved : ({ r with hasObservedTime := true, lastObservedTimeNs := timeNs' } :
      ReliableReceiver maxSize).ObservedBy timeNs' := fun _ => UInt64.le_refl _
  exact hobserved.of_eq (observedTime_expireIfDue _ _)

theorem observedBy_of_none (h : r.hasObservedTime = false) : r.ObservedBy timeNs :=
  fun hobserved => nomatch h.symm.trans hobserved

end ReliableReceiver

end AsterCtrl.Can
