import AsterCtrl.Native.Can.FastPath
import AsterCtrl.Spec.Can.ReliableReceiverCorrect

/-!
# What the fast reassembler makes of encoded frames

A frame built by `FastCodec::Encode` passes the checks of `FastReassembler::Accept`, and what the
reassembler completes with it is the payload of that frame, provided that a message it would be
filled into is its own message.

## Key results

- `encoded_of_encode`: what the checks make of all frames of a payload
- `accept_single`: the only frame of a payload
- `accept_part`: a fragment of a longer payload
-/

namespace AsterCtrl.Can

/-! ## Headers read back -/

variable {sequence : UInt8}

theorem fastSingleHeader_read (h : sequence ≤ 0x3f) :
    getFrameKind sequence = .fastSingle ∧ sequence &&& 0x3f = sequence := by
  have key : ∀ sequence : UInt8, sequence ≤ 0x3f →
      getFrameKind sequence = .fastSingle ∧ sequence &&& 0x3f = sequence :=
    forall_uint8 (by decide +kernel)
  exact key sequence h

theorem fastFragmentHeader_read (h : sequence ≤ 0x3f) :
    getFrameKind (0x40 ||| sequence) = .fastFragment ∧ (0x40 ||| sequence) &&& 0x3f = sequence := by
  have key : ∀ sequence : UInt8, sequence ≤ 0x3f →
      getFrameKind (0x40 ||| sequence) = .fastFragment ∧
        (0x40 ||| sequence) &&& 0x3f = sequence :=
    forall_uint8 (by decide +kernel)
  exact key sequence h

/-- One header byte and at most seven bytes after it: the bytes are read back. -/
theorem take_drop_one_frameData (a : UInt8) {bs : List UInt8} (h : bs.length ≤ 7) :
    ((frameData (a :: bs)).toList.drop 1).take bs.length = bs := by
  rw [toList_frameData _ (by simp only [List.length_cons]; omega)]
  simp

/-- `f` is fragment `i` of the payload `p` sent on the route with `sequence`. -/
structure FastFragment.IsPart (f : FastFragment) (routeId : UInt16) (sequence : UInt8)
    (p : List UInt8) (i : Nat) : Prop where
  routeId : f.routeId = routeId
  sequence : f.sequence = sequence
  index : f.index = i
  count : f.count = fragmentsOf kFragmentPayload p.length
  bytes : f.bytes = fragmentAt kFragmentPayload p i

/-- A fragment of `p` lies inside `p`. -/
theorem FastFragment.IsPart.end_le {f : FastFragment} {routeId : UInt16} {p : List UInt8} {i : Nat}
    (h : f.IsPart routeId sequence p i) :
    f.index * kFragmentPayload + f.bytes.length ≤ p.length := by
  rw [h.bytes, h.index]
  refine fragmentAt_end_le (by decide) ?_
  rw [← h.index, ← h.count]
  exact f.index_lt

namespace FastReassembler

variable {maxSize : Nat} {sequence : UInt8} {p : List UInt8}

theorem parseFrame_single {frameId : UInt16} {id : DecodedArbitrationId}
    (hid : CanArbitrationId.decode frameId = some id) (hseq : sequence ≤ 0x3f) (hlen : p.length ≤ 7)
    (hfit : p.length ≤ maxSize) :
    parseFrame maxSize (fastSingleFrame frameId sequence p) =
      some (.single id.routeId sequence p hfit) := by
  obtain ⟨hkind, hmask⟩ := fastSingleHeader_read hseq
  unfold parseFrame fastSingleFrame
  simp only [hid, CanFrame.header_frameData, hkind, hmask, Nat.add_sub_cancel, if_true,
    take_drop_one_frameData sequence hlen]
  rw [if_neg (by omega), dif_neg (by omega)]

variable {i : Nat}

theorem parseFrame_fragment {frameId : UInt16} {id : DecodedArbitrationId}
    (hid : CanArbitrationId.decode frameId = some id) (hseq : sequence ≤ 0x3f)
    (hfit : p.length ≤ maxSize) (hcount : fragmentsOf kFragmentPayload p.length ≤ 16)
    (hi : i < fragmentsOf kFragmentPayload p.length) :
    ∃ f, parseFrame maxSize (fastFragmentFrame frameId sequence
        (fragmentsOf kFragmentPayload p.length) i (fragmentAt kFragmentPayload p i)) =
        some (.fragment f) ∧ f.IsPart id.routeId sequence p i := by
  have hw : 0 < kFragmentPayload := by decide
  obtain ⟨hkind, hmask⟩ := fastFragmentHeader_read hseq
  obtain ⟨hindex, hcnt⟩ := fragmentByte_read _ hcount i hi
  have hpos : 0 < (fragmentAt kFragmentPayload p i).length := length_fragmentAt_pos hw hi
  have hle : (fragmentAt kFragmentPayload p i).length ≤ 6 := length_fragmentAt_le
  have hfull : i + 1 < fragmentsOf kFragmentPayload p.length →
      (fragmentAt kFragmentPayload p i).length = 6 := length_fragmentAt_of_lt hw
  have hcover : fragmentsOf kFragmentPayload p.length * 6 ≤ p.length + 5 := by
    have : fragmentsOf kFragmentPayload p.length = (p.length + 5) / 6 := rfl
    omega
  unfold parseFrame fastFragmentFrame
  simp only [hid, CanFrame.header_frameData, CanFrame.second_frameData, hkind, hmask, hindex, hcnt,
    Nat.add_sub_cancel, ne_eq, not_true_eq_false, false_or, reduceCtorEq, if_false]
  rw [if_neg (by omega), if_neg (by omega), dif_neg (by omega)]
  exact ⟨_, rfl, rfl, rfl, rfl, rfl, take_drop_frameData _ _ hle⟩

/-! ## All frames of a payload -/

/-- What the checks make of the frames that a payload was encoded to. -/
inductive Encoded (maxSize : Nat) (routeId : UInt16) (sequence : UInt8) (p : List UInt8)
    (frames : List CanFrame) : Prop where
  | single (fit : p.length ≤ maxSize) (hlen : p.length ≤ 7) (hne : frames ≠ [])
      (hparse : ∀ frame ∈ frames,
        parseFrame maxSize frame = some (.single routeId sequence p fit))
  | fragments (hlen : 7 < p.length)
      (hparse : ∀ frame ∈ frames, ∃ f i, parseFrame maxSize frame = some (.fragment f) ∧
        f.IsPart routeId sequence p i)
      (hall : ∀ i < fragmentsOf kFragmentPayload p.length, ∃ frame ∈ frames, ∃ f,
        parseFrame maxSize frame = some (.fragment f) ∧ f.IsPart routeId sequence p i)

variable {routeId : UInt16}

theorem encoded_of_encode {priority : CanPriority} {outputSize : Nat} {frames : List CanFrame}
    (hencode : FastCodec.encode routeId priority sequence p outputSize = .ok frames)
    (hfit : p.length ≤ maxSize) : Encoded maxSize routeId sequence p frames := by
  unfold FastCodec.encode at hencode
  split at hencode
  · cases hencode
  rename_i hargs
  dsimp only at hencode
  split at hencode
  · cases hencode
  rename_i hid
  obtain ⟨h0, hmax⟩ := CanArbitrationId.encode_status_ok_iff.mp (Decidable.not_not.mp hid)
  have hdecode : CanArbitrationId.decode (CanArbitrationId.encode priority routeId).2 =
      some ⟨priority, routeId⟩ := CanArbitrationId.decode_encode h0 hmax
  have hseq : sequence ≤ 0x3f := UInt8.not_lt.mp fun h => hargs (.inl h)
  split at hencode
  · rename_i hlen
    split at hencode
    · cases hencode
    · obtain rfl := Except.ok.inj hencode
      refine .single hfit hlen (List.cons_ne_nil _ _) fun frame hframe => ?_
      rw [List.mem_singleton.mp hframe]
      exact parseFrame_single hdecode hseq hlen hfit
  · rename_i hlen
    split at hencode
    · cases hencode
    · rename_i hcount
      have hcount : fragmentsOf kFragmentPayload p.length ≤ 16 :=
        Nat.not_lt.mp fun h => hcount (.inl h)
      obtain rfl := Except.ok.inj hencode
      refine .fragments (Nat.not_le.mp hlen) (fun frame hframe => ?_) fun i hi => ?_
      · obtain ⟨i, hi, rfl⟩ := List.mem_map.mp hframe
        obtain ⟨f, hparse, hpart⟩ := parseFrame_fragment hdecode hseq hfit hcount
          (List.mem_range.mp hi)
        exact ⟨f, i, hparse, hpart⟩
      · exact ⟨_, List.mem_map.mpr ⟨i, List.mem_range.mpr hi, rfl⟩,
          parseFrame_fragment hdecode hseq hfit hcount hi⟩

/-! ## A single frame -/

variable {r : FastReassembler maxSize}

/-- A message completed by its only frame is the payload of that frame. -/
theorem accept_single {frame : CanFrame} {fit : p.length ≤ maxSize}
    (hparse : parseFrame maxSize frame = some (.single routeId sequence p fit))
    (hok : (r.accept frame).status = .ok) : (r.accept frame).message.payload = p := by
  rw [accept, hparse] at hok ⊢
  dsimp only [acceptSingle] at hok ⊢
  split at hok
  · rename_i hne
    exact absurd hok hne
  · rename_i hprepared
    rw [if_neg hprepared]
    simp [complete, FragmentBuffer.toList_copyAt]

/-! ## Fragments -/

/-- A message with this route and sequence is being reassembled. -/
def Continues (r : FastReassembler maxSize) (routeId : UInt16) (sequence : UInt8) : Prop :=
  r.active = true ∧ r.routeId = routeId ∧ r.sequence = sequence

instance (r : FastReassembler maxSize) (routeId : UInt16) (sequence : UInt8) :
    Decidable (r.Continues routeId sequence) :=
  inferInstanceAs (Decidable (_ ∧ _ ∧ _))

/-- A message that fragments of `p` would be filled into is `p`. -/
def Own (r : FastReassembler maxSize) (routeId : UInt16) (sequence : UInt8)
    (p : List UInt8) : Prop :=
  r.Continues routeId sequence → r.fragmentCount = fragmentsOf kFragmentPayload p.length →
    r.buffer.Holds kFragmentPayload p

theorem own_of_inactive (h : r.active = false) (routeId : UInt16) (sequence : UInt8)
    (p : List UInt8) : r.Own routeId sequence p :=
  fun hcont => nomatch h.symm.trans hcont.1

theorem prepareAfterLast_active (r : FastReassembler maxSize) (routeId : UInt16)
    (sequence : UInt8) : (r.prepareAfterLast routeId sequence).2.active = r.active := by
  unfold prepareAfterLast
  split
  · rfl
  · split
    · rfl
    · split <;> rfl

/-- `PrepareSequence` leaves no message of the route and sequence behind unless it is there
    already. -/
theorem prepareSequence_not_continues (h : ¬ r.Continues routeId sequence) (allowed : Bool) :
    ¬ (r.prepareSequence routeId sequence allowed).2.Continues routeId sequence := by
  have hsuperseded : (r.supersedeActive.prepareAfterLast routeId sequence).2.active = false :=
    prepareAfterLast_active _ _ _
  unfold prepareSequence
  split
  · rename_i hactive
    split
    · exact fun hc => nomatch hsuperseded.symm.trans hc.1
    · rename_i hroute
      split
      · rename_i hseq
        exact absurd ⟨hactive, (Decidable.not_not.mp hroute).symm, hseq.symm⟩ h
      · split
        · exact h
        · exact fun hc => nomatch hsuperseded.symm.trans hc.1
  · rename_i hactive
    intro hc
    exact hactive ((prepareAfterLast_active r routeId sequence).symm.trans hc.1)

variable {f : FastFragment}

/-- Storing a fragment of `p` keeps a part of `p` what it is. -/
theorem holds_store_part {b : FragmentBuffer UInt8 maxSize 16}
    (hpart : f.IsPart routeId sequence p i) (hholds : b.Holds kFragmentPayload p)
    (fit : f.index * kFragmentPayload + f.bytes.length ≤ maxSize) :
    (b.store kFragmentPayload f.index f.bytes fit).Holds kFragmentPayload p := by
  obtain ⟨-, -, hidx, hcount, hbytes⟩ := hpart
  have hlt := f.index_lt
  have hle := f.count_le
  exact hholds.store (by decide) (by omega) (by omega) hidx hbytes fit

/-- Storing a fragment of `p` in a message that is `p`. -/
theorem storeFragment_part (hpart : f.IsPart routeId sequence p i)
    (hholds : r.buffer.Holds kFragmentPayload p) :
    (r.storeFragment f).reassembler.Own routeId sequence p ∧
      ((r.storeFragment f).status = .ok → (r.storeFragment f).message.payload = p) := by
  unfold storeFragment
  split
  · exact ⟨fun _ _ => hholds, fun hok => by cases hok⟩
  · split
    · exact ⟨own_of_inactive rfl _ _ _, fun hok => by cases hok⟩
    · rename_i hfit
      have hstored := holds_store_part hpart hholds (Nat.not_lt.mp hfit)
      dsimp only
      split
      · exact ⟨fun _ _ => hstored, fun hok => by cases hok⟩
      · rename_i hfull
        refine ⟨own_of_inactive rfl _ _ _, fun _ => ?_⟩
        rw [hpart.count] at hfull ⊢
        exact hstored.contents_eq (by decide) (Bool.not_eq_false _ ▸ hfull)

/-- `Accept` of a fragment of the payload `p`, when the message it would be filled into is
    `p`: this stays so, and what it completes is `p`. -/
theorem accept_part {frame : CanFrame} (hparse : parseFrame maxSize frame = some (.fragment f))
    (hpart : f.IsPart routeId sequence p i) (hown : r.Own routeId sequence p) :
    (r.accept frame).reassembler.Own routeId sequence p ∧
      ((r.accept frame).status = .ok → (r.accept frame).message.payload = p) := by
  rw [accept, hparse]
  dsimp only
  unfold acceptFragment
  split
  · rename_i hnew
    have hnot : ¬ r.Continues routeId sequence := by
      rintro ⟨hactive, hroute, hsequence⟩
      rw [hpart.routeId, hpart.sequence] at hnew
      rcases hnew with h | h | h
      · cases h.symm.trans hactive
      · exact h hroute
      · exact h hsequence
    dsimp only
    split
    · rename_i hne
      refine ⟨fun hcont => absurd hcont ?_, fun hok => absurd hok hne⟩
      rw [hpart.routeId, hpart.sequence]
      exact prepareSequence_not_continues hnot true
    · -- room was made for the message: it is reassembled from nothing
      exact storeFragment_part hpart (FragmentBuffer.holds_of_mask_eq_zero rfl _ _)
  · rename_i hcont
    simp only [not_or, Bool.not_eq_false, ne_eq, Decidable.not_not] at hcont
    split
    · exact ⟨own_of_inactive rfl _ _ _, fun hok => nomatch hok⟩
    · rename_i hsame
      refine storeFragment_part hpart (hown ⟨hcont.1, ?_, ?_⟩ ?_)
      · exact hcont.2.1.trans hpart.routeId
      · exact hcont.2.2.trans hpart.sequence
      · exact (Decidable.not_not.mp hsame).trans hpart.count

end FastReassembler

end AsterCtrl.Can
