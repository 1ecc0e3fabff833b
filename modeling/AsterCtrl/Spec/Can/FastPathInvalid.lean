import AsterCtrl.ForStd.Run
import AsterCtrl.Spec.Can.FastPathSteps

/-!
# Invalid frames on the fast path

`FastReassembler::Accept` refuses some frames with `kInvalidArgument`.  A frame that fails the
checks on the frame alone changes nothing but a counter.  A fragment that passes them and is then
found not to fit the active message or the buffer makes the reassembler give up the active
message, and the rest of that message is lost.

Two reassemblers cannot be told apart if they remember the same message as the last one and have
stored the same fragments of the same active message (`Same`).

## Key results

- `Same.accept`: reassemblers that are the same answer alike and stay the same
- `answers_eq_iff`: when an invalid frame goes unnoticed
-/

namespace AsterCtrl.Can

open FragmentBuffer FastReassembler

/-- The calls of a reassembler. -/
inductive FastCall where
  | accept (frame : CanFrame)
  | resetHistory
deriving DecidableEq, Repr

namespace FastReassembler

variable {maxSize : Nat}

/-- The reassembler after a call. -/
def call (r : FastReassembler maxSize) : FastCall → FastReassembler maxSize
  | .accept frame => (r.accept frame).reassembler
  | .resetHistory => r.resetHistory

/-- What a call returns. -/
def answer (r : FastReassembler maxSize) : FastCall → Option (Status × ReassembledMessage)
  | .accept frame => some ((r.accept frame).status, (r.accept frame).message)
  | .resetHistory => none

/-- What the calls of a run return. -/
def answers (r : FastReassembler maxSize) (calls : List FastCall) :
    List (Option (Status × ReassembledMessage)) :=
  Machine.outputs call answer r calls

/-! ## Reachable reassemblers -/

/-- What is known about the active message. -/
structure ActiveInv (r : FastReassembler maxSize) : Prop where
  packed : r.buffer.Packed kFragmentPayload r.fragmentCount
  sequence : r.sequence ≤ 0x3f
  route : ∃ frameId id, CanArbitrationId.decode frameId = some id ∧
    id.routeId = r.routeId
  /-- The message was let through, and nothing was completed since then. -/
  fresh : r.Fresh r.routeId r.sequence

/-- What every call keeps. -/
def Inv (r : FastReassembler maxSize) : Prop := r.active = true → r.ActiveInv

variable {r : FastReassembler maxSize}

theorem inv_of_inactive (h : r.active = false) : r.Inv :=
  fun hactive => nomatch h.symm.trans hactive

variable {r₀ : FastReassembler maxSize} {routeId : UInt16} {sequence : UInt8}

theorem Prepared.inv {status : Status} (h : r.Inv)
    (hprepared : Prepared r routeId sequence (status, r₀)) : r₀.Inv := by
  cases hprepared with
  | blocked stats _ => exact fun hactive => ⟨(h hactive).1, (h hactive).2, (h hactive).3, (h hactive).4⟩
  | stale _ _ _ hactive _ => exact inv_of_inactive hactive
  | admitted _ _ _ hactive _ => exact inv_of_inactive hactive

variable {f : FastFragment}

theorem Stored.inv {result : FastResult maxSize} (hstored : Stored r f result) (h : r.ActiveInv)
    (hcount : r.fragmentCount = f.count)
    (hlength : f.bytes.length ≤ kFragmentPayload ∧ (f.index + 1 < f.count → f.bytes.length =
      kFragmentPayload)) : result.reassembler.Inv := by
  cases hstored with
  | duplicate stats _ => exact fun _ => ⟨h.1, h.2, h.3, h.4⟩
  | tooLong stats _ _ => exact inv_of_inactive rfl
  | kept stats _ hfit _ =>
    have hindex : f.index < 16 := Nat.lt_of_lt_of_le f.index_lt f.count_le
    refine fun _ => ⟨?_, h.2, h.3, h.4⟩
    exact h.packed.store hindex (hcount ▸ hlength.2) hlength.1 hfit
  | completed stats _ _ _ => exact inv_of_inactive rfl

variable {frame : CanFrame}

theorem activeInv_activate (hparse : parseFrame maxSize frame = some (.fragment f))
    (hfresh : r.Fresh f.routeId f.sequence) (hhistory : SameHistory r r₀) :
    (r₀.activate f).ActiveInv := by
  obtain ⟨-, hsequence, id, hid, hroute⟩ := fragment_of_parseFrame hparse
  exact ⟨packed_clear _ _ _, hsequence, ⟨_, id, hid, hroute⟩,
    (hhistory.fresh_iff _ _).mpr hfresh⟩

theorem inv_accept (h : r.Inv) (frame : CanFrame) : (r.accept frame).reassembler.Inv := by
  have haccepted := accept_cases r frame
  generalize r.accept frame = result at haccepted ⊢
  cases haccepted with
  | malformed stats _ => exact fun hactive => ⟨(h hactive).1, (h hactive).2, (h hactive).3, (h hactive).4⟩
  | refusedSingle r₀ _ hprepared => exact hprepared.inv h
  | single r₁ _ _ _ hactive => exact inv_of_inactive hactive
  | refusedFragment r₀ _ _ hprepared => exact hprepared.inv h
  | begun hparse _ _ hfresh hhistory hstored =>
    have hlength := (fragment_of_parseFrame hparse).1
    exact hstored.inv (activeInv_activate hparse hfresh hhistory) rfl hlength
  | mismatched stats _ _ _ => exact inv_of_inactive rfl
  | continued hparse hcontinues hcount hstored =>
    exact hstored.inv (h hcontinues.1) hcount (fragment_of_parseFrame hparse).1

theorem inv_call (r : FastReassembler maxSize) (c : FastCall) (h : r.Inv) : (r.call c).Inv := by
  cases c with
  | accept frame => exact inv_accept h frame
  | resetHistory => exact inv_of_inactive rfl

/-! ## Reassemblers that cannot be told apart -/

/-- The active messages are the same as far as they have been received. -/
structure SameActive (r r' : FastReassembler maxSize) : Prop where
  routeId : r'.routeId = r.routeId
  sequence : r'.sequence = r.sequence
  fragmentCount : r'.fragmentCount = r.fragmentCount
  buffer : r.buffer.Agree r'.buffer kFragmentPayload

structure Same (r r' : FastReassembler maxSize) : Prop where
  history : SameHistory r r'
  active : r'.active = r.active
  assembling : r.active = true → SameActive r r'

variable {r' : FastReassembler maxSize}

theorem same_of_inactive (hhistory : SameHistory r r') (h : r.active = false)
    (h' : r'.active = false) : Same r r' :=
  ⟨hhistory, h'.trans h.symm, fun hactive => nomatch h.symm.trans hactive⟩

theorem same_stats (r : FastReassembler maxSize) (stats : FastReassemblyStats) :
    Same r { r with stats := stats } :=
  ⟨⟨rfl, rfl, rfl⟩, rfl, fun _ => ⟨rfl, rfl, rfl, agree_refl _ _⟩⟩

theorem Same.blocked_iff (h : Same r r') (routeId : UInt16) (sequence : UInt8) :
    r'.Blocked routeId sequence ↔ r.Blocked routeId sequence := by
  unfold Blocked
  rw [h.active]
  refine and_congr_right fun hactive => ?_
  rw [(h.assembling hactive).routeId, (h.assembling hactive).sequence]

theorem Same.continues_iff (h : Same r r') (routeId : UInt16) (sequence : UInt8) :
    r'.Continues routeId sequence ↔ r.Continues routeId sequence := by
  unfold Continues
  rw [h.active]
  refine and_congr_right fun hactive => ?_
  rw [(h.assembling hactive).routeId, (h.assembling hactive).sequence]

/-- The answers are alike and the reassemblers after them the same. -/
structure Alike (result result' : FastResult maxSize) : Prop where
  status : result'.status = result.status
  message : result'.message = result.message
  same : Same result.reassembler result'.reassembler

theorem Prepared.same (h : Same r r') {p p' : Status × FastReassembler maxSize}
    (hp : Prepared r routeId sequence p) (hp' : Prepared r' routeId sequence p') :
    p'.1 = p.1 ∧ Same p.2 p'.2 := by
  have hblockedIff := h.blocked_iff routeId sequence
  have hfreshIff := h.history.fresh_iff routeId sequence
  have hafter : ∀ {r₀ r₀' : FastReassembler maxSize}, r₀.active = false →
      r₀'.active = false → SameHistory r r₀ → SameHistory r' r₀' → Same r₀ r₀' := by
    intro r₀ r₀' hactive hactive' hhistory hhistory'
    refine same_of_inactive ⟨?_, ?_, ?_⟩ hactive hactive'
    · rw [hhistory'.1, h.history.1, hhistory.1]
    · rw [hhistory'.2, h.history.2, hhistory.2]
    · rw [hhistory'.3, h.history.3, hhistory.3]
  -- the two outcomes are of the same kind
  cases hp with
  | blocked stats hblocked =>
    cases hp' with
    | blocked stats' _ =>
      refine ⟨rfl, ⟨h.history.1, h.history.2, h.history.3⟩, h.active, fun hactive => ?_⟩
      have hsame := h.assembling hactive
      exact ⟨hsame.1, hsame.2, hsame.3, hsame.4⟩
    | stale _ hnot => exact absurd (hblockedIff.mpr hblocked) hnot
    | admitted _ hnot => exact absurd (hblockedIff.mpr hblocked) hnot
  | stale r₀ hblocked hfresh hactive hhistory =>
    cases hp' with
    | blocked _ hblocked' => exact absurd (hblockedIff.mp hblocked') hblocked
    | stale r₀' _ _ hactive' hhistory' => exact ⟨rfl, hafter hactive hactive' hhistory hhistory'⟩
    | admitted _ _ hfresh' => exact absurd (hfreshIff.mp hfresh') hfresh
  | admitted r₀ hblocked hfresh hactive hhistory =>
    cases hp' with
    | blocked _ hblocked' => exact absurd (hblockedIff.mp hblocked') hblocked
    | stale _ _ hnot => exact absurd (hfreshIff.mpr hfresh) hnot
    | admitted r₀' _ _ hactive' hhistory' =>
      exact ⟨rfl, hafter hactive hactive' hhistory hhistory'⟩

theorem Prepared.inactive (h : Prepared r routeId sequence (.ok, r₀)) : r₀.active = false := by
  cases h with
  | admitted _ _ _ hactive _ => exact hactive

theorem Same.acceptSingle (h : Same r r') (routeId : UInt16) (sequence : UInt8) {bytes : List UInt8}
    (fit : bytes.length ≤ maxSize) :
    Alike (r.acceptSingle routeId sequence bytes fit)
      (r'.acceptSingle routeId sequence bytes fit) := by
  have hp := prepareSequence_cases r routeId sequence false nofun
  have hp' := prepareSequence_cases r' routeId sequence false nofun
  dsimp only [FastReassembler.acceptSingle]
  generalize r.prepareSequence routeId sequence false = p at hp ⊢
  generalize r'.prepareSequence routeId sequence false = p' at hp' ⊢
  obtain ⟨status, r₀⟩ := p
  obtain ⟨status', r₀'⟩ := p'
  obtain ⟨rfl, hsame⟩ := hp.same h hp'
  dsimp only
  split
  · exact ⟨rfl, rfl, hsame⟩
  · rename_i hok
    obtain rfl := not_not.mp hok
    refine ⟨rfl, ?_, same_of_inactive ⟨rfl, rfl, rfl⟩ hp.inactive hp'.inactive⟩
    simp [complete, toList_copyAt]

/-- Storing a fragment in the same active messages. -/
theorem SameActive.storeFragment (h : SameActive r r') (hhistory : SameHistory r r')
    (hactive : r'.active = r.active) (hpacked : r.buffer.Packed kFragmentPayload f.count)
    (hlength : f.bytes.length ≤ kFragmentPayload ∧ (f.index + 1 < f.count → f.bytes.length =
      kFragmentPayload)) : Alike (r.storeFragment f) (r'.storeFragment f) := by
  have hindex : f.index < 16 := Nat.lt_of_lt_of_le f.index_lt f.count_le
  have hw : 0 < kFragmentPayload := by decide
  unfold FastReassembler.storeFragment
  rw [← h.buffer.has_eq]
  split
  · exact ⟨rfl, rfl, ⟨hhistory.1, hhistory.2, hhistory.3⟩, hactive,
      fun _ => ⟨h.1, h.2, h.3, h.4⟩⟩
  · split
    · exact ⟨rfl, rfl, same_of_inactive ⟨hhistory.1, hhistory.2, hhistory.3⟩ rfl rfl⟩
    · rename_i hfit
      have hagree := h.buffer.store hw hindex hlength.1 (Nat.not_lt.mp hfit)
      have hstored := hpacked.store hindex hlength.2 hlength.1 (Nat.not_lt.mp hfit)
      have hfullEq : (r'.buffer.store kFragmentPayload f.index f.bytes
          (Nat.not_lt.mp hfit)).isFull f.count =
          (r.buffer.store kFragmentPayload f.index f.bytes (Nat.not_lt.mp hfit)).isFull f.count := by
        rw [isFull, isFull, hagree.mask]
      dsimp only
      rw [hfullEq]
      split
      · exact ⟨rfl, rfl, ⟨hhistory.1, hhistory.2, hhistory.3⟩, hactive,
          fun _ => ⟨h.1, h.2, h.3, hagree⟩⟩
      · rename_i hfull
        have hcontents := hagree.contents_eq hw hstored (Bool.not_eq_false _ ▸ hfull)
        refine ⟨rfl, ?_, same_of_inactive ⟨rfl, h.1, h.2⟩ rfl rfl⟩
        change (⟨r'.routeId, r'.sequence, _⟩ : ReassembledMessage) = ⟨r.routeId, r.sequence, _⟩
        rw [h.routeId, h.sequence]
        exact congrArg _ hcontents.symm

theorem Same.acceptFragment (h : Same r r') (hr : r.Inv)
    (hlength : f.bytes.length ≤ kFragmentPayload ∧ (f.index + 1 < f.count → f.bytes.length =
      kFragmentPayload)) : Alike (r.acceptFragment f) (r'.acceptFragment f) := by
  unfold FastReassembler.acceptFragment
  simp only [← not_continues_iff, h.continues_iff]
  split
  · rename_i hnew
    have hp := prepareSequence_cases r f.routeId f.sequence true fun _ => hnew
    have hp' := prepareSequence_cases r' f.routeId f.sequence true
      fun _ => mt (h.continues_iff _ _).mp hnew
    generalize r.prepareSequence f.routeId f.sequence true = p at hp ⊢
    generalize r'.prepareSequence f.routeId f.sequence true = p' at hp' ⊢
    obtain ⟨status, r₀⟩ := p
    obtain ⟨status', r₀'⟩ := p'
    obtain ⟨rfl, hsame⟩ := hp.same h hp'
    dsimp only
    split
    · exact ⟨rfl, rfl, hsame⟩
    · have hbegun : SameActive (r₀.activate f) (r₀'.activate f) :=
        ⟨rfl, rfl, rfl, agree_clear _ _ _⟩
      exact hbegun.storeFragment ⟨hsame.history.1, hsame.history.2, hsame.history.3⟩ rfl
        (packed_clear _ _ _) hlength
  · rename_i hcontinues
    have hactive := (not_not.mp hcontinues).1
    rw [(h.assembling hactive).fragmentCount]
    split
    · exact ⟨rfl, rfl, same_of_inactive ⟨h.history.1, h.history.2, h.history.3⟩ rfl rfl⟩
    · rename_i hcount
      have hpacked := (hr hactive).packed
      rw [not_not.mp hcount] at hpacked
      exact (h.assembling hactive).storeFragment h.history h.active hpacked hlength

/-- Reassemblers that are the same answer alike and stay the same. -/
theorem Same.accept (h : Same r r') (hr : r.Inv) (frame : CanFrame) :
    Alike (r.accept frame) (r'.accept frame) := by
  unfold FastReassembler.accept
  cases hparse : parseFrame maxSize frame with
  | none =>
    refine ⟨rfl, rfl, ⟨h.history.1, h.history.2, h.history.3⟩, h.active, fun hactive => ?_⟩
    have hsame := h.assembling hactive
    exact ⟨hsame.1, hsame.2, hsame.3, hsame.4⟩
  | some parsed =>
    cases parsed with
    | single routeId sequence bytes fit => exact h.acceptSingle routeId sequence fit
    | fragment f => exact h.acceptFragment hr (fragment_of_parseFrame hparse).1

theorem Same.answers_eq (h : Same r r') (hr : r.Inv) (calls : List FastCall) :
    r'.answers calls = r.answers calls := by
  symm
  refine Machine.outputs_eq_of_simulation call (R := fun r r' => r.Inv ∧ Same r r') ?_ ?_
    ⟨hr, h⟩ calls
  · rintro s t c ⟨hs, hst⟩
    cases c with
    | accept frame =>
      have halike := hst.accept hs frame
      simp only [answer, halike.status, halike.message]
    | resetHistory => rfl
  · rintro s t c ⟨hs, hst⟩
    refine ⟨inv_call s c hs, ?_⟩
    cases c with
    | accept frame => exact (hst.accept hs frame).same
    | resetHistory => exact same_of_inactive ⟨rfl, rfl, rfl⟩ rfl rfl

/-! ## Invalid frames -/

/-- The active message is told apart from none by a single frame of its own route and sequence. -/
theorem answers_ne_of_active (hactive : r.active = true) (hr : r.ActiveInv)
    (hactive' : r'.active = false) (hhistory : SameHistory r r') :
    ∃ calls, r'.answers calls ≠ r.answers calls := by
  obtain ⟨frameId, id, hid, hroute⟩ := hr.route
  refine ⟨[.accept (fastSingleFrame frameId r.sequence [])], fun heq => ?_⟩
  have hparse := parseFrame_single hid hr.sequence (p := []) (Nat.zero_le 7)
    (Nat.zero_le maxSize)
  have hstatus : (r.accept (fastSingleFrame frameId r.sequence [])).status = .unavailable := by
    rw [accept, hparse]
    dsimp only [acceptSingle]
    rw [prepareSequence, if_pos hactive, if_neg (not_not.mpr hroute), if_pos rfl]
    rfl
  have hstatus' : (r'.accept (fastSingleFrame frameId r.sequence [])).status = .ok := by
    have hfresh := (hhistory.fresh_iff _ _).mpr hr.fresh
    rw [accept, hparse]
    dsimp only [acceptSingle]
    rw [prepareSequence_of_inactive hactive', hroute, prepareAfterLast_of_fresh hfresh]
    rfl
  have := congrArg (fun l => l.map fun a => a.map Prod.fst) heq
  simp [answers, answer, hstatus, hstatus'] at this

/-- What `Accept` leaves behind after a frame that it calls invalid. -/
theorem accept_invalid_cases (h : (r.accept frame).status = .invalidArgument) :
    (parseFrame maxSize frame = none ∧ Same r (r.accept frame).reassembler) ∨
    (parseFrame maxSize frame ≠ none ∧ (r.accept frame).reassembler.active = false ∧
      SameHistory r (r.accept frame).reassembler) := by
  have haccepted := accept_cases r frame
  generalize r.accept frame = result at haccepted h ⊢
  cases haccepted with
  | malformed stats hparse => exact .inl ⟨hparse, same_stats r stats⟩
  | refusedSingle _ _ _ => cases h
  | single _ _ _ _ _ _ _ _ => cases h
  | refusedFragment _ _ _ _ => cases h
  | begun hparse _ _ _ hhistory hstored =>
    cases hstored with
    | tooLong stats _ _ =>
      exact .inr ⟨by rw [hparse]; nofun, rfl, ⟨hhistory.1, hhistory.2, hhistory.3⟩⟩
    | duplicate _ _ => cases h
    | kept _ _ _ _ => cases h
    | completed _ _ _ _ => cases h
  | mismatched stats hparse _ _ => exact .inr ⟨by rw [hparse]; nofun, rfl, ⟨rfl, rfl, rfl⟩⟩
  | continued hparse _ _ hstored =>
    cases hstored with
    | tooLong stats _ _ => exact .inr ⟨by rw [hparse]; nofun, rfl, ⟨rfl, rfl, rfl⟩⟩
    | duplicate _ _ => cases h
    | kept _ _ _ _ => cases h
    | completed _ _ _ _ => cases h

/-- A frame that `Accept` calls invalid goes unnoticed if and only if it fails the checks on the
    frame alone or no message is being reassembled. -/
theorem answers_eq_iff (maxSize : Nat) (earlier : List FastCall) (frame : CanFrame)
    (h : ((Machine.run call ({} : FastReassembler maxSize) earlier).accept frame).status =
      .invalidArgument) :
    (∀ later, (Machine.run call ({} : FastReassembler maxSize)
        (earlier ++ [.accept frame])).answers later =
      (Machine.run call ({} : FastReassembler maxSize) earlier).answers later) ↔
    parseFrame maxSize frame = none ∨
      (Machine.run call ({} : FastReassembler maxSize) earlier).active = false := by
  have hr : (Machine.run call ({} : FastReassembler maxSize) earlier).Inv :=
    Machine.run_invariant call inv_call (inv_of_inactive rfl) earlier
  rw [Machine.run_append]
  generalize Machine.run call ({} : FastReassembler maxSize) earlier = r at h hr ⊢
  change (∀ later, (r.accept frame).reassembler.answers later = r.answers later) ↔ _
  rcases accept_invalid_cases h with ⟨hparse, hsame⟩ | ⟨hparse, hinactive, hhistory⟩
  · exact ⟨fun _ => .inl hparse, fun _ => hsame.answers_eq hr⟩
  · rw [or_iff_right hparse]
    constructor
    · intro hall
      by_contra hactive
      have hactive := Bool.not_eq_false _ ▸ hactive
      obtain ⟨calls, hne⟩ := answers_ne_of_active hactive (hr hactive) hinactive hhistory
      exact hne (hall calls)
    · intro hactive
      exact (same_of_inactive hhistory hactive hinactive).answers_eq hr

/-- Fragment `index` of `count` with six bytes, on route 8 with sequence 5. -/
def sampleFragment (count index : Nat) : CanFrame :=
  fastFragmentFrame 8 5 count index [1, 2, 3, 4, 5, 6]

/-- A fragment that contradicts the number of fragments is invalid, and the active message is lost
    with it: its second half completes the message only without that fragment. -/
theorem active_message_lost :
    let r : FastReassembler 16 := Machine.run call {} [.accept (sampleFragment 2 0)]
    (r.accept (sampleFragment 3 0)).status = .invalidArgument ∧
      r.answers [.accept (sampleFragment 2 1)] =
        [some (.ok, ⟨8, 5, [1, 2, 3, 4, 5, 6, 1, 2, 3, 4, 5, 6]⟩)] ∧
      (r.call (.accept (sampleFragment 3 0))).answers [.accept (sampleFragment 2 1)] =
        [some (.unavailable, {})] := by
  decide +kernel

/-- A frame without bytes goes unnoticed while a message is being reassembled. -/
theorem empty_frame_unnoticed :
    ((Machine.run call ({} : FastReassembler 16) [.accept (sampleFragment 2 0)]).accept {}).status =
        .invalidArgument ∧
      ∀ later, (Machine.run call ({} : FastReassembler 16)
          ([.accept (sampleFragment 2 0)] ++ [.accept {}])).answers later =
        (Machine.run call ({} : FastReassembler 16) [.accept (sampleFragment 2 0)]).answers
          later := by
  have hinvalid : ((Machine.run call ({} : FastReassembler 16)
      [.accept (sampleFragment 2 0)]).accept {}).status = .invalidArgument := by
    decide +kernel
  exact ⟨hinvalid, (answers_eq_iff 16 _ {} hinvalid).mpr (.inl rfl)⟩

end FastReassembler

end AsterCtrl.Can
