import AsterCtrl.Spec.Can.FastPathCorrect

/-!
# The steps of the fast reassembler

What one `FastReassembler::Accept` can do, said once: `PrepareSequence` lets a sequence through or
not, and a fragment that is let through is stored.  The counters have no influence on anything, so
they are left open.

## Key results

- `prepareSequence_cases`: the outcomes of `PrepareSequence`
- `storeFragment_cases`: the outcomes of storing a fragment
- `accept_cases`: the outcomes of `Accept`
-/

namespace AsterCtrl.Can

namespace FastReassembler

variable {maxSize : Nat}

/-! ## Sequences -/

/-- The message completed last does not stand in the way of this one. -/
def Fresh (r : FastReassembler maxSize) (routeId : UInt16) (sequence : UInt8) : Prop :=
  r.hasLastSequence = false ∨ r.lastRouteId ≠ routeId ∨
    distance r.lastSequence sequence ≠ 0 ∧ distance r.lastSequence sequence ≤ 31

/-- The active message stands in the way of this one. -/
def Blocked (r : FastReassembler maxSize) (routeId : UInt16) (sequence : UInt8) : Prop :=
  r.active = true ∧ r.routeId = routeId ∧
    (r.sequence = sequence ∨ distance r.sequence sequence > 31)

/-- Both remember the same message as the one completed last. -/
structure SameHistory (r r' : FastReassembler maxSize) : Prop where
  hasLastSequence : r'.hasLastSequence = r.hasLastSequence
  lastRouteId : r'.lastRouteId = r.lastRouteId
  lastSequence : r'.lastSequence = r.lastSequence

theorem SameHistory.refl (r : FastReassembler maxSize) : SameHistory r r := ⟨rfl, rfl, rfl⟩

theorem sameHistory_supersedeActive (r : FastReassembler maxSize) :
    SameHistory r r.supersedeActive := by
  unfold supersedeActive
  split <;> exact ⟨rfl, rfl, rfl⟩

variable {r : FastReassembler maxSize}

theorem SameHistory.fresh_iff {r' : FastReassembler maxSize} (h : SameHistory r r')
    (routeId : UInt16) (sequence : UInt8) :
    r'.Fresh routeId sequence ↔ r.Fresh routeId sequence := by
  rw [Fresh, Fresh, h.hasLastSequence, h.lastRouteId, h.lastSequence]

variable {routeId : UInt16} {sequence : UInt8}

theorem prepareAfterLast_of_fresh (h : r.Fresh routeId sequence) :
    r.prepareAfterLast routeId sequence = (.ok, r) := by
  unfold prepareAfterLast
  split
  · rfl
  · rename_i hlast
    obtain ⟨hhas, hroute⟩ := not_or.mp hlast
    obtain ⟨hne, hle⟩ := (h.resolve_left hhas).resolve_left hroute
    rw [if_neg hne, if_neg (UInt8.not_lt.mpr hle)]

theorem prepareAfterLast_of_not_fresh (h : ¬ r.Fresh routeId sequence) :
    ∃ stats, r.prepareAfterLast routeId sequence = (.unavailable, { r with stats := stats }) := by
  unfold Fresh at h
  unfold prepareAfterLast
  split
  · rename_i hlast
    exact absurd (hlast.imp_right .inl) h
  · split
    · exact ⟨_, rfl⟩
    · rename_i hne
      split
      · exact ⟨_, rfl⟩
      · rename_i hle
        exact absurd (.inr (.inr ⟨hne, UInt8.not_lt.mp hle⟩)) h

theorem prepareSequence_of_inactive (h : r.active = false) (routeId : UInt16) (sequence : UInt8)
    (allowed : Bool) :
    r.prepareSequence routeId sequence allowed = r.prepareAfterLast routeId sequence := by
  rw [prepareSequence, if_neg (Bool.eq_false_iff.mp h)]

/-- The outcomes of `PrepareSequence` for a message that is not being continued. -/
inductive Prepared (r : FastReassembler maxSize) (routeId : UInt16) (sequence : UInt8) :
    Status × FastReassembler maxSize → Prop where
  /-- The active message stands in the way and stays. -/
  | blocked (stats : FastReassemblyStats) (hblocked : r.Blocked routeId sequence) :
      Prepared r routeId sequence (.unavailable, { r with stats := stats })
  /-- The active message is given up for nothing. -/
  | stale (r₀ : FastReassembler maxSize) (hblocked : ¬ r.Blocked routeId sequence)
      (hfresh : ¬ r.Fresh routeId sequence) (hactive : r₀.active = false)
      (hhistory : SameHistory r r₀) : Prepared r routeId sequence (.unavailable, r₀)
  /-- There is room for the message. -/
  | admitted (r₀ : FastReassembler maxSize) (hblocked : ¬ r.Blocked routeId sequence)
      (hfresh : r.Fresh routeId sequence) (hactive : r₀.active = false)
      (hhistory : SameHistory r r₀) : Prepared r routeId sequence (.ok, r₀)

theorem prepared_afterLast {r₀ : FastReassembler maxSize} (hblocked : ¬ r.Blocked routeId sequence)
    (hactive : r₀.active = false) (hhistory : SameHistory r r₀) :
    Prepared r routeId sequence (r₀.prepareAfterLast routeId sequence) := by
  by_cases hfresh : r₀.Fresh routeId sequence
  · rw [prepareAfterLast_of_fresh hfresh]
    exact .admitted r₀ hblocked ((hhistory.fresh_iff _ _).mp hfresh) hactive hhistory
  · obtain ⟨stats, heq⟩ := prepareAfterLast_of_not_fresh hfresh
    rw [heq]
    exact .stale _ hblocked (mt (hhistory.fresh_iff _ _).mpr hfresh) hactive
      ⟨hhistory.1, hhistory.2, hhistory.3⟩

theorem prepareSequence_cases (r : FastReassembler maxSize) (routeId : UInt16)
    (sequence : UInt8) (allowed : Bool) (h : allowed = true → ¬ r.Continues routeId sequence) :
    Prepared r routeId sequence (r.prepareSequence routeId sequence allowed) := by
  unfold prepareSequence
  split
  · rename_i hactive
    split
    · rename_i hroute
      exact prepared_afterLast (fun hb => hroute hb.2.1.symm) rfl (sameHistory_supersedeActive r)
    · rename_i hroute
      have hroute := (not_not.mp hroute).symm
      split
      · rename_i hsequence
        rw [if_neg fun hallowed => h hallowed ⟨hactive, hroute, hsequence.symm⟩]
        exact .blocked _ ⟨hactive, hroute, .inl hsequence.symm⟩
      · rename_i hsequence
        split
        · rename_i hdistance
          exact .blocked _ ⟨hactive, hroute, .inr hdistance⟩
        · rename_i hdistance
          refine prepared_afterLast ?_ rfl (sameHistory_supersedeActive r)
          rintro ⟨-, -, heq | hgt⟩
          · exact hsequence heq.symm
          · exact hdistance hgt
  · rename_i hactive
    exact prepared_afterLast (fun hb => hactive hb.1) (Bool.not_eq_true _ ▸ hactive) (.refl r)

/-! ## Fragments -/

/-- The outcomes of storing a fragment in the active message. -/
inductive Stored (r : FastReassembler maxSize) (f : FastFragment) :
    FastResult maxSize → Prop where
  | duplicate (stats : FastReassemblyStats) (hhas : r.buffer.has f.index = true) :
      Stored r f ⟨.unavailable, {}, { r with stats := stats }⟩
  | tooLong (stats : FastReassemblyStats) (hhas : r.buffer.has f.index = false)
      (hlong : f.index * kFragmentPayload + f.bytes.length > maxSize) :
      Stored r f ⟨.invalidArgument, {}, { r.reset with stats := stats }⟩
  | kept (stats : FastReassemblyStats) (hhas : r.buffer.has f.index = false)
      (hfit : f.index * kFragmentPayload + f.bytes.length ≤ maxSize)
      (hfull : (r.buffer.store kFragmentPayload f.index f.bytes hfit).isFull f.count = false) :
      Stored r f ⟨.unavailable, {},
        { r with buffer := r.buffer.store kFragmentPayload f.index f.bytes hfit, stats := stats }⟩
  | completed (stats : FastReassemblyStats) (hhas : r.buffer.has f.index = false)
      (hfit : f.index * kFragmentPayload + f.bytes.length ≤ maxSize)
      (hfull : (r.buffer.store kFragmentPayload f.index f.bytes hfit).isFull f.count = true) :
      Stored r f ⟨.ok,
        ⟨r.routeId, r.sequence,
          (r.buffer.store kFragmentPayload f.index f.bytes hfit).contents f.count⟩,
        { r with
          buffer := (r.buffer.store kFragmentPayload f.index f.bytes hfit).clearMask
          active := false
          fragmentCount := 0
          hasLastSequence := true
          lastRouteId := r.routeId
          lastSequence := r.sequence
          stats := stats }⟩

theorem storeFragment_cases (r : FastReassembler maxSize) (f : FastFragment) :
    Stored r f (r.storeFragment f) := by
  unfold storeFragment
  split
  · rename_i hhas
    exact .duplicate _ hhas
  · rename_i hhas
    have hhas := Bool.not_eq_true _ ▸ hhas
    split
    · rename_i hlong
      exact .tooLong _ hhas hlong
    · rename_i hfit
      dsimp only
      split
      · rename_i hfull
        exact .kept _ hhas (Nat.not_lt.mp hfit) hfull
      · rename_i hfull
        exact .completed _ hhas (Nat.not_lt.mp hfit) (Bool.not_eq_false _ ▸ hfull)

/-! ## Accept -/

/-- The outcomes of `Accept`. -/
inductive Accepted (r : FastReassembler maxSize) (frame : CanFrame) :
    FastResult maxSize → Prop where
  /-- The frame is refused for itself. -/
  | malformed (stats : FastReassemblyStats) (hparse : parseFrame maxSize frame = none) :
      Accepted r frame ⟨.invalidArgument, {}, { r with stats := stats }⟩
  /-- The sequence of a single frame is refused. -/
  | refusedSingle {routeId : UInt16} {sequence : UInt8} {bytes : List UInt8}
      {fit : bytes.length ≤ maxSize} (r₀ : FastReassembler maxSize)
      (hparse : parseFrame maxSize frame = some (.single routeId sequence bytes fit))
      (hprepared : Prepared r routeId sequence (.unavailable, r₀)) :
      Accepted r frame ⟨.unavailable, {}, r₀⟩
  /-- A single frame is a message. -/
  | single {routeId : UInt16} {sequence : UInt8} {bytes : List UInt8}
      {fit : bytes.length ≤ maxSize} (r₁ : FastReassembler maxSize)
      (hparse : parseFrame maxSize frame = some (.single routeId sequence bytes fit))
      (hblocked : ¬ r.Blocked routeId sequence) (hfresh : r.Fresh routeId sequence)
      (hactive : r₁.active = false) (hhas : r₁.hasLastSequence = true)
      (hroute : r₁.lastRouteId = routeId) (hsequence : r₁.lastSequence = sequence) :
      Accepted r frame ⟨.ok, ⟨routeId, sequence, bytes⟩, r₁⟩
  /-- The sequence of the first fragment of a message is refused. -/
  | refusedFragment {f : FastFragment} (r₀ : FastReassembler maxSize)
      (hparse : parseFrame maxSize frame = some (.fragment f))
      (hcontinues : ¬ r.Continues f.routeId f.sequence)
      (hprepared : Prepared r f.routeId f.sequence (.unavailable, r₀)) :
      Accepted r frame ⟨.unavailable, {}, r₀⟩
  /-- A fragment begins a message. -/
  | begun {f : FastFragment} {r₀ : FastReassembler maxSize}
      {result : FastResult maxSize}
      (hparse : parseFrame maxSize frame = some (.fragment f))
      (hcontinues : ¬ r.Continues f.routeId f.sequence)
      (hblocked : ¬ r.Blocked f.routeId f.sequence) (hfresh : r.Fresh f.routeId f.sequence)
      (hhistory : SameHistory r r₀) (hstored : Stored (r₀.activate f) f result) :
      Accepted r frame result
  /-- A fragment of the active message has another number of fragments. -/
  | mismatched {f : FastFragment} (stats : FastReassemblyStats)
      (hparse : parseFrame maxSize frame = some (.fragment f))
      (hcontinues : r.Continues f.routeId f.sequence) (hcount : r.fragmentCount ≠ f.count) :
      Accepted r frame ⟨.invalidArgument, {}, { r.reset with stats := stats }⟩
  /-- A fragment continues the active message. -/
  | continued {f : FastFragment} {result : FastResult maxSize}
      (hparse : parseFrame maxSize frame = some (.fragment f))
      (hcontinues : r.Continues f.routeId f.sequence) (hcount : r.fragmentCount = f.count)
      (hstored : Stored r f result) : Accepted r frame result

theorem not_continues_iff :
    ¬ r.Continues routeId sequence ↔
      r.active = false ∨ r.routeId ≠ routeId ∨ r.sequence ≠ sequence := by
  simp only [Continues, not_and_or, Bool.not_eq_true, ne_eq]

theorem accept_cases (r : FastReassembler maxSize) (frame : CanFrame) :
    Accepted r frame (r.accept frame) := by
  unfold accept
  cases hparse : parseFrame maxSize frame with
  | none => exact .malformed _ hparse
  | some parsed =>
    cases parsed with
    | single routeId sequence bytes fit =>
      dsimp only [acceptSingle]
      have hprepared := prepareSequence_cases r routeId sequence false nofun
      generalize r.prepareSequence routeId sequence false = p at hprepared ⊢
      cases hprepared with
      | blocked stats hblocked =>
        rw [if_pos (by simp)]
        exact .refusedSingle _ hparse (.blocked stats hblocked)
      | stale r₀ hblocked hfresh hactive hhistory =>
        rw [if_pos (by simp)]
        exact .refusedSingle r₀ hparse (.stale r₀ hblocked hfresh hactive hhistory)
      | admitted r₀ hblocked hfresh hactive hhistory =>
        rw [if_neg (by simp)]
        have hmessage : (FragmentBuffer.copyAt r₀.buffer.bytes 0 bytes
            (by rw [Nat.zero_add]; exact fit)).toList.take bytes.length = bytes := by
          simp [FragmentBuffer.toList_copyAt]
        dsimp only [complete]
        rw [hmessage]
        exact .single _ hparse hblocked hfresh hactive rfl rfl rfl
    | fragment f =>
      dsimp only [acceptFragment]
      split
      · rename_i hnew
        have hcontinues := not_continues_iff.mpr hnew
        have hprepared := prepareSequence_cases r f.routeId f.sequence true fun _ => hcontinues
        generalize r.prepareSequence f.routeId f.sequence true = p at hprepared ⊢
        cases hprepared with
        | blocked stats hblocked =>
          rw [if_pos (by simp)]
          exact .refusedFragment _ hparse hcontinues (.blocked stats hblocked)
        | stale r₀ hblocked hfresh hactive hhistory =>
          rw [if_pos (by simp)]
          exact .refusedFragment r₀ hparse hcontinues (.stale r₀ hblocked hfresh hactive hhistory)
        | admitted r₀ hblocked hfresh hactive hhistory =>
          rw [if_neg (by simp)]
          exact .begun hparse hcontinues hblocked hfresh hhistory (storeFragment_cases _ f)
      · rename_i hnew
        have hcontinues : r.Continues f.routeId f.sequence :=
          Decidable.not_not.mp (mt not_continues_iff.mp hnew)
        split
        · rename_i hcount
          exact .mismatched _ hparse hcontinues hcount
        · rename_i hcount
          exact .continued hparse hcontinues (not_not.mp hcount) (storeFragment_cases r f)

/-- What the checks on the frame alone say about a fragment: its length, its sequence and its
    route. -/
theorem fragment_of_parseFrame {frame : CanFrame} {f : FastFragment}
    (h : parseFrame maxSize frame = some (.fragment f)) :
    (f.bytes.length ≤ kFragmentPayload ∧
      (f.index + 1 < f.count → f.bytes.length = kFragmentPayload)) ∧ f.sequence ≤ 0x3f ∧
      ∃ id, CanArbitrationId.decode frame.arbitrationId = some id ∧ id.routeId = f.routeId := by
  have hmask : ∀ header : UInt8, header &&& 0x3f ≤ 0x3f := forall_uint8 (by decide +kernel)
  unfold parseFrame at h
  split at h
  · cases h
  · rename_i id hid
    split at h
    · cases h
    · rename_i hsize
      dsimp only at h
      split at h
      · split at h <;> cases h
      · split at h
        · cases h
        · split at h
          · cases h
          · rename_i hchecks
            cases h
            have hdata : ((frame.data.toList.drop 2).take (frame.size - 2)).length =
                frame.size - 2 := by
              rw [List.length_take, List.length_drop, Vector.length_toList]
              omega
            refine ⟨?_, hmask _, id, hid, rfl⟩
            dsimp only
            rw [hdata, kFragmentPayload]
            omega

end FastReassembler

end AsterCtrl.Can
