import AsterCtrl.Spec.Can.ReliableReceiverCorrect

/-!
# A message that arrives in order

The receiver decides about a message at its first fragment: whether the sequence is inside the
windows of what it completed last and of what it is reassembling.  A message that is let in
and whose fragments then arrive in order is stored fragment by fragment and returned with the
last one, not earlier and not later.

## Key results

- `accept_in_order`: what each fragment of such a message does
-/

namespace AsterCtrl.Can.ReliableReceiver

variable {maxSize : Nat}

/-- A message with this sequence is new to the receiver and will be let in. -/
structure Ready (r : ReliableReceiver maxSize) (frameId : UInt16)
    (sequence : UInt8) : Prop where
  fresh : ¬ r.Remembers frameId sequence
  separate : ¬ r.Continues frameId sequence
  activeWindow : InActiveWindow r frameId sequence
  completedWindow : InCompletedWindow r frameId sequence

instance (r : ReliableReceiver maxSize) (frameId : UInt16) (sequence : UInt8) :
    Decidable (r.Ready frameId sequence) :=
  haveI : Decidable (r.Remembers frameId sequence) :=
    inferInstanceAs (Decidable (_ ∧ _ ∧ _))
  haveI : Decidable (InActiveWindow r frameId sequence) :=
    inferInstanceAs (Decidable (_ → _ → _))
  haveI : Decidable (InCompletedWindow r frameId sequence) :=
    inferInstanceAs (Decidable (_ → _ → _))
  decidable_of_iff (¬ r.Remembers frameId sequence ∧ ¬ r.Continues frameId sequence ∧
      InActiveWindow r frameId sequence ∧ InCompletedWindow r frameId sequence)
    ⟨fun ⟨h1, h2, h3, h4⟩ => ⟨h1, h2, h3, h4⟩, fun ⟨h1, h2, h3, h4⟩ => ⟨h1, h2, h3, h4⟩⟩

/-- Fragments `0 .. k - 1` of the message `p` have arrived, in order, and nothing else. -/
structure Receiving (r : ReliableReceiver maxSize) (frameId : UInt16)
    (sequence : UInt8) (p : List UInt8) (k : Nat) : Prop where
  inv : r.Inv
  fresh : ¬ r.Remembers frameId sequence
  ready : k = 0 → r.Ready frameId sequence
  stored : 0 < k → r.Assembles frameId sequence p ∧
    ∀ j, r.buffer.has j = true ↔ j < k

variable {r : ReliableReceiver maxSize} {frameId : UInt16} {sequence : UInt8}

theorem receiving_of_ready (hinv : r.Inv) (h : r.Ready frameId sequence) (p : List UInt8) :
    r.Receiving frameId sequence p 0 :=
  ⟨hinv, h.fresh, fun _ => h, fun hpos => absurd hpos (Nat.lt_irrefl 0)⟩

/-- What the receiver holds under the sequence are the fragments that have arrived. -/
theorem Receiving.lt_of_has {p : List UInt8} {k : Nat} (h : r.Receiving frameId sequence p k)
    (hcont : r.Continues frameId sequence) {j : Nat} (hj : r.buffer.has j = true) : j < k := by
  rcases Nat.eq_zero_or_pos k with hk | hk
  · exact absurd hcont (h.ready hk).separate
  · exact ((h.stored hk).2 j).mp hj

/-- The next fragment in order is stored, and the last one returns the message. -/
theorem accept_in_order (hid : (CanArbitrationId.decode frameId).isSome) (hseq : sequence ≤ 0x0f)
    {p : List UInt8} (hfit : p.length ≤ maxSize)
    (hcount : fragmentsOf kFragmentPayload p.length ≤ 16) {k : Nat}
    (hk : k < fragmentsOf kFragmentPayload p.length) (h : r.Receiving frameId sequence p k) :
    let result := r.accept (dataFrame frameId sequence
      (fragmentsOf kFragmentPayload p.length) k (fragmentAt kFragmentPayload p k))
    (k + 1 < fragmentsOf kFragmentPayload p.length ∧ result.1.status ≠ .ok ∧
      result.1.acknowledgement = {} ∧ result.2.Receiving frameId sequence p (k + 1)) ∨
    (k + 1 = fragmentsOf kFragmentPayload p.length ∧ result.1.status = .ok ∧
      result.1.message.sequence = sequence ∧ result.1.message.payload = p ∧
      result.1.acknowledgement = ackFrame frameId sequence) := by
  intro result
  have hact : r.Continues frameId sequence → r.Assembles frameId sequence p := by
    intro hcont
    rcases Nat.eq_zero_or_pos k with hzero | hpos
    · exact absurd hcont (h.ready hzero).separate
    · exact (h.stored hpos).1
  have hinv : result.2.Inv := (receive_spec h.inv _ none).2
  cases receive_part_cases h.inv hid hseq hfit hcount hk hact none with
  | dropped _ _ _ reason =>
    -- Neither the time nor a window can be the reason.
    refine absurd ?_ (reason.resolve_left (not_not_intro trivial))
    rcases Nat.eq_zero_or_pos k with hzero | hpos
    · exact .inr ⟨(h.ready hzero).activeWindow, (h.ready hzero).completedWindow⟩
    · exact .inl (h.stored hpos).1.continues
  | duplicate _ _ remembers => exact absurd remembers h.fresh
  | completed status messageSequence payload acknowledgement _ _ _ full =>
    refine .inr ⟨?_, status, messageSequence, payload, acknowledgement⟩
    refine Nat.le_antisymm hk (Nat.not_lt.mp fun hlt => ?_)
    rcases full (k + 1) hlt with heq | ⟨hcont, hhas⟩
    · omega
    · have := h.lt_of_has hcont hhas
      omega
  | stored status acknowledgement history assembles has grows only =>
    have hasm : result.2.Assembles frameId sequence p := assembles
    have hstored : ∀ j, result.2.buffer.has j = true ↔ j < k + 1 := by
      intro j
      constructor
      · intro hj
        rcases only j hj with rfl | ⟨hcont, hhas⟩
        · exact Nat.lt_succ_self _
        · exact Nat.lt_succ_of_lt (h.lt_of_has hcont hhas)
      · intro hj
        rcases Nat.lt_succ_iff_lt_or_eq.mp hj with hlt | rfl
        · obtain ⟨before, hhas⟩ := h.stored (Nat.zero_lt_of_lt hlt)
          exact grows trivial before.continues j ((hhas j).mpr hlt)
        · exact has
    refine .inl ⟨?_, status, acknowledgement, hinv, ?_, nofun, fun _ => ⟨hasm, hstored⟩⟩
    · -- With the last fragment the buffer would be full.
      refine Nat.lt_of_le_of_ne hk fun hlast => ?_
      have hpart := hinv.partway hasm.continues.1
      rw [← Bool.not_eq_true] at hpart
      refine hpart (FragmentBuffer.isFull_iff.mpr fun j => ?_)
      rw [hasm.fragmentCount, ← hlast, Bool.eq_iff_iff, hstored, decide_eq_true_iff]
    · exact fun hrem => h.fresh ((history.remembers_iff _ _).mp hrem)

end AsterCtrl.Can.ReliableReceiver
