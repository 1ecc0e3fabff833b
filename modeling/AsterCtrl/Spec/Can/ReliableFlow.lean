import AsterCtrl.Native.Can.ReliableLink
import AsterCtrl.Spec.Can.ReliableReceiverCorrect
import Mathlib.Data.List.Basic

/-!
# One direction of the reliable path

A `ReliableFlow` is what the receiving half of any bridge over the reliable path amounts to:
the messages sent so far, the data frames in flight, the receiver, and what the receiver has
returned.  Message `i` has sequence `i mod 16`, and every frame in flight carries the index
of its message.  How the sender decides which frame to emit next does not matter here.

`FlowInv` needs no assumption on the run: it holds with any losses, any number of abandoned
messages and any sequence wrap-around.  What an assumption has to provide for a delivered
payload to be right is exactly the hypothesis of `FlowInv.part_cases`: a message that is
being reassembled under the sequence of the arriving frame is the message of that frame.

## Key results

- `FlowInv.begun`, `FlowInv.emitted`, `FlowInv.lost`, `FlowInv.received`: the steps of a flow
- `Windowed.received`: fewer than 16 messages after the last delivery nothing is mixed up
-/

namespace AsterCtrl.Can

open List

/-! ## Message sequences -/

theorem toNat_messageSequence (i : Nat) : (messageSequence i).toNat = i % 16 := by
  rw [messageSequence, UInt8.toNat_ofNat']
  omega

theorem messageSequence_le (i : Nat) : messageSequence i ≤ 0x0f := by
  rw [UInt8.le_iff_toNat_le, toNat_messageSequence]
  exact Nat.le_of_lt_succ (Nat.mod_lt _ (by decide))

theorem messageSequence_eq_iff {i j : Nat} :
    messageSequence i = messageSequence j ↔ i % 16 = j % 16 := by
  rw [← UInt8.toNat_inj, toNat_messageSequence, toNat_messageSequence]

theorem toNat_sequenceDistance_messageSequence {i j : Nat} (h : i ≤ j) :
    (sequenceDistance (messageSequence i) (messageSequence j)).toNat = (j - i) % 16 := by
  rw [toNat_sequenceDistance (messageSequence_le i) (messageSequence_le j),
    toNat_messageSequence, toNat_messageSequence]
  omega

/-- Two sequences are at most seven apart if the messages are. -/
theorem sequenceDistance_messageSequence_le {i j : Nat} (h : i ≤ j) (h7 : j ≤ i + 7) :
    sequenceDistance (messageSequence i) (messageSequence j) ≤ 7 := by
  rw [UInt8.le_iff_toNat_le, toNat_sequenceDistance_messageSequence h]
  simp only [UInt8.reduceToNat]
  omega

/-! ## Flows -/

/-- A payload that `Begin` accepts. -/
structure Sendable (maxSize : Nat) (p : List UInt8) : Prop where
  nonempty : p ≠ []
  fits : p.length ≤ maxSize
  count_le : fragmentsOf kFragmentPayload p.length ≤ 16

/-- The frame that carries fragment `k` of message `i` with payload `p`. -/
def messageFrame (frameId : UInt16) (i : Nat) (p : List UInt8) (k : Nat) : CanFrame :=
  dataFrame frameId (messageSequence i) (fragmentsOf kFragmentPayload p.length) k
    (fragmentAt kFragmentPayload p k)

theorem messageFrame_header (frameId : UInt16) (i : Nat) (p : List UInt8) (k : Nat) :
    (messageFrame frameId i p k).header &&& 0x0f = messageSequence i := by
  simp only [messageFrame, dataFrame, CanFrame.header_frameData]
  exact reliableHeader_and .data (messageSequence_le i)

theorem messageFrame_kind (frameId : UInt16) (i : Nat) (p : List UInt8) (k : Nat) :
    getFrameKind (messageFrame frameId i p k).header = .reliable := by
  simp only [messageFrame, dataFrame, CanFrame.header_frameData, getFrameKind_reliableHeader]

theorem messageFrame_subtype (frameId : UInt16) (i : Nat) (p : List UInt8) (k : Nat) :
    getReliableSubtype (messageFrame frameId i p k).header = .data := by
  simp only [messageFrame, dataFrame, CanFrame.header_frameData, getReliableSubtype_reliableHeader]

structure ReliableFlow (maxSize : Nat) where
  sent : List (List UInt8)
  data : List (Nat × CanFrame)
  receiver : ReliableReceiver maxSize
  lastSeen : Nat
  delivered : List (Nat × List UInt8)

/-- The message delivered last is number `k`. -/
def LastDelivered (delivered : List (Nat × List UInt8)) (k : Nat) : Prop :=
  ∃ p, delivered.getLast? = some (k, p)

namespace ReliableFlow

variable {maxSize : Nat}

/-- The oldest frame in flight, of message `i`, reached the receiver with this result. -/
def received (f : ReliableFlow maxSize) (i : Nat) (rest : List (Nat × CanFrame))
    (result : ReceiveResult × ReliableReceiver maxSize) : ReliableFlow maxSize :=
  { f with
    data := rest
    receiver := result.2
    lastSeen := i
    delivered := if result.1.status = .ok then f.delivered ++ [(i, result.1.message.payload)]
      else f.delivered }

/-- The index of the message delivered last, 0 before the first delivery. -/
def base (f : ReliableFlow maxSize) : Nat :=
  (f.delivered.getLast?.map Prod.fst).getD 0

/-- Unless nothing was delivered yet, `base` is delivered. -/
theorem lastDelivered_base {f : ReliableFlow maxSize} (h : f.delivered ≠ []) :
    LastDelivered f.delivered f.base := by
  obtain ⟨e, he⟩ := Option.ne_none_iff_exists'.mp (mt List.getLast?_eq_none_iff.mp h)
  refine ⟨e.2, ?_⟩
  rw [base, he]
  rfl

end ReliableFlow

/-- What holds of every flow on the arbitration id, whatever was lost or abandoned. -/
structure FlowInv {maxSize : Nat} (frameId : UInt16)
    (f : ReliableFlow maxSize) : Prop where
  receiver : f.receiver.Inv
  sendable : ∀ p ∈ f.sent, Sendable maxSize p
  lastSeen : f.lastSeen ≤ f.sent.length - 1
  frames : ∀ e ∈ f.data, f.lastSeen ≤ e.1 ∧ ∃ p k, f.sent[e.1]? = some p ∧
    k < fragmentsOf kFragmentPayload p.length ∧ e.2 = messageFrame frameId e.1 p k
  routed : f.data ≠ [] → (CanArbitrationId.decode frameId).isSome
  ordered : f.data.Pairwise fun e e' => e.1 ≤ e'.1
  delivered_lt : (f.delivered.map Prod.fst).Pairwise (· < ·)
  delivered_le : ∀ e ∈ f.delivered, e.1 ≤ f.lastSeen
  history : ∀ k, LastDelivered f.delivered k →
    f.receiver.Remembers frameId (messageSequence k)
  noHistory : f.delivered = [] → f.receiver.hasCompleted = false

namespace FlowInv

variable {maxSize : Nat} {frameId : UInt16} {f : ReliableFlow maxSize} {i : Nat} {frame : CanFrame}
  {rest : List (Nat × CanFrame)}

theorem initial (reassemblyTimeoutNs : UInt64) :
    FlowInv frameId (⟨[], [], { reassemblyTimeoutNs := reassemblyTimeoutNs }, 0, []⟩ :
      ReliableFlow maxSize) where
  receiver := ReliableReceiver.inv_default _
  sendable := by simp
  lastSeen := Nat.le_refl _
  frames := by simp
  routed := by simp
  ordered := .nil
  delivered_lt := .nil
  delivered_le := by simp
  history k h := by obtain ⟨p, hp⟩ := h; cases hp
  noHistory _ := rfl

/-- A new message is begun. -/
theorem begun (h : FlowInv frameId f) {p : List UInt8} (hp : Sendable maxSize p) :
    FlowInv frameId { f with sent := f.sent ++ [p] } where
  receiver := h.receiver
  sendable q hq := by
    rcases mem_append.mp hq with hq | hq
    · exact h.sendable q hq
    · rw [mem_singleton.mp hq]; exact hp
  lastSeen := by
    have := h.lastSeen
    simp only [length_append, length_singleton]
    omega
  frames e he := by
    obtain ⟨hle, q, k, hq, hk⟩ := h.frames e he
    exact ⟨hle, q, k, List.getElem?_append_left (List.getElem?_eq_some_iff.mp hq).1 ▸ hq, hk⟩
  routed := h.routed
  ordered := h.ordered
  delivered_lt := h.delivered_lt
  delivered_le := h.delivered_le
  history := h.history
  noHistory := h.noHistory

/-- The fragments `ks` of the last message are put on the bus. -/
theorem emitted (h : FlowInv frameId f)
    (hid : (CanArbitrationId.decode frameId).isSome) {p : List UInt8}
    (hp : f.sent[f.sent.length - 1]? = some p) (ks : List Nat)
    (hks : ∀ k ∈ ks, k < fragmentsOf kFragmentPayload p.length) :
    FlowInv frameId { f with data := f.data ++ ks.map fun k =>
      (f.sent.length - 1, messageFrame frameId (f.sent.length - 1) p k) } where
  receiver := h.receiver
  sendable := h.sendable
  lastSeen := h.lastSeen
  frames e he := by
    rcases mem_append.mp he with he | he
    · exact h.frames e he
    · obtain ⟨k, hk, rfl⟩ := mem_map.mp he
      exact ⟨h.lastSeen, p, k, hp, hks k hk, rfl⟩
  routed _ := hid
  ordered := by
    rw [pairwise_append]
    refine ⟨h.ordered, ?_, fun e he e' he' => ?_⟩
    · rw [pairwise_map]
      exact pairwise_of_forall fun _ _ => Nat.le_refl _
    · obtain ⟨-, q, -, hq, -⟩ := h.frames e he
      have := (List.getElem?_eq_some_iff.mp hq).1
      obtain ⟨k, -, rfl⟩ := mem_map.mp he'
      dsimp only
      omega
  delivered_lt := h.delivered_lt
  delivered_le := h.delivered_le
  history := h.history
  noHistory := h.noHistory

/-- Frames in flight are lost. -/
theorem lost (h : FlowInv frameId f) {data : List (Nat × CanFrame)}
    (hd : data.Sublist f.data) : FlowInv frameId { f with data := data } where
  receiver := h.receiver
  sendable := h.sendable
  lastSeen := h.lastSeen
  frames e he := h.frames e (hd.subset he)
  routed hne := h.routed fun hnil => hne (sublist_nil.mp (hnil ▸ hd))
  ordered := h.ordered.sublist hd
  delivered_lt := h.delivered_lt
  delivered_le := h.delivered_le
  history := h.history
  noHistory := h.noHistory

/-- The receiver gives up a message, or only changes its clock and counters. -/
theorem kept (h : FlowInv frameId f) {r : ReliableReceiver maxSize}
    (hk : f.receiver.Keeps r) : FlowInv frameId { f with receiver := r } where
  receiver := hk.inv h.receiver
  sendable := h.sendable
  lastSeen := h.lastSeen
  frames := h.frames
  routed := h.routed
  ordered := h.ordered
  delivered_lt := h.delivered_lt
  delivered_le := h.delivered_le
  history k hlast := (hk.history.remembers_iff _ _).mpr (h.history k hlast)
  noHistory hnone := hk.history.hasCompleted.trans (h.noHistory hnone)

theorem base_le (h : FlowInv frameId f) : f.base ≤ f.lastSeen := by
  unfold ReliableFlow.base
  cases hlast : f.delivered.getLast? with
  | none => exact Nat.zero_le _
  | some e => exact h.delivered_le e (mem_of_getLast? hlast)

/-- No delivered message is newer than the last one. -/
theorem le_base (h : FlowInv frameId f) : ∀ e ∈ f.delivered, e.1 ≤ f.base := by
  intro e he
  obtain ⟨l, last, hl⟩ : ∃ l last, f.delivered = l ++ [last] :=
    ⟨_, _, (dropLast_append_getLast (ne_nil_of_mem he)).symm⟩
  have hbase : f.base = last.1 := by rw [ReliableFlow.base, hl]; simp
  have hlt := h.delivered_lt
  rw [hl, map_append, pairwise_append] at hlt
  rw [hbase]
  rcases mem_append.mp (hl ▸ he) with he | he
  · exact Nat.le_of_lt (hlt.2.2 e.1 (mem_map_of_mem he) last.1 (by simp))
  · rw [mem_singleton.mp he]

/-- The receiver does not return the message it remembers a second time, so a delivery of
    message `i` is newer than all before it. -/
private theorem delivered_lt_of_fresh (h : FlowInv frameId f)
    (hi : f.lastSeen ≤ i)
    (hfresh : ¬ f.receiver.Remembers frameId (messageSequence i)) : ∀ e ∈ f.delivered, e.1 < i := by
  intro e he
  have hlast := ReliableFlow.lastDelivered_base (ne_nil_of_mem he)
  have hne : f.base ≠ i := fun heq => hfresh (heq ▸ h.history _ hlast)
  have hbase := h.base_le
  have := h.le_base e he
  omega

/-- The oldest frame in flight reaches the receiver. -/
theorem received (h : FlowInv frameId f) (hd : f.data = (i, frame) :: rest)
    (timeNs : Option UInt64) :
    FlowInv frameId (f.received i rest (f.receiver.receive frame timeNs)) := by
  obtain ⟨hseen, p, k, hp, hk, hframe⟩ := h.frames (i, frame) (by simp [hd])
  dsimp only at hseen hp hframe
  have hlt : i < f.sent.length := (List.getElem?_eq_some_iff.mp hp).1
  have hpw := h.ordered
  rw [hd, pairwise_cons] at hpw
  have harb : frame.arbitrationId = frameId := by rw [hframe]; rfl
  have hhead : frame.header &&& 0x0f = messageSequence i := by
    rw [hframe]
    exact messageFrame_header frameId i p k
  obtain ⟨hrec, hinv⟩ := ReliableReceiver.receive_spec h.receiver frame timeNs
  have hdl : ∀ e ∈ f.delivered, e.1 ≤ i := fun e he => (h.delivered_le e he).trans hseen
  have hframes : ∀ e ∈ rest, i ≤ e.1 ∧ ∃ p k, f.sent[e.1]? = some p ∧
      k < fragmentsOf kFragmentPayload p.length ∧ e.2 = messageFrame frameId e.1 p k :=
    fun e he => ⟨hpw.1 e he, (h.frames e (by simp [hd, he])).2⟩
  have hid : rest ≠ [] → (CanArbitrationId.decode frameId).isSome :=
    fun _ => h.routed (by simp [hd])
  -- without a delivery the remembered message is the old one
  have hquiet : (f.receiver.receive frame timeNs).1.status ≠ .ok →
      f.receiver.SameHistory (f.receiver.receive frame timeNs).2 →
      FlowInv frameId (f.received i rest (f.receiver.receive frame timeNs)) := by
    intro hst hhist
    rw [ReliableFlow.received, if_neg hst]
    exact ⟨hinv, h.sendable, by dsimp only; omega, hframes, hid, hpw.2, h.delivered_lt, hdl,
      fun k hlast => (hhist.remembers_iff _ _).mpr (h.history k hlast),
      fun hnone => hhist.hasCompleted.trans (h.noHistory hnone)⟩
  cases hrec with
  | quiet status _ history => exact hquiet status history
  | duplicate status _ _ history => exact hquiet (by rw [status]; exact nofun) history
  | completed status _ _ fresh remembers _ =>
    rw [harb, hhead] at fresh remembers
    rw [ReliableFlow.received, if_pos status]
    have hless := delivered_lt_of_fresh h hseen fresh
    refine ⟨hinv, h.sendable, by dsimp only; omega, hframes, hid, hpw.2, ?_, ?_, ?_, ?_⟩
    · simp only [map_append, map_cons, map_nil, pairwise_append]
      refine ⟨h.delivered_lt, pairwise_singleton _ _, fun a ha b hb => ?_⟩
      obtain ⟨e, he, rfl⟩ := mem_map.mp ha
      rw [mem_singleton.mp hb]
      exact hless e he
    · intro e he
      rcases mem_append.mp he with he | he
      · exact hdl e he
      · rw [mem_singleton.mp he]
    · rintro k ⟨q, hq⟩
      rw [List.getLast?_append, List.getLast?_singleton] at hq
      obtain ⟨rfl, -⟩ := Prod.mk.inj (Option.some.inj hq)
      exact remembers
    · intro hnone
      simp at hnone

/-- The outcomes for the oldest frame in flight, when a message that is being reassembled
    under its sequence is its own message. -/
theorem part_cases (h : FlowInv frameId f) (hd : f.data = (i, frame) :: rest)
    (hact : f.receiver.Continues frameId (messageSequence i) → ∀ p,
      f.sent[i]? = some p → f.receiver.Assembles frameId (messageSequence i) p)
    (timeNs : Option UInt64) :
    ∃ p k, f.sent[i]? = some p ∧ k < fragmentsOf kFragmentPayload p.length ∧
      frame = messageFrame frameId i p k ∧
      f.receiver.PartOutcome frameId (messageSequence i) p k timeNs
        (f.receiver.receive frame timeNs) := by
  obtain ⟨-, p, k, hp, hk, hframe⟩ := h.frames (i, frame) (by simp [hd])
  dsimp only at hp hframe
  have hsend := h.sendable p (mem_of_getElem? hp)
  refine ⟨p, k, hp, hk, hframe, ?_⟩
  rw [hframe]
  exact ReliableReceiver.receive_part_cases h.receiver (h.routed (by simp [hd]))
    (messageSequence_le i) hsend.fits hsend.count_le hk (fun hc => hact hc p hp) timeNs

/-- Inside the window only the message delivered last is answered as a duplicate. -/
theorem delivered_of_remembers (h : FlowInv frameId f)
    (hr : f.receiver.Remembers frameId (messageSequence i)) (hseen : f.lastSeen ≤ i)
    (hi : i < f.base + 16) : ∃ p, (i, p) ∈ f.delivered := by
  have hne : f.delivered ≠ [] := fun hnone => by
    have := hr.1
    rw [h.noHistory hnone] at this
    cases this
  obtain ⟨p, hp⟩ := ReliableFlow.lastDelivered_base hne
  have hseq := (h.history _ ⟨p, hp⟩).2.2.symm.trans hr.2.2
  rw [messageSequence_eq_iff] at hseq
  have hbase := h.base_le
  obtain rfl : f.base = i := by omega
  exact ⟨p, mem_of_getLast? hp⟩

end FlowInv

/-! ## The window after the last delivery -/

/-- As long as no frame of a message 16 or more after the last delivered one has arrived, a
    message that is being reassembled is one of the messages since then, and it is not mixed
    up with another one. -/
def Windowed {maxSize : Nat} (frameId : UInt16)
    (f : ReliableFlow maxSize) : Prop :=
  f.lastSeen < f.base + 16 → f.receiver.active = true →
    ∃ j p, f.base ≤ j ∧ j ≤ f.lastSeen ∧ f.sent[j]? = some p ∧
      f.receiver.Assembles frameId (messageSequence j) p

namespace Windowed

variable {maxSize : Nat} {frameId : UInt16} {f : ReliableFlow maxSize} {i : Nat} {frame : CanFrame}
  {rest : List (Nat × CanFrame)}

/-- Inside the window the arriving frame cannot meet an older message with its sequence. -/
theorem assembles (h : Windowed frameId f) (hseen : f.lastSeen ≤ i)
    (hi : i < f.base + 16)
    (hcont : f.receiver.Continues frameId (messageSequence i)) {p : List UInt8}
    (hp : f.sent[i]? = some p) : f.receiver.Assembles frameId (messageSequence i) p := by
  obtain ⟨j, q, hbase, hj, hq, hasm⟩ := h (by omega) hcont.1
  have hseq : messageSequence j = messageSequence i :=
    hasm.continues.2.2.symm.trans hcont.2.2
  rw [messageSequence_eq_iff] at hseq
  obtain rfl : j = i := by omega
  rw [hp] at hq
  exact Option.some.inj hq ▸ hasm

theorem received (hw : Windowed frameId f) (h : FlowInv frameId f) (hd : f.data = (i, frame) :: rest)
    (timeNs : Option UInt64) :
    Windowed frameId (f.received i rest (f.receiver.receive frame timeNs)) := by
  have hseen : f.lastSeen ≤ i := (h.frames (i, frame) (by simp [hd])).1
  have hbase := h.base_le
  intro hwin hactive
  by_cases hin : i < f.base + 16
  · obtain ⟨p, k, hp, -, -, hout⟩ := h.part_cases hd
      (fun hcont q hq => hw.assembles hseen hin hcont hq) timeNs
    cases hout with
    | dropped status _ keeps _ =>
      rcases keeps.active with hsame | hidle
      · have hb : (f.received i rest (f.receiver.receive frame timeNs)).base = f.base := by
          rw [ReliableFlow.received, if_neg status]; rfl
        obtain ⟨j, q, hbj, hj, hq, hasm⟩ := hw (by omega) (hsame.active.symm.trans hactive)
        exact ⟨j, q, hb ▸ hbj, hj.trans hseen, hq, hsame.assembles hasm⟩
      · exact absurd (hidle.active.symm.trans hactive) nofun
    | stored status _ _ assembles _ _ =>
      have hb : (f.received i rest (f.receiver.receive frame timeNs)).base = f.base := by
        rw [ReliableFlow.received, if_neg status]; rfl
      exact ⟨i, p, by rw [hb]; omega, Nat.le_refl _, hp, assembles⟩
    | duplicate _ _ _ _ idle => exact absurd (idle.active.symm.trans hactive) nofun
    | completed _ _ _ _ _ _ idle => exact absurd (idle.active.symm.trans hactive) nofun
  · -- only a delivery moves the window, and a delivery leaves nothing active
    have hmoved : (f.receiver.receive frame timeNs).1.status = .ok := by
      by_contra hst
      rw [ReliableFlow.received, if_neg hst] at hwin
      exact hin hwin
    cases (ReliableReceiver.receive_spec h.receiver frame timeNs).1 with
    | quiet status _ _ => exact absurd hmoved status
    | duplicate status _ _ _ => rw [status] at hmoved; cases hmoved
    | completed _ _ _ _ _ idle => exact absurd (idle.active.symm.trans hactive) nofun

/-- A new message does not move the window. -/
theorem begun (h : Windowed frameId f) (p : List UInt8) :
    Windowed frameId { f with sent := f.sent ++ [p] } := by
  intro hwin hactive
  obtain ⟨j, q, hbase, hj, hq, hasm⟩ := h hwin hactive
  exact ⟨j, q, hbase, hj,
    List.getElem?_append_left (List.getElem?_eq_some_iff.mp hq).1 ▸ hq, hasm⟩

theorem kept (h : Windowed frameId f) {r : ReliableReceiver maxSize}
    (hk : f.receiver.Keeps r) : Windowed frameId { f with receiver := r } := by
  intro hwin hactive
  rcases hk.active with hsame | hidle
  · obtain ⟨j, q, hbase, hj, hq, hasm⟩ := h hwin (hsame.active.symm.trans hactive)
    exact ⟨j, q, hbase, hj, hq, hsame.assembles hasm⟩
  · exact absurd (hidle.active.symm.trans hactive) nofun

end Windowed

/-! ## Messages that cannot be mixed up -/

/-- The messages `live` may still have frames to come. No two of them share a sequence, and
    none of them shares it with another message that is being reassembled, so what the
    receiver returned was sent. -/
structure Unmixed {maxSize : Nat} (frameId : UInt16)
    (f : ReliableFlow maxSize) (live : List Nat) : Prop where
  distinct : ∀ i ∈ live, ∀ j ∈ live, i % 16 = j % 16 → i = j
  active : f.receiver.active = true → ∃ j p, f.sent[j]? = some p ∧
    f.receiver.Assembles frameId (messageSequence j) p ∧
    ∀ i ∈ live, i % 16 = j % 16 → i = j
  delivered : ∀ e ∈ f.delivered, f.sent[e.1]? = some e.2

namespace Unmixed

variable {maxSize : Nat} {frameId : UInt16} {f : ReliableFlow maxSize} {i : Nat} {frame : CanFrame}
  {rest : List (Nat × CanFrame)}
  {live : List Nat}

/-- Only the receiver and what was sent and delivered matter, and fewer live messages are
    better. -/
theorem of_subset (h : Unmixed frameId f live) {f' : ReliableFlow maxSize}
    {live' : List Nat} (hlive : ∀ i ∈ live', i ∈ live) (hsent : f'.sent = f.sent)
    (hreceiver : f'.receiver = f.receiver) (hdelivered : f'.delivered = f.delivered) :
    Unmixed frameId f' live' where
  distinct i hi j hj := h.distinct i (hlive i hi) j (hlive j hj)
  active hact := by
    rw [hreceiver] at hact ⊢
    obtain ⟨j, p, hp, hasm, hj⟩ := h.active hact
    exact ⟨j, p, hsent ▸ hp, hasm, fun i hi => hj i (hlive i hi)⟩
  delivered e he := by
    rw [hdelivered] at he
    rw [hsent]
    exact h.delivered e he

/-- A new message whose sequence no live message has, and the message that is being
    reassembled does not have either. -/
theorem begun (h : Unmixed frameId f live) (p : List UInt8)
    (hlive : ∀ i ∈ live, i % 16 ≠ f.sent.length % 16)
    (hactive : ¬ f.receiver.Continues frameId (messageSequence f.sent.length)) :
    Unmixed frameId { f with sent := f.sent ++ [p] } (live ++ [f.sent.length]) where
  distinct i hi j hj heq := by
    rcases mem_append.mp hi with hi | hi <;> rcases mem_append.mp hj with hj | hj
    · exact h.distinct i hi j hj heq
    · rw [mem_singleton.mp hj] at heq
      exact absurd heq (hlive i hi)
    · rw [mem_singleton.mp hi] at heq
      exact absurd heq.symm (hlive j hj)
    · rw [mem_singleton.mp hi, mem_singleton.mp hj]
  active hact := by
    obtain ⟨j, q, hq, hasm, hj⟩ := h.active hact
    refine ⟨j, q, List.getElem?_append_left (List.getElem?_eq_some_iff.mp hq).1 ▸ hq, hasm,
      fun i hi heq => ?_⟩
    rcases mem_append.mp hi with hi | hi
    · exact hj i hi heq
    · rw [mem_singleton.mp hi] at heq
      rw [messageSequence_eq_iff.mpr heq] at hactive
      exact absurd hasm.continues hactive
  delivered e he := by
    have hget := h.delivered e he
    exact List.getElem?_append_left (List.getElem?_eq_some_iff.mp hget).1 ▸ hget

/-- A frame of a live message reaches the receiver. -/
theorem received (h : Unmixed frameId f live) (hinv : FlowInv frameId f) (hd : f.data = (i, frame) :: rest)
    (hi : i ∈ live) (timeNs : Option UInt64) :
    Unmixed frameId (f.received i rest (f.receiver.receive frame timeNs)) live := by
  have hown : f.receiver.Continues frameId (messageSequence i) → ∀ p,
      f.sent[i]? = some p → f.receiver.Assembles frameId (messageSequence i) p := by
    intro hcont p hp
    obtain ⟨j, q, hq, hasm, hj⟩ := h.active hcont.1
    have hseq : messageSequence i = messageSequence j :=
      hcont.2.2.symm.trans hasm.continues.2.2
    obtain rfl := hj i hi (messageSequence_eq_iff.mp hseq)
    rw [hp] at hq
    exact Option.some.inj hq ▸ hasm
  obtain ⟨p, k, hp, -, -, hout⟩ := hinv.part_cases hd hown timeNs
  have hquiet : (f.receiver.receive frame timeNs).1.status ≠ .ok →
      (f.received i rest (f.receiver.receive frame timeNs)).delivered = f.delivered :=
    fun hst => by rw [ReliableFlow.received, if_neg hst]
  cases hout with
  | dropped status _ keeps _ =>
    refine ⟨h.distinct, fun hact => ?_, by rw [hquiet status]; exact h.delivered⟩
    rcases keeps.active with hsame | hidle
    · obtain ⟨j, q, hq, hasm, hj⟩ := h.active (hsame.active.symm.trans hact)
      exact ⟨j, q, hq, hsame.assembles hasm, hj⟩
    · exact absurd (hidle.active.symm.trans hact) nofun
  | stored status _ _ assembles _ _ =>
    exact ⟨h.distinct, fun _ => ⟨i, p, hp, assembles, fun j hj heq => h.distinct j hj i hi heq⟩,
      by rw [hquiet status]; exact h.delivered⟩
  | duplicate status _ _ _ idle =>
    exact ⟨h.distinct, fun hact => absurd (idle.active.symm.trans hact) nofun,
      by rw [hquiet (by rw [status]; exact nofun)]; exact h.delivered⟩
  | completed status _ payload _ _ _ idle =>
    refine ⟨h.distinct, fun hact => absurd (idle.active.symm.trans hact) nofun, fun e he => ?_⟩
    rw [ReliableFlow.received, if_pos status] at he
    rcases mem_append.mp he with he | he
    · exact h.delivered e he
    · rw [mem_singleton.mp he, payload]
      exact hp

end Unmixed

end AsterCtrl.Can
