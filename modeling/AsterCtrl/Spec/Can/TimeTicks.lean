import AsterCtrl.Native.Can.ReliableChannelBridge

/-!
# Time ticks

A message on a channel carries the two low bytes of its time in milliseconds.  The ingress completes
them with its own time: of the times with these low bytes it takes the one that is near.  If the two
times are less than half of the range of a tick apart, that is the time of the source.

## Key results

- `toNat_expandTimestamp`: the completed time, as a calculation with natural numbers
- `time_tick_exact`: it is the time of the source
-/

namespace AsterCtrl.Can

/-! ## Bits -/

/-- Without its 16 low bits. -/
theorem and_not_tick {x : Nat} (h : x < 2 ^ 64) :
    x &&& 0xffffffffffff0000 = x / 2 ^ 16 * 2 ^ 16 := by
  apply Nat.eq_of_testBit_eq
  intro i
  rw [Nat.testBit_and, ← Nat.shiftRight_eq_div_pow, ← Nat.shiftLeft_eq, Nat.testBit_shiftLeft,
    Nat.testBit_shiftRight]
  by_cases hi : i < 64
  · have hmask : ∀ i < 64, Nat.testBit 0xffffffffffff0000 i = decide (16 ≤ i) := by decide
    rw [hmask i hi, Bool.and_comm]
    by_cases h16 : 16 ≤ i
    · rw [Nat.add_sub_cancel' h16]
    · simp [h16]
  · have hzero : x.testBit i = false :=
      Nat.testBit_lt_two_pow (h.trans_le (Nat.pow_le_pow_right (by decide) (by omega)))
    rw [hzero, Bool.false_and, Nat.add_sub_cancel' (by omega), hzero, Bool.and_false]

theorem toNat_and_not_tick (x : UInt64) :
    (x &&& ~~~((65536 : UInt64) - 1)).toNat = x.toNat / 2 ^ 16 * 2 ^ 16 := by
  have hmask : (~~~((65536 : UInt64) - 1)).toNat = 0xffffffffffff0000 := by decide
  rw [UInt64.toNat_and, hmask, and_not_tick x.toNat_lt]

/-- A tick in the place of the low bits. -/
theorem toNat_and_not_tick_or (x : UInt64) (tick : UInt16) :
    ((x &&& ~~~((65536 : UInt64) - 1)) ||| tick.toUInt64).toNat =
      x.toNat / 2 ^ 16 * 2 ^ 16 + tick.toNat := by
  rw [UInt64.toNat_or, toNat_and_not_tick, UInt16.toNat_toUInt64, Nat.mul_comm,
    ← Nat.two_pow_add_eq_or_of_lt tick.toNat_lt]

/-! ## Ticks -/

/-- The tick that an ingress finds in a payload. -/
def payloadTick (payload : List UInt8) : UInt16 :=
  (payload.getD 0 0).toUInt16 ||| ((payload.getD 1 0).toUInt16 <<< 8)

/-- The ingress finds the tick that the egress has written. -/
theorem payloadTick_channelPayload (sourceTimeNs : UInt64) (message : List UInt8) :
    payloadTick (FastChannelEgress.channelPayload sourceTimeNs message) =
      (sourceTimeNs / 1000000).toUInt16 := by
  unfold FastChannelEgress.channelPayload
  generalize (sourceTimeNs / 1000000).toUInt16 = tick
  change (tick &&& 0xff).toUInt8.toUInt16 ||| ((tick >>> 8).toUInt8.toUInt16 <<< 8) = tick
  have hlow : (tick &&& 0xff).toUInt8.toUInt16.toNat = tick.toNat % 2 ^ 8 := by
    have hmask : (0xff : UInt16).toNat = 2 ^ 8 - 1 := rfl
    rw [UInt8.toNat_toUInt16, UInt16.toNat_toUInt8, UInt16.toNat_and, hmask,
      Nat.and_two_pow_sub_one_eq_mod]
    omega
  have hhigh : ((tick >>> 8).toUInt8.toUInt16 <<< 8).toNat = 2 ^ 8 * (tick.toNat / 2 ^ 8) := by
    have hlt := tick.toNat_lt
    have hshift : (8 : UInt16).toNat % 16 = 8 := rfl
    rw [UInt16.toNat_shiftLeft, UInt8.toNat_toUInt16, UInt16.toNat_toUInt8, UInt16.toNat_shiftRight,
      hshift, Nat.shiftRight_eq_div_pow, Nat.shiftLeft_eq]
    omega
  apply UInt16.toNat_inj.mp
  rw [UInt16.toNat_or, hlow, hhigh, Nat.or_comm,
    ← Nat.two_pow_add_eq_or_of_lt (Nat.mod_lt _ (by decide)), Nat.div_add_mod]

/-- The completed time in milliseconds: the tick in the range of the receiver's time, or in the
    range after or before it. -/
def completedMs (tick receiveMs : Nat) : Nat :=
  let candidate := receiveMs / 2 ^ 16 * 2 ^ 16 + tick
  if candidate + 2 ^ 15 < receiveMs then candidate + 2 ^ 16
  else if candidate > receiveMs + 2 ^ 15 ∧ candidate ≥ 2 ^ 16 then candidate - 2 ^ 16
  else candidate

/-- No sum overflows, because milliseconds are far below 64 bits. -/
theorem toNat_expandTimestamp (tick : UInt16) (networkNs : UInt64) :
    (FastChannelIngress.expandTimestamp tick networkNs).toNat =
      completedMs tick.toNat (networkNs.toNat / 1000000) * 1000000 % 2 ^ 64 := by
  have hreceive : (networkNs / 1000000).toNat = networkNs.toNat / 1000000 :=
    UInt64.toNat_div _ _
  have hlt := networkNs.toNat_lt
  have htick := tick.toNat_lt
  unfold FastChannelIngress.expandTimestamp completedMs
  dsimp only
  rw [UInt64.toNat_mul, ← hreceive]
  have hcandidate := toNat_and_not_tick_or (networkNs / 1000000) tick
  generalize networkNs / 1000000 = receiveMs at *
  generalize (receiveMs &&& ~~~((65536 : UInt64) - 1)) ||| tick.toUInt64 = candidate at *
  have hwrap : (65536 : UInt64).toNat = 2 ^ 16 := rfl
  have hhalf : ((65536 : UInt64) / 2).toNat = 2 ^ 15 := rfl
  have hmillion : (1000000 : UInt64).toNat = 1000000 := rfl
  have hbound : candidate.toNat < 2 ^ 63 ∧ receiveMs.toNat < 2 ^ 63 := by omega
  have hbefore : candidate + 65536 / 2 < receiveMs ↔ candidate.toNat + 2 ^ 15 < receiveMs.toNat := by
    rw [UInt64.lt_iff_toNat_lt, UInt64.toNat_add, hhalf]
    omega
  have hafter : (candidate > receiveMs + 65536 / 2 ∧ candidate ≥ 65536) ↔
      (candidate.toNat > receiveMs.toNat + 2 ^ 15 ∧ candidate.toNat ≥ 2 ^ 16) := by
    rw [gt_iff_lt, ge_iff_le, UInt64.lt_iff_toNat_lt, UInt64.le_iff_toNat_le, UInt64.toNat_add,
      hhalf, hwrap]
    omega
  rw [hmillion, ← hcandidate]
  simp only [hbefore, hafter]
  congr 2
  split_ifs with h1 h2
  · rw [UInt64.toNat_add, hwrap]
    omega
  · have hle : (65536 : UInt64) ≤ candidate := UInt64.le_iff_toNat_le.mpr h2.2
    rw [UInt64.toNat_sub_of_le _ _ hle, hwrap]
  · rfl

/-- Of the times with a tick, the near one is completed. -/
theorem completedMs_eq {sourceMs receiveMs : Nat} (h : sourceMs ≤ receiveMs + 32767)
    (h' : receiveMs ≤ sourceMs + 32767) : completedMs (sourceMs % 2 ^ 16) receiveMs = sourceMs := by
  unfold completedMs
  dsimp only
  split_ifs <;> omega

/-- The time that an ingress completes is the time of the source in whole milliseconds, if the two
    are less than half of the range of a tick apart. -/
theorem time_tick_exact (sourceTimeNs networkNs : UInt64) (message : List UInt8)
    (h : sourceTimeNs.toNat / 1000000 ≤ networkNs.toNat / 1000000 + 32767)
    (h' : networkNs.toNat / 1000000 ≤ sourceTimeNs.toNat / 1000000 + 32767) :
    let tick := payloadTick (FastChannelEgress.channelPayload sourceTimeNs message)
    tick.toNat = sourceTimeNs.toNat / 1000000 % 2 ^ 16 ∧
      (FastChannelIngress.expandTimestamp tick networkNs).toNat =
        sourceTimeNs.toNat / 1000000 * 1000000 ∧
      (ReliableChannelIngress.expandTimestamp tick networkNs).toNat =
        sourceTimeNs.toNat / 1000000 * 1000000 := by
  intro tick
  have htick : tick.toNat = sourceTimeNs.toNat / 1000000 % 2 ^ 16 := by
    have hdiv : (sourceTimeNs / 1000000).toNat = sourceTimeNs.toNat / 1000000 :=
      UInt64.toNat_div _ _
    rw [← hdiv]
    exact congrArg UInt16.toNat (payloadTick_channelPayload sourceTimeNs message)
  have hexpanded : (FastChannelIngress.expandTimestamp tick networkNs).toNat =
      sourceTimeNs.toNat / 1000000 * 1000000 := by
    rw [toNat_expandTimestamp, htick, completedMs_eq h h']
    have hlt := sourceTimeNs.toNat_lt
    omega
  exact ⟨htick, hexpanded, hexpanded⟩

/-- The tick of a message from just before a boundary that arrives just after it. -/
theorem time_tick_exact_boundary :
    (FastChannelIngress.expandTimestamp
      (payloadTick (FastChannelEgress.channelPayload 65535999999 [])) 65536000000).toNat =
      65535000000 :=
  (time_tick_exact 65535999999 65536000000 [] (by decide) (by decide)).2.1

end AsterCtrl.Can
